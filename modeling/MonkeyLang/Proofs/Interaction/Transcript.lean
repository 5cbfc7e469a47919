import MonkeyLang.Proofs.Interaction.Record

/-
  The way that a session goes, and what it shows on it. Whatever
  is typed and however programs are evaluated, a session asks
  for one line after the other, each with the prompt that is
  due, and shows behind a prompt the notices that answer its
  line. So what it shows can be read off from the lines and the
  notices alone.

  Main declarations:
    * `currentInput`          (the lines of an unfinished input)
    * `LeavesBehind`          (a line at which a session is left)
    * `Dialogue.Proceeds`     (the way a session goes)
    * `Dialogue.courseOf_proceeds`
    * `Dialogue.shownBehind`  (what is shown for exchanges)
    * `Dialogue.text_of_course`
-/

------------------------------------------------------------
-- Unfinished Inputs
------------------------------------------------------------

namespace MonkeyLang

/- The lines of an unfinished input behind one more line. -/
def nextInput
    (front : List String)
    (line : String) :
    List String :=
  if bracesLeftOpen (front ++ [line]) ≤ 0 then
    []
  else
    front ++ [line]

/-
  The lines of the unfinished input behind some lines of a
  session. There are none where an input starts.
-/
def currentInput
    (before : List String) :
    List String :=
  before.foldl nextInput []

/- The prompt behind some lines of a session. -/
def promptBehind
    (before : List String) :
    String :=
  if currentInput before = [] then
    ">> "
  else
    ".. "

/- A line asks to leave where an input starts. -/
def LeavesBehind
    (before : List String)
    (line : String) :
    Prop :=
  currentInput before = [] ∧ Reader.isFarewell line = true

theorem not_leavesBehind
    {before : List String}
    {line : String}
    (hStays :
      currentInput before = [] → Reader.isFarewell line = false) :
    ¬ LeavesBehind before line := by
  rintro ⟨hFresh, hLine⟩
  rw [hStays hFresh] at hLine
  cases hLine

theorem currentInput_concat
    (before : List String)
    (line : String) :
    currentInput (before ++ [line]) =
      nextInput (currentInput before) line := by
  simp [currentInput]

theorem currentInput_of_isInput
    {before : List String}
    {line : String}
    (hInput : IsInput (currentInput before ++ [line])) :
    currentInput (before ++ [line]) = [] := by
  rw [currentInput_concat, nextInput, if_pos hInput.closed]

theorem currentInput_of_isPending
    {before : List String}
    {line : String}
    (hPending : IsPending (currentInput before ++ [line])) :
    currentInput (before ++ [line]) = currentInput before ++ [line] := by
  have hOpen := (isPending_concat.mp hPending).2.2
  rw [currentInput_concat, nextInput, if_neg (Int.not_le.mpr hOpen)]

/- The prompt of a reader is the one for the lines of its input. -/
theorem prompt_after_currentInput
    (before : List String) :
    (Reader.after (currentInput before)).prompt = promptBehind before := by
  unfold Reader.prompt promptBehind
  rw [Reader.lines_after]
  simp only [List.isEmpty_iff]

------------------------------------------------------------
-- The Way of a Session
------------------------------------------------------------

namespace Dialogue

/-
  The way a session goes on further lines, behind those that it
  has read before. It asks for each line with the prompt that is
  due; it goes on behind every line except one that asks to
  leave where an input starts.
-/
inductive Proceeds
    (stop : Stop) :
    List String → List String → List Exchange → Ending → Prop where
  | stopped (before : List String) :
      Proceeds stop before [] [] (.stopped (promptBehind before) stop)
  | left {before rest : List String} {line : String}
      (hLeave : LeavesBehind before line) :
      Proceeds stop before (line :: rest)
        [⟨promptBehind before, line, []⟩] .left
  | goesOn {before rest : List String} {line : String}
      {notices : List Notice} {exchanges : List Exchange}
      {ending : Ending}
      (hStays : ¬ LeavesBehind before line)
      (hRest : Proceeds stop (before ++ [line]) rest exchanges ending) :
      Proceeds stop before (line :: rest)
        (⟨promptBehind before, line, notices⟩ :: exchanges) ending

/-
  Every course goes this way, whatever the evaluator. What is
  kept from line to line is that the reader has the lines of the
  unfinished input.
-/
theorem courseOf_proceeds
    {evaluator : Evaluator}
    {before lines : List String}
    {session : Session}
    {stop : Stop}
    {course : Course}
    (hPending : IsPending (currentInput before))
    (hCourse :
      (Dialogue.mk session (Reader.after (currentInput before))).courseOf
        evaluator lines stop = some course) :
    Proceeds stop before lines course.exchanges course.ending := by
  induction lines generalizing before session course with
  | nil =>
      rcases Option.some.inj hCourse with rfl
      dsimp only [prompt]
      rw [prompt_after_currentInput]
      exact .stopped before
  | cons line rest ih =>
      have hFed := Reader.feed_after hPending line
      unfold courseOf feed at hCourse
      dsimp only [prompt] at hCourse
      rw [prompt_after_currentInput] at hCourse
      generalize (Reader.after (currentInput before)).feed line = reading
        at hCourse hFed
      cases hFed with
      | leaves hFront hLine =>
          rcases Option.some.inj hCourse with rfl
          exact .left ⟨hFront, hLine⟩
      | completes hInput =>
          have hFresh := currentInput_of_isInput hInput
          have hStays := (isInput_concat.mp hInput).2.1
          dsimp only [answerTo] at hCourse
          cases hSubmit :
            session.submit evaluator
              (sourceOf (currentInput before ++ [line])) with
          | none => rw [hSubmit] at hCourse; cases hCourse
          | some answer =>
              rw [hSubmit] at hCourse
              rcases Option.map_eq_some_iff.mp hCourse with
                ⟨following, hFollowing, rfl⟩
              have hRest :
                  (Dialogue.mk answer.2
                    (Reader.after (currentInput (before ++ [line])))).courseOf
                      evaluator rest stop = some following := by
                rw [hFresh]
                exact hFollowing
              refine .goesOn (not_leavesBehind hStays) (ih ?_ hRest)
              rw [hFresh]
              exact .nil
      | goesOn hOpen =>
          have hMore := currentInput_of_isPending hOpen
          have hStays := (isPending_concat.mp hOpen).2.1
          rcases Option.map_eq_some_iff.mp hCourse with
            ⟨following, hFollowing, rfl⟩
          have hRest :
              (Dialogue.mk session
                (Reader.after (currentInput (before ++ [line])))).courseOf
                  evaluator rest stop = some following := by
            rw [hMore]
            exact hFollowing
          refine .goesOn (not_leavesBehind hStays) (ih ?_ hRest)
          rwa [hMore]

------------------------------------------------------------
-- What Is Shown
------------------------------------------------------------

/-
  What a session shows for exchanges, behind the lines that it
  has read before: for each of them the prompt that is due, and
  then the texts of the notices.
-/
def shownBehind
    (before : List String)
    (exchanges : List Exchange) :
    String :=
  match exchanges with
  | [] => ""
  | exchange :: rest =>
      promptBehind before ++
        String.join (exchange.notices.map Notice.text) ++
        shownBehind (before ++ [exchange.line]) rest

/- What a session shows last, behind the lines that it has read. -/
def farewellBehind
    (before : List String)
    (ending : Ending) :
    String :=
  match ending with
  | .left => "Exiting Monkey REPL.\n"
  | .stopped _ _ => promptBehind before ++ "\nExiting Monkey REPL.\n"

/- All that is shown, from the lines, the notices and the ending. -/
def Course.transcript
    (course : Course) :
    String :=
  "Monkey REPL. Type 'exit' or 'quit' to leave.\n" ++
    shownBehind [] course.exchanges ++
    farewellBehind (course.exchanges.map Exchange.line) course.ending

namespace Proceeds

variable {stop : Stop}
variable {before lines : List String}
variable {exchanges : List Exchange}
variable {ending : Ending}

theorem text_exchanges
    (hProceeds : Proceeds stop before lines exchanges ending) :
    String.join (exchanges.map Exchange.text) =
      shownBehind before exchanges := by
  induction hProceeds with
  | stopped => rfl
  | left =>
      rw [List.map_cons, String.join_cons]
      rfl
  | goesOn hStays hRest ih =>
      rw [List.map_cons, String.join_cons, ih]
      rfl

/- It does not matter in which way the lines have stopped. -/
theorem text_ending
    (hProceeds : Proceeds stop before lines exchanges ending) :
    ending.text =
      farewellBehind (before ++ exchanges.map Exchange.line) ending := by
  induction hProceeds with
  | stopped before =>
      rw [List.map_nil, List.append_nil, farewellBehind]
      cases stop <;> rw [Ending.text, String.append_assoc] <;> rfl
  | left => rfl
  | goesOn hStays hRest ih =>
      rw [ih, List.append_assoc]
      rfl

end Proceeds

/- A session that has a course shows its transcript. -/
theorem text_of_course
    {evaluator : Evaluator}
    {showTree showTokens : Bool}
    {lines : List String}
    {stop : Stop}
    {course : Course}
    (hCourse :
      (start showTree showTokens).courseOf evaluator lines stop =
        some course) :
    course.text = course.transcript := by
  have hProceeds :
      Proceeds stop [] lines course.exchanges course.ending :=
    courseOf_proceeds .nil hCourse
  unfold Course.text Course.transcript
  rw [hProceeds.text_exchanges, hProceeds.text_ending, List.nil_append]
  rfl

/-
  An input of two lines whose result is null, and then no more
  lines: behind the last prompt the farewell begins with a line
  feed.
-/
example :
    let exchanges : List Exchange := [
      ⟨">> ", "if (true) " ++ Text.openBrace, []⟩,
      ⟨".. ", Text.closeBrace, [.result .null]⟩]
    Course.transcript
        ⟨exchanges, .stopped ">> " .endOfInput,
          Session.start false false⟩ =
      "Monkey REPL. Type 'exit' or 'quit' to leave.\n" ++
        ">> .. >> \nExiting Monkey REPL.\n" := by
  decide

end Dialogue

end MonkeyLang
