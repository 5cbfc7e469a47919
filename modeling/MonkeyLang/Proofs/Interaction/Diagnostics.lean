import MonkeyLang.CommandLine.Script

/-
  What a command displays besides the result. The sections come
  in front of the output of a command that displays nothing, and
  change neither the exit status nor what is reported as an
  error. A program may as well be read from a file.

  Main declarations:
    * `CommandLine.diagnostics`          (all sections)
    * `CommandLine.SectionsHold`         (what the sections hold)
    * `CommandLine.runText_eq_behind`
    * `CommandLine.runText_of_errors`    (nothing is evaluated)
    * `CommandLine.status_runText`
    * `CommandLine.loadSource_of_utf8`
    * `CommandLine.display_only_adds`
-/

------------------------------------------------------------
-- Texts in Files
------------------------------------------------------------

namespace MonkeyLang

/- A text without carriage returns has one way to end a line already. -/
theorem Text.unifyLineEnds_of_not_mem
    {text : List Char}
    (hText : '\r' ∉ text) :
    Text.unifyLineEnds text = text := by
  fun_induction Text.unifyLineEnds text with
  | case1 => rfl
  | case2 => simp at hText
  | case3 => simp at hText
  | case4 c rest hPair hSingle ih => rw [ih (by simp_all)]

/- The UTF-8 encoding of a text is read back as that text. -/
theorem Text.fromUTF8?_toUTF8
    (text : String) :
    String.fromUTF8? text.toUTF8 = some text := by
  have hValid : text.toUTF8.IsValidUTF8 := text.isValidUTF8
  rw [String.fromUTF8?, dif_pos hValid]
  rfl

------------------------------------------------------------
-- Sections
------------------------------------------------------------

namespace CommandLine

/-
  The sections in front of the result. With syntax errors there
  is neither a tree nor a result.
-/
def diagnostics
    (display : Display)
    (source : String) :
    String :=
  tokenSection display (tokenize source) ++
    if (parse source).errors.isEmpty then
      treeSection display (parse source).program ++ resultHeading display
    else
      ""

/- The heading of a section has three lines, if it is to be pretty. -/
def headingLines
    (pretty : Bool)
    (title : String) :
    String :=
  if pretty then
    "====================\n" ++ title ++ "\n====================\n"
  else
    ""

/-
  What the sections hold: that of the tokens a line for each
  token, with its kind and its quoted literal; that of the tree
  its outline; and behind them there is a line before the result.
  A section that is not to be displayed holds nothing.
-/
structure SectionsHold
    (display : Display)
    (source : String) :
    Prop where
  tokens :
    tokenSection display (tokenize source) =
      if display.tokens then
        headingLines display.pretty "Tokens" ++
          String.join ((tokenize source).map fun token =>
            "Token(" ++ token.kind.name ++ ", " ++
              Text.quoted token.literal ++ ")\n")
      else
        ""
  tree :
    treeSection display (parse source).program =
      if display.tree then
        headingLines display.pretty "AST" ++
          ((parse source).program.outline.text ++ "\n")
      else
        ""
  withErrors :
    (parse source).errors ≠ [] →
      diagnostics display source = tokenSection display (tokenize source)
  withoutErrors :
    (parse source).errors = [] →
      diagnostics display source =
        tokenSection display (tokenize source) ++
          (treeSection display (parse source).program ++
            if display.pretty then "<<< OUTPUT >>>\n" else "")

theorem heading_eq
    (title : String) :
    heading title = headingLines true title := by
  have hRule :
      String.ofList (List.replicate 20 '=') = "====================" := by
    decide
  unfold heading headingLines
  dsimp only
  rw [hRule, if_pos rfl]
  simp only [String.append_assoc]
  rfl

theorem sectionsHold
    (display : Display)
    (source : String) :
    SectionsHold display source where
  tokens := by
    have hLines :
        (tokenize source).map (fun token => token.text ++ "\n") =
          (tokenize source).map fun token =>
            "Token(" ++ token.kind.name ++ ", " ++
              Text.quoted token.literal ++ ")\n" := by
      refine List.map_congr_left fun token _ => ?_
      rw [Token.text, String.append_assoc]
      rfl
    unfold tokenSection sectionText
    rw [hLines, heading_eq]
    cases display.pretty <;> rfl
  tree := by
    unfold treeSection sectionText
    rw [heading_eq]
    cases display.pretty <;> rfl
  withErrors := by
    intro hErrors
    unfold diagnostics
    rw [if_neg (by simpa using hErrors), String.append_empty]
  withoutErrors := by
    intro hErrors
    unfold diagnostics
    rw [if_pos (by simp [hErrors])]
    rfl

/- A command that displays nothing has no sections. -/
theorem diagnostics_nothing
    (source : String) :
    diagnostics ⟨false, false, false⟩ source = "" := by
  unfold diagnostics
  split <;> rfl

/- The outcome with a text in front of its output. -/
def Outcome.behind
    (outcome : Outcome)
    (text : String) :
    Outcome :=
  { outcome with output := text ++ outcome.output }

/- A value is put out behind whatever stands in front of it. -/
theorem outcomeOf_eq_behind
    (sections : String)
    (value : Value) :
    outcomeOf sections value = (outcomeOf "" value).behind sections := by
  cases value with
  | error | null =>
      simp [outcomeOf, Outcome.behind, String.append_empty]
  | _ =>
      simp [outcomeOf, Outcome.behind, String.empty_append,
        String.append_assoc]

------------------------------------------------------------
-- Running a Text
------------------------------------------------------------

section

variable (evaluator : Evaluator)
variable (display : Display)
variable {source : String}

/- The report holds the messages, one on a line. -/
theorem syntaxErrorsText_errors
    (parsed : Parsed) :
    syntaxErrorsText parsed.errors =
      "[error] >>> parser errors:\n" ++
        String.join (parsed.messages.map fun message =>
          "\t" ++ message ++ "\n") := by
  unfold syntaxErrorsText Parsed.messages
  simp only [List.map_map, Function.comp_def]

/- With syntax errors they are reported, and nothing is evaluated. -/
theorem runText_of_errors
    (hErrors : (parse source).errors ≠ []) :
    runText evaluator display source =
      .ok ⟨some 1, tokenSection display (tokenize source),
        syntaxErrorsText (parse source).errors⟩ := by
  have hParsed : parseTokens (tokenize source) = parse source := rfl
  unfold runText
  dsimp only
  rw [hParsed, if_neg (by simpa using hErrors)]

/- Without syntax errors, the value is put out behind all sections. -/
theorem runText_of_no_errors
    (hErrors : (parse source).errors = []) :
    runText evaluator display source =
      match evaluator (parse source).program Heap.initial with
      | .ok (value, _) =>
          .ok (outcomeOf (diagnostics display source) value)
      | .error halt => .error (.halted halt) := by
  have hParsed : parseTokens (tokenize source) = parse source := rfl
  have hSections :
      tokenSection display (tokenize source) ++
          treeSection display (parse source).program ++
          resultHeading display =
        diagnostics display source := by
    rw [diagnostics, if_pos (by simp [hErrors]), String.append_assoc]
  unfold runText
  dsimp only
  rw [hParsed, if_pos (by simp [hErrors])]
  cases evaluator (parse source).program Heap.initial with
  | error halt => rfl
  | ok result =>
      exact congrArg
        (fun sections => Except.ok (outcomeOf sections result.1)) hSections

variable (source)

/- Displaying something only adds the sections. -/
theorem runText_eq_behind :
    runText evaluator display source =
      (runText evaluator ⟨false, false, false⟩ source).map
        (·.behind (diagnostics display source)) := by
  by_cases hErrors : (parse source).errors = []
  · rw [runText_of_no_errors evaluator display hErrors,
      runText_of_no_errors evaluator ⟨false, false, false⟩ hErrors,
      diagnostics_nothing]
    cases evaluator (parse source).program Heap.initial with
    | error halt => rfl
    | ok result =>
        exact congrArg Except.ok
          (outcomeOf_eq_behind (diagnostics display source) result.1)
  · have hTokens :
        diagnostics display source =
          tokenSection display (tokenize source) := by
      unfold diagnostics
      rw [if_neg (by simpa using hErrors), String.append_empty]
    rw [runText_of_errors evaluator display hErrors,
      runText_of_errors evaluator ⟨false, false, false⟩ hErrors, hTokens]
    simp [Except.map, Outcome.behind, tokenSection, sectionText]

/- The exit status tells errors of both kinds from all else. -/
theorem status_runText
    {outcome : Outcome}
    (hOutcome : runText evaluator display source = .ok outcome) :
    (outcome.status? = some 0 ∨ outcome.status? = some 1) ∧
      (outcome.status? = some 1 ↔
        (parse source).errors ≠ [] ∨
          ∃ message after,
            evaluator (parse source).program Heap.initial =
              .ok (.error message, after)) := by
  by_cases hErrors : (parse source).errors = []
  · rw [runText_of_no_errors evaluator display hErrors] at hOutcome
    cases hValue : evaluator (parse source).program Heap.initial with
    | error halt => simp [hValue] at hOutcome
    | ok result =>
        rcases result with ⟨value, after⟩
        rw [hValue] at hOutcome
        cases hOutcome
        cases value <;> simp [outcomeOf, hErrors]
  · rw [runText_of_errors evaluator display hErrors] at hOutcome
    cases hOutcome
    simp [hErrors]

end

------------------------------------------------------------
-- Programs in Files
------------------------------------------------------------

/- The source that is meant: the text itself, or what a file holds. -/
def givenSource
    (files : Files)
    (isString : Bool)
    (name : String) :
    Except Failure String :=
  if isString then
    .ok name
  else
    loadSource files name

/- What is run is the source that is meant. -/
theorem runScript_of_givenSource
    {files : Files}
    {isString : Bool}
    {name source : String}
    (hSource : givenSource files isString name = .ok source)
    (evaluator : Evaluator)
    (display : Display) :
    runScript evaluator files isString display name =
      runText evaluator display source := by
  unfold givenSource at hSource
  unfold runScript
  cases isString with
  | true =>
      cases hSource
      rfl
  | false =>
      rw [if_neg Bool.false_ne_true] at hSource ⊢
      rw [hSource]

/- A file that holds the encoding of a text has that text as its source. -/
theorem loadSource_of_utf8
    {files : Files}
    {name source : String}
    (hName : fileEnding.toList <:+ name.toList)
    (hNull : '\x00' ∉ name.toList)
    (hFile : files name = some source.toUTF8)
    (hSource : '\r' ∉ source.toList) :
    loadSource files name = .ok source := by
  have hEnding : fileEnding.toList.isSuffixOf name.toList = true :=
    List.isSuffixOf_iff_suffix.2 hName
  unfold loadSource
  rw [hEnding, if_neg (by simp), if_neg (by simpa using hNull), hFile]
  dsimp only
  rw [Text.fromUTF8?_toUTF8]
  dsimp only
  rw [Text.unifyLineEnds_of_not_mem hSource, String.ofList_toList]

------------------------------------------------------------
-- What Is Displayed Is Only Added
------------------------------------------------------------

/-
  Whatever is displayed, the sections stand in front of the
  output of the command that displays nothing; status and
  reported errors are the same. The sections hold the tokens and
  the tree, if they are displayed. With syntax errors nothing is
  evaluated, the tokens are all that can be displayed, and every
  message is reported, in order. Otherwise the value is put out
  behind the sections. The status is 1 for errors of both kinds,
  and 0 for all else. It makes no difference whether a source is
  given as a text or in a file.
-/
theorem display_only_adds
    {files : Files}
    {isString : Bool}
    {name source : String}
    (hSource : givenSource files isString name = .ok source)
    (evaluator : Evaluator)
    (display : Display) :
    let run := runScript evaluator files isString display name
    let plain :=
      runScript evaluator files isString ⟨false, false, false⟩ name
    let evaluated := evaluator (parse source).program Heap.initial
    run = plain.map (·.behind (diagnostics display source)) ∧
      SectionsHold display source ∧
      ((parse source).errors ≠ [] →
        run = .ok ⟨some 1, tokenSection display (tokenize source),
          "[error] >>> parser errors:\n" ++
            String.join ((parse source).messages.map fun message =>
              "\t" ++ message ++ "\n")⟩) ∧
      (∀ value after,
        (parse source).errors = [] →
          evaluated = .ok (value, after) →
            run = .ok (outcomeOf (diagnostics display source) value)) ∧
      (∀ outcome,
        run = .ok outcome →
          (outcome.status? = some 0 ∨ outcome.status? = some 1) ∧
            (outcome.status? = some 1 ↔
              (parse source).errors ≠ [] ∨
                ∃ message after,
                  evaluated = .ok (.error message, after))) ∧
      (∀ file,
        fileEnding.toList <:+ file.toList →
          '\x00' ∉ file.toList →
            files file = some source.toUTF8 →
              '\r' ∉ source.toList →
                runScript evaluator files false display file =
                  runScript evaluator files true display source) := by
  dsimp only
  have hRun := runScript_of_givenSource hSource evaluator
  rw [hRun display, hRun ⟨false, false, false⟩]
  refine ⟨runText_eq_behind evaluator display source,
    sectionsHold display source, fun hErrors => ?_,
    fun value after hErrors hValue => ?_,
    fun outcome hOutcome => status_runText evaluator display source hOutcome,
    fun file hName hNull hFile hReturn => ?_⟩
  · rw [runText_of_errors evaluator display hErrors,
      syntaxErrorsText_errors]
  · rw [runText_of_no_errors evaluator display hErrors, hValue]
  · have hLoaded : givenSource files false file = .ok source :=
      loadSource_of_utf8 hName hNull hFile hReturn
    rw [runScript_of_givenSource hLoaded]
    rfl

/- A file of two lines, with the tokens displayed, and a heading. -/
theorem display_only_adds_in_file :
    let files : Files := fun name =>
      if name = "sum.monkey" then some "1 +\n2".toUTF8 else none
    let evaluator := evaluate 0 Heap.globalScope
    let display : Display := ⟨true, false, true⟩
    runScript evaluator files false display "sum.monkey" =
      .ok ⟨some 0, diagnostics display "1 +\n2" ++ "3\n", ""⟩ := by
  intro files evaluator display
  have hAdds :=
    display_only_adds (show givenSource files true "1 +\n2" = .ok "1 +\n2"
      from rfl) evaluator display
  have hPlain :
      runScript evaluator files true ⟨false, false, false⟩ "1 +\n2" =
        .ok ⟨some 0, "3\n", ""⟩ := by
    rfl
  rw [hAdds.2.2.2.2.2 "sum.monkey" (by decide) (by decide) rfl (by decide),
    hAdds.1, hPlain]
  rfl

end CommandLine

end MonkeyLang
