import MonkeyLang.Proofs.Printing.Escape

/-
  The text of a document can be read in one way only. What a
  text begins with tells the form of the document, the parts of
  a list or a record are told apart by their separators, and
  every part tells where it ends.

  Main declarations:
    * `Document.Identifies`
    * `Document.bracketed_append_inj`
    * `Document.identifies_textAt`
    * `Document.text_inj`
-/

------------------------------------------------------------
-- Parts Between Brackets
------------------------------------------------------------

namespace MonkeyLang

namespace Document

/-
  The text of a value tells which value it is and where it
  ends, if it does not end in the middle of a number.
-/
def Identifies
    {α : Type}
    (write : α → String)
    (value : α) :
    Prop :=
  ∀ (other : α) (rest rest' : List Char),
    EndsNumeral rest →
      EndsNumeral rest' →
        (write value).toList ++ rest = (write other).toList ++ rest' →
          value = other ∧ rest = rest'

/- What follows on the first part: the other parts, and the bracket. -/
def otherParts
    (closing : String)
    (level : Nat)
    (parts : List String) :
    List Char :=
  match parts with
  | [] => (newLine level).toList ++ closing.toList
  | part :: rest =>
      ',' :: (newLine (level + 1)).toList ++
        (part.toList ++ otherParts closing level rest)

@[simp] theorem toList_newLine
    (level : Nat) :
    (newLine level).toList = '\n' :: List.replicate (2 * level) ' ' :=
  String.toList_ofList

theorem bracketed_cons
    (opening closing : String)
    (level : Nat)
    (part : String)
    (parts : List String) :
    (bracketed opening closing level (part :: parts)).toList =
      opening.toList ++ ((newLine (level + 1)).toList ++
        (part.toList ++ otherParts closing level parts)) := by
  have hJoined :
      (Text.join ("," ++ newLine (level + 1)) (part :: parts)).toList ++
          ((newLine level).toList ++ closing.toList) =
        part.toList ++ otherParts closing level parts := by
    induction parts generalizing part with
    | nil => rfl
    | cons next others ih =>
        simp [Text.join, otherParts, ← ih next]
  rw [← hJoined]
  simp [bracketed]

/- No number goes on behind a part. -/
theorem endsNumeral_otherParts
    (closing : String)
    (level : Nat)
    (parts : List String)
    (rest : List Char) :
    EndsNumeral (otherParts closing level parts ++ rest) := by
  intro c hHead
  cases parts with
  | nil =>
      simp only [otherParts, toList_newLine, List.cons_append,
        List.head?_cons, Option.mem_some_iff] at hHead
      rw [← hHead]
      rfl
  | cons part others =>
      simp only [otherParts, List.cons_append, List.head?_cons,
        Option.mem_some_iff] at hHead
      rw [← hHead]
      rfl

variable {α : Type}
variable {write : α → String}
variable {items items' : List α}
variable {opening closing : String}
variable {level : Nat}
variable {rest rest' : List Char}

/- A comma tells that a part follows, a line break that none does. -/
theorem otherParts_append_inj
    (hItems : ∀ item ∈ items, Identifies write item)
    (hText :
      otherParts closing level (items.map write) ++ rest =
        otherParts closing level (items'.map write) ++ rest') :
    items = items' ∧ rest = rest' := by
  induction items generalizing items' with
  | nil =>
      cases items' with
      | nil => exact ⟨rfl, List.append_cancel_left hText⟩
      | cons => simp [otherParts] at hText
  | cons item others ih =>
      cases items' with
      | nil => simp [otherParts] at hText
      | cons item' others' =>
          simp only [List.map_cons, otherParts, List.cons_append,
            List.append_assoc, List.cons.injEq, true_and,
            List.append_cancel_left_eq] at hText
          rcases List.forall_mem_cons.1 hItems with ⟨hItem, hOthers⟩
          rcases hItem item' _ _
              (endsNumeral_otherParts closing level _ rest)
              (endsNumeral_otherParts closing level _ rest') hText with
            ⟨rfl, hBehind⟩
          rcases ih hOthers hBehind with ⟨rfl, hRest⟩
          exact ⟨rfl, hRest⟩

/- Parts that tell where they end can be told apart between brackets. -/
theorem bracketed_append_inj
    {bracket : Char}
    (hClosing : closing.toList = [bracket])
    (hBracket : bracket ≠ '\n')
    (hItems : ∀ item ∈ items, Identifies write item)
    (hText :
      (bracketed opening closing level (items.map write)).toList ++ rest =
        (bracketed opening closing level (items'.map write)).toList ++
          rest') :
    items = items' ∧ rest = rest' := by
  cases items with
  | nil =>
      cases items' with
      | nil => exact ⟨rfl, List.append_cancel_left hText⟩
      | cons item' others' =>
          rw [List.map_cons, bracketed_cons] at hText
          simp [bracketed, hClosing, hBracket] at hText
  | cons item others =>
      rw [List.map_cons, bracketed_cons] at hText
      cases items' with
      | nil =>
          simp [bracketed, hClosing, hBracket.symm] at hText
      | cons item' others' =>
          rw [List.map_cons, bracketed_cons] at hText
          simp only [List.append_assoc, List.append_cancel_left_eq] at hText
          rcases List.forall_mem_cons.1 hItems with ⟨hItem, hOthers⟩
          rcases hItem item' _ _
              (endsNumeral_otherParts closing level _ rest)
              (endsNumeral_otherParts closing level _ rest') hText with
            ⟨rfl, hBehind⟩
          rcases otherParts_append_inj hOthers hBehind with ⟨rfl, hRest⟩
          exact ⟨rfl, hRest⟩

------------------------------------------------------------
-- Forms of Documents
------------------------------------------------------------

/-
  What the text of a document begins with. Among the numbers,
  and among the two truth values, this makes no difference.
-/
def lead
    (document : Document) :
    Char :=
  match document with
  | .null => 'n'
  | .boolean _ => 't'
  | .number _ => '0'
  | .string _ => '"'
  | .list _ => '['
  | .record _ => '{'

/- The lead of a text that begins with a character. -/
def leadOf
    (c : Char) :
    Char :=
  if isNumeral c then
    '0'
  else if c = 'f' then
    't'
  else
    c

theorem head?_bracketed
    {c : Char}
    (hOpening : opening.toList = [c])
    (parts : List String) :
    ((bracketed opening closing level parts).toList ++ rest).head? =
      some c := by
  cases parts with
  | nil => simp [bracketed, hOpening]
  | cons part others => simp [bracketed_cons, hOpening]

theorem head?_textAt
    (level : Nat)
    (document : Document)
    (rest : List Char) :
    ((document.textAt level).toList ++ rest).head?.map leadOf =
      some document.lead := by
  cases document with
  | null => simp [textAt, lead, leadOf, isNumeral]
  | boolean value =>
      cases value <;> simp [textAt, lead, leadOf, isNumeral]
  | number value =>
      rcases exists_toString_eq_cons value with
        ⟨c, others, hNumeral, hText⟩
      rw [textAt, hText]
      simp [lead, leadOf, hNumeral]
  | string value =>
      simp [textAt, escapedText, lead, leadOf, isNumeral]
  | list items =>
      rw [textAt, head?_bracketed rfl]
      rfl
  | record fields =>
      rw [textAt, head?_bracketed rfl]
      rfl

/- Documents whose texts begin in the same way are of one form. -/
theorem lead_eq
    {first second : Document}
    (hText :
      (first.textAt level).toList ++ rest =
        (second.textAt level).toList ++ rest') :
    first.lead = second.lead := by
  have hHead := head?_textAt level first rest
  rw [hText, head?_textAt level second rest'] at hHead
  exact (Option.some.inj hHead).symm

------------------------------------------------------------
-- Documents
------------------------------------------------------------

theorem itemTexts_eq_map
    (level : Nat)
    (items : List Document) :
    itemTexts level items = items.map (textAt level) := by
  induction items with
  | nil => rfl
  | cons item others ih => rw [itemTexts, ih, List.map_cons]

theorem fieldTexts_eq_map
    (level : Nat)
    (fields : List (String × Document)) :
    fieldTexts level fields = fields.map (fieldText level) := by
  induction fields with
  | nil => rfl
  | cons field others ih => rw [fieldTexts, ih, List.map_cons]

/- The name of a field ends in front of its document. -/
theorem identifies_fieldText
    (name : String)
    {document : Document}
    (hDocument : Identifies (textAt level) document) :
    Identifies (fieldText level) (name, document) := by
  rintro ⟨name', document'⟩ rest rest' hRest hRest' hText
  simp only [fieldText, String.toList_append, List.append_assoc] at hText
  rcases escapedText_append_inj hText with ⟨rfl, hBehind⟩
  rcases hDocument document' rest rest' hRest hRest'
      (List.append_cancel_left hBehind) with ⟨rfl, hSame⟩
  exact ⟨rfl, hSame⟩

mutual

/- The text of a document tells which it is, and where it ends. -/
theorem identifies_textAt
    (level : Nat)
    (document : Document) :
    Identifies (textAt level) document := by
  intro other rest rest' hRest hRest' hText
  have hLead := lead_eq hText
  cases document with
  | null =>
      cases other with
      | null => exact ⟨rfl, List.append_cancel_left hText⟩
      | _ => simp [lead] at hLead
  | boolean value =>
      cases other with
      | boolean value' =>
          cases value <;> cases value' <;> simp_all [textAt]
      | _ => simp [lead] at hLead
  | number value =>
      cases other with
      | number value' =>
          rw [textAt, textAt] at hText
          rcases numeral_append_inj hRest hRest' hText with ⟨rfl, hSame⟩
          exact ⟨rfl, hSame⟩
      | _ => simp [lead] at hLead
  | string value =>
      cases other with
      | string value' =>
          rw [textAt, textAt] at hText
          rcases escapedText_append_inj hText with ⟨rfl, hSame⟩
          exact ⟨rfl, hSame⟩
      | _ => simp [lead] at hLead
  | list items =>
      cases other with
      | list items' =>
          rw [textAt, textAt, itemTexts_eq_map, itemTexts_eq_map] at hText
          have hClosing : "]".toList = [']'] := rfl
          rcases bracketed_append_inj hClosing (by decide)
              (identifies_items (level + 1) items) hText with
            ⟨rfl, hSame⟩
          exact ⟨rfl, hSame⟩
      | _ => simp [lead] at hLead
  | record fields =>
      cases other with
      | record fields' =>
          rw [textAt, textAt, fieldTexts_eq_map, fieldTexts_eq_map]
            at hText
          have hClosing : Text.closeBrace.toList = ['}'] := rfl
          rcases bracketed_append_inj hClosing (by decide)
              (identifies_fields (level + 1) fields) hText with
            ⟨rfl, hSame⟩
          exact ⟨rfl, hSame⟩
      | _ => simp [lead] at hLead

theorem identifies_items
    (level : Nat)
    (items : List Document) :
    ∀ item ∈ items, Identifies (textAt level) item :=
  match items with
  | [] => by simp
  | item :: others =>
      List.forall_mem_cons.2
        ⟨identifies_textAt level item, identifies_items level others⟩

theorem identifies_fields
    (level : Nat)
    (fields : List (String × Document)) :
    ∀ field ∈ fields, Identifies (fieldText level) field :=
  match fields with
  | [] => by simp
  | (name, document) :: others =>
      List.forall_mem_cons.2
        ⟨identifies_fieldText name (identifies_textAt level document),
          identifies_fields level others⟩

end

/- Documents with the same text are the same. -/
theorem text_inj
    {first second : Document}
    (hText : first.text = second.text) :
    first = second := by
  have hEnd : EndsNumeral [] := by simp [EndsNumeral]
  have hChars :
      (first.textAt 0).toList ++ [] = (second.textAt 0).toList ++ [] :=
    congrArg (·.toList ++ []) hText
  exact (identifies_textAt 0 first second [] [] hEnd hEnd hChars).1

end Document

end MonkeyLang
