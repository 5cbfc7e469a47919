import MonkeyLang.Node.Outline
import MonkeyLang.Parser.Program
import MonkeyLang.Proofs.Evaluation.Likeness
import MonkeyLang.Proofs.Printing.Unambiguity

/-
  The outline of a tree shows all of it: its structure, names
  and values, and the marks of its nodes. As the text of an
  outline can be read in one way only, so can the tree.

  Main declarations:
    * `nodeRecord_inj`
    * `Node.alike_of_outline`
    * `outline_text_determines_tree`
-/

------------------------------------------------------------
-- Records of Nodes
------------------------------------------------------------

namespace MonkeyLang

theorem nodeRecord_inj
    {kind kind' : String}
    {mark mark' : Mark}
    {fields fields' : List (String × Document)} :
    nodeRecord kind mark fields = nodeRecord kind' mark' fields' ↔
      kind = kind' ∧ mark = mark' ∧ fields = fields' := by
  rcases mark with ⟨literal, line, column⟩
  rcases mark' with ⟨literal', line', column'⟩
  simp [nodeRecord, and_assoc]

/- An outline is a record: the absence of a tree is none. -/
theorem Node.outline_ne_null
    (node : Node) :
    node.outline ≠ .null := by
  cases node <;> simp [outline, Identifier.outline, nodeRecord]

------------------------------------------------------------
-- Trees
------------------------------------------------------------

mutual

/- Trees with the same outline differ in nothing. -/
theorem Node.alike_of_outline
    (first : Node)
    {second : Node}
    (hOutline : first.outline = second.outline) :
    Node.Alike (· = ·) first second := by
  cases first with
  | identifier id =>
      cases second with
      | identifier id' =>
          rcases id with ⟨mark, name⟩
          rcases id' with ⟨mark', name'⟩
          have hParts : mark = mark' ∧ name = name' := by
            simpa [outline, Identifier.outline, nodeRecord_inj]
              using hOutline
          rcases hParts with ⟨hMark, rfl⟩
          exact .identifier hMark
      | _ => simp [outline, Identifier.outline, nodeRecord] at hOutline
  | integer mark value =>
      cases second with
      | integer mark' value' =>
          have hParts :
              mark = mark' ∧ value = value' := by
            simpa [outline, nodeRecord_inj] using hOutline
          rcases hParts with ⟨hMark, rfl⟩
          exact .integer hMark
      | _ => simp [outline, Identifier.outline, nodeRecord] at hOutline
  | boolean mark value =>
      cases second with
      | boolean mark' value' =>
          have hParts :
              mark = mark' ∧ value = value' := by
            simpa [outline, nodeRecord_inj] using hOutline
          rcases hParts with ⟨hMark, rfl⟩
          exact .boolean hMark
      | _ => simp [outline, Identifier.outline, nodeRecord] at hOutline
  | string mark value =>
      cases second with
      | string mark' value' =>
          have hParts :
              mark = mark' ∧ value = value' := by
            simpa [outline, nodeRecord_inj] using hOutline
          rcases hParts with ⟨hMark, rfl⟩
          exact .string hMark
      | _ => simp [outline, Identifier.outline, nodeRecord] at hOutline
  | unary mark operator right =>
      cases second with
      | unary mark' operator' right' =>
          have hParts :
              mark = mark' ∧ operator = operator' ∧
                outline right = outline right' := by
            simpa [outline, nodeRecord_inj] using hOutline
          rcases hParts with ⟨hMark, rfl, hRight⟩
          exact .unary hMark (Node.alike_of_outline right hRight)
      | _ => simp [outline, Identifier.outline, nodeRecord] at hOutline
  | binary mark left operator right =>
      cases second with
      | binary mark' left' operator' right' =>
          have hParts :
              mark = mark' ∧ outline left = outline left' ∧
                operator = operator' ∧
                outline right = outline right' := by
            simpa [outline, nodeRecord_inj] using hOutline
          rcases hParts with ⟨hMark, hLeft, rfl, hRight⟩
          exact .binary hMark (Node.alike_of_outline left hLeft)
            (Node.alike_of_outline right hRight)
      | _ => simp [outline, Identifier.outline, nodeRecord] at hOutline
  | ifThen mark condition consequence =>
      cases second with
      | ifThen mark' condition' consequence' =>
          have hParts :
              mark = mark' ∧ outline condition = outline condition' ∧
                outline consequence = outline consequence' := by
            simpa [outline, nodeRecord_inj] using hOutline
          rcases hParts with ⟨hMark, hCondition, hConsequence⟩
          exact .ifThen hMark (Node.alike_of_outline condition hCondition)
            (Node.alike_of_outline consequence hConsequence)
      | ifElse =>
          simp [outline, nodeRecord_inj, (outline_ne_null _).symm]
            at hOutline
      | _ => simp [outline, Identifier.outline, nodeRecord] at hOutline
  | ifElse mark condition consequence alternative =>
      cases second with
      | ifElse mark' condition' consequence' alternative' =>
          have hParts :
              mark = mark' ∧ outline condition = outline condition' ∧
                outline consequence = outline consequence' ∧
                outline alternative = outline alternative' := by
            simpa [outline, nodeRecord_inj] using hOutline
          rcases hParts with ⟨hMark, hCondition, hConsequence, hAlternative⟩
          exact .ifElse hMark (Node.alike_of_outline condition hCondition)
            (Node.alike_of_outline consequence hConsequence)
            (Node.alike_of_outline alternative hAlternative)
      | ifThen => simp [outline, nodeRecord_inj, outline_ne_null] at hOutline
      | _ => simp [outline, Identifier.outline, nodeRecord] at hOutline
  | function mark parameters body =>
      cases second with
      | function mark' parameters' body' =>
          have hParts :
              mark = mark' ∧ outlines parameters = outlines parameters' ∧
                outline body = outline body' := by
            simpa [outline, nodeRecord_inj] using hOutline
          rcases hParts with ⟨hMark, hParameters, hBody⟩
          exact .function hMark
            (Node.alikeAll_of_outlines parameters hParameters)
            (Node.alike_of_outline body hBody)
      | _ => simp [outline, Identifier.outline, nodeRecord] at hOutline
  | call mark callee arguments =>
      cases second with
      | call mark' callee' arguments' =>
          have hParts :
              mark = mark' ∧ outline callee = outline callee' ∧
                outlines arguments = outlines arguments' := by
            simpa [outline, nodeRecord_inj] using hOutline
          rcases hParts with ⟨hMark, hCallee, hArguments⟩
          exact .call hMark (Node.alike_of_outline callee hCallee)
            (Node.alikeAll_of_outlines arguments hArguments)
      | _ => simp [outline, Identifier.outline, nodeRecord] at hOutline
  | letStatement mark name value =>
      cases second with
      | letStatement mark' name' value' =>
          have hParts :
              mark = mark' ∧ outline name = outline name' ∧
                outline value = outline value' := by
            simpa [outline, nodeRecord_inj] using hOutline
          rcases hParts with ⟨hMark, hName, hValue⟩
          exact .letStatement hMark (Node.alike_of_outline name hName)
            (Node.alike_of_outline value hValue)
      | _ => simp [outline, Identifier.outline, nodeRecord] at hOutline
  | returnStatement mark value =>
      cases second with
      | returnStatement mark' value' =>
          have hParts :
              mark = mark' ∧ outline value = outline value' := by
            simpa [outline, nodeRecord_inj] using hOutline
          rcases hParts with ⟨hMark, hValue⟩
          exact .returnStatement hMark
            (Node.alike_of_outline value hValue)
      | _ => simp [outline, Identifier.outline, nodeRecord] at hOutline
  | expressionStatement mark expression =>
      cases second with
      | expressionStatement mark' expression' =>
          have hParts :
              mark = mark' ∧
                outline expression = outline expression' := by
            simpa [outline, nodeRecord_inj] using hOutline
          rcases hParts with ⟨hMark, hExpression⟩
          exact .expressionStatement hMark
            (Node.alike_of_outline expression hExpression)
      | _ => simp [outline, Identifier.outline, nodeRecord] at hOutline
  | block mark statements =>
      cases second with
      | block mark' statements' =>
          have hParts :
              mark = mark' ∧
                outlines statements = outlines statements' := by
            simpa [outline, nodeRecord_inj] using hOutline
          rcases hParts with ⟨hMark, hStatements⟩
          exact .block hMark
            (Node.alikeAll_of_outlines statements hStatements)
      | _ => simp [outline, Identifier.outline, nodeRecord] at hOutline
  | program statements =>
      cases second with
      | program statements' =>
          have hStatements :
              outlines statements = outlines statements' := by
            simpa [outline, nodeRecord_inj] using hOutline
          exact .program
            (Node.alikeAll_of_outlines statements hStatements)
      | _ => simp [outline, Identifier.outline, nodeRecord] at hOutline
  | unknown kind =>
      cases second with
      | unknown kind' =>
          obtain rfl : kind = kind' := by simpa [outline] using hOutline
          exact .unknown kind
      | _ => simp [outline, Identifier.outline, nodeRecord] at hOutline

theorem Node.alikeAll_of_outlines
    (firsts : List Node)
    {seconds : List Node}
    (hOutlines : outlines firsts = outlines seconds) :
    List.Forall₂ (Node.Alike (· = ·)) firsts seconds := by
  match firsts, seconds with
  | [], [] => exact .nil
  | first :: others, second :: others' =>
      rw [outlines, outlines, List.cons.injEq] at hOutlines
      exact .cons (Node.alike_of_outline first hOutlines.1)
        (Node.alikeAll_of_outlines others hOutlines.2)
  | [], second :: others' => simp [outlines] at hOutlines
  | first :: others, [] => simp [outlines] at hOutlines

end

/-
  The text of an outline determines the tree: trees with the
  same text have the same outline, structure, names and values,
  node for node the same marks, and they are printed alike.
-/
theorem outline_text_determines_tree
    {first second : Node}
    (hText : first.outline.text = second.outline.text) :
    first.outline = second.outline ∧
      first.same second = true ∧
      Node.Alike (· = ·) first second ∧
      first.text = second.text := by
  have hOutline := Document.text_inj hText
  have hAlike := Node.alike_of_outline first hOutline
  have hLiterals : Node.Alike SameLiteral first second :=
    hAlike.imp fun _ _ hMark => congrArg Mark.literal hMark
  exact ⟨hOutline, hAlike.same, hAlike, hLiterals.text_eq⟩

/- A comment leaves no trace in the outline. -/
theorem outline_text_determines_tree_comment :
    let mark : Mark := ⟨"1", 1, 1⟩
    let tree : Node :=
      .program [.expressionStatement mark (.integer mark 1)]
    (parse "1 # one").program.same tree = true := by
  intro mark tree
  have hProgram : (parse "1 # one").program = tree := by rfl
  have hText : (parse "1 # one").program.outline.text = tree.outline.text :=
    congrArg (fun program => program.outline.text) hProgram
  exact (outline_text_determines_tree hText).2.1

end MonkeyLang
