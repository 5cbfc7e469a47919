import Mathlib.Data.List.Forall2
import MonkeyLang.Eval.Label
import MonkeyLang.Node.Printer

/-
  Trees that are alike: they differ at most in their marks, and
  the marks are related. Two trees are the same if and only if
  they are alike with any marks. Labels are alike if the trees
  among them are.

  Main declarations:
    * `Node.Alike`
    * `Node.alike_of_same`, `Node.Alike.same`
    * `Node.Alike.text_eq`     (marks with the same literals)
    * `Label.Alike`
    * `Label.Alike.same_eq`    (labels of one binding)
-/

------------------------------------------------------------
-- Trees
------------------------------------------------------------

namespace MonkeyLang

/-
  Two trees of the same structure, with the same names, values
  and operators, and with marks that are related.
-/
inductive Node.Alike
    (marks : Mark → Mark → Prop) :
    Node → Node → Prop where
  | identifier {mark mark' : Mark} {name : String}
      (hMark : marks mark mark') :
      Alike marks (.identifier ⟨mark, name⟩)
        (.identifier ⟨mark', name⟩)
  | integer {mark mark' : Mark} {value : Int}
      (hMark : marks mark mark') :
      Alike marks (.integer mark value) (.integer mark' value)
  | boolean {mark mark' : Mark} {value : Bool}
      (hMark : marks mark mark') :
      Alike marks (.boolean mark value) (.boolean mark' value)
  | string {mark mark' : Mark} {value : String}
      (hMark : marks mark mark') :
      Alike marks (.string mark value) (.string mark' value)
  | unary {mark mark' : Mark} {operator : String}
      {right right' : Node}
      (hMark : marks mark mark')
      (hRight : Alike marks right right') :
      Alike marks (.unary mark operator right)
        (.unary mark' operator right')
  | binary {mark mark' : Mark} {operator : String}
      {left left' right right' : Node}
      (hMark : marks mark mark')
      (hLeft : Alike marks left left')
      (hRight : Alike marks right right') :
      Alike marks (.binary mark left operator right)
        (.binary mark' left' operator right')
  | ifThen {mark mark' : Mark}
      {condition condition' consequence consequence' : Node}
      (hMark : marks mark mark')
      (hCondition : Alike marks condition condition')
      (hConsequence : Alike marks consequence consequence') :
      Alike marks (.ifThen mark condition consequence)
        (.ifThen mark' condition' consequence')
  | ifElse {mark mark' : Mark}
      {condition condition' consequence consequence' : Node}
      {alternative alternative' : Node}
      (hMark : marks mark mark')
      (hCondition : Alike marks condition condition')
      (hConsequence : Alike marks consequence consequence')
      (hAlternative : Alike marks alternative alternative') :
      Alike marks (.ifElse mark condition consequence alternative)
        (.ifElse mark' condition' consequence' alternative')
  | function {mark mark' : Mark} {parameters parameters' : List Node}
      {body body' : Node}
      (hMark : marks mark mark')
      (hParameters :
        List.Forall₂ (Alike marks) parameters parameters')
      (hBody : Alike marks body body') :
      Alike marks (.function mark parameters body)
        (.function mark' parameters' body')
  | call {mark mark' : Mark} {callee callee' : Node}
      {arguments arguments' : List Node}
      (hMark : marks mark mark')
      (hCallee : Alike marks callee callee')
      (hArguments : List.Forall₂ (Alike marks) arguments arguments') :
      Alike marks (.call mark callee arguments)
        (.call mark' callee' arguments')
  | letStatement {mark mark' : Mark} {name name' value value' : Node}
      (hMark : marks mark mark')
      (hName : Alike marks name name')
      (hValue : Alike marks value value') :
      Alike marks (.letStatement mark name value)
        (.letStatement mark' name' value')
  | returnStatement {mark mark' : Mark} {value value' : Node}
      (hMark : marks mark mark')
      (hValue : Alike marks value value') :
      Alike marks (.returnStatement mark value)
        (.returnStatement mark' value')
  | expressionStatement {mark mark' : Mark}
      {expression expression' : Node}
      (hMark : marks mark mark')
      (hExpression : Alike marks expression expression') :
      Alike marks (.expressionStatement mark expression)
        (.expressionStatement mark' expression')
  | block {mark mark' : Mark} {statements statements' : List Node}
      (hMark : marks mark mark')
      (hStatements :
        List.Forall₂ (Alike marks) statements statements') :
      Alike marks (.block mark statements)
        (.block mark' statements')
  | program {statements statements' : List Node}
      (hStatements :
        List.Forall₂ (Alike marks) statements statements') :
      Alike marks (.program statements) (.program statements')
  | unknown (kind : String) :
      Alike marks (.unknown kind) (.unknown kind)

/- Any two marks are related. -/
def AnyMarks
    (_ _ : Mark) :
    Prop :=
  True

/- Marks with the same literal, at whatever places. -/
def SameLiteral
    (first second : Mark) :
    Prop :=
  first.literal = second.literal

theorem SameLiteral.literal_eq
    {first second : Mark}
    (hSame : SameLiteral first second) :
    first.literal = second.literal :=
  hSame

variable {marks : Mark → Mark → Prop}

mutual

theorem Node.Alike.same
    {a b : Node} :
    Node.Alike marks a b → a.same b = true
  | .identifier _ | .integer _ | .boolean _ | .string _
  | .unknown _ => by
      simp [Node.same]
  | .unary _ hRight => by
      simp [Node.same, hRight.same]
  | .binary _ hLeft hRight => by
      simp [Node.same, hLeft.same, hRight.same]
  | .ifThen _ hCondition hConsequence => by
      simp [Node.same, hCondition.same, hConsequence.same]
  | .ifElse _ hCondition hConsequence hAlternative => by
      simp [Node.same, hCondition.same, hConsequence.same,
        hAlternative.same]
  | .function _ hParameters hBody => by
      simp [Node.same, Node.sameAll_of_alike hParameters, hBody.same]
  | .call _ hCallee hArguments => by
      simp [Node.same, hCallee.same, Node.sameAll_of_alike hArguments]
  | .letStatement _ hName hValue => by
      simp [Node.same, hName.same, hValue.same]
  | .returnStatement _ hValue => by
      simp [Node.same, hValue.same]
  | .expressionStatement _ hExpression => by
      simp [Node.same, hExpression.same]
  | .block _ hStatements | .program hStatements => by
      simp [Node.same, Node.sameAll_of_alike hStatements]

theorem Node.sameAll_of_alike
    {as bs : List Node} :
    List.Forall₂ (Node.Alike marks) as bs →
      Node.sameAll as bs = true
  | .nil => by simp [Node.sameAll]
  | .cons hHead hTail => by
      simp [Node.sameAll, hHead.same, Node.sameAll_of_alike hTail]

end

mutual

/- Trees that are equal up to marks are alike. -/
theorem Node.alike_of_same
    (a : Node)
    {b : Node}
    (hSame : a.same b = true) :
    Node.Alike AnyMarks a b := by
  match a with
  | .identifier ⟨mark, name⟩ =>
      cases b with
      | identifier id =>
          have hName : name = id.name := by simpa [Node.same] using hSame
          subst hName
          exact .identifier trivial
      | _ => simp [Node.same] at hSame
  | .integer mark value =>
      cases b with
      | integer mark' value' =>
          simp only [Node.same, beq_iff_eq] at hSame
          subst hSame
          exact .integer trivial
      | _ => simp [Node.same] at hSame
  | .boolean mark value =>
      cases b with
      | boolean mark' value' =>
          simp only [Node.same, beq_iff_eq] at hSame
          subst hSame
          exact .boolean trivial
      | _ => simp [Node.same] at hSame
  | .string mark value =>
      cases b with
      | string mark' value' =>
          simp only [Node.same, beq_iff_eq] at hSame
          subst hSame
          exact .string trivial
      | _ => simp [Node.same] at hSame
  | .unary mark operator right =>
      cases b with
      | unary mark' operator' right' =>
          simp only [Node.same, Bool.and_eq_true, beq_iff_eq] at hSame
          rcases hSame with ⟨rfl, hRight⟩
          exact .unary trivial (Node.alike_of_same right hRight)
      | _ => simp [Node.same] at hSame
  | .binary mark left operator right =>
      cases b with
      | binary mark' left' operator' right' =>
          simp only [Node.same, Bool.and_eq_true, beq_iff_eq] at hSame
          rcases hSame with ⟨⟨hLeft, rfl⟩, hRight⟩
          exact .binary trivial (Node.alike_of_same left hLeft)
            (Node.alike_of_same right hRight)
      | _ => simp [Node.same] at hSame
  | .ifThen mark condition consequence =>
      cases b with
      | ifThen mark' condition' consequence' =>
          simp only [Node.same, Bool.and_eq_true] at hSame
          rcases hSame with ⟨hCondition, hConsequence⟩
          exact .ifThen trivial (Node.alike_of_same condition hCondition)
            (Node.alike_of_same consequence hConsequence)
      | _ => simp [Node.same] at hSame
  | .ifElse mark condition consequence alternative =>
      cases b with
      | ifElse mark' condition' consequence' alternative' =>
          simp only [Node.same, Bool.and_eq_true] at hSame
          rcases hSame with ⟨⟨hCondition, hConsequence⟩, hAlternative⟩
          exact .ifElse trivial (Node.alike_of_same condition hCondition)
            (Node.alike_of_same consequence hConsequence)
            (Node.alike_of_same alternative hAlternative)
      | _ => simp [Node.same] at hSame
  | .function mark parameters body =>
      cases b with
      | function mark' parameters' body' =>
          simp only [Node.same, Bool.and_eq_true] at hSame
          rcases hSame with ⟨hParameters, hBody⟩
          exact .function trivial
            (Node.alike_of_sameAll parameters hParameters)
            (Node.alike_of_same body hBody)
      | _ => simp [Node.same] at hSame
  | .call mark callee arguments =>
      cases b with
      | call mark' callee' arguments' =>
          simp only [Node.same, Bool.and_eq_true] at hSame
          rcases hSame with ⟨hCallee, hArguments⟩
          exact .call trivial (Node.alike_of_same callee hCallee)
            (Node.alike_of_sameAll arguments hArguments)
      | _ => simp [Node.same] at hSame
  | .letStatement mark name value =>
      cases b with
      | letStatement mark' name' value' =>
          simp only [Node.same, Bool.and_eq_true] at hSame
          rcases hSame with ⟨hName, hValue⟩
          exact .letStatement trivial (Node.alike_of_same name hName)
            (Node.alike_of_same value hValue)
      | _ => simp [Node.same] at hSame
  | .returnStatement mark value =>
      cases b with
      | returnStatement mark' value' =>
          rw [Node.same] at hSame
          exact .returnStatement trivial (Node.alike_of_same value hSame)
      | _ => simp [Node.same] at hSame
  | .expressionStatement mark expression =>
      cases b with
      | expressionStatement mark' expression' =>
          rw [Node.same] at hSame
          exact .expressionStatement trivial
            (Node.alike_of_same expression hSame)
      | _ => simp [Node.same] at hSame
  | .block mark statements =>
      cases b with
      | block mark' statements' =>
          rw [Node.same] at hSame
          exact .block trivial (Node.alike_of_sameAll statements hSame)
      | _ => simp [Node.same] at hSame
  | .program statements =>
      cases b with
      | program statements' =>
          rw [Node.same] at hSame
          exact .program (Node.alike_of_sameAll statements hSame)
      | _ => simp [Node.same] at hSame
  | .unknown kind =>
      cases b with
      | unknown kind' =>
          have hKind : kind = kind' := by simpa [Node.same] using hSame
          exact hKind ▸ .unknown kind
      | _ => simp [Node.same] at hSame

theorem Node.alike_of_sameAll
    (as : List Node)
    {bs : List Node}
    (hSame : Node.sameAll as bs = true) :
    List.Forall₂ (Node.Alike AnyMarks) as bs := by
  match as, bs with
  | [], [] => exact .nil
  | a :: as, b :: bs =>
      simp only [Node.sameAll, Bool.and_eq_true] at hSame
      exact .cons (Node.alike_of_same a hSame.1)
        (Node.alike_of_sameAll as hSame.2)
  | [], b :: bs => simp [Node.sameAll] at hSame
  | a :: as, [] => simp [Node.sameAll] at hSame

end

mutual

theorem Node.Alike.imp
    {marks' : Mark → Mark → Prop}
    (hMarks : ∀ mark mark', marks mark mark' → marks' mark mark')
    {a b : Node} :
    Node.Alike marks a b → Node.Alike marks' a b
  | .identifier hMark => .identifier (hMarks _ _ hMark)
  | .integer hMark => .integer (hMarks _ _ hMark)
  | .boolean hMark => .boolean (hMarks _ _ hMark)
  | .string hMark => .string (hMarks _ _ hMark)
  | .unary hMark hRight => .unary (hMarks _ _ hMark) (hRight.imp hMarks)
  | .binary hMark hLeft hRight =>
      .binary (hMarks _ _ hMark) (hLeft.imp hMarks) (hRight.imp hMarks)
  | .ifThen hMark hTest hThen =>
      .ifThen (hMarks _ _ hMark) (hTest.imp hMarks) (hThen.imp hMarks)
  | .ifElse hMark hTest hThen hElse =>
      .ifElse (hMarks _ _ hMark) (hTest.imp hMarks) (hThen.imp hMarks)
        (hElse.imp hMarks)
  | .function hMark hNames hBody =>
      .function (hMarks _ _ hMark) (Node.alikeAll_imp hMarks hNames)
        (hBody.imp hMarks)
  | .call hMark hCallee hItems =>
      .call (hMarks _ _ hMark) (hCallee.imp hMarks)
        (Node.alikeAll_imp hMarks hItems)
  | .letStatement hMark hName hValue =>
      .letStatement (hMarks _ _ hMark) (hName.imp hMarks)
        (hValue.imp hMarks)
  | .returnStatement hMark hValue =>
      .returnStatement (hMarks _ _ hMark) (hValue.imp hMarks)
  | .expressionStatement hMark hExpression =>
      .expressionStatement (hMarks _ _ hMark) (hExpression.imp hMarks)
  | .block hMark hItems =>
      .block (hMarks _ _ hMark) (Node.alikeAll_imp hMarks hItems)
  | .program hItems => .program (Node.alikeAll_imp hMarks hItems)
  | .unknown kind => .unknown kind

theorem Node.alikeAll_imp
    {marks' : Mark → Mark → Prop}
    (hMarks : ∀ mark mark', marks mark mark' → marks' mark mark')
    {as bs : List Node} :
    List.Forall₂ (Node.Alike marks) as bs →
      List.Forall₂ (Node.Alike marks') as bs
  | .nil => .nil
  | .cons hHead hTail =>
      .cons (hHead.imp hMarks) (Node.alikeAll_imp hMarks hTail)

end

mutual

/- A tree is alike to itself. -/
theorem Node.alike_refl
    (hMarks : ∀ mark, marks mark mark)
    (node : Node) :
    Node.Alike marks node node := by
  match node with
  | .identifier _ => exact .identifier (hMarks _)
  | .integer _ _ => exact .integer (hMarks _)
  | .boolean _ _ => exact .boolean (hMarks _)
  | .string _ _ => exact .string (hMarks _)
  | .unary _ _ right =>
      exact .unary (hMarks _) (Node.alike_refl hMarks right)
  | .binary _ left _ right =>
      exact .binary (hMarks _) (Node.alike_refl hMarks left)
        (Node.alike_refl hMarks right)
  | .ifThen _ condition consequence =>
      exact .ifThen (hMarks _) (Node.alike_refl hMarks condition)
        (Node.alike_refl hMarks consequence)
  | .ifElse _ condition consequence alternative =>
      exact .ifElse (hMarks _) (Node.alike_refl hMarks condition)
        (Node.alike_refl hMarks consequence)
        (Node.alike_refl hMarks alternative)
  | .function _ parameters body =>
      exact .function (hMarks _) (Node.alikeAll_refl hMarks parameters)
        (Node.alike_refl hMarks body)
  | .call _ callee arguments =>
      exact .call (hMarks _) (Node.alike_refl hMarks callee)
        (Node.alikeAll_refl hMarks arguments)
  | .letStatement _ name value =>
      exact .letStatement (hMarks _) (Node.alike_refl hMarks name)
        (Node.alike_refl hMarks value)
  | .returnStatement _ value =>
      exact .returnStatement (hMarks _) (Node.alike_refl hMarks value)
  | .expressionStatement _ expression =>
      exact .expressionStatement (hMarks _)
        (Node.alike_refl hMarks expression)
  | .block _ statements =>
      exact .block (hMarks _) (Node.alikeAll_refl hMarks statements)
  | .program statements =>
      exact .program (Node.alikeAll_refl hMarks statements)
  | .unknown kind => exact .unknown kind

theorem Node.alikeAll_refl
    (hMarks : ∀ mark, marks mark mark)
    (nodes : List Node) :
    List.Forall₂ (Node.Alike marks) nodes nodes := by
  match nodes with
  | [] => exact .nil
  | node :: rest =>
      exact .cons (Node.alike_refl hMarks node)
        (Node.alikeAll_refl hMarks rest)

end

mutual

/- Trees that are alike are equal if their marks are. -/
theorem Node.Alike.eq
    {a b : Node} :
    Node.Alike Eq a b → a = b
  | .identifier rfl | .integer rfl | .boolean rfl | .string rfl
  | .unknown _ => rfl
  | .unary rfl hRight => by
      rw [hRight.eq]
  | .binary rfl hLeft hRight => by
      rw [hLeft.eq, hRight.eq]
  | .ifThen rfl hCondition hConsequence => by
      rw [hCondition.eq, hConsequence.eq]
  | .ifElse rfl hCondition hConsequence hAlternative => by
      rw [hCondition.eq, hConsequence.eq, hAlternative.eq]
  | .function rfl hParameters hBody => by
      rw [Node.eq_of_alikeAll hParameters, hBody.eq]
  | .call rfl hCallee hArguments => by
      rw [hCallee.eq, Node.eq_of_alikeAll hArguments]
  | .letStatement rfl hName hValue => by
      rw [hName.eq, hValue.eq]
  | .returnStatement rfl hValue => by
      rw [hValue.eq]
  | .expressionStatement rfl hExpression => by
      rw [hExpression.eq]
  | .block rfl hStatements => by
      rw [Node.eq_of_alikeAll hStatements]
  | .program hStatements => by
      rw [Node.eq_of_alikeAll hStatements]

theorem Node.eq_of_alikeAll
    {as bs : List Node} :
    List.Forall₂ (Node.Alike Eq) as bs → as = bs
  | .nil => rfl
  | .cons hHead hTail => by
      rw [hHead.eq, Node.eq_of_alikeAll hTail]

end

mutual

theorem Node.Alike.symm
    {a b : Node} :
    Node.Alike AnyMarks a b → Node.Alike AnyMarks b a
  | .identifier _ => .identifier trivial
  | .integer _ => .integer trivial
  | .boolean _ => .boolean trivial
  | .string _ => .string trivial
  | .unary _ hRight => .unary trivial hRight.symm
  | .binary _ hLeft hRight => .binary trivial hLeft.symm hRight.symm
  | .ifThen _ hCondition hConsequence =>
      .ifThen trivial hCondition.symm hConsequence.symm
  | .ifElse _ hCondition hConsequence hAlternative =>
      .ifElse trivial hCondition.symm hConsequence.symm
        hAlternative.symm
  | .function _ hParameters hBody =>
      .function trivial (Node.alikeAll_symm hParameters) hBody.symm
  | .call _ hCallee hArguments =>
      .call trivial hCallee.symm (Node.alikeAll_symm hArguments)
  | .letStatement _ hName hValue =>
      .letStatement trivial hName.symm hValue.symm
  | .returnStatement _ hValue => .returnStatement trivial hValue.symm
  | .expressionStatement _ hExpression =>
      .expressionStatement trivial hExpression.symm
  | .block _ hStatements => .block trivial (Node.alikeAll_symm hStatements)
  | .program hStatements => .program (Node.alikeAll_symm hStatements)
  | .unknown kind => .unknown kind

theorem Node.alikeAll_symm
    {as bs : List Node} :
    List.Forall₂ (Node.Alike AnyMarks) as bs →
      List.Forall₂ (Node.Alike AnyMarks) bs as
  | .nil => .nil
  | .cons hHead hTail => .cons hHead.symm (Node.alikeAll_symm hTail)

end

mutual

theorem Node.Alike.trans
    {a b c : Node} :
    Node.Alike AnyMarks a b → Node.Alike AnyMarks b c →
      Node.Alike AnyMarks a c
  | .identifier _, .identifier _ => .identifier trivial
  | .integer _, .integer _ => .integer trivial
  | .boolean _, .boolean _ => .boolean trivial
  | .string _, .string _ => .string trivial
  | .unary _ hRight, .unary _ hRight' =>
      .unary trivial (hRight.trans hRight')
  | .binary _ hLeft hRight, .binary _ hLeft' hRight' =>
      .binary trivial (hLeft.trans hLeft') (hRight.trans hRight')
  | .ifThen _ hTest hThen, .ifThen _ hTest' hThen' =>
      .ifThen trivial (hTest.trans hTest') (hThen.trans hThen')
  | .ifElse _ hTest hThen hElse, .ifElse _ hTest' hThen' hElse' =>
      .ifElse trivial (hTest.trans hTest') (hThen.trans hThen')
        (hElse.trans hElse')
  | .function _ hNames hBody, .function _ hNames' hBody' =>
      .function trivial (Node.alikeAll_trans hNames hNames')
        (hBody.trans hBody')
  | .call _ hCallee hItems, .call _ hCallee' hItems' =>
      .call trivial (hCallee.trans hCallee')
        (Node.alikeAll_trans hItems hItems')
  | .letStatement _ hName hValue, .letStatement _ hName' hValue' =>
      .letStatement trivial (hName.trans hName') (hValue.trans hValue')
  | .returnStatement _ hValue, .returnStatement _ hValue' =>
      .returnStatement trivial (hValue.trans hValue')
  | .expressionStatement _ hInner, .expressionStatement _ hInner' =>
      .expressionStatement trivial (hInner.trans hInner')
  | .block _ hItems, .block _ hItems' =>
      .block trivial (Node.alikeAll_trans hItems hItems')
  | .program hItems, .program hItems' =>
      .program (Node.alikeAll_trans hItems hItems')
  | .unknown kind, .unknown _ => .unknown kind

theorem Node.alikeAll_trans
    {as bs cs : List Node} :
    List.Forall₂ (Node.Alike AnyMarks) as bs →
      List.Forall₂ (Node.Alike AnyMarks) bs cs →
        List.Forall₂ (Node.Alike AnyMarks) as cs
  | .nil, .nil => .nil
  | .cons hHead hTail, .cons hHead' hTail' =>
      .cons (hHead.trans hHead') (Node.alikeAll_trans hTail hTail')

end

mutual

/- Trees whose marks have the same literals have the same text. -/
theorem Node.Alike.text_eq
    {a b : Node} :
    Node.Alike SameLiteral a b → a.text = b.text
  | .identifier _ | .string _ | .unknown _ => by
      simp [Node.text]
  | .integer hMark | .boolean hMark => by
      simp [Node.text, hMark.literal_eq]
  | .unary _ hRight => by
      simp [Node.text, hRight.text_eq]
  | .binary _ hLeft hRight => by
      simp [Node.text, hLeft.text_eq, hRight.text_eq]
  | .ifThen _ hCondition hConsequence => by
      simp [Node.text, hCondition.text_eq,
        hConsequence.text_eq]
  | .ifElse _ hCondition hConsequence hAlternative => by
      simp [Node.text, hCondition.text_eq,
        hConsequence.text_eq, hAlternative.text_eq]
  | .function hMark hParameters hBody => by
      simp [Node.text, hMark.literal_eq,
        Node.texts_of_alike hParameters,
        hBody.text_eq]
  | .call _ hCallee hArguments => by
      simp [Node.text, hCallee.text_eq,
        Node.texts_of_alike hArguments]
  | .letStatement hMark hName hValue => by
      simp [Node.text, hMark.literal_eq, hName.text_eq,
        hValue.text_eq]
  | .returnStatement hMark hValue => by
      simp [Node.text, hMark.literal_eq, hValue.text_eq]
  | .expressionStatement _ hExpression => by
      simp [Node.text, hExpression.text_eq]
  | .block _ hStatements | .program hStatements => by
      simp [Node.text, Node.texts_of_alike hStatements]

theorem Node.texts_of_alike
    {as bs : List Node} :
    List.Forall₂ (Node.Alike SameLiteral) as bs →
      Node.texts as = Node.texts bs
  | .nil => rfl
  | .cons hHead hTail => by
      simp [Node.texts, hHead.text_eq,
        Node.texts_of_alike hTail]

end

------------------------------------------------------------
-- Labels
------------------------------------------------------------

theorem Node.Alike.any
    {a b : Node}
    (hAlike : Node.Alike marks a b) :
    Node.Alike AnyMarks a b :=
  hAlike.imp fun _ _ _ => trivial

theorem Node.Alike.kind_eq
    {a b : Node}
    (hAlike : Node.Alike marks a b) :
    a.kind = b.kind := by
  cases hAlike <;> rfl

/- Trees cannot be told apart by comparing them with others. -/
theorem Node.Alike.same_eq
    {a a' b b' : Node}
    (hFirst : Node.Alike marks a a')
    (hSecond : Node.Alike marks b b') :
    a.same b = a'.same b' := by
  rw [Bool.eq_iff_iff]
  constructor
  · intro hSame
    have hAcross := Node.alike_of_same a hSame
    exact ((hFirst.any.symm.trans hAcross).trans hSecond.any).same
  · intro hSame
    have hAcross := Node.alike_of_same a' hSame
    exact ((hFirst.any.trans hAcross).trans hSecond.any.symm).same

/- Labels that are equal, or trees that are alike. -/
inductive Label.Alike
    (marks : Mark → Mark → Prop) :
    Label → Label → Prop where
  | name (text : String) : Alike marks (.name text) (.name text)
  | number (value : Int) : Alike marks (.number value) (.number value)
  | boolean (value : Bool) :
      Alike marks (.boolean value) (.boolean value)
  | tree {a b : Node}
      (hTree : Node.Alike marks a b) :
      Alike marks (.tree a) (.tree b)

theorem Label.Alike.imp
    {marks' : Mark → Mark → Prop}
    (hMarks : ∀ mark mark', marks mark mark' → marks' mark mark')
    {first second : Label}
    (hAlike : Label.Alike marks first second) :
    Label.Alike marks' first second := by
  cases hAlike with
  | name => exact .name _
  | number => exact .number _
  | boolean => exact .boolean _
  | tree hTree => exact .tree (hTree.imp hMarks)

theorem Label.alike_refl
    (hMarks : ∀ mark, marks mark mark)
    (label : Label) :
    Label.Alike marks label label := by
  cases label with
  | name => exact .name _
  | number => exact .number _
  | boolean => exact .boolean _
  | tree node => exact .tree (Node.alike_refl hMarks node)

theorem Label.Alike.name?_eq
    {first second : Label}
    (hAlike : Label.Alike marks first second) :
    first.name? = second.name? := by
  cases hAlike <;> rfl

/- Labels that are alike belong to the same bindings. -/
theorem Label.Alike.same_eq
    {a a' b b' : Label}
    (hFirst : Label.Alike marks a a')
    (hSecond : Label.Alike marks b b') :
    a.same b = a'.same b' := by
  cases hFirst with
  | tree hFirst =>
      cases hSecond with
      | tree hSecond => exact hFirst.same_eq hSecond
      | _ => rfl
  | _ => cases hSecond <;> rfl

/- The labels of nodes in the places of names are alike. -/
theorem Node.Alike.label?_rel
    {a b : Node}
    (hAlike : Node.Alike marks a b) :
    Option.Rel (Label.Alike marks) a.label? b.label? := by
  cases hAlike with
  | identifier => exact .some (.name _)
  | string => exact .some (.name _)
  | integer => exact .some (.number _)
  | boolean => exact .some (.boolean _)
  | letStatement _ _ hValue => exact .some (.tree hValue)
  | _ => exact .none

end MonkeyLang
