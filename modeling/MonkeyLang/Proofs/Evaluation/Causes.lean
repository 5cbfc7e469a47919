import MonkeyLang.Proofs.Evaluation.Halting
import MonkeyLang.Proofs.Evaluation.Spelling
import MonkeyLang.Proofs.Parsing.Placement

/-
  What makes evaluations halt. Operators, calls and built-in
  functions answer with an error value whatever they are given.
  So an evaluation halts only at a node of a kind that is not
  part of the language, or at a node in the place of a name that
  has no label. It finds them in its tree or in a function in
  reach. The parser builds no such nodes, whatever the tokens
  are, and so no program that it has built halts.

  Main declarations:
    * `Node.Occurs`
    * `Heap.InSight`          (the trees that an evaluation starts with)
    * `Heap.MayHalt`
    * `Invariant.occurring`
    * `Node.AllPlain`         (trees that the parser builds)
    * `evaluation_halts_for_cause`
-/

------------------------------------------------------------
-- Occurrences
------------------------------------------------------------

namespace MonkeyLang

namespace Node

/-
  A node that is part of a tree, at any depth. What stands in
  the place of a name is not evaluated and is no part.
-/
inductive Occurs
    (node : Node) :
    Node → Prop where
  | itself :
      Occurs node node
  | inside {tree part : Node}
      (hPart : part ∈ tree.parts)
      (hOccurs : Occurs node part) :
      Occurs node tree

theorem Occurs.trans
    {node middle tree : Node}
    (hNode : node.Occurs middle)
    (hMiddle : middle.Occurs tree) :
    node.Occurs tree := by
  induction hMiddle with
  | itself => exact hNode
  | inside hPart _ ih => exact .inside hPart ih

/- A node that is part of one of some trees. -/
def OccursAmong
    (trees : Node → Prop)
    (node : Node) :
    Prop :=
  ∃ tree, trees tree ∧ node.Occurs tree

end Node

/- A value whose function, if there is one, is a literal in some trees. -/
def Value.IsFrom
    (trees : Node → Prop)
    (value : Value) :
    Prop :=
  ∀ parameters body,
    value.function? = some (parameters, body) →
      ∃ mark,
        (Node.function mark parameters body).OccursAmong trees

section

variable {trees : Node → Prop}

theorem Node.OccursAmong.parts
    {tree : Node}
    (hTree : tree.OccursAmong trees) :
    tree.parts.Forall (Node.OccursAmong trees) := by
  rcases hTree with ⟨root, hRoot, hOccurs⟩
  rw [List.forall_iff_forall_mem]
  exact fun part hPart =>
    ⟨root, hRoot, Occurs.trans (.inside hPart .itself) hOccurs⟩

theorem Value.IsFrom.of_function?_eq_none
    {value : Value}
    (hValue : value.function? = none) :
    value.IsFrom trees := by
  intro parameters body hFunction
  rw [hValue] at hFunction
  cases hFunction

theorem Value.IsFrom.of_isScalar
    {value : Value}
    (hScalar : value.isScalar) :
    value.IsFrom trees := by
  apply of_function?_eq_none
  cases value with
  | returned | function => cases hScalar
  | _ => rfl

theorem Value.isFrom_function
    {mark : Mark}
    {parameters : List Node}
    {body : Node}
    (hFunction :
      (Node.function mark parameters body).OccursAmong trees)
    (number : Nat)
    (scope : ScopeId) :
    (Value.function number parameters body scope).IsFrom trees := by
  rintro _ _ ⟨⟩
  exact ⟨mark, hFunction⟩

theorem Value.IsFrom.body
    {number : Nat}
    {parameters : List Node}
    {body : Node}
    {scope : ScopeId}
    (hFunction :
      (Value.function number parameters body scope).IsFrom trees) :
    body.OccursAmong trees := by
  rcases hFunction parameters body rfl with ⟨mark, hLiteral⟩
  exact hLiteral.parts

end

/- Evaluation brings up only parts of the trees that it starts with. -/
def Invariant.occurring
    (trees : Node → Prop) :
    Invariant where
  node := Node.OccursAmong trees
  value := Value.IsFrom trees
  assumed _ := True
  part := Node.OccursAmong.parts
  integer _ := .of_function?_eq_none rfl
  boolean _ := .of_function?_eq_none rfl
  string _ := .of_function?_eq_none rfl
  null := .of_function?_eq_none rfl
  host _ := .of_function?_eq_none rfl
  function := Value.isFrom_function
  body := Value.IsFrom.body
  returned := Iff.rfl
  unary _ _ := .inr (.of_isScalar (isScalar_applyUnary _ _))
  binary _ _ _ := .inr (.of_isScalar (isScalar_applyBinary _ _ _))
  builtin _ _ builtin := .inr (.of_isScalar (builtin.isScalar_apply _))

/- Names are found in one of the trees. -/
theorem Invariant.names_occurring
    {trees : Node → Prop}
    {name : Node}
    (hName : (occurring trees).Names name) :
    ∃ part : Node, part.OccursAmong trees ∧ name ∈ part.names := by
  rcases hName with hTree | ⟨_, parameters, body, _, hFunction, hName⟩
  · exact hTree
  · rcases hFunction parameters body rfl with ⟨mark, hLiteral⟩
    exact ⟨_, hLiteral, hName⟩

------------------------------------------------------------
-- Causes
------------------------------------------------------------

namespace Heap

/- A function in reach of a scope, which may be wrapped. -/
def HasFunction
    (heap : Heap)
    (origin : ScopeId)
    (parameters : List Node)
    (body : Node) :
    Prop :=
  ∃ id, heap.Reaches origin id ∧
    ∃ binding ∈ (heap.scope id).bindings,
      binding.2.function? = some (parameters, body)

/-
  The trees that an evaluation starts with: the one that is
  evaluated, and those of the functions in reach. The only part
  of such a function is its body.
-/
inductive InSight
    (heap : Heap)
    (scope : ScopeId)
    (node : Node) :
    Node → Prop where
  | node :
      InSight heap scope node node
  | function {parameters : List Node} {body : Node}
      (hFunction : heap.HasFunction scope parameters body)
      (mark : Mark) :
      InSight heap scope node (.function mark parameters body)

/-
  What the evaluation of a tree in a scope may halt for, unless
  it calls functions too deeply: an unknown kind of node that
  occurs in one of its trees, or the kind of a node without a
  label in the place of a name there.
-/
inductive MayHalt
    (heap : Heap)
    (scope : ScopeId)
    (node : Node) :
    Halt → Prop where
  | unknownNode {kind : String}
      (hOccurs :
        (Node.unknown kind).OccursAmong (heap.InSight scope node)) :
      MayHalt heap scope node (.unknownNode kind)
  | nameless {part name : Node}
      (hOccurs : part.OccursAmong (heap.InSight scope node))
      (hName : name ∈ part.names)
      (hLabel : name.label? = none) :
      MayHalt heap scope node (.nameless name.kind)

theorem isFrom_inSight
    (heap : Heap)
    (scope : ScopeId)
    (node : Node) :
    heap.AllReachable scope (Value.IsFrom (heap.InSight scope node)) := by
  intro id hReaches binding hBinding parameters body hFunction
  have hSight :
      heap.InSight scope node (.function ⟨"fn", 1, 1⟩ parameters body) :=
    .function ⟨id, hReaches, binding, hBinding, hFunction⟩ _
  exact ⟨_, _, hSight, .itself⟩

end Heap

/- What makes an evaluation halt is explained by the trees it starts with. -/
theorem explains_of_evaluate
    {trees : Node → Prop}
    {depth : Nat}
    {scope : ScopeId}
    {node : Node}
    {heap : Heap}
    {cause : Halt}
    (hNode : node.OccursAmong trees)
    (hReach : heap.AllReachable scope (Value.IsFrom trees))
    (hRun : evaluate depth scope node heap = .error cause) :
    (Invariant.occurring trees).Explains cause := by
  rcases evaluate_eq_error_iff.mp hRun with ⟨history, hRecord⟩
  exact (Invariant.occurring trees).record_explains hNode hReach hRecord
    fun _ _ _ _ => trivial

theorem mayHalt_of_evaluate
    {depth : Nat}
    {scope : ScopeId}
    {node : Node}
    {heap : Heap}
    {cause : Halt}
    (hRun : evaluate depth scope node heap = .error cause)
    (hDepth : cause ≠ .outOfDepth) :
    heap.MayHalt scope node cause := by
  have hExplains :=
    explains_of_evaluate ⟨node, .node, .itself⟩
      (heap.isFrom_inSight scope node) hRun
  cases cause with
  | unknownNode kind => exact .unknownNode hExplains
  | nameless kind =>
      rcases hExplains with ⟨name, hName, hLabel, rfl⟩
      rcases Invariant.names_occurring hName with ⟨part, hPart, hMember⟩
      exact .nameless hPart hMember hLabel
  | hostFault => exact hExplains.elim
  | outOfDepth => exact absurd rfl hDepth

------------------------------------------------------------
-- Parsed Programs
------------------------------------------------------------

namespace Node

/- A node of the language in which all names are identifiers. -/
structure IsPlain
    (node : Node) :
    Prop where
  known : ∀ kind, node ≠ .unknown kind
  names : ∀ name ∈ node.names, ∃ id, name = .identifier id

/- All nodes that occur in a tree are plain. -/
def AllPlain
    (tree : Node) :
    Prop :=
  ∀ node : Node, node.Occurs tree → node.IsPlain

theorem allPlain_of_parts
    {tree : Node}
    (hTree : tree.IsPlain)
    (hParts : tree.parts.Forall AllPlain) :
    tree.AllPlain := by
  intro node hOccurs
  rw [List.forall_iff_forall_mem] at hParts
  cases hOccurs with
  | itself => exact hTree
  | inside hPart hInside => exact hParts _ hPart node hInside

/- A program that the parser builds, whatever errors there are. -/
def IsParsed
    (node : Node) :
    Prop :=
  (∃ source, node = (parse source).program) ∨
    ∃ tokens, node = (parseTokens tokens).program

end Node

/- From any tokens only trees are built in which all nodes are plain. -/
def Correspondence.plain : Correspondence where
  token a b := a.content = b.content
  name _ _ := True
  expression a _ := a.AllPlain
  block a _ := a.AllPlain
  statement a _ := a.AllPlain
  kind := Token.kind_of_content
  literal hToken _ := Token.literal_of_content hToken
  nameOf _ _ := trivial
  identifier _ :=
    Node.allPlain_of_parts ⟨nofun, nofun⟩ trivial
  integer _ _ _ :=
    Node.allPlain_of_parts ⟨nofun, nofun⟩ trivial
  boolean _ _ :=
    Node.allPlain_of_parts ⟨nofun, nofun⟩ trivial
  string _ _ :=
    Node.allPlain_of_parts ⟨nofun, nofun⟩ trivial
  unary _ _ hRight :=
    Node.allPlain_of_parts ⟨nofun, nofun⟩ hRight
  binary _ _ hLeft hRight :=
    Node.allPlain_of_parts ⟨nofun, nofun⟩ ⟨hLeft, hRight⟩
  ifThen _ hTest hBody :=
    Node.allPlain_of_parts ⟨nofun, nofun⟩ ⟨hTest, hBody⟩
  ifElse _ hTest hBody hOther :=
    Node.allPlain_of_parts ⟨nofun, nofun⟩ ⟨hTest, hBody, hOther⟩
  function _ _ _ hBody :=
    Node.allPlain_of_parts ⟨nofun, by simp [Node.names]⟩ hBody
  call _ hCallee hArguments := by
    have hAll := forall_mem_of_forall₂ hArguments
    refine Node.allPlain_of_parts ⟨nofun, nofun⟩ ?_
    exact (List.forall_cons _ _ _).mpr
      ⟨hCallee, List.forall_iff_forall_mem.mpr hAll⟩
  letStatement _ _ _ hValue :=
    Node.allPlain_of_parts ⟨nofun, by simp [Node.names]⟩ hValue
  returnStatement _ _ hValue :=
    Node.allPlain_of_parts ⟨nofun, nofun⟩ hValue
  expressionStatement _ hInner :=
    Node.allPlain_of_parts ⟨nofun, nofun⟩ hInner
  blockOf _ hNodes :=
    Node.allPlain_of_parts ⟨nofun, nofun⟩
      (List.forall_iff_forall_mem.mpr (forall_mem_of_forall₂ hNodes))
  blockStatement hBlock := hBlock

theorem allPlain_parseTokens
    (tokens : List Token) :
    (parseTokens tokens).program.AllPlain := by
  have hTokens :
      List.Forall₂ Correspondence.plain.token tokens tokens :=
    List.forall₂_same.mpr fun _ _ => rfl
  have hStatements :=
    forall_mem_of_forall₂
      (Correspondence.plain.parseTokens_alike hTokens rfl).1
  exact Node.allPlain_of_parts ⟨nofun, nofun⟩
    (List.forall_iff_forall_mem.mpr hStatements)

theorem Node.IsParsed.allPlain
    {node : Node}
    (hNode : node.IsParsed) :
    node.AllPlain := by
  rcases hNode with ⟨source, rfl⟩ | ⟨tokens, rfl⟩
  · exact allPlain_parseTokens (tokenize source)
  · exact allPlain_parseTokens tokens

/- The trees of the parser leave nothing to halt for. -/
theorem eq_outOfDepth_of_explains
    {cause : Halt}
    (hExplains : (Invariant.occurring Node.IsParsed).Explains cause) :
    cause = .outOfDepth := by
  cases cause with
  | unknownNode kind =>
      rcases hExplains with ⟨tree, hTree, hOccurs⟩
      exact absurd rfl ((hTree.allPlain _ hOccurs).known kind)
  | nameless kind =>
      rcases hExplains with ⟨name, hName, hLabel, -⟩
      rcases Invariant.names_occurring hName with
        ⟨part, ⟨tree, hTree, hOccurs⟩, hMember⟩
      rcases (hTree.allPlain part hOccurs).names name hMember with
        ⟨id, rfl⟩
      cases hLabel
  | hostFault => exact hExplains.elim
  | outOfDepth => rfl

------------------------------------------------------------
-- Whole Evaluations
------------------------------------------------------------

/-
  An evaluation that halts, and not because of the depth of
  calls, halts for a node that occurs in one of the trees that it
  starts with: one of an unknown kind, which the cause names, or
  one without a label in the place of a name.

  A program that the parser has built, from a source or from any
  tokens and with whatever errors, has no such nodes. Where all
  functions in reach are literals of such programs, it has a
  value, unless its calls nest too deeply, and again all
  functions in reach are such literals.
-/
theorem evaluation_halts_for_cause :
    (∀ depth scope node heap cause,
      evaluate depth scope node heap = .error cause →
      cause ≠ .outOfDepth →
        heap.MayHalt scope node cause) ∧
    ∀ depth scope node heap,
      node.IsParsed →
      heap.AllReachable scope (Value.IsFrom Node.IsParsed) →
        evaluate depth scope node heap = .error .outOfDepth ∨
          ∃ value after,
            evaluate depth scope node heap = .ok (value, after) ∧
              after.AllReachable scope (Value.IsFrom Node.IsParsed) := by
  refine ⟨fun _ _ _ _ _ => mayHalt_of_evaluate, ?_⟩
  intro depth scope node heap hNode hReach
  have hTree : node.OccursAmong Node.IsParsed := ⟨node, hNode, .itself⟩
  cases hRun : evaluate depth scope node heap with
  | error cause =>
      have hExplains := explains_of_evaluate hTree hReach hRun
      rw [eq_outOfDepth_of_explains hExplains]
      exact .inl rfl
  | ok result =>
      rcases evaluate_eq_ok_iff.mp hRun with ⟨history, hRecord, hAfter⟩
      have hKept :=
        (Invariant.occurring Node.IsParsed).record_keeps hTree hReach
          hRecord fun _ _ _ _ => trivial
      exact .inr ⟨result.1, result.2, rfl, hAfter ▸ hKept.2.1⟩

/-
  A function that was not made by a program is called: its body
  is of an unknown kind. A function that was made by a program
  is called with a value for which its operator is not defined.
-/
theorem evaluation_halts_for_cause_in_function :
    let mark : Mark := ⟨"f", 1, 1⟩
    let call : Node :=
      .program [
        .expressionStatement mark
          (.call mark (.identifier ⟨mark, "f"⟩) [])]
    let heap : Heap :=
      Heap.initial.bind Heap.globalScope (.name "f")
        (.function 0 [] (.unknown "mystery") Heap.globalScope)
    evaluate 1 Heap.globalScope call heap =
        .error (.unknownNode "mystery") ∧
      heap.MayHalt Heap.globalScope call (.unknownNode "mystery") ∧
      ∃ middle,
        evaluate 0 Heap.globalScope
            (parse ("let f = fn(x) " ++ Text.braced " -x ")).program
            Heap.initial =
          .ok (.null, middle) ∧
        ∀ depth,
          evaluate depth Heap.globalScope (parse "f(true)").program
                middle =
              .error .outOfDepth ∨
            ∃ value after,
              evaluate depth Heap.globalScope (parse "f(true)").program
                  middle =
                .ok (value, after) := by
  intro mark call heap
  have hHalt :
      evaluate 1 Heap.globalScope call heap =
        .error (.unknownNode "mystery") := by
    rfl
  have hRun :
      ∃ middle,
        evaluate 0 Heap.globalScope
            (parse ("let f = fn(x) " ++ Text.braced " -x ")).program
            Heap.initial =
          .ok (.null, middle) :=
    ⟨_, rfl⟩
  rcases evaluation_halts_for_cause with ⟨hCause, hParsed⟩
  rcases hRun with ⟨middle, hRun⟩
  have hMiddle :
      middle.AllReachable Heap.globalScope
        (Value.IsFrom Node.IsParsed) := by
    rcases hParsed 0 Heap.globalScope _ _ (.inl ⟨_, rfl⟩)
        (Heap.allReachable_initial _ _) with
      hDeep | ⟨value, after, hEnded, hAfter⟩
    · cases hRun.symm.trans hDeep
    · cases hRun.symm.trans hEnded
      exact hAfter
  refine ⟨hHalt, hCause _ _ _ _ _ hHalt nofun, middle, hRun, ?_⟩
  intro depth
  refine (hParsed depth _ _ _ (.inl ⟨_, rfl⟩) hMiddle).imp_right ?_
  rintro ⟨value, after, hEnded, -⟩
  exact ⟨value, after, hEnded⟩

/-
  Without the nodes in the places of names the causes are not
  complete: a negation stands where a let statement has its name,
  in front of a node of an unknown kind.
-/
theorem evaluation_halts_without_name :
    let name : Node :=
      .unary ⟨"!", 1, 5⟩ "!" (.boolean ⟨"true", 1, 6⟩ true)
    let tree : Node :=
      .program [
        .letStatement ⟨"let", 1, 1⟩ name (.integer ⟨"1", 1, 13⟩ 1),
        .unknown "mystery"]
    evaluate 0 Heap.globalScope tree Heap.initial =
        .error (.nameless "prefix") ∧
      ¬∀ depth scope node heap cause,
        evaluate depth scope node heap = .error cause →
        cause ≠ .outOfDepth →
          ∃ kind,
            cause = .unknownNode kind ∧
              (Node.unknown kind).OccursAmong
                (heap.InSight scope node) := by
  intro name tree
  have hHalt :
      evaluate 0 Heap.globalScope tree Heap.initial =
        .error (.nameless "prefix") := by
    rfl
  refine ⟨hHalt, fun hClaim => ?_⟩
  rcases hClaim _ _ _ _ _ hHalt nofun with ⟨kind, hKind, -⟩
  cases hKind

end MonkeyLang
