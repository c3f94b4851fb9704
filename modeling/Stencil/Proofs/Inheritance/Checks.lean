import Stencil.Node.Inheritance
import Stencil.Proofs.Node.Origin

/-!
What a template over a layout is checked for. Whether it compiles does not depend on its layout: parent
tags stand for one node or none, and what they stand for is not looked into. An extends tag at the front
of a template changes nothing in what is compiled.
-/
namespace Stencil

section Endings

variable {ε α β γ δ : Type}

theorem map_bind_congr {f : α → β} {g : γ → δ} {result result' : Except ε α} {next next' : α → Except ε γ}
    (h : f <$> result = f <$> result') (hnext : ∀ a a', f a = f a' → g <$> next a = g <$> next' a') :
    g <$> (result >>= next) = g <$> (result' >>= next') := by
  cases result with
  | ok a =>
    cases result' with
    | ok a' => exact hnext a a' (Except.ok.inj h)
    | error e => cases h
  | error e =>
    cases result' with
    | ok a' => cases h
    | error e' =>
      cases h
      rfl

theorem map_bind_same {g : γ → δ} {result : Except ε α} {next next' : α → Except ε γ}
    (hnext : ∀ a, g <$> next a = g <$> next' a) : g <$> (result >>= next) = g <$> (result >>= next') := by
  cases result with
  | ok a => exact hnext a
  | error e => rfl

/-- How a computation ends, whatever its result. -/
def ending (result : Except ε α) : Except ε Unit := (fun _ => ()) <$> result

theorem ending_of_map {f : α → β} {result result' : Except ε α} (h : f <$> result = f <$> result') :
    ending result = ending result' := by
  have hunit := congrArg (Functor.map fun _ => ()) h
  rwa [Functor.map_map, Functor.map_map] at hunit

theorem ending_eq_ok {result : Except ε α} : ending result = .ok () ↔ ∃ a, result = .ok a := by
  cases result with
  | ok a => exact ⟨fun _ => ⟨a, rfl⟩, fun _ => rfl⟩
  | error e =>
    constructor
    · intro h
      cases h
    · rintro ⟨a, h⟩
      cases h

theorem ending_bind_congr {result : Except ε α} {result' : Except ε β} {next : α → Except ε γ}
    {next' : β → Except ε δ} (h : ending result = ending result')
    (hnext : ∀ a b, ending (next a) = ending (next' b)) :
    ending (result >>= next) = ending (result' >>= next') := by
  cases result with
  | ok a =>
    cases result' with
    | ok b => exact hnext a b
    | error e => cases h
  | error e =>
    cases result' with
    | ok b => cases h
    | error e' =>
      cases h
      rfl

end Endings

/-- The alternatives among nodes, which are all that decides how a body is cut into branches. -/
def alternatives (nodes : List Node) : List (Option Expr × Nat) :=
  nodes.filterMap fun node =>
    match node with
    | .alternative condition line => some (condition, line)
    | _ => none

/-- The heads of branches. -/
def headsOf (branches : List Branch) : List (Option Expr × Nat) :=
  branches.map fun branch => (branch.condition, branch.line)

theorem headsOf_splitBranches (nodes : List Node) :
    headsOf (splitBranches nodes).2 = alternatives nodes := by
  fun_induction splitBranches nodes with
  | case1 => rfl
  | case2 condition line rest body branches hsplit ih =>
    rw [hsplit] at ih
    simp only [headsOf, List.map_cons, alternatives, List.filterMap_cons] at ih ⊢
    rw [ih]
  | case3 node rest hplain body branches hsplit ih =>
    rw [hsplit] at ih
    rw [ih]
    unfold alternatives
    rw [List.filterMap_cons]
    cases node with
    | alternative condition line => exact absurd rfl (hplain condition line)
    | _ => rfl

theorem ending_emptyBranch {branches branches' : List Branch} (h : headsOf branches = headsOf branches') :
    ending (emptyBranch branches) = ending (emptyBranch branches') := by
  match branches, branches' with
  | [], [] => rfl
  | [⟨none, _, _⟩], [⟨none, _, _⟩] => rfl
  | [⟨some _, _, _⟩], [⟨some _, _, _⟩] =>
    simp only [headsOf, List.map_cons, List.map_nil, List.cons.injEq, Prod.mk.injEq] at h
    simp only [emptyBranch, h]
  | ⟨some _, _, _⟩ :: _ :: _, ⟨some _, _, _⟩ :: _ :: _ =>
    simp only [headsOf, List.map_cons, List.cons.injEq, Prod.mk.injEq] at h
    simp only [emptyBranch, h]
  | ⟨none, _, _⟩ :: _ :: _, ⟨none, _, _⟩ :: _ :: _ =>
    simp only [headsOf, List.map_cons, List.cons.injEq, Prod.mk.injEq] at h
    simp only [emptyBranch, h]

theorem ending_choiceBranches {branches branches' : List Branch}
    (h : headsOf branches = headsOf branches') :
    ending (choiceBranches branches) = ending (choiceBranches branches') := by
  induction branches generalizing branches' with
  | nil =>
    cases branches' with
    | nil => rfl
    | cons first rest => cases h
  | cons first rest ih =>
    cases branches' with
    | nil => cases h
    | cons first' rest' =>
      obtain ⟨hhead, hrest⟩ := List.cons.inj h
      obtain ⟨condition, line, body⟩ := first
      obtain ⟨condition', line', body'⟩ := first'
      obtain ⟨hcondition, hline⟩ := Prod.mk.inj hhead
      subst hcondition hline
      cases condition with
      | some condition =>
        rw [choiceBranches, choiceBranches]
        exact ending_bind_congr (ih hrest) fun _ _ => rfl
      | none =>
        cases rest with
        | nil =>
          cases rest' with
          | nil => rfl
          | cons next' others' => cases hrest
        | cons next others =>
          cases rest' with
          | nil => cases hrest
          | cons next' others' =>
            have hnext := (Prod.mk.inj (List.cons.inj hrest).1).2
            simp only [choiceBranches, hnext]

section Compile

variable {scope : Scope} (parent parent' : Option (List Node))

theorem filterCalls_parent (line : Nat) (filters : List FilterText) :
    Scope.filterCalls { scope with parent := parent } line filters =
      Scope.filterCalls { scope with parent := parent' } line filters := by
  induction filters with
  | nil => rfl
  | cons text rest ih =>
    rw [Scope.filterCalls, Scope.filterCalls, ih]

theorem exprs_parent (line : Nat) (words : List String) :
    Scope.exprs { scope with parent := parent } line words =
      Scope.exprs { scope with parent := parent' } line words := by
  induction words with
  | nil => rfl
  | cons word rest ih =>
    rw [Scope.exprs, Scope.exprs, ih]
    rfl

/-- One node after a body, whatever the body is. -/
theorem alternatives_of_body {result result' : Except TemplateError (List Node)}
    (h : alternatives <$> result = alternatives <$> result') {f : List Node → Node}
    (hplain : ∀ body, alternatives [f body] = []) :
    alternatives <$> (result >>= fun body => pure [f body]) =
      alternatives <$> (result' >>= fun body => pure [f body]) := by
  refine map_bind_congr h fun body body' _ => ?_
  exact congrArg Except.ok ((hplain body).trans (hplain body').symm)

mutual

theorem alternatives_compileToken (start finish : Bool) : (token : Token) →
    alternatives <$> compileToken { scope with parent := parent } start finish token =
      alternatives <$> compileToken { scope with parent := parent' } start finish token
  | .literal text => rfl
  | .output tag => by
    rw [compileToken, compileToken, Scope.output, Scope.output, filterCalls_parent parent parent']
    rfl
  | .logic tag children => by
    have hbody := alternatives_compileTokens tag.strip.start tag.strip.finish children
    rw [compileToken, compileToken]
    cases hkind : tag.kind with
    | loop =>
      refine map_bind_same fun loop => map_bind_congr hbody fun body body' hbodies => ?_
      have hheads : headsOf (splitBranches body).2 = headsOf (splitBranches body').2 := by
        rw [headsOf_splitBranches, headsOf_splitBranches, hbodies]
      exact map_bind_congr (ending_emptyBranch hheads) fun _ _ _ => rfl
    | condition =>
      dsimp only
      split
      · rfl
      · refine map_bind_same fun condition => map_bind_congr hbody fun body body' hbodies => ?_
        have hheads : headsOf (splitBranches body).2 = headsOf (splitBranches body').2 := by
          rw [headsOf_splitBranches, headsOf_splitBranches, hbodies]
        exact map_bind_congr (ending_choiceBranches hheads) fun _ _ _ => rfl
    | filter => exact map_bind_same fun call => alternatives_of_body hbody fun _ => rfl
    | definition => exact map_bind_same fun _ => alternatives_of_body hbody fun _ => rfl
    | raw => exact alternatives_of_body hbody fun _ => rfl
    | autoescape => exact alternatives_of_body hbody fun _ => rfl
    | host name =>
      dsimp only
      split
      · rfl
      · rw [exprs_parent parent parent']
        refine map_bind_same fun arguments => ?_
        split
        · exact alternatives_of_body hbody fun _ => rfl
        · rfl
    | parent => cases parent <;> cases parent' <;> rfl
    | alternative => rfl
    | assignment => rfl
    | inclusion => rfl
    | importation => rfl
    | block => rfl
    | «extends» => rfl

/-- Whether tokens compile, and the alternatives among their nodes, do not depend on what parent tags stand
for. -/
theorem alternatives_compileTokens (start finish : Bool) : (tokens : List Token) →
    alternatives <$> compileTokens { scope with parent := parent } start finish tokens =
      alternatives <$> compileTokens { scope with parent := parent' } start finish tokens
  | [] => rfl
  | token :: rest => by
    rw [compileTokens, compileTokens]
    refine map_bind_congr (alternatives_compileToken start (stripsEnd finish rest) token)
      fun nodes nodes' hnodes => ?_
    refine map_bind_congr (alternatives_compileTokens token.stripsAfter finish rest)
      fun others others' hothers => ?_
    have happend : alternatives (nodes ++ others) = alternatives (nodes' ++ others') := by
      unfold alternatives at hnodes hothers ⊢
      rw [List.filterMap_append, List.filterMap_append, hnodes, hothers]
    exact congrArg Except.ok happend

end

end Compile

section Blocks

variable {scope : Scope}

mutual

theorem ending_compileBlock (inherited inherited' : Blocks) : (token : Token) → (blocks blocks' : Blocks) →
    ending (compileBlock scope inherited token blocks) =
      ending (compileBlock scope inherited' token blocks')
  | .literal text, _, _ => rfl
  | .output tag, _, _ => rfl
  | .logic tag children, blocks, blocks' => by
    rw [compileBlock, compileBlock]
    split
    · refine ending_bind_congr (ending_of_map (alternatives_compileTokens _ _ _ _ children))
        fun body body' => ?_
      exact ending_compileBlocks inherited inherited' children _ _
    · rfl

/-- Whether blocks compile does not depend on the blocks there are. -/
theorem ending_compileBlocks (inherited inherited' : Blocks) : (tokens : List Token) →
    (blocks blocks' : Blocks) →
    ending (compileBlocks scope inherited tokens blocks) =
      ending (compileBlocks scope inherited' tokens blocks')
  | [], _, _ => rfl
  | token :: rest, blocks, blocks' => by
    rw [compileBlocks, compileBlocks]
    exact ending_bind_congr (ending_compileBlock inherited inherited' token blocks blocks')
      fun between between' => ending_compileBlocks inherited inherited' rest between between'

end

end Blocks

namespace Program

variable {scope : Scope}

theorem ending_extend (tokens : List Token) (layout : Program) :
    ending (extend scope tokens layout) = ending (check scope tokens) := by
  unfold extend check
  refine ending_bind_congr (ending_compileBlocks layout.blocks [] tokens _ _) fun _ _ => ?_
  exact ending_bind_congr rfl fun _ _ => rfl

/-- A template that passes its check compiles over every layout, and only such a template does. -/
theorem check_eq_ok {tokens : List Token} (layout : Program) :
    check scope tokens = .ok () ↔ ∃ program, extend scope tokens layout = .ok program := by
  rw [← ending_eq_ok, ending_extend]
  cases check scope tokens with
  | ok result => exact ⟨fun _ => rfl, fun _ => rfl⟩
  | error e =>
    constructor <;> intro h <;> cases h

section Front

variable {tag : LogicTag} {children tokens : List Token} (hkind : tag.kind = .extends)

include hkind

theorem compileBlocks_extends (inherited blocks : Blocks) :
    compileBlocks scope inherited (.logic tag children :: tokens) blocks =
      compileBlocks scope inherited tokens blocks := by
  have hblock : ¬ tag.kind = .block := by
    rw [hkind]
    exact nofun
  rw [compileBlocks, compileBlock, if_neg hblock]
  rfl

theorem assignments_extends :
    Token.assignments (.logic tag children :: tokens) = Token.assignments tokens := by
  unfold Token.assignments
  rw [List.filter_cons, if_neg]
  simp [Token.isKind, hkind]

theorem extend_extends (layout : Program) :
    extend scope (.logic tag children :: tokens) layout = extend scope tokens layout := by
  unfold extend
  rw [compileBlocks_extends hkind, assignments_extends hkind]

theorem check_extends : check scope (.logic tag children :: tokens) = check scope tokens := by
  unfold check
  rw [compileBlocks_extends hkind, assignments_extends hkind]

end Front

end Program

end Stencil
