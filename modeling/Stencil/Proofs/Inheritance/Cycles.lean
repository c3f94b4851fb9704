import Mathlib.Order.WellFoundedSet
import Stencil.Proofs.Inheritance.Chain

/-!
Blocks inside blocks. A block may be expanded inside itself: a parent tag brings in what an older template
put into the block, and the blocks named there have their newest bodies. When this happens is told by the
declarations of the chain, and it never does unless a template over a layout uses parent tags.
-/
namespace Stencil

/-- Whether the node stands for the block of this name. -/
def Node.isBlock (name : String) : Node → Bool
  | .block other => other = name
  | _ => false

theorem Node.block_mem_iff {name : String} {nodes : List Node} :
    .block name ∈ nodes ↔ nodes.any (·.isBlock name) = true := by
  rw [List.any_eq_true]
  constructor
  · intro hmem
    exact ⟨_, hmem, decide_eq_true rfl⟩
  · rintro ⟨node, hmem, hnode⟩
    cases node with
    | block other => exact of_decide_eq_true hnode ▸ hmem
    | _ => cases hnode

namespace Program

/-- The body of the block has the other one in it, at any depth. -/
def Refers (program : Program) (name other : String) : Prop :=
  ∃ body, Fields.get? program.blocks name = some body ∧ .block other ∈ Node.partsOf body

instance (program : Program) (name other : String) : Decidable (program.Refers name other) :=
  decidable_of_iff ((Fields.get? program.blocks name).any
    fun body => (Node.partsOf body).any (·.isBlock other)) (by
      simp [Refers, Option.any_eq_true, Node.block_mem_iff])

/-- Some block is expanded inside itself. -/
def Circular (program : Program) : Prop := ∃ name, Relation.TransGen program.Refers name name

/-- However blocks are expanded in each other, it comes to an end. -/
def Ends (program : Program) : Prop := WellFounded fun other name => program.Refers name other

theorem finite_referring (program : Program) : {name | ∃ other, program.Refers name other}.Finite := by
  refine (List.finite_toSet (Fields.names program.blocks)).subset ?_
  rintro name ⟨other, body, hbody, -⟩
  exact List.mem_map.mpr ⟨_, Fields.mem_of_get? hbody, rfl⟩

/-- There are finitely many blocks, so that expansion can only go on for ever in a circle. -/
theorem ends_iff {program : Program} : program.Ends ↔ ¬ program.Circular := by
  constructor
  · rintro hends ⟨name, hcircle⟩
    exact hends.transGen.irrefl.irrefl name (Relation.transGen_swap.mp hcircle)
  · intro hcircular
    have horder : IsStrictOrder String fun other name => Relation.TransGen program.Refers name other :=
      { irrefl := fun name hcircle => hcircular ⟨name, hcircle⟩
        trans := fun _ _ _ hfirst hsecond => hsecond.trans hfirst }
    have hfounded := program.finite_referring.wellFoundedOn
      (r := fun other name => Relation.TransGen program.Refers name other)
    have hends : ∀ name, (∃ other, program.Refers name other) →
        Acc (fun other name => program.Refers name other) name := by
      intro name hname
      refine hfounded.induction hname fun name _ ih => ⟨name, fun other hother => ?_⟩
      by_cases hnext : ∃ next, program.Refers other next
      · exact ih other hnext (.single hother)
      · exact ⟨other, fun next hrefers => absurd ⟨next, hrefers⟩ hnext⟩
    refine ⟨fun name => ?_⟩
    by_cases hname : ∃ other, program.Refers name other
    · exact hends name hname
    · exact ⟨name, fun other hother => absurd ⟨other, hother⟩ hname⟩

end Program

namespace Declaration

/-- The block has a block of this name directly in it. -/
def Nests (declaration : Declaration) (name : String) : Prop :=
  ∃ tag children, .logic tag children ∈ declaration.body ∧ tag.kind = .block ∧ tag.blockName = name

/-- A parent tag belongs to the block. -/
def UsesParent (tags : Tags) (declaration : Declaration) : Prop :=
  ∃ token ∈ Token.bodyPartsOf tags declaration.body, token.isKind .parent = true

/-- The blocks in the body are those that the declaration nests, and those that its parent tags bring. -/
theorem block_mem_partsOf_iff {scope : Scope} {parent : Option (List Node)} {declaration : Declaration}
    {body : List Node} {name : String} (hplaced : Token.PlacedAll true declaration.body)
    (h : declaration.compile scope parent = .ok body) :
    .block name ∈ Node.partsOf body ↔ declaration.Nests name ∨
      declaration.UsesParent scope.tags ∧
        ∃ inherited, parent = some inherited ∧ .block name ∈ Node.partsOf inherited := by
  constructor
  · intro hpart
    rcases madeOf_of_compileTokens _ h hpart with ⟨token, htoken, hmakes⟩ | ⟨huses, hgives⟩
    · cases hmakes with
      | @block tag children hkind =>
        have hmem := hplaced.mem_of_block htoken (by simpa [Token.isKind] using hkind)
        exact Or.inl ⟨tag, children, hmem, hkind, rfl⟩
    · obtain ⟨inherited, hinherited, hpart⟩ := hgives
      simp only [Node.parts, List.mem_cons, reduceCtorEq, false_or] at hpart
      exact Or.inr ⟨huses, inherited, hinherited, hpart⟩
  · rintro (⟨tag, children, hmem, hkind, rfl⟩ | ⟨⟨token, htoken, huses⟩, inherited, rfl, hpart⟩)
    · have hleft : .block tag.blockName ∈ Token.leaves { scope with parent } (.logic tag children) := by
        simp [Token.leaves, hkind]
      exact mem_partsOf_compileTokens hleft (Node.mem_parts_self _) rfl _ h
        (Token.mem_bodyPartsOf.mpr ⟨_, hmem, Token.mem_bodyParts_self _ _⟩)
    · cases token with
      | logic tag children =>
        have hkind : tag.kind = .parent := by simpa [Token.isKind] using huses
        have hleft : .fragment inherited ∈
            Token.leaves { scope with parent := some inherited } (.logic tag children) := by
          simp [Token.leaves, hkind]
        exact mem_partsOf_compileTokens hleft (by simp [Node.parts, hpart]) rfl _ h htoken
      | literal text => cases huses
      | output tag => cases huses

end Declaration

namespace Chain

/-- What blocks a block has in it in the end: those in its declaration, which is the last one of the first
template that declares it, and if parent tags belong to that, those it has further up. -/
def Refers (tags : Tags) : Chain → String → String → Prop
  | [], _, _ => False
  | tokens :: older, name, other =>
    match Declaration.last? name (Token.declarationsOf tokens) with
    | none => Refers tags older name other
    | some declaration => declaration.Nests other ∨
        declaration.UsesParent tags ∧ Refers tags older name other

def Circular (tags : Tags) (chain : Chain) : Prop :=
  ∃ name, Relation.TransGen (chain.Refers tags) name name

variable {scope : Scope} {chain : Chain} {program : Program}

theorem refers_iff_of_override {tokens : List Token} {older : Chain} {inherited blocks : Blocks}
    {name other : String} (hplaced : Token.PlacedAll true tokens)
    (hover : Blocks.override scope inherited inherited (Token.declarationsOf tokens) name =
      .ok (Fields.get? blocks name))
    (holder : (∃ body, Fields.get? inherited name = some body ∧ .block other ∈ Node.partsOf body) ↔
      Refers scope.tags older name other) :
    (∃ body, Fields.get? blocks name = some body ∧ .block other ∈ Node.partsOf body) ↔
      Refers scope.tags (tokens :: older) name other := by
  unfold Blocks.override at hover
  rw [Refers]
  cases hlast : Declaration.last? name (Token.declarationsOf tokens) with
  | none =>
    rw [hlast] at hover
    rw [← Except.ok.inj hover]
    exact holder
  | some declaration =>
    rw [hlast] at hover
    dsimp only at hover ⊢
    have hmem := (Declaration.mem_of_last? hlast).1
    have hinside := Token.placedAll_of_declared tokens hplaced hmem
    cases hcompile : declaration.compile scope (Fields.get? inherited name) with
    | error e =>
      rw [hcompile] at hover
      cases hover
    | ok body =>
      rw [hcompile] at hover
      rw [← Except.ok.inj hover, ← holder, ← Declaration.block_mem_partsOf_iff hinside hcompile]
      exact ⟨fun ⟨_, heq, hpart⟩ => Option.some.inj heq ▸ hpart, fun hpart => ⟨body, rfl, hpart⟩⟩

/-- The program has the references of its chain. -/
theorem Compiles.refers_iff (hplaced : Placed chain) (h : Compiles scope chain program)
    {name other : String} : program.Refers name other ↔ Refers scope.tags chain name other := by
  induction h with
  | @alone tokens program h =>
    have hnone : (∃ body, Fields.get? ([] : Blocks) name = some body ∧
        .block other ∈ Node.partsOf body) ↔ Refers scope.tags [] name other := by
      simp [Refers]
    exact refers_iff_of_override (hplaced tokens List.mem_cons_self)
      (override_of_compileBlocks name tokens (ofTokens_eq_ok h).2) hnone
  | @extended tokens older layout program hlayout h ih =>
    have hlower := ih fun other hother => hplaced other (List.mem_cons_of_mem _ hother)
    exact refers_iff_of_override (hplaced tokens List.mem_cons_self)
      (override_of_compileBlocks name tokens (extend_eq_ok h).1) hlower

/-- A program over sources has circles exactly where its chain has, and otherwise expands to an end. -/
theorem Compiles.circular_iff
    (hsources : ∀ tokens ∈ chain, ∃ escape source, Token.ofSource scope.tags escape source = .ok tokens)
    (h : Compiles scope chain program) :
    (program.Circular ↔ chain.Circular scope.tags) ∧
      (program.Ends ↔ ¬ chain.Circular scope.tags) := by
  have hplaced : Placed chain := by
    intro tokens htokens
    obtain ⟨escape, source, hsource⟩ := hsources tokens htokens
    exact Token.ofSource_placed hsource
  have hrefers : program.Refers = chain.Refers scope.tags := by
    funext name other
    exact propext (h.refers_iff hplaced)
  have hcircular : program.Circular ↔ chain.Circular scope.tags := by
    unfold Program.Circular Chain.Circular
    rw [hrefers]
  exact ⟨hcircular, Program.ends_iff.trans (not_congr hcircular)⟩

/-- Unless parent tags bring in what is older, blocks come later than those they stand in, or from an older
template. -/
theorem exists_rank {tags : Tags} (hnone : ∀ tokens ∈ chain.dropLast, ∀ name declaration,
    Declaration.last? name (Token.declarationsOf tokens) = some declaration →
      ¬ declaration.UsesParent tags) :
    ∃ rank : String → Nat, ∀ name other, chain.Refers tags name other → rank other < rank name := by
  induction chain with
  | nil => exact ⟨fun _ => 0, fun _ _ hrefers => hrefers.elim⟩
  | cons tokens older ih =>
    obtain ⟨rank, hrank⟩ := ih fun other hother => hnone other (by
      cases older with
      | nil => cases hother
      | cons next rest => exact List.mem_cons_of_mem _ hother)
    -- a declared block ranks below all that are not, and lower the later its declaration is
    refine ⟨fun name => if (Declaration.last? name (Token.declarationsOf tokens)).isSome
      then Declaration.behind name (Token.declarationsOf tokens)
      else (Token.declarationsOf tokens).length + 1 + rank name, ?_⟩
    intro name other hrefers
    rw [Refers] at hrefers
    cases hlast : Declaration.last? name (Token.declarationsOf tokens) with
    | none =>
      rw [hlast] at hrefers
      have hlower := hrank name other hrefers
      have hbehind := Declaration.behind_le other (Token.declarationsOf tokens)
      simp only [hlast, Option.isSome_none, Bool.false_eq_true, if_false]
      split <;> omega
    | some declaration =>
      rw [hlast] at hrefers
      have hnests : declaration.Nests other := by
        rcases hrefers with hnests | ⟨huses, hrefers⟩
        · exact hnests
        · cases older with
          | nil => exact hrefers.elim
          | cons next rest => exact absurd huses (hnone tokens List.mem_cons_self name _ hlast)
      obtain ⟨tag, children, hmem, hkind, hname⟩ := hnests
      have hinner := Token.declared_of_mem hmem hkind
      obtain ⟨hsome, hbehind⟩ := Token.behind_lt_of_declared hlast hinner hname
      simp only [hlast, hsome, Option.isSome_some, if_true]
      exact hbehind

/-- Blocks are never expanded inside themselves if no declaration over a layout uses parent tags. -/
theorem not_circular {tags : Tags} (hnone : ∀ tokens ∈ chain.dropLast, ∀ name declaration,
    Declaration.last? name (Token.declarationsOf tokens) = some declaration →
      ¬ declaration.UsesParent tags) : ¬ chain.Circular tags := by
  rintro ⟨name, hcircle⟩
  obtain ⟨rank, hrank⟩ := exists_rank hnone
  have hlower : ∀ other, Relation.TransGen (chain.Refers tags) name other → rank other < rank name := by
    intro other hreach
    induction hreach with
    | single hfirst => exact hrank _ _ hfirst
    | tail _ hnext ih => exact (hrank _ _ hnext).trans ih
  exact absurd (hlower name hcircle) (lt_irrefl _)

section Sample

def sampleScope : Scope := ⟨[], .ofHost [], none⟩

/-- A layout with a block in another one, and a page that nests the two the other way round. -/
def crossedSource (name : String) : String :=
  if name = "layout" then
    "\x7b% block a %\x7d\x7b% block b %\x7d\x7b% endblock %\x7d\x7b% endblock %\x7d"
  else "\x7b% extends 'layout' %\x7d\x7b% block b %\x7d\x7b% block a %\x7d\x7b% parent %\x7d\x7b% endblock %\x7d\x7b% endblock %\x7d"

def crossedTokens (name : String) : List Token :=
  (Token.ofSource sampleScope.tags none (crossedSource name)).toOption.getD []

def crossedLayout : Program :=
  (Program.ofTokens sampleScope (crossedTokens "layout")).toOption.getD ⟨[], []⟩

def crossedPage : Program :=
  (Program.extend sampleScope (crossedTokens "page") crossedLayout).toOption.getD ⟨[], []⟩

theorem crossed_compiles :
    Compiles sampleScope [crossedTokens "page", crossedTokens "layout"] crossedPage :=
  .extended (.alone (eq_ok_of_isOk (by decide +kernel) _)) (eq_ok_of_isOk (by decide +kernel) _)

theorem crossed_sources : ∀ tokens ∈ [crossedTokens "page", crossedTokens "layout"],
    ∃ escape source, Token.ofSource sampleScope.tags escape source = .ok tokens := by
  refine List.forall_mem_cons.mpr ⟨?_, List.forall_mem_singleton.mpr ?_⟩
  · exact ⟨none, crossedSource "page", eq_ok_of_isOk (by decide +kernel) _⟩
  · exact ⟨none, crossedSource "layout", eq_ok_of_isOk (by decide +kernel) _⟩

/-- Expansion need not end: the page has the layout's block `b` in `a` and its own `a` in `b`. -/
theorem crossed_circular :
    (∀ tokens ∈ [crossedTokens "page", crossedTokens "layout"],
      ∃ escape source, Token.ofSource sampleScope.tags escape source = .ok tokens) ∧
    Compiles sampleScope [crossedTokens "page", crossedTokens "layout"] crossedPage ∧
      crossedPage.Circular ∧ ¬ crossedPage.Ends := by
  have hcircular : crossedPage.Circular :=
    ⟨"a", .tail (.single (by decide +kernel : crossedPage.Refers "a" "b")) (by decide +kernel)⟩
  exact ⟨crossed_sources, crossed_compiles, hcircular,
    fun hends => Program.ends_iff.mp hends hcircular⟩

theorem crossed_circular_iff :
    (crossedPage.Circular ↔
      Circular sampleScope.tags [crossedTokens "page", crossedTokens "layout"]) ∧
    (crossedPage.Ends ↔
      ¬ Circular sampleScope.tags [crossedTokens "page", crossedTokens "layout"]) :=
  Compiles.circular_iff crossed_sources crossed_compiles

end Sample

end Chain

end Stencil
