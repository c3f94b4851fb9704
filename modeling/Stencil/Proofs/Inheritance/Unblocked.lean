import Stencil.Proofs.Engine.Verbatim
import Stencil.Proofs.Inheritance.Chain

/-!
Tokens with their blocks opened. In a template without a layout each block that is declared once stands for
its own body, so the tokens compile with their blocks if and only if they compile without them, and the nodes
are the same but for the bodies that stand in the places of the blocks.
-/
namespace Stencil

namespace Token

mutual

/-- The token with each block inside it replaced by what stands in the block, and so the token itself. -/
def unblocked : Token → List Token
  | .literal text => [.literal text]
  | .output tag => [.output tag]
  | .logic tag children =>
    if tag.kind = .block then unblockedAll children else [.logic tag (unblockedAll children)]

def unblockedAll : List Token → List Token
  | [] => []
  | token :: rest => unblocked token ++ unblockedAll rest

end

mutual

theorem unblocked_of_placed : (token : Token) → Placed false token → unblocked token = [token]
  | .literal _, _ => rfl
  | .output _, _ => rfl
  | .logic tag children, h => by
    rw [Placed] at h
    rw [unblocked]
    split at h
    · exact absurd h.1 Bool.false_ne_true
    · rename_i hkind
      rw [if_neg hkind, unblockedAll_of_placed children h]

/-- Where no block may stand there is nothing to replace. -/
theorem unblockedAll_of_placed : (tokens : List Token) → PlacedAll false tokens →
    unblockedAll tokens = tokens
  | [], _ => rfl
  | token :: rest, h => by
    rw [unblockedAll, unblocked_of_placed token h.1, unblockedAll_of_placed rest h.2, List.singleton_append]

end

/-- Of the tokens of a source only blocks are replaced. -/
theorem unblocked_of_not_block {allowed : Bool} {token : Token} (h : Placed allowed token)
    (hblock : token.isKind .block = false) : unblocked token = [token] := by
  refine unblocked_of_placed token ?_
  cases token with
  | logic tag children =>
    have hkind : ¬ tag.kind = .block := of_decide_eq_false hblock
    rw [Placed, if_neg hkind] at h ⊢
    exact h
  | literal text => exact True.intro
  | output tag => exact True.intro

mutual

theorem not_block_of_mem_unblocked {part : Token} : (token : Token) → part ∈ unblocked token →
    part.isKind .block = false
  | .literal text, hpart => List.mem_singleton.mp hpart ▸ rfl
  | .output tag, hpart => List.mem_singleton.mp hpart ▸ rfl
  | .logic tag children, hpart => by
    rw [unblocked] at hpart
    split at hpart
    · exact not_block_of_mem_unblockedAll children hpart
    · rename_i hkind
      exact List.mem_singleton.mp hpart ▸ decide_eq_false hkind

theorem not_block_of_mem_unblockedAll {part : Token} : (tokens : List Token) →
    part ∈ unblockedAll tokens → part.isKind .block = false
  | [], hpart => absurd hpart List.not_mem_nil
  | token :: rest, hpart => by
    rcases List.mem_append.mp hpart with hpart | hpart
    · exact not_block_of_mem_unblocked token hpart
    · exact not_block_of_mem_unblockedAll rest hpart

end

mutual

theorem partsOf_unblocked_subset {allowed : Bool} : (token : Token) → Placed allowed token →
    partsOf (unblocked token) ⊆ parts token
  | .literal text, _ => List.Subset.refl _
  | .output tag, _ => List.Subset.refl _
  | .logic tag children, h => by
    by_cases hkind : tag.kind = .block
    · rw [Placed, if_pos hkind] at h
      rw [unblocked, if_pos hkind]
      exact List.subset_cons_of_subset _ (partsOf_unblockedAll_subset children h.2)
    · rw [unblocked_of_not_block h (decide_eq_false hkind), partsOf_cons, partsOf_nil, List.append_nil]
      exact List.Subset.refl _

/-- Opening blocks brings no new tokens. -/
theorem partsOf_unblockedAll_subset {allowed : Bool} : (tokens : List Token) → PlacedAll allowed tokens →
    partsOf (unblockedAll tokens) ⊆ partsOf tokens
  | [], _ => List.Subset.refl _
  | token :: rest, h => by
    rw [unblockedAll, partsOf_append, partsOf_cons]
    exact List.append_subset.mpr
      ⟨List.subset_append_of_subset_left _ (partsOf_unblocked_subset token h.1),
        List.subset_append_of_subset_right _ (partsOf_unblockedAll_subset rest h.2)⟩

end

mutual

theorem names_declarations : (token : Token) → (declarations token).map (·.name) = blockNames token
  | .literal _ => rfl
  | .output _ => rfl
  | .logic tag children => by
    rw [declarations, blockNames]
    split
    · rw [List.map_cons, names_declarationsOf children]
      rfl
    · rfl

theorem names_declarationsOf : (tokens : List Token) →
    (declarationsOf tokens).map (·.name) = blockNamesOf tokens
  | [] => rfl
  | token :: rest => by
    rw [declarationsOf, blockNamesOf, List.map_append, names_declarations token, names_declarationsOf rest]

end

end Token

/-- A block that is declared once is compiled from its declaration. -/
theorem Declaration.last?_of_nodup {declarations : List Declaration} {declaration : Declaration}
    (hnodup : (declarations.map (·.name)).Nodup) (hmem : declaration ∈ declarations) :
    last? declaration.name declarations = some declaration := by
  induction declarations with
  | nil => exact absurd hmem List.not_mem_nil
  | cons first rest ih =>
    obtain ⟨hfirst, hrest⟩ := List.nodup_cons.mp hnodup
    rw [last?_cons]
    rcases List.mem_cons.mp hmem with rfl | hmem
    · have hnone : last? declaration.name rest = none :=
        last?_eq_none.mpr fun other hother hname => hfirst (List.mem_map.mpr ⟨other, hother, hname⟩)
      rw [hnone, if_pos rfl, Option.none_or]
    · rw [ih hrest hmem, Option.some_or]

section Compile

variable {scope : Scope}

/-- The declaration can be compiled where nothing is inherited. -/
def Declaration.Compiles (scope : Scope) (declaration : Declaration) : Prop :=
  ∃ body, declaration.compile scope none = .ok body

mutual

theorem exists_compileBlock : (token : Token) → (blocks : Blocks) →
    ((∃ blocks', compileBlock scope [] token blocks = .ok blocks') ↔
      ∀ declaration ∈ Token.declarations token, declaration.Compiles scope)
  | .literal text, blocks => ⟨fun _ => List.forall_mem_nil _, fun _ => ⟨blocks, rfl⟩⟩
  | .output tag, blocks => ⟨fun _ => List.forall_mem_nil _, fun _ => ⟨blocks, rfl⟩⟩
  | .logic tag children, blocks => by
    rw [compileBlock, Token.declarations]
    split
    · rw [List.forall_mem_cons]
      constructor
      · rintro ⟨blocks', h⟩
        obtain ⟨body, hbody, hrest⟩ := bind_eq_ok.mp h
        exact ⟨⟨body, hbody⟩, (exists_compileBlocks children _).mp ⟨blocks', hrest⟩⟩
      · rintro ⟨⟨body, hbody⟩, hrest⟩
        obtain ⟨blocks', hblocks⟩ :=
          (exists_compileBlocks children (Fields.put blocks tag.blockName body)).mpr hrest
        exact ⟨blocks', bind_eq_ok.mpr ⟨body, hbody, hblocks⟩⟩
    · exact ⟨fun _ => List.forall_mem_nil _, fun _ => ⟨blocks, rfl⟩⟩

/-- The blocks compile if all declarations do. -/
theorem exists_compileBlocks : (tokens : List Token) → (blocks : Blocks) →
    ((∃ blocks', compileBlocks scope [] tokens blocks = .ok blocks') ↔
      ∀ declaration ∈ Token.declarationsOf tokens, declaration.Compiles scope)
  | [], blocks => ⟨fun _ => List.forall_mem_nil _, fun _ => ⟨blocks, rfl⟩⟩
  | token :: rest, blocks => by
    rw [Token.declarationsOf, List.forall_mem_append]
    constructor
    · rintro ⟨blocks', h⟩
      obtain ⟨between, hfirst, hrest⟩ := bind_eq_ok.mp h
      exact ⟨(exists_compileBlock token blocks).mp ⟨between, hfirst⟩,
        (exists_compileBlocks rest between).mp ⟨blocks', hrest⟩⟩
    · rintro ⟨htoken, hrest⟩
      obtain ⟨between, hfirst⟩ := (exists_compileBlock token blocks).mpr htoken
      obtain ⟨blocks', hrest⟩ := (exists_compileBlocks rest between).mpr hrest
      exact ⟨blocks', bind_eq_ok.mpr ⟨between, hfirst, hrest⟩⟩

end

/-- No hyphens anywhere. -/
abbrev PlainAll (tokens : List Token) : Prop := ∀ part ∈ Token.partsOf tokens, part.Plain

/-- Without hyphens a token does not look at its neighbours. -/
theorem compileTokens_cons_of_plain {token : Token} {rest : List Token} {nodes : List Node}
    (hplain : PlainAll (token :: rest)) :
    compileTokens scope false false (token :: rest) = .ok nodes ↔
      ∃ first others, compileToken scope false false token = .ok first ∧
        compileTokens scope false false rest = .ok others ∧ nodes = first ++ others := by
  obtain ⟨htoken, hrest⟩ := List.forall_mem_append.mp hplain
  have hafter : token.stripsAfter = false := (htoken token (Token.mem_parts_self token)).stripsAfter
  rw [compileTokens_cons_eq_ok, Token.stripsEnd_of_plain hrest, hafter]

theorem compileTokens_append_of_plain {front back : List Token} {nodes : List Node}
    (hplain : PlainAll (front ++ back)) :
    compileTokens scope false false (front ++ back) = .ok nodes ↔
      ∃ first others, compileTokens scope false false front = .ok first ∧
        compileTokens scope false false back = .ok others ∧ nodes = first ++ others := by
  induction front generalizing nodes with
  | nil =>
    constructor
    · exact fun h => ⟨[], nodes, rfl, h, rfl⟩
    · rintro ⟨first, others, ⟨⟩, hothers, rfl⟩
      exact hothers
  | cons token front ih =>
    have hrest : PlainAll (front ++ back) := (List.forall_mem_append.mp hplain).2
    have hfront : PlainAll (token :: front) := fun part hpart => hplain part (by
      rw [Token.partsOf_append]
      exact List.mem_append_left _ hpart)
    rw [List.cons_append] at hplain ⊢
    rw [compileTokens_cons_of_plain hplain]
    constructor
    · rintro ⟨first, others, hfirst, hothers, rfl⟩
      obtain ⟨middle, last, hmiddle, hlast, rfl⟩ := (ih hrest).mp hothers
      have hwhole := (compileTokens_cons_of_plain hfront).mpr ⟨first, middle, hfirst, hmiddle, rfl⟩
      exact ⟨first ++ middle, last, hwhole, hlast, (List.append_assoc ..).symm⟩
    · rintro ⟨whole, last, hwhole, hlast, rfl⟩
      obtain ⟨first, middle, hfirst, hmiddle, rfl⟩ := (compileTokens_cons_of_plain hfront).mp hwhole
      exact ⟨first, middle ++ last, hfirst, (ih hrest).mpr ⟨middle, last, hmiddle, hlast, rfl⟩,
        List.append_assoc ..⟩

theorem compileTokens_singleton {token : Token} {nodes : List Node} :
    compileTokens scope false false [token] = .ok nodes ↔
      compileToken scope false false token = .ok nodes := by
  rw [compileTokens_cons_eq_ok]
  constructor
  · rintro ⟨first, others, hfirst, ⟨⟩, rfl⟩
    rw [List.append_nil]
    exact hfirst
  · exact fun h => ⟨nodes, [], h, rfl, (List.append_nil nodes).symm⟩

/-- What the blocks among the nodes stand for, blocks inside blocks included, put in their places. -/
inductive Unfolds (blocks : Blocks) : List Node → List Node → Prop
  | nil : Unfolds blocks [] []
  | block {name : String} {body inner rest rest' : List Node} (hbody : Fields.get? blocks name = some body)
      (hinner : Unfolds blocks body inner) (hrest : Unfolds blocks rest rest') :
      Unfolds blocks (.block name :: rest) (inner ++ rest')
  | same {node : Node} {rest rest' : List Node} (hnone : ∀ name, .block name ∉ node.parts)
      (hrest : Unfolds blocks rest rest') : Unfolds blocks (node :: rest) (node :: rest')

variable {blocks : Blocks}

theorem Unfolds.append {front front' back back' : List Node} (h : Unfolds blocks front front')
    (hback : Unfolds blocks back back') : Unfolds blocks (front ++ back) (front' ++ back') := by
  induction h with
  | nil => exact hback
  | block hbody hinner _ _ ih =>
    rw [List.append_assoc]
    exact .block hbody hinner ih
  | same hnone _ ih => exact .same hnone ih

/-- Where the blocks are opened none is left. -/
theorem Unfolds.not_block {list list' : List Node} (h : Unfolds blocks list list') (name : String) :
    .block name ∉ Node.partsOf list' := by
  induction h with
  | nil => exact List.not_mem_nil
  | block _ _ _ ihinner ihrest =>
    rw [Node.partsOf_append, List.mem_append]
    exact not_or.mpr ⟨ihinner, ihrest⟩
  | same hnone _ ih =>
    rw [Node.partsOf_cons, List.mem_append]
    exact not_or.mpr ⟨hnone name, ih⟩

theorem Unfolds.refl {nodes : List Node} (h : ∀ name, .block name ∉ Node.partsOf nodes) :
    Unfolds blocks nodes nodes := by
  induction nodes with
  | nil => exact .nil
  | cons node rest ih =>
    exact .same (fun name hname => h name (List.mem_append_left _ hname))
      (ih fun name hname => h name (List.mem_append_right _ hname))

/-- Only a block compiles to blocks. -/
theorem not_block_of_compileToken (hparent : scope.parent = none) {token : Token} {allowed : Bool}
    {nodes : List Node} (hplaced : Token.Placed allowed token) (hblock : token.isKind .block = false)
    (h : compileToken scope false false token = .ok nodes) (name : String) :
    .block name ∉ Node.partsOf nodes := by
  intro hname
  have hall : Token.PlacedAll allowed [token] := ⟨hplaced, True.intro⟩
  rcases madeOf_of_compileToken token h hname with ⟨part, hpart, hmakes⟩ | ⟨-, parent, hsome, -⟩
  · cases hmakes with
    | @block tag children hkind =>
      have hkind : (Token.logic tag children).isKind .block = true := decide_eq_true hkind
      have hmem := hall.mem_of_block (List.mem_append_left _ hpart) hkind
      rw [List.mem_singleton.mp hmem, hblock] at hkind
      exact absurd hkind Bool.false_ne_true
  · rw [hparent] at hsome
    cases hsome

/-- The blocks hold what the declarations compile to. -/
def Declares (scope : Scope) (blocks : Blocks) (declarations : List Declaration) : Prop :=
  ∀ declaration ∈ declarations, ∃ body,
    declaration.compile scope none = .ok body ∧ Fields.get? blocks declaration.name = some body

theorem Declaration.compile_of_plain (hparent : scope.parent = none) {tag : LogicTag} {children : List Token}
    (hplain : (Token.logic tag children).Plain) :
    Declaration.compile scope none ⟨tag, children⟩ = compileTokens scope false false children := by
  have hstrip : tag.strip = {} := hplain
  have hscope : { scope with parent := none } = scope := by
    rw [← hparent]
  unfold Declaration.compile
  rw [hscope, hstrip]

mutual

theorem unfolds_token (hparent : scope.parent = none) : (token : Token) → {allowed : Bool} →
    {nodes : List Node} → Token.Placed allowed token → (∀ part ∈ Token.parts token, part.Plain) →
    Declares scope blocks (Token.declarations token) → compileToken scope false false token = .ok nodes →
    ∃ opened, compileTokens scope false false (Token.unblocked token) = .ok opened ∧
      Unfolds blocks nodes opened
  | .literal text, allowed, nodes, hplaced, _, _, h =>
    ⟨nodes, compileTokens_singleton.mpr h, .refl (not_block_of_compileToken hparent hplaced rfl h)⟩
  | .output tag, allowed, nodes, hplaced, _, _, h =>
    ⟨nodes, compileTokens_singleton.mpr h, .refl (not_block_of_compileToken hparent hplaced rfl h)⟩
  | .logic tag children, allowed, nodes, hplaced, hplain, hdeclares, h => by
    by_cases hkind : tag.kind = .block
    · obtain ⟨hself, hinside⟩ := List.forall_mem_cons.mp hplain
      rw [Token.declarations, if_pos hkind] at hdeclares
      obtain ⟨⟨body, hbody, hget⟩, hdeclares⟩ := List.forall_mem_cons.mp hdeclares
      rw [Token.Placed, if_pos hkind] at hplaced
      rw [Declaration.compile_of_plain hparent hself] at hbody
      obtain ⟨opened, hopened, hunfolds⟩ :=
        unfolds_tokens hparent children hplaced.2 hinside hdeclares hbody
      have hnodes : nodes = [.block tag.blockName] := by
        simp only [compileToken, hkind] at h
        exact (Except.ok.inj h).symm
      rw [Token.unblocked, if_pos hkind, hnodes]
      refine ⟨opened, hopened, ?_⟩
      rw [← List.append_nil opened]
      exact .block hget hunfolds .nil
    · have hblock : (Token.logic tag children).isKind .block = false := decide_eq_false hkind
      rw [Token.unblocked_of_not_block hplaced hblock]
      have hnone := not_block_of_compileToken hparent hplaced hblock h
      exact ⟨nodes, compileTokens_singleton.mpr h, .refl hnone⟩

/-- Tokens with their blocks opened compile to the nodes with their blocks opened. -/
theorem unfolds_tokens (hparent : scope.parent = none) : (tokens : List Token) → {allowed : Bool} →
    {nodes : List Node} → Token.PlacedAll allowed tokens → PlainAll tokens →
    Declares scope blocks (Token.declarationsOf tokens) →
    compileTokens scope false false tokens = .ok nodes →
    ∃ opened, compileTokens scope false false (Token.unblockedAll tokens) = .ok opened ∧
      Unfolds blocks nodes opened
  | [], _, _, _, _, _, h => by
    cases h
    exact ⟨[], rfl, .nil⟩
  | token :: rest, allowed, nodes, hplaced, hplain, hdeclares, h => by
    obtain ⟨htoken, hrest⟩ := List.forall_mem_append.mp hplain
    obtain ⟨hfirstDeclares, hrestDeclares⟩ := List.forall_mem_append.mp hdeclares
    obtain ⟨first, others, hfirst, hothers, rfl⟩ := (compileTokens_cons_of_plain hplain).mp h
    obtain ⟨front, hfront, hunfolds⟩ := unfolds_token hparent token hplaced.1 htoken hfirstDeclares hfirst
    obtain ⟨back, hback, hunfolds'⟩ := unfolds_tokens hparent rest hplaced.2 hrest hrestDeclares hothers
    have hopened : PlainAll (Token.unblocked token ++ Token.unblockedAll rest) := fun part hpart =>
      hplain part (Token.partsOf_unblockedAll_subset (token :: rest) hplaced hpart)
    exact ⟨front ++ back, (compileTokens_append_of_plain hopened).mpr ⟨front, back, hfront, hback, rfl⟩,
      hunfolds.append hunfolds'⟩

end

mutual

theorem compiles_of_unblocked (hparent : scope.parent = none) : (token : Token) → {allowed : Bool} →
    {opened : List Node} → Token.Placed allowed token → (∀ part ∈ Token.parts token, part.Plain) →
    compileTokens scope false false (Token.unblocked token) = .ok opened →
    (∃ nodes, compileToken scope false false token = .ok nodes) ∧
      ∀ declaration ∈ Token.declarations token, declaration.Compiles scope
  | .literal text, _, opened, _, _, h =>
    ⟨⟨opened, compileTokens_singleton.mp h⟩, List.forall_mem_nil _⟩
  | .output tag, _, opened, _, _, h => ⟨⟨opened, compileTokens_singleton.mp h⟩, List.forall_mem_nil _⟩
  | .logic tag children, allowed, opened, hplaced, hplain, h => by
    by_cases hkind : tag.kind = .block
    · obtain ⟨hself, hinside⟩ := List.forall_mem_cons.mp hplain
      rw [Token.Placed, if_pos hkind] at hplaced
      rw [Token.unblocked, if_pos hkind] at h
      obtain ⟨⟨body, hbody⟩, hdeclared⟩ :=
        compiles_of_unblockedAll hparent children hplaced.2 hinside h
      rw [Token.declarations, if_pos hkind]
      refine ⟨⟨[.block tag.blockName], by simp only [compileToken, hkind]; rfl⟩,
        List.forall_mem_cons.mpr ⟨⟨body, ?_⟩, hdeclared⟩⟩
      rw [Declaration.compile_of_plain hparent hself]
      exact hbody
    · rw [Token.unblocked_of_not_block hplaced (decide_eq_false hkind)] at h
      rw [Token.declarations, if_neg hkind]
      exact ⟨⟨opened, compileTokens_singleton.mp h⟩, List.forall_mem_nil _⟩

theorem compiles_of_unblockedAll (hparent : scope.parent = none) : (tokens : List Token) →
    {allowed : Bool} → {opened : List Node} → Token.PlacedAll allowed tokens → PlainAll tokens →
    compileTokens scope false false (Token.unblockedAll tokens) = .ok opened →
    (∃ nodes, compileTokens scope false false tokens = .ok nodes) ∧
      ∀ declaration ∈ Token.declarationsOf tokens, declaration.Compiles scope
  | [], _, _, _, _, _ => ⟨⟨[], rfl⟩, List.forall_mem_nil _⟩
  | token :: rest, allowed, opened, hplaced, hplain, h => by
    obtain ⟨htoken, hrest⟩ := List.forall_mem_append.mp hplain
    have hopened : PlainAll (Token.unblocked token ++ Token.unblockedAll rest) := fun part hpart =>
      hplain part (Token.partsOf_unblockedAll_subset (token :: rest) hplaced hpart)
    obtain ⟨front, back, hfront, hback, -⟩ := (compileTokens_append_of_plain hopened).mp h
    obtain ⟨⟨first, hfirst⟩, hdeclared⟩ := compiles_of_unblocked hparent token hplaced.1 htoken hfront
    obtain ⟨⟨others, hothers⟩, hdeclared'⟩ :=
      compiles_of_unblockedAll hparent rest hplaced.2 hrest hback
    have hboth := (compileTokens_cons_of_plain hplain).mpr ⟨first, others, hfirst, hothers, rfl⟩
    exact ⟨⟨first ++ others, hboth⟩, List.forall_mem_append.mpr ⟨hdeclared, hdeclared'⟩⟩

end

variable {tokens : List Token} {program opened : Program}

theorem declares_of_ofTokens (hnodup : (Token.blockNamesOf tokens).Nodup)
    (h : Program.ofTokens scope tokens = .ok program) :
    Declares scope program.blocks (Token.declarationsOf tokens) := by
  intro declaration hmem
  obtain ⟨-, hblocks⟩ := Chain.ofTokens_eq_ok h
  have hlast : Declaration.last? declaration.name (Token.declarationsOf tokens) = some declaration :=
    Declaration.last?_of_nodup (Token.names_declarationsOf tokens ▸ hnodup) hmem
  have hoverride := override_of_compileBlocks declaration.name tokens hblocks
  unfold Blocks.override at hoverride
  rw [hlast, Fields.get?_nil] at hoverride
  dsimp only at hoverride
  obtain ⟨body, hbody⟩ :=
    (exists_compileBlocks tokens []).mp ⟨program.blocks, hblocks⟩ declaration hmem
  rw [hbody] at hoverride
  exact ⟨body, hbody, (Except.ok.inj hoverride).symm⟩

/-- Only declared names have blocks. -/
theorem get?_blocks_of_ofTokens (h : Program.ofTokens scope tokens = .ok program) {name : String}
    (hname : name ∉ Token.blockNamesOf tokens) : Fields.get? program.blocks name = none := by
  obtain ⟨-, hblocks⟩ := Chain.ofTokens_eq_ok h
  have hlast : Declaration.last? name (Token.declarationsOf tokens) = none := by
    refine Declaration.last?_eq_none.mpr fun declaration hmem hsame => hname ?_
    rw [← Token.names_declarationsOf]
    exact List.mem_map.mpr ⟨declaration, hmem, hsame⟩
  have hoverride := override_of_compileBlocks name tokens hblocks
  unfold Blocks.override at hoverride
  rw [hlast] at hoverride
  exact (Except.ok.inj hoverride).symm

/-- Every block of the program is what a declaration compiles to. -/
theorem exists_declaration_of_get? (h : Program.ofTokens scope tokens = .ok program) {name : String}
    {body : List Node} (hget : Fields.get? program.blocks name = some body) :
    ∃ declaration ∈ Token.declarationsOf tokens, declaration.compile scope none = .ok body := by
  obtain ⟨-, hblocks⟩ := Chain.ofTokens_eq_ok h
  have hoverride := override_of_compileBlocks name tokens hblocks
  unfold Blocks.override at hoverride
  rw [hget, Fields.get?_nil] at hoverride
  cases hlast : Declaration.last? name (Token.declarationsOf tokens) with
  | none =>
    rw [hlast] at hoverride
    cases hoverride
  | some declaration =>
    rw [hlast] at hoverride
    obtain ⟨compiled, hcompile, hbody⟩ := map_eq_ok.mp hoverride
    cases hbody
    exact ⟨declaration, (Declaration.mem_of_last? hlast).1, hcompile⟩

/-- Without blocks there is only the list of nodes. -/
theorem ofTokens_unblockedAll_iff : Program.ofTokens scope (Token.unblockedAll tokens) = .ok opened ↔
    compileTokens scope false false (Token.unblockedAll tokens) = .ok opened.nodes ∧
      opened.blocks = [] := by
  have hblocks : compileBlocks scope [] (Token.unblockedAll tokens) [] = .ok [] :=
    compileBlocks_of_no_block (fun _ => Token.not_block_of_mem_unblockedAll tokens) scope [] []
  constructor
  · intro h
    obtain ⟨hnodes, hopened⟩ := Chain.ofTokens_eq_ok h
    exact ⟨hnodes, Except.ok.inj (hopened.symm.trans hblocks)⟩
  · rintro ⟨hnodes, hopened⟩
    refine bind_eq_ok.mpr ⟨opened.nodes, hnodes, bind_eq_ok.mpr ⟨[], hblocks, ?_⟩⟩
    rw [← hopened]
    rfl

/-- Opening the blocks does not change whether a template compiles. -/
theorem exists_ofTokens_unblockedAll (hparent : scope.parent = none) (hplaced : Token.PlacedAll true tokens)
    (hplain : PlainAll tokens) (hnodup : (Token.blockNamesOf tokens).Nodup) :
    (∃ program, Program.ofTokens scope tokens = .ok program) ↔
      ∃ opened, Program.ofTokens scope (Token.unblockedAll tokens) = .ok opened := by
  constructor
  · rintro ⟨program, h⟩
    obtain ⟨hnodes, -⟩ := Chain.ofTokens_eq_ok h
    obtain ⟨nodes, hnodes, -⟩ :=
      unfolds_tokens hparent tokens hplaced hplain (declares_of_ofTokens hnodup h) hnodes
    exact ⟨⟨nodes, []⟩, ofTokens_unblockedAll_iff.mpr ⟨hnodes, rfl⟩⟩
  · rintro ⟨opened, h⟩
    obtain ⟨hnodes, -⟩ := ofTokens_unblockedAll_iff.mp h
    obtain ⟨⟨nodes, hnodes⟩, hdeclared⟩ :=
      compiles_of_unblockedAll hparent tokens hplaced hplain hnodes
    obtain ⟨blocks, hblocks⟩ := (exists_compileBlocks tokens []).mpr hdeclared
    refine ⟨⟨nodes, blocks⟩, bind_eq_ok.mpr ⟨nodes, hnodes, ?_⟩⟩
    exact bind_eq_ok.mpr ⟨blocks, hblocks, rfl⟩

theorem unfolds_of_ofTokens (hparent : scope.parent = none) (hplaced : Token.PlacedAll true tokens)
    (hplain : PlainAll tokens) (hnodup : (Token.blockNamesOf tokens).Nodup)
    (h : Program.ofTokens scope tokens = .ok program)
    (hopened : Program.ofTokens scope (Token.unblockedAll tokens) = .ok opened) :
    Unfolds program.blocks program.nodes opened.nodes := by
  obtain ⟨hnodes, -⟩ := Chain.ofTokens_eq_ok h
  obtain ⟨nodes, hsame, hunfolds⟩ :=
    unfolds_tokens hparent tokens hplaced hplain (declares_of_ofTokens hnodup h) hnodes
  rw [(ofTokens_unblockedAll_iff.mp hopened).1] at hsame
  cases hsame
  exact hunfolds

/-- What the program renders, in its nodes or in one of its blocks. -/
def Program.Holds (program : Program) (part : Node) : Prop :=
  part ∈ Node.partsOf program.nodes ∨
    ∃ name body, Fields.get? program.blocks name = some body ∧ part ∈ Node.partsOf body

/-- A body without blocks compiles to none, unless a parent tag in it stands for nodes. -/
theorem not_block_of_compileTokens {scope : Scope} {start finish : Bool} {tokens : List Token}
    {nodes : List Node} (hplaced : Token.PlacedAll false tokens)
    (hparent : scope.parent = none ∨ ∀ token ∈ Token.partsOf tokens, token.isKind .parent = false)
    (h : compileTokens scope start finish tokens = .ok nodes) (name : String) :
    .block name ∉ Node.partsOf nodes := by
  intro hname
  rcases madeOf_of_compileTokens tokens h hname with
    ⟨token, htoken, hmakes⟩ | ⟨⟨token, htoken, hkind⟩, parent, hsome, -⟩
  · cases hmakes with
    | @block tag children hkind =>
      have hnone := hplaced.not_block_of_mem tokens htoken
      simp [Token.isKind, hkind] at hnone
  · rcases hparent with hparent | hparent
    · rw [hparent] at hsome
      cases hsome
    · rw [hparent token (Token.mem_partsOf_of_bodyPartsOf tokens htoken)] at hkind
      cases hkind

/-- Nothing is imported without a tag that does so. -/
theorem not_importation_of_compileTokens {tokens : List Token} (hparent : scope.parent = none)
    (hnone : ∀ token ∈ Token.partsOf tokens, token.isKind .importation = false) {start finish : Bool}
    {nodes : List Node} (h : compileTokens scope start finish tokens = .ok nodes) (template : Expr)
    (space : String) : .importation template space ∉ Node.partsOf nodes := by
  intro himports
  rcases madeOf_of_compileTokens tokens h himports with ⟨token, htoken, hmakes⟩ | ⟨-, parent, hsome, -⟩
  · cases hmakes with
    | @importation tag children hkind =>
      have htoken := hnone _ (Token.mem_partsOf_of_bodyPartsOf tokens htoken)
      simp [Token.isKind, hkind] at htoken
  · rw [hparent] at hsome
    cases hsome

theorem not_block_of_define {tokens : List Token} (hparent : scope.parent = none)
    (hplaced : Token.PlacedAll true tokens) {start finish : Bool} {nodes : List Node}
    (h : compileTokens scope start finish tokens = .ok nodes) {name : String} {parameters : List String}
    {body : List Node} (hdefine : .define name parameters body ∈ Node.partsOf nodes) (block : String) :
    .block block ∉ Node.partsOf body := by
  rcases madeOf_of_compileTokens tokens h hdefine with ⟨token, htoken, hmakes⟩ | ⟨-, parent, hsome, -⟩
  · cases hmakes with
    | @define tag children hkind _ _ _ _ _ hbody =>
      have hinside : Token.PlacedAll false children :=
        hplaced.inside (by rw [hkind]; decide) tokens (Token.mem_partsOf_of_bodyPartsOf tokens htoken)
      exact not_block_of_compileTokens hinside (Or.inl hparent) hbody block
  · rw [hparent] at hsome
    cases hsome

/-- The macros that are written in a template without a layout hold no block. -/
theorem not_block_of_macro (hparent : scope.parent = none) (hplaced : Token.PlacedAll true tokens)
    (h : Program.ofTokens scope tokens = .ok program) {name : String} {parameters : List String}
    {body : List Node} (hdefine : program.Holds (.define name parameters body)) (block : String) :
    .block block ∉ Node.partsOf body := by
  rcases hdefine with hdefine | ⟨inside, inner, hget, hdefine⟩
  · exact not_block_of_define hparent hplaced (Chain.ofTokens_eq_ok h).1 hdefine block
  · obtain ⟨declaration, hmem, hcompile⟩ := exists_declaration_of_get? h hget
    have hinside := Token.placedAll_of_declared tokens hplaced hmem
    exact @not_block_of_define { scope with parent := none } _ rfl hinside _ _ _ hcompile _ _ _ hdefine block

/-- A template without an extends tag has none when its blocks are opened. -/
theorem Token.not_extends_unblockedAll (hplaced : PlacedAll true tokens)
    (h : ∀ part ∈ partsOf tokens, part.isKind .extends = false) :
    ∀ token ∈ unblockedAll tokens, token.isKind .extends = false := by
  intro token htoken
  exact h token (partsOf_unblockedAll_subset tokens hplaced
    (mem_partsOf.mpr ⟨token, htoken, mem_parts_self token⟩))

end Compile

end Stencil
