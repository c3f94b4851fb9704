import Stencil.Proofs.Token.Growth
import Stencil.Proofs.Token.Parts

/-!
Where blocks stand. In the tokens of a source a block is at the top level or directly in another block,
never inside a tag of another kind.
-/
namespace Stencil

namespace Token

mutual

/-- Blocks in the token stand at its own place, if they may, or directly in one another. -/
def Placed (allowed : Bool) : Token → Prop
  | .logic tag children =>
    if tag.kind = .block then allowed = true ∧ PlacedAll true children
    else PlacedAll false children
  | _ => True

def PlacedAll (allowed : Bool) : List Token → Prop
  | [] => True
  | token :: rest => Placed allowed token ∧ PlacedAll allowed rest

end

theorem placedAll_iff {allowed : Bool} {tokens : List Token} :
    PlacedAll allowed tokens ↔ ∀ token ∈ tokens, Placed allowed token := by
  induction tokens with
  | nil => simp [PlacedAll]
  | cons token rest ih => simp [PlacedAll, ih]

theorem PlacedAll.reverse {allowed : Bool} {tokens : List Token} (h : PlacedAll allowed tokens) :
    PlacedAll allowed tokens.reverse :=
  placedAll_iff.mpr fun token htoken => placedAll_iff.mp h token (List.mem_reverse.mp htoken)

mutual

theorem Placed.not_block_of_mem {tags : Tags} {part : Token} : (token : Token) →
    Placed false token → part ∈ bodyParts tags token → part.isKind .block = false
  | .literal text, _, hpart => by
    simp only [bodyParts, List.mem_singleton] at hpart
    exact hpart ▸ rfl
  | .output tag, _, hpart => by
    simp only [bodyParts, List.mem_singleton] at hpart
    exact hpart ▸ rfl
  | .logic tag children, h, hpart => by
    simp only [bodyParts, List.mem_cons] at hpart
    rw [Placed] at h
    split at h
    · exact absurd h.1 (by decide)
    · rename_i hkind
      rcases hpart with rfl | hpart
      · simpa [isKind] using hkind
      · split at hpart
        · exact PlacedAll.not_block_of_mem children h hpart
        · exact (List.not_mem_nil hpart).elim

/-- Where no block may stand there is none in a body. -/
theorem PlacedAll.not_block_of_mem {tags : Tags} {part : Token} : (tokens : List Token) →
    PlacedAll false tokens → part ∈ bodyPartsOf tags tokens → part.isKind .block = false
  | [], _, hpart => (List.not_mem_nil hpart).elim
  | token :: rest, h, hpart => by
    rw [bodyPartsOf_cons, List.mem_append] at hpart
    rcases hpart with hpart | hpart
    · exact Placed.not_block_of_mem token h.1 hpart
    · exact PlacedAll.not_block_of_mem rest h.2 hpart

end

mutual

theorem Placed.inside {tag : LogicTag} {children : List Token} (hkind : tag.kind ≠ .block) :
    (token : Token) → {allowed : Bool} → Placed allowed token → .logic tag children ∈ parts token →
      PlacedAll false children
  | .literal text, _, _, hmem => by simp [parts] at hmem
  | .output other, _, _, hmem => by simp [parts] at hmem
  | .logic other inner, _, h, hmem => by
    rw [Placed] at h
    simp only [parts, List.mem_cons] at hmem
    rcases hmem with hself | hmem
    · cases hself
      rwa [if_neg hkind] at h
    · split at h
      · exact PlacedAll.inside hkind inner h.2 hmem
      · exact PlacedAll.inside hkind inner h hmem

/-- Inside a tag of another kind no block may stand. -/
theorem PlacedAll.inside {tag : LogicTag} {children : List Token} (hkind : tag.kind ≠ .block) :
    (tokens : List Token) → {allowed : Bool} → PlacedAll allowed tokens →
      .logic tag children ∈ partsOf tokens → PlacedAll false children
  | [], _, _, hmem => (List.not_mem_nil hmem).elim
  | token :: rest, _, h, hmem => by
    rcases List.mem_append.mp hmem with hmem | hmem
    · exact Placed.inside hkind token h.1 hmem
    · exact PlacedAll.inside hkind rest h.2 hmem

end

/-- Of the parts of a body the blocks are those at its own level. -/
theorem PlacedAll.mem_of_block {tags : Tags} {allowed : Bool} {part : Token} {tokens : List Token}
    (h : PlacedAll allowed tokens) (hpart : part ∈ bodyPartsOf tags tokens)
    (hblock : part.isKind .block = true) : part ∈ tokens := by
  induction tokens with
  | nil => exact (List.not_mem_nil hpart).elim
  | cons token rest ih =>
    rw [bodyPartsOf_cons, List.mem_append] at hpart
    rcases hpart with hpart | hpart
    · have hself : part = token := by
        cases token with
        | literal text => simpa [bodyParts] using hpart
        | output tag => simpa [bodyParts] using hpart
        | logic tag children =>
          simp only [bodyParts, List.mem_cons] at hpart
          rcases hpart with rfl | hpart
          · rfl
          · have hplaced := h.1
            rw [Placed] at hplaced
            split at hplaced
            · rename_i hkind
              simp [LogicTag.hasBody, hkind] at hpart
            · split at hpart
              · have hnone := PlacedAll.not_block_of_mem children hplaced hpart
                simp [hblock] at hnone
              · exact (List.not_mem_nil hpart).elim
      exact hself ▸ List.mem_cons_self
    · exact List.mem_cons_of_mem _ (ih h.2 hpart)

end Token

namespace TokenTree

/-- Whether a block may stand inside these open tags. -/
def allowsBlock (opened : List OpenTag) : Bool := opened.all (·.tag.kind == .block)

/-- The open tags and what stands before them are placed. -/
def Holds : List OpenTag → Prop
  | [] => True
  | block :: opened => (block.tag.kind = .block → allowsBlock opened = true) ∧
      Token.PlacedAll (allowsBlock opened) block.before ∧ Holds opened

def Placed (tree : TokenTree) : Prop :=
  Holds tree.opened ∧ Token.PlacedAll (allowsBlock tree.opened) tree.current

theorem allowsBlock_of_checkPlace {tree : TokenTree} {name : String} {words : List String}
    (h : tree.checkPlace name .block words = .ok ()) : allowsBlock tree.opened = true := by
  simp only [checkPlace, checkBlock] at h
  split at h
  · cases h
  · rename_i hnone
    simpa [allowsBlock, List.find?_eq_none] using hnone

theorem Placed.add {tree : TokenTree} {token : Token} (h : Placed tree)
    (htoken : Token.Placed (allowsBlock tree.opened) token) : Placed (tree.add token) :=
  ⟨h.1, htoken, h.2⟩

theorem Placed.grows {tags : Tags} {tree tree' : TokenTree} (hgrows : Grows tags tree tree')
    (h : Placed tree) : Placed tree' := by
  cases hgrows with
  | text text => exact h.add True.intro
  | output hread => exact h.add True.intro
  | @leaf tag hentry hplace =>
    refine h.add ?_
    rw [Token.Placed]
    split
    · rename_i hkind
      rw [hkind] at hplace
      exact ⟨allowsBlock_of_checkPlace hplace, True.intro⟩
    · exact True.intro
  | raw content line body closer => exact h.add ⟨True.intro, True.intro⟩
  | @opens tag escape hentry hplace hescape =>
    refine ⟨⟨fun hkind => ?_, h.2, h.1⟩, True.intro⟩
    rw [hkind] at hplace
    exact allowsBlock_of_checkPlace hplace
  | @closes block opened hopened strip =>
    obtain ⟨hholds, hcurrent⟩ := h
    rw [hopened] at hholds hcurrent
    obtain ⟨hallowed, hbefore, habove⟩ := hholds
    refine ⟨habove, ?_, hbefore⟩
    rw [Token.Placed]
    simp only [allowsBlock, List.all_cons] at hcurrent
    split
    · rename_i hkind
      refine ⟨hallowed hkind, ?_⟩
      have hinside : (opened.all fun block => block.tag.kind == .block) = true := hallowed hkind
      rw [hinside, hkind] at hcurrent
      exact hcurrent.reverse
    · rename_i hkind
      have hnot : (block.tag.kind == Tag.block) = false := by simpa using hkind
      rw [hnot] at hcurrent
      exact hcurrent.reverse

end TokenTree

/-- The blocks of a source stand at the top level or directly in blocks. -/
theorem Token.ofSource_placed {tags : Tags} {policy : Option EscapeKind} {source : String}
    {tokens : List Token} (h : ofSource tags policy source = .ok tokens) :
    PlacedAll true tokens := by
  obtain ⟨tree, hplaced, hopened, rfl⟩ :=
    ofSource_keeps (I := TokenTree.Placed) ⟨True.intro, True.intro⟩
      (fun _ _ hgrows htree => htree.grows hgrows) h
  have hcurrent := hplaced.2
  rw [hopened] at hcurrent
  exact hcurrent.reverse

end Stencil
