import Stencil.Proofs.Inheritance.Declarations

/-!
Where alternatives stand. In the tokens of a source an alternative is directly in a condition or in a loop,
of which it starts a branch, and never at the top level or inside a tag of another kind.
-/
namespace Stencil

/-- Whether a tag of the kind has branches. -/
def Tag.hasBranches (kind : Tag) : Bool := kind = .condition || kind = .loop

namespace Token

mutual

/-- Alternatives in the token stand at its own place, if they may, or directly in a tag with branches. -/
def Divided (allowed : Bool) : Token → Prop
  | .logic tag children =>
    (tag.kind = .alternative → allowed = true) ∧ DividedAll tag.kind.hasBranches children
  | _ => True

def DividedAll (allowed : Bool) : List Token → Prop
  | [] => True
  | token :: rest => Divided allowed token ∧ DividedAll allowed rest

end

theorem dividedAll_iff {allowed : Bool} {tokens : List Token} :
    DividedAll allowed tokens ↔ ∀ token ∈ tokens, Divided allowed token := by
  induction tokens with
  | nil => simp [DividedAll]
  | cons token rest ih => simp [DividedAll, ih]

theorem DividedAll.subset {allowed : Bool} {tokens tokens' : List Token} (h : DividedAll allowed tokens)
    (hsubset : tokens' ⊆ tokens) : DividedAll allowed tokens' :=
  dividedAll_iff.mpr fun token htoken => dividedAll_iff.mp h token (hsubset htoken)

/-- In the bodies of declared blocks no alternatives stand at the top. -/
theorem dividedAll_of_declared {allowed : Bool} {declaration : Declaration} (tokens : List Token)
    (h : DividedAll allowed tokens) (hmem : declaration ∈ declarationsOf tokens) :
    DividedAll false declaration.body := by
  refine dividedAll_iff.mpr (forall_body_of_declaredIn ?_ tokens (dividedAll_iff.mp h) hmem)
  intro allowed tag children htoken hkind
  have hinside := dividedAll_iff.mp htoken.2
  rwa [hkind] at hinside

end Token

namespace TokenTree

/-- Whether the innermost one of these open tags has branches. -/
def allowsAlternative : List OpenTag → Bool
  | [] => false
  | block :: _ => block.tag.kind.hasBranches

/-- In the open tags and in what stands before them alternatives are where they may be. -/
def DividedBefore : List OpenTag → Prop
  | [] => True
  | block :: opened => (block.tag.kind = .alternative → allowsAlternative opened = true) ∧
      Token.DividedAll (allowsAlternative opened) block.before ∧ DividedBefore opened

structure Divided (tree : TokenTree) : Prop where
  before : DividedBefore tree.opened
  current : Token.DividedAll (allowsAlternative tree.opened) tree.current

variable {tags : Tags} {tree tree' : TokenTree}

theorem takesAlternative_eq (tree : TokenTree) : tree.takesAlternative = allowsAlternative tree.opened := by
  unfold takesAlternative allowsAlternative Tag.hasBranches
  cases tree.opened <;> rfl

theorem allowsAlternative_of_checkPlace {name : String} {words : List String}
    (h : tree.checkPlace name .alternative words = .ok ()) : allowsAlternative tree.opened = true := by
  simp only [checkPlace, takesAlternative_eq] at h
  split at h
  · assumption
  · cases h

theorem Divided.add {token : Token} (h : tree.Divided)
    (htoken : Token.Divided (allowsAlternative tree.opened) token) : (tree.add token).Divided :=
  ⟨h.before, htoken, h.current⟩

theorem Divided.grows (hgrows : Grows tags tree tree') (h : tree.Divided) : tree'.Divided := by
  cases hgrows with
  | text text => exact h.add True.intro
  | output hread => exact h.add True.intro
  | leaf hentry hplace =>
    refine h.add ⟨fun hkind => ?_, True.intro⟩
    rw [hkind] at hplace
    exact allowsAlternative_of_checkPlace hplace
  | raw content line body closer => exact h.add ⟨nofun, True.intro, True.intro⟩
  | opens hentry hplace hescape =>
    refine ⟨⟨fun hkind => ?_, h.current, h.before⟩, True.intro⟩
    rw [hkind] at hplace
    exact allowsAlternative_of_checkPlace hplace
  | closes hopened strip =>
    obtain ⟨hopen, hcurrent⟩ := h
    rw [hopened] at hopen hcurrent
    obtain ⟨hallowed, hbefore, habove⟩ := hopen
    exact ⟨habove, ⟨hallowed, hcurrent.subset (List.reverse_subset.mpr (List.Subset.refl _))⟩, hbefore⟩

end TokenTree

/-- The alternatives of a source stand directly in conditions and loops. -/
theorem Token.ofSource_divided {tags : Tags} {policy : Option EscapeKind} {source : String}
    {tokens : List Token} (h : ofSource tags policy source = .ok tokens) : DividedAll false tokens := by
  obtain ⟨tree, hdivided, hopened, rfl⟩ :=
    ofSource_keeps (I := TokenTree.Divided) ⟨True.intro, True.intro⟩
      (fun _ _ hgrows htree => htree.grows hgrows) h
  have hcurrent := hdivided.current
  rw [hopened] at hcurrent
  exact hcurrent.subset (List.reverse_subset.mpr (List.Subset.refl _))

end Stencil
