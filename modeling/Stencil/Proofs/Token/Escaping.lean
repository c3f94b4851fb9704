import Stencil.Filter.Basic
import Stencil.Proofs.Token.Growth
import Stencil.Proofs.Token.Parts

/-!
The escaping of output tags. Every output tag carries the escaping of the innermost autoescape tag around
it, or that of the source, unless it has a safe filter.
-/
namespace Stencil

/-- The escaping inside a tag, given that around it. -/
def LogicTag.escapeInside (tag : LogicTag) (around : Option EscapeKind) : Option EscapeKind :=
  if tag.kind = .autoescape then
    match TokenTree.escapeOf tag.words with
    | .ok escape => escape
    | .error _ => around
  else around

/-- Whether a filter takes the place of the escaping. -/
def OutputTag.isSafe (tag : OutputTag) : Bool := tag.filters.any (Filter.isSafe ·.name)

namespace Token

mutual

/-- The output tags in a token carry the escaping of their place. -/
def Escaped (around : Option EscapeKind) : Token → Prop
  | .literal _ => True
  | .output tag => tag.escape = if tag.isSafe then none else around
  | .logic tag children => EscapedAll (tag.escapeInside around) children

def EscapedAll (around : Option EscapeKind) : List Token → Prop
  | [] => True
  | token :: rest => Escaped around token ∧ EscapedAll around rest

end

theorem escapedAll_iff {around : Option EscapeKind} {tokens : List Token} :
    EscapedAll around tokens ↔ ∀ token ∈ tokens, Escaped around token := by
  induction tokens with
  | nil => simp [EscapedAll]
  | cons token rest ih => simp [EscapedAll, ih]

theorem EscapedAll.reverse {around : Option EscapeKind} {tokens : List Token}
    (h : EscapedAll around tokens) : EscapedAll around tokens.reverse :=
  escapedAll_iff.mpr fun token htoken => escapedAll_iff.mp h token (List.mem_reverse.mp htoken)

end Token

namespace TokenTree

/-- The open tags lead from the escaping of the source to the one at the current place, and what the
autoescape tags among them have saved is what stands around them. -/
def LeadsTo (policy : Option EscapeKind) :
    List OpenTag → List (Option EscapeKind) → Option EscapeKind → Prop
  | [], saved, escape => saved = [] ∧ escape = policy
  | block :: opened, saved, escape => ∃ around outer, saved = save block.tag.kind around outer ∧
      escape = block.tag.escapeInside around ∧ Token.EscapedAll around block.before ∧
      LeadsTo policy opened outer around

/-- All tokens so far carry the escaping of their place. -/
def Escaped (policy : Option EscapeKind) (tree : TokenTree) : Prop :=
  LeadsTo policy tree.opened tree.saved tree.escape ∧ Token.EscapedAll tree.escape tree.current

theorem escape_of_outputTag {escape : Option EscapeKind} {content : List Char} {line : Nat}
    {tag : OutputTag} (h : outputTag escape content line = .ok tag) :
    tag.escape = if tag.isSafe then none else escape := by
  unfold outputTag at h
  dsimp only at h
  split at h
  · cases h
  · obtain ⟨_, -, hparts⟩ := bind_eq_ok.mp h
    split at hparts
    · cases hparts
    · split at hparts
      · cases hparts
      · obtain ⟨filters, -, htag⟩ := bind_eq_ok.mp hparts
        obtain rfl := Except.ok.inj htag
        rfl

theorem Escaped.add {policy : Option EscapeKind} {tree : TokenTree} {token : Token}
    (h : Escaped policy tree) (htoken : Token.Escaped tree.escape token) :
    Escaped policy (tree.add token) := ⟨h.1, htoken, h.2⟩

theorem Escaped.grows {tags : Tags} {policy : Option EscapeKind} {tree tree' : TokenTree}
    (hgrows : Grows tags tree tree') (h : Escaped policy tree) : Escaped policy tree' := by
  cases hgrows with
  | text text => exact h.add True.intro
  | output hread => exact h.add (escape_of_outputTag hread)
  | leaf hentry hplace => exact h.add True.intro
  | raw content line body closer => exact h.add ⟨True.intro, True.intro⟩
  | opens hentry hplace hescape =>
    refine ⟨⟨_, _, rfl, ?_, h.2, h.1⟩, True.intro⟩
    unfold LogicTag.escapeInside
    split at hescape
    · rename_i hkind
      rw [if_pos hkind, hescape]
    · rename_i hkind
      rw [if_neg hkind]
      exact (Except.ok.inj hescape).symm
  | closes hopened strip =>
    obtain ⟨hleads, hcurrent⟩ := h
    rw [hopened] at hleads
    obtain ⟨around, outer, hsaved, hescape, hbefore, habove⟩ := hleads
    rw [hescape] at hcurrent
    unfold Escaped
    dsimp only
    rw [hsaved, restore_save fun hkind => hescape.trans (if_neg hkind)]
    exact ⟨habove, hcurrent.reverse, hbefore⟩

end TokenTree

namespace Token

/-- Every output tag of a source carries the escaping of its place. -/
theorem ofSource_escaped {tags : Tags} {policy : Option EscapeKind} {source : String}
    {tokens : List Token} (h : ofSource tags policy source = .ok tokens) :
    EscapedAll policy tokens := by
  obtain ⟨tree, hescaped, hopened, rfl⟩ :=
    ofSource_keeps (I := TokenTree.Escaped policy) ⟨⟨rfl, rfl⟩, True.intro⟩
      (fun _ _ hgrows htree => htree.grows hgrows) h
  have hleads := hescaped.1
  rw [hopened] at hleads
  exact (hleads.2 ▸ hescaped.2).reverse

mutual

theorem Escaped.output_of_mem_parts {around : Option EscapeKind} {tag : OutputTag} :
    (token : Token) → Escaped around token →
      (∀ part ∈ parts token, part.isKind .autoescape = false) → .output tag ∈ parts token →
      tag.escape = if tag.isSafe then none else around
  | .literal text, _, _, hmem => by simp [parts] at hmem
  | .output other, h, _, hmem => by
    simp only [parts, List.mem_singleton, Token.output.injEq] at hmem
    exact hmem ▸ h
  | .logic other children, h, hparts, hmem => by
    simp only [parts, List.mem_cons, forall_eq_or_imp, reduceCtorEq, false_or] at hparts hmem
    have hkind : other.kind ≠ .autoescape := by simpa [isKind] using hparts.1
    rw [Escaped, LogicTag.escapeInside, if_neg hkind] at h
    exact EscapedAll.output_of_mem_partsOf children h hparts.2 hmem

/-- Without autoescape tags all output tags carry the escaping of the source. -/
theorem EscapedAll.output_of_mem_partsOf {around : Option EscapeKind} {tag : OutputTag} :
    (tokens : List Token) → EscapedAll around tokens →
      (∀ part ∈ partsOf tokens, part.isKind .autoescape = false) → .output tag ∈ partsOf tokens →
      tag.escape = if tag.isSafe then none else around
  | [], _, _, hmem => by simp at hmem
  | token :: rest, h, hparts, hmem => by
    simp only [partsOf_cons, List.mem_append, or_imp, forall_and] at hparts hmem
    rcases hmem with hmem | hmem
    · exact Escaped.output_of_mem_parts token h.1 hparts.1 hmem
    · exact EscapedAll.output_of_mem_partsOf rest h.2 hparts.2 hmem

end

end Token

end Stencil
