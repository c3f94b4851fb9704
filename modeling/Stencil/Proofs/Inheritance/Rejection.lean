import Stencil.Proofs.Node.Rejection

/-!
Why a template does not compile. Its nodes and its blocks are compiled from its tokens, so that one of these
is refused; or an extends tag is wrong where it stands, or names no layout.
-/
namespace Stencil

variable {scope : Scope}

namespace Token

mutual

theorem blamed_of_compileBlock (inherited : Blocks) {error : TemplateError} : (token : Token) →
    (blocks : Blocks) → compileBlock scope inherited token blocks = .error error →
      Blamed scope [token] error
  | .literal text, _, h => nomatch h
  | .output tag, _, h => nomatch h
  | .logic tag children, blocks, h => by
    have hinside : partsOf children ⊆ partsOf [.logic tag children] :=
      fun part hpart => List.mem_append_left _ (List.mem_cons_of_mem _ hpart)
    rw [compileBlock] at h
    split at h
    · rcases bind_eq_error.mp h with h | ⟨body, -, h⟩
      · obtain ⟨token, complaint, rfl, hrefused⟩ := blamed_of_compileTokens children h
        exact ⟨token, complaint, rfl, hrefused.of_parent.mono hinside⟩
      · exact (blamed_of_compileBlocks inherited children _ h).mono hinside
    · cases h

/-- Nor do blocks, whatever they inherit. -/
theorem blamed_of_compileBlocks (inherited : Blocks) {error : TemplateError} : (tokens : List Token) →
    (blocks : Blocks) → compileBlocks scope inherited tokens blocks = .error error →
      Blamed scope tokens error
  | [], _, h => nomatch h
  | token :: rest, blocks, h => by
    rw [compileBlocks] at h
    rcases bind_eq_error.mp h with h | ⟨between, -, h⟩
    · refine (blamed_of_compileBlock inherited token blocks h).mono fun part hpart => ?_
      exact List.mem_append_left _ (by simpa using hpart)
    · refine (blamed_of_compileBlocks inherited rest between h).mono fun part hpart => ?_
      exact List.mem_append_right _ hpart

end

theorem partsOf_subset_of_subset {tokens tokens' : List Token} (h : tokens ⊆ tokens') :
    partsOf tokens ⊆ partsOf tokens' := by
  intro part hpart
  obtain ⟨token, htoken, hpart⟩ := mem_partsOf.mp hpart
  exact mem_partsOf.mpr ⟨token, h htoken, hpart⟩

end Token

theorem Program.blamed_of_ofTokens {tokens : List Token} {error : TemplateError}
    (h : ofTokens scope tokens = .error error) : Token.Blamed scope tokens error := by
  rcases bind_eq_error.mp h with h | ⟨nodes, -, h⟩
  · exact Token.blamed_of_compileTokens tokens h
  · rcases bind_eq_error.mp h with h | ⟨_, _, ⟨⟩⟩
    exact Token.blamed_of_compileBlocks [] tokens [] h

theorem Program.blamed_of_check {tokens : List Token} {error : TemplateError}
    (h : check scope tokens = .error error) : Token.Blamed scope tokens error := by
  rcases bind_eq_error.mp h with h | ⟨blocks, -, h⟩
  · exact Token.blamed_of_compileBlocks [] tokens [] h
  · rcases bind_eq_error.mp h with h | ⟨_, _, ⟨⟩⟩
    refine (Token.blamed_of_compileTokens _ h).mono ?_
    exact Token.partsOf_subset_of_subset List.filter_sublist.subset

section Layouts

variable {tokens : List Token}

/-- One of the tokens of a source is rejected. -/
inductive Token.Rejected (scope : Scope) (tokens : List Token) : Token → Complaint → Prop
  | refused {token : Token} {complaint : Complaint} (h : Refused scope tokens token complaint) :
      Rejected scope tokens token complaint
  /-- It is an extends tag with more than blanks before it. -/
  | late {tag : LogicTag} {children front back : List Token}
      (hsplit : tokens.filter (!·.isBlankText) = front ++ .logic tag children :: back)
      (hkind : tag.kind = .extends) (hfront : front ≠ []) :
      Rejected scope tokens (.logic tag children) .extendsNotFirst
  /-- It is an extends tag that names no layout. -/
  | layout {tag : LogicTag} {children back : List Token} {complaint : Complaint}
      (hsplit : tokens.filter (!·.isBlankText) = .logic tag children :: back) (hkind : tag.kind = .extends)
      (h : layoutOf scope tag = .error (.located tag.line complaint)) (habout : complaint.aboutTag = true) :
      Rejected scope tokens (.logic tag children) complaint

theorem Token.firstExtends?_eq_some {tag : LogicTag} (h : firstExtends? tokens = some tag) :
    ∃ front children back, tokens = front ++ .logic tag children :: back ∧ tag.kind = .extends := by
  fun_induction firstExtends? tokens with
  | case1 => cases h
  | case2 tag children rest hkind =>
    cases h
    exact ⟨[], children, rest, rfl, hkind⟩
  | case3 other children rest _ ih =>
    obtain ⟨front, children', back, rfl, hkind⟩ := ih h
    exact ⟨.logic other children :: front, children', back, rfl, hkind⟩
  | case4 token rest _ ih =>
    obtain ⟨front, children, back, rfl, hkind⟩ := ih h
    exact ⟨token :: front, children, back, rfl, hkind⟩

theorem Token.blames_layoutOf (tag : LogicTag) : BlamesTagOn tag.line (layoutOf scope tag) := by
  unfold layoutOf
  split
  · rename_i word _
    split
    · exact .ok _
    · exact (scope.blames_expr tag.line word).map
  · rintro _ ⟨⟩
    exact ⟨_, rfl, rfl⟩

theorem Token.Rejected.mem {token : Token} {complaint : Complaint} (h : Rejected scope tokens token complaint) :
    token ∈ partsOf tokens := by
  have hplain {front back : List Token} (hsplit : tokens.filter (!·.isBlankText) = front ++ token :: back) :
      token ∈ partsOf tokens := by
    have hin : token ∈ tokens.filter (!·.isBlankText) := by simp [hsplit]
    exact mem_partsOf.mpr ⟨token, (List.mem_filter.mp hin).1, mem_parts_self token⟩
  cases h with
  | refused h => exact h.mem
  | late hsplit => exact hplain hsplit
  | layout hsplit => exact @hplain [] _ hsplit

theorem Token.Rejected.aboutTag {token : Token} {complaint : Complaint}
    (h : Rejected scope tokens token complaint) : complaint.aboutTag = true := by
  cases h with
  | refused h =>
    cases h with
    | alone _ _ habout => exact habout
    | afterElse | conditional | second => rfl
  | late => rfl
  | layout _ _ _ habout => exact habout

/-- An error about one of the tokens. -/
def Token.Rejects (scope : Scope) (tokens : List Token) (error : TemplateError) : Prop :=
  ∃ token complaint, error = .located token.line complaint ∧ Rejected scope tokens token complaint

theorem Token.Blamed.rejects {error : TemplateError} (h : Blamed scope tokens error) :
    Rejects scope tokens error := by
  obtain ⟨token, complaint, rfl, hrefused⟩ := h
  exact ⟨token, complaint, rfl, .refused hrefused⟩

/-- Texts are never rejected. -/
theorem Token.not_rejected_literal (text : String) (complaint : Complaint) :
    ¬ Rejected scope tokens (.literal text) complaint := by
  rintro (⟨-, h, -⟩ | _)
  cases h

/-- What the tokens begin with, and what follows it, if not all of them are blank. -/
theorem Token.leadingExtends?_cons (first : Token) (rest : List Token) :
    ∃ leading, leadingExtends? (first :: rest) = (leading, rest) ∧
      ∀ tag, leading = some tag → tag.kind = .extends ∧ ∃ children, first = .logic tag children := by
  cases first with
  | literal | output => exact ⟨none, rfl, nofun⟩
  | logic tag children =>
    refine ⟨if tag.kind = .extends then some tag else none, rfl, ?_⟩
    intro other hother
    split at hother
    · rename_i hkind
      cases hother
      exact ⟨hkind, children, rfl⟩
    · cases hother

/-- An error about the layout of a source is about an extends tag. -/
theorem Token.rejects_of_layout? {error : TemplateError} (h : layout? scope tokens = .error error) :
    Rejects scope tokens error := by
  unfold layout? at h
  cases hplain : tokens.filter (!·.isBlankText) with
  | nil =>
    rw [hplain] at h
    cases h
  | cons first rest =>
    obtain ⟨leading, hleading, hkind⟩ := leadingExtends?_cons first rest
    rw [hplain, hleading] at h
    dsimp only at h
    split at h
    · rename_i misplaced hmisplaced
      cases h
      obtain ⟨front, children, back, rfl, hextends⟩ := firstExtends?_eq_some hmisplaced
      have hsplit : tokens.filter (!·.isBlankText) =
          (first :: front) ++ .logic misplaced children :: back := hplain
      exact ⟨.logic misplaced children, _, rfl, .late hsplit hextends nofun⟩
    · split at h
      · cases h
      · rename_i tag
        obtain ⟨hextends, children, rfl⟩ := hkind tag rfl
        have hlayout : layoutOf scope tag = .error error := by
          cases hlayout : layoutOf scope tag with
          | ok layout =>
            rw [hlayout] at h
            cases h
          | error other =>
            rw [hlayout] at h
            cases h
            rfl
        obtain ⟨complaint, rfl, habout⟩ := blames_layoutOf tag error hlayout
        exact ⟨.logic tag children, complaint, rfl, .layout hplain hextends hlayout habout⟩

end Layouts

end Stencil
