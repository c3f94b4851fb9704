import Stencil.Escape
import Stencil.Node.Compile

/-!
Texts that are safe in HTML: no markup characters, and no ampersand but at the start of an entity. Safe
texts can be joined and stripped of blanks, and escaping makes every text safe.
-/
namespace Stencil

open EscapeKind

/-- The characters that have no place in a safe text; an ampersand has one in an entity. -/
def markupChars : List Char := ['<', '>', '"', '\'']

/-- No markup character, and every ampersand begins one of the five entities. -/
def IsHtmlSafe : List Char → Prop
  | [] => True
  | c :: rest => c ∉ markupChars ∧ (c = '&' → opensEntity rest = true) ∧ IsHtmlSafe rest

instance IsHtmlSafe.decidable : (text : List Char) → Decidable (IsHtmlSafe text)
  | [] => isTrue True.intro
  | c :: rest =>
    have := IsHtmlSafe.decidable rest
    inferInstanceAs (Decidable (c ∉ markupChars ∧ (c = '&' → opensEntity rest = true) ∧
      IsHtmlSafe rest))

theorem opensEntity_iff {rest : List Char} :
    opensEntity rest = true ↔ ∃ entity ∈ entities, entity <+: rest := by
  simp [opensEntity]

theorem opensEntity_append {a : List Char} (h : opensEntity a = true) (b : List Char) :
    opensEntity (a ++ b) = true := by
  obtain ⟨entity, hmem, hprefix⟩ := opensEntity_iff.mp h
  exact opensEntity_iff.mpr ⟨entity, hmem, hprefix.trans (List.prefix_append a b)⟩

/-- Escaping leaves what follows the ampersand of an entity alone. -/
theorem htmlForm_of_mem_entity {entity : List Char} (hentity : entity ∈ entities) {c : Char}
    (hc : c ∈ entity) (rest : List Char) : htmlForm c rest = [c] := by
  have hplain : (entities.flatten.all fun c => c ∉ '&' :: markupChars) = true := by decide
  have h := of_decide_eq_true
    (List.all_eq_true.mp hplain c (List.mem_flatten.mpr ⟨entity, hentity, hc⟩))
  simp only [markupChars, List.mem_cons, List.not_mem_nil, or_false, not_or] at h
  simp [htmlForm, h]

theorem not_isBlank_of_mem_entity {entity : List Char} (hentity : entity ∈ entities) {c : Char}
    (hc : c ∈ entity) : Text.isBlank c = false := by
  have hplain : (entities.flatten.all fun c => Text.isBlank c = false) = true := by decide
  exact of_decide_eq_true
    (List.all_eq_true.mp hplain c (List.mem_flatten.mpr ⟨entity, hentity, hc⟩))

theorem escapeHtml_append {front : List Char}
    (hfront : ∀ c ∈ front, ∀ rest, htmlForm c rest = [c]) (rest : List Char) :
    escapeHtml (front ++ rest) = front ++ escapeHtml rest := by
  induction front with
  | nil => rfl
  | cons c front ih =>
    have htail := ih fun d hd => hfront d (List.mem_cons_of_mem _ hd)
    simp only [List.cons_append, escapeHtml, htail, hfront c List.mem_cons_self]
    rfl

theorem opensEntity_escapeHtml {rest : List Char} (h : opensEntity rest = true) :
    opensEntity (escapeHtml rest) = true := by
  obtain ⟨entity, hmem, after, rfl⟩ := opensEntity_iff.mp h
  rw [escapeHtml_append fun c hc => htmlForm_of_mem_entity hmem hc]
  exact opensEntity_iff.mpr ⟨entity, hmem, List.prefix_append _ _⟩

namespace IsHtmlSafe

theorem append {a b : List Char} (ha : IsHtmlSafe a) (hb : IsHtmlSafe b) : IsHtmlSafe (a ++ b) := by
  induction a with
  | nil => exact hb
  | cons c rest ih =>
    obtain ⟨hc, hentity, hrest⟩ := ha
    exact ⟨hc, fun hamp => opensEntity_append (hentity hamp) b, ih hrest⟩

theorem of_append_right {a b : List Char} (h : IsHtmlSafe (a ++ b)) : IsHtmlSafe b := by
  induction a with
  | nil => exact h
  | cons c rest ih => exact ih h.2.2

/-- An entity does not end in blanks, so that taking them away leaves it as it is. -/
theorem of_append_left {a b : List Char} (h : IsHtmlSafe (a ++ b))
    (hb : ∀ c ∈ b, Text.isBlank c = true) : IsHtmlSafe a := by
  induction a with
  | nil => exact True.intro
  | cons c rest ih =>
    obtain ⟨hc, hopens, hrest⟩ := h
    refine ⟨hc, fun hamp => ?_, ih hrest⟩
    obtain ⟨entity, hmem, hprefix⟩ := opensEntity_iff.mp (hopens hamp)
    refine opensEntity_iff.mpr ⟨entity, hmem, ?_⟩
    by_cases hlength : entity.length ≤ rest.length
    · exact List.prefix_of_prefix_length_le hprefix (List.prefix_append rest b) hlength
    · -- the entity would reach into the blanks
      have hlonger : rest.length ≤ entity.length := by omega
      obtain ⟨tail, rfl⟩ :=
        List.prefix_of_prefix_length_le (List.prefix_append rest b) hprefix hlonger
      have htail : tail <+: b := (List.prefix_append_right_inj rest).mp hprefix
      cases tail with
      | nil => simp at hlength
      | cons d tail =>
        have hblank := hb d (htail.subset List.mem_cons_self)
        have hplain := not_isBlank_of_mem_entity hmem (c := d) (by simp)
        simp [hblank] at hplain

theorem trimStart {text : List Char} (h : IsHtmlSafe text) : IsHtmlSafe (Text.trimStart text) := by
  rw [← List.takeWhile_append_dropWhile (p := Text.isBlank) (l := text)] at h
  exact h.of_append_right

theorem trimEnd {text : List Char} (h : IsHtmlSafe text) : IsHtmlSafe (Text.trimEnd text) := by
  have hsplit : text = Text.trimEnd text ++ (text.reverse.takeWhile Text.isBlank).reverse := by
    rw [Text.trimEnd, ← List.reverse_append, List.takeWhile_append_dropWhile, List.reverse_reverse]
  rw [hsplit] at h
  refine h.of_append_left fun c hc => ?_
  exact List.all_eq_true.mp List.all_takeWhile c (List.mem_reverse.mp hc)

theorem stripText {text : String} (start finish : Bool) (h : IsHtmlSafe text.toList) :
    IsHtmlSafe (Stencil.stripText start finish text).toList := by
  have hstart : IsHtmlSafe (if start then Text.trimStart text.toList else text.toList) := by
    split
    · exact h.trimStart
    · exact h
  simp only [Stencil.stripText, String.toList_ofList]
  split
  · exact hstart.trimEnd
  · exact hstart

end IsHtmlSafe

/-- The form of a character makes no unsafe text in front of an escaped one. -/
theorem isHtmlSafe_htmlForm (c : Char) {rest : List Char} (h : IsHtmlSafe (escapeHtml rest)) :
    IsHtmlSafe (htmlForm c rest ++ escapeHtml rest) := by
  unfold htmlForm
  split
  · split
    · rename_i hamp hopens
      refine ⟨by decide, fun _ => ?_, h⟩
      exact opensEntity_escapeHtml hopens
    · exact IsHtmlSafe.append (by decide) h
  · rename_i hamp
    by_cases hc : c ∈ markupChars
    · simp only [markupChars, List.mem_cons, List.not_mem_nil, or_false] at hc
      rcases hc with rfl | rfl | rfl | rfl <;> exact IsHtmlSafe.append (by decide) h
    · have hne := hc
      simp only [markupChars, List.mem_cons, List.not_mem_nil, or_false, not_or] at hne
      simp only [hne, if_false]
      exact ⟨hc, fun hc => absurd hc hamp, h⟩

/-- Escaped texts are safe. -/
theorem isHtmlSafe_escapeHtml (text : List Char) : IsHtmlSafe (escapeHtml text) := by
  induction text with
  | nil => exact True.intro
  | cons c rest ih => exact isHtmlSafe_htmlForm c ih

end Stencil
