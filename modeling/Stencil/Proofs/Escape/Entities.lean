import Stencil.Proofs.Escape.HtmlSafe

/-!
Escaping for HTML as a function on texts. It leaves safe texts as they are and makes all others safe; it can
be done part by part unless a cut goes through an entity; and reading the entities undoes it, up to the
entities that stood in the text before.
-/
namespace Stencil

namespace EscapeKind

variable {front back rest text : List Char} {c : Char}

/-- The five entities replaced by what they stand for, once, from left to right. -/
def decodeEntities : List Char → List Char
  | '&' :: 'a' :: 'm' :: 'p' :: ';' :: rest => '&' :: decodeEntities rest
  | '&' :: 'l' :: 't' :: ';' :: rest => '<' :: decodeEntities rest
  | '&' :: 'g' :: 't' :: ';' :: rest => '>' :: decodeEntities rest
  | '&' :: 'q' :: 'u' :: 'o' :: 't' :: ';' :: rest => '"' :: decodeEntities rest
  | '&' :: '#' :: '3' :: '9' :: ';' :: rest => '\'' :: decodeEntities rest
  | c :: rest => c :: decodeEntities rest
  | [] => []

/-- An entity begins in the first text and ends in the second. -/
def Straddles (front back : List Char) : Prop :=
  ∃ before start finish after, front = before ++ start ∧ back = finish ++ after ∧
    start ≠ [] ∧ finish ≠ [] ∧ ∃ entity ∈ entities, start ++ finish = '&' :: entity

/-- No entity begins with another one. -/
theorem eq_of_entity_prefix {entity other : List Char} (hentity : entity ∈ entities)
    (hother : other ∈ entities) (h : other <+: entity) : other = entity := by
  have hapart : (entities.all fun a => entities.all fun b => !b.isPrefixOf a || b == a) = true := by
    decide
  have hpair := List.all_eq_true.mp (List.all_eq_true.mp hapart entity hentity) other hother
  simpa [List.isPrefixOf_iff_prefix.mpr h] using hpair

/-- An entity that only the longer text opens goes beyond the shorter one. -/
theorem straddles_of_opens (hfront : opensEntity front = false)
    (h : opensEntity (front ++ back) = true) : Straddles ('&' :: front) back := by
  obtain ⟨entity, hmem, hleads⟩ := opensEntity_iff.mp h
  have hlonger : ¬ entity.length ≤ front.length := by
    intro hlength
    have hwithin := List.prefix_of_prefix_length_le hleads (List.prefix_append front back) hlength
    have hopens := opensEntity_iff.mpr ⟨entity, hmem, hwithin⟩
    rw [hfront] at hopens
    cases hopens
  obtain ⟨tail, rfl⟩ := List.prefix_of_prefix_length_le (List.prefix_append front back) hleads (by omega)
  obtain ⟨after, rfl⟩ := (List.prefix_append_right_inj front).mp hleads
  refine ⟨[], '&' :: front, tail, after, rfl, rfl, by simp, ?_, front ++ tail, hmem, rfl⟩
  rintro rfl
  simp at hlonger

theorem not_straddles_nil (back : List Char) : ¬ Straddles [] back := by
  rintro ⟨before, start, finish, after, hfront, -, hstart, -⟩
  exact hstart (List.append_eq_nil_iff.mp hfront.symm).2

/-- What goes through the cut begins with the first character or behind it. -/
theorem straddles_cons : Straddles (c :: front) back ↔
    (c = '&' ∧ opensEntity front = false ∧ opensEntity (front ++ back) = true) ∨ Straddles front back := by
  constructor
  · rintro ⟨before, start, finish, after, hfront, rfl, hstart, hfinish, entity, hmem, hentity⟩
    cases before with
    | cons d before =>
      obtain ⟨-, rfl⟩ := List.cons.inj hfront
      exact Or.inr ⟨before, start, finish, after, rfl, rfl, hstart, hfinish, entity, hmem, hentity⟩
    | nil =>
      obtain rfl : c :: front = start := hfront
      obtain ⟨rfl, rfl⟩ := List.cons.inj hentity
      refine Or.inl ⟨rfl, ?_, ?_⟩
      · rw [Bool.eq_false_iff]
        intro hopens
        obtain ⟨other, hother, hleads⟩ := opensEntity_iff.mp hopens
        have heq : other = front ++ finish :=
          eq_of_entity_prefix hmem hother (hleads.trans (List.prefix_append front finish))
        have hlength := hleads.length_le
        have hpositive := List.length_pos_iff.mpr hfinish
        rw [heq, List.length_append] at hlength
        omega
      · refine opensEntity_iff.mpr ⟨front ++ finish, hmem, after, ?_⟩
        rw [List.append_assoc]
  · rintro (⟨rfl, hfront, hopens⟩ | ⟨before, start, finish, after, rfl, rfl, hrest⟩)
    · exact straddles_of_opens hfront hopens
    · exact ⟨c :: before, start, finish, after, rfl, rfl, hrest⟩

/-- The form of a character only depends on what follows where an entity goes through the cut. -/
theorem htmlForm_append
    (h : ¬ (c = '&' ∧ opensEntity front = false ∧ opensEntity (front ++ back) = true)) :
    htmlForm c (front ++ back) = htmlForm c front := by
  unfold htmlForm
  split
  · rename_i hamp
    have hsame : opensEntity (front ++ back) = opensEntity front := by
      cases hfront : opensEntity front with
      | true => exact opensEntity_append hfront back
      | false => exact Bool.eq_false_iff.mpr fun hopens => h ⟨hamp, hfront, hopens⟩
    rw [hsame]
  · rfl

theorem length_htmlForm_append (c : Char) (front back : List Char) :
    (htmlForm c (front ++ back)).length ≤ (htmlForm c front).length := by
  by_cases h : c = '&' ∧ opensEntity front = false ∧ opensEntity (front ++ back) = true
  · obtain ⟨rfl, hfront, hopens⟩ := h
    simp [htmlForm, hfront, hopens]
  · exact Nat.le_of_eq (congrArg List.length (htmlForm_append h))

/-- Parts that are escaped one by one are never shorter. -/
theorem length_escapeHtml_append (front back : List Char) :
    (escapeHtml (front ++ back)).length ≤ (escapeHtml front).length + (escapeHtml back).length := by
  induction front with
  | nil => simp [escapeHtml]
  | cons c front ih =>
    have hform := length_htmlForm_append c front back
    simp only [List.cons_append, escapeHtml, List.length_append]
    omega

theorem escapeHtml_append_eq_iff (front back : List Char) :
    escapeHtml (front ++ back) = escapeHtml front ++ escapeHtml back ↔ ¬ Straddles front back := by
  induction front with
  | nil => exact iff_of_true rfl (not_straddles_nil back)
  | cons c front ih =>
    simp only [List.cons_append, escapeHtml, List.append_assoc]
    by_cases h : c = '&' ∧ opensEntity front = false ∧ opensEntity (front ++ back) = true
    · refine iff_of_false (fun heq => ?_) (not_not_intro (straddles_cons.mpr (Or.inl h)))
      -- the parts by themselves have an ampersand to escape that the whole does not have
      obtain ⟨rfl, hfront, hopens⟩ := h
      have hlength := congrArg List.length heq
      have hle := length_escapeHtml_append front back
      simp [htmlForm, hfront, hopens] at hlength
      omega
    · rw [htmlForm_append h, List.append_cancel_left_eq, ih, straddles_cons, or_iff_right h]

/-- What is safe stays as it is. -/
theorem escapeHtml_of_isHtmlSafe (h : IsHtmlSafe text) : escapeHtml text = text := by
  induction text with
  | nil => rfl
  | cons c rest ih =>
    obtain ⟨hc, hopens, hrest⟩ := h
    have hform : htmlForm c rest = [c] := by
      simp only [markupChars, List.mem_cons, List.not_mem_nil, or_false, not_or] at hc
      by_cases hamp : c = '&'
      · simp [htmlForm, hamp, hopens hamp]
      · simp [htmlForm, hamp, hc]
    rw [escapeHtml, hform, ih hrest]
    rfl

theorem escapeHtml_eq_self_iff : escapeHtml text = text ↔ IsHtmlSafe text :=
  ⟨fun h => h ▸ isHtmlSafe_escapeHtml text, escapeHtml_of_isHtmlSafe⟩

/-- Where no entity begins a character stands for itself. -/
theorem decodeEntities_cons (h : c = '&' → opensEntity rest = false) :
    decodeEntities (c :: rest) = c :: decodeEntities rest := by
  rw [decodeEntities]
  all_goals
    rintro after rfl rfl
    have hopens := h rfl
    revert hopens
    simp [opensEntity, entities]

theorem decodeEntities_htmlForm (h : c = '&' → opensEntity rest = false) (after : List Char) :
    decodeEntities (htmlForm c rest ++ after) = c :: decodeEntities after := by
  unfold htmlForm
  split
  · rename_i hamp
    rw [h hamp, hamp]
    rfl
  · rename_i hamp
    by_cases hc : c ∈ markupChars
    · simp only [markupChars, List.mem_cons, List.not_mem_nil, or_false] at hc
      rcases hc with rfl | rfl | rfl | rfl <;> rfl
    · simp only [markupChars, List.mem_cons, List.not_mem_nil, or_false, not_or] at hc
      simp only [hc, if_false]
      exact decodeEntities_cons fun hc => absurd hc hamp

/-- Escaping keeps what the entities of a text are read as. -/
theorem decodeEntities_escapeHtml (text : List Char) :
    decodeEntities (escapeHtml text) = decodeEntities text := by
  fun_induction decodeEntities text with
  | case1 rest ih | case2 rest ih | case3 rest ih | case4 rest ih | case5 rest ih =>
    -- the entity stays, and is read as before
    simp [escapeHtml, htmlForm, opensEntity, entities, decodeEntities, ih]
  | case6 c rest hamp hlt hgt hquot hapos ih =>
    have hopens : c = '&' → opensEntity rest = false := by
      rintro rfl
      rw [Bool.eq_false_iff]
      intro hopens
      obtain ⟨entity, hmem, after, rfl⟩ := opensEntity_iff.mp hopens
      simp only [entities, List.mem_cons, List.not_mem_nil, or_false] at hmem
      rcases hmem with rfl | rfl | rfl | rfl | rfl
      · exact hamp after rfl rfl
      · exact hlt after rfl rfl
      · exact hgt after rfl rfl
      · exact hquot after rfl rfl
      · exact hapos after rfl rfl
    rw [escapeHtml, decodeEntities_htmlForm hopens, ih]
  | case7 => rfl

/-- Escaped texts are safe, and are those that escaping leaves alone; escaping can be done part by part
exactly where no entity goes through the cut; and it keeps what the entities of a text are read as. -/
theorem apply_html_normal (text : String) :
    IsHtmlSafe (html.apply text).toList ∧
    html.apply (html.apply text) = html.apply text ∧
    (html.apply text = text ↔ IsHtmlSafe text.toList) ∧
    (∀ more : String, html.apply (text ++ more) = html.apply text ++ html.apply more ↔
      ¬ Straddles text.toList more.toList) ∧
    decodeEntities (html.apply text).toList = decodeEntities text.toList := by
  have hsafe : IsHtmlSafe (html.apply text).toList := by
    rw [apply, String.toList_ofList]
    exact isHtmlSafe_escapeHtml text.toList
  have hself : ∀ text : String, html.apply text = text ↔ IsHtmlSafe text.toList := by
    intro text
    rw [← escapeHtml_eq_self_iff, apply, ← String.toList_inj, String.toList_ofList]
  refine ⟨hsafe, (hself _).mpr hsafe, hself text, fun more => ?_, ?_⟩
  · rw [← escapeHtml_append_eq_iff, ← String.toList_inj]
    simp only [apply, String.toList_append, String.toList_ofList]
  · rw [apply, String.toList_ofList, decodeEntities_escapeHtml]

/-- An entity that the cut goes through is escaped in parts, though not in the whole. -/
example : html.apply ("a&am" ++ "p;<") = "a&amp;&lt;" ∧
    html.apply "a&am" ++ html.apply "p;<" = "a&amp;amp;&lt;" := by decide +kernel

end EscapeKind

end Stencil
