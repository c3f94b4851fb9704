import Mathlib.Data.List.Infix
import Mathlib.Data.Nat.Find
import Stencil.Filter.Builtin

/-!
The texts that stripping leaves. Tags are removed from the left to the right, the first one each time, and
what was on its two sides comes together; yet no new tag can come about, as a bracket that is kept either has
no closing bracket behind it or has one right behind it, which is kept too.
-/
namespace Stencil

namespace Text

/-- An opening bracket, something without a closing one, and a closing one. -/
def IsTag (text : List Char) : Prop :=
  ∃ inner, inner ≠ [] ∧ '>' ∉ inner ∧ text = '<' :: (inner ++ ['>'])

/-- No tag is anywhere in the text. -/
def Untagged (text : List Char) : Prop := ∀ tag, IsTag tag → ¬ tag <:+: text

/-- The text is cut at its first tag: none begins further left, and none that begins there is longer. -/
structure FirstTag (text front tag rest : List Char) : Prop where
  text_eq : text = front ++ tag ++ rest
  isTag : IsTag tag
  leftmost : ∀ before other behind, IsTag other → text = before ++ other ++ behind →
    front.length ≤ before.length
  longest : ∀ other, IsTag other → other <+: tag ++ rest → other.length ≤ tag.length

/-- What is left of a text when its first tag is removed, then the first one behind that, until there is
none. -/
inductive Strips : List Char → List Char → Prop
  | untagged {text : List Char} (h : Untagged text) : Strips text text
  | tag {text front tag rest left : List Char} (h : FirstTag text front tag rest) (hrest : Strips rest left) :
      Strips text (front ++ left)

variable {c : Char} {text front tag rest left inner : List Char}

theorem opensTag_iff : opensTag c rest = true ↔ ∃ tag, IsTag tag ∧ tag <+: c :: rest := by
  constructor
  · intro h
    simp only [opensTag, Bool.and_eq_true, beq_iff_eq, bne_iff_ne, List.contains_iff_mem] at h
    obtain ⟨⟨rfl, hhead⟩, hclosing⟩ := h
    obtain ⟨inner, behind, rfl, hinner⟩ := List.eq_append_cons_of_mem hclosing
    refine ⟨_, ⟨inner, ?_, hinner, rfl⟩, behind, by simp⟩
    rintro rfl
    exact hhead rfl
  · rintro ⟨_, ⟨inner, hne, hinner, rfl⟩, rest', htext⟩
    obtain ⟨d, inner, rfl⟩ := List.exists_cons_of_ne_nil hne
    rw [List.cons_append, List.cons_append, List.cons_append] at htext
    obtain ⟨rfl, rfl⟩ := List.cons.inj htext
    have hd : d ≠ '>' := fun h => hinner (h ▸ List.mem_cons_self)
    simp [opensTag, hd]

/-- Inside a tag all is dropped up to its closing bracket. -/
theorem withoutTags_inside (h : '>' ∉ inner) (rest : List Char) :
    withoutTags true (inner ++ '>' :: rest) = withoutTags false rest := by
  induction inner with
  | nil => rfl
  | cons c inner ih =>
    have hc : (c != '>') = true := bne_iff_ne.mpr fun heq => h (heq ▸ List.mem_cons_self)
    rw [List.cons_append, withoutTags, if_pos rfl, hc]
    exact ih (List.not_mem_of_not_mem_cons h)

theorem withoutTags_tag (h : IsTag tag) (rest : List Char) :
    withoutTags false (tag ++ rest) = withoutTags false rest := by
  have hopens : ∃ other, IsTag other ∧ other <+: tag ++ rest := ⟨tag, h, List.prefix_append tag rest⟩
  obtain ⟨inner, -, hinner, rfl⟩ := h
  rw [List.cons_append] at hopens
  rw [List.cons_append, withoutTags, if_neg nofun, if_pos (opensTag_iff.mpr hopens), List.append_assoc]
  exact withoutTags_inside hinner rest

/-- A character that no tag begins at is kept. -/
theorem withoutTags_keep (h : ∀ tag, IsTag tag → ¬ tag <+: c :: rest) :
    withoutTags false (c :: rest) = c :: withoutTags false rest := by
  rw [withoutTags, if_neg nofun, if_neg]
  intro hopens
  obtain ⟨tag, htag, hfront⟩ := opensTag_iff.mp hopens
  exact h tag htag hfront

theorem Untagged.tail (h : Untagged (c :: rest)) : Untagged rest :=
  fun tag htag hin => h tag htag (List.infix_cons hin)

theorem stripTags_of_untagged (h : Untagged text) : stripTags text = text := by
  unfold stripTags
  induction text with
  | nil => rfl
  | cons c rest ih =>
    rw [withoutTags_keep fun tag htag hfront => h tag htag hfront.isInfix, ih h.tail]

theorem FirstTag.stripTags_eq (h : FirstTag text front tag rest) :
    stripTags text = front ++ stripTags rest := by
  unfold stripTags
  induction front generalizing text with
  | nil =>
    rw [h.text_eq]
    exact withoutTags_tag h.isTag rest
  | cons c front ih =>
    obtain ⟨htext, htag, hleftmost, hlongest⟩ := h
    have htail : FirstTag (front ++ tag ++ rest) front tag rest := by
      refine ⟨rfl, htag, fun before other behind hother heq => ?_, hlongest⟩
      have hlength := hleftmost (c :: before) other behind hother (by rw [htext]; simpa using heq)
      exact Nat.le_of_succ_le_succ hlength
    rw [htext, List.cons_append, List.cons_append, withoutTags_keep, ih htail, List.cons_append]
    rintro other hother ⟨behind, heq⟩
    have hlength := hleftmost [] other behind hother (by rw [htext]; exact heq.symm)
    exact absurd hlength (Nat.not_succ_le_zero _)

theorem Strips.stripTags_eq (h : Strips text left) : stripTags text = left := by
  induction h with
  | untagged h => exact stripTags_of_untagged h
  | tag h _ ih => rw [h.stripTags_eq, ih]

/-- The first closing bracket is where a tag ends. -/
theorem takeWhile_of_not_mem (h : '>' ∉ inner) (rest : List Char) :
    (inner ++ '>' :: rest).takeWhile (· != '>') = inner := by
  rw [List.takeWhile_append_of_pos, List.takeWhile_cons_of_neg (by decide), List.append_nil]
  exact fun c hc => bne_iff_ne.mpr fun heq => h (heq ▸ hc)

/-- There are no two tags at one place. -/
theorem IsTag.eq_of_prefix {other : List Char} (htag : IsTag tag) (hother : IsTag other)
    (hfront : other <+: tag ++ rest) : other = tag := by
  obtain ⟨inner, -, hinner, rfl⟩ := htag
  obtain ⟨inner', -, hinner', rfl⟩ := hother
  obtain ⟨behind, heq⟩ := hfront
  simp only [List.cons_append, List.append_assoc, List.nil_append, List.cons.injEq, true_and] at heq
  have hsame := takeWhile_of_not_mem hinner' behind
  rw [heq, takeWhile_of_not_mem hinner] at hsame
  rw [hsame]

/-- A text that has tags has a first one. -/
theorem exists_firstTag (htag : IsTag tag) (hin : tag <:+: text) :
    ∃ front tag rest, FirstTag text front tag rest := by
  classical
  have hsome : ∃ place front tag rest, IsTag tag ∧ text = front ++ tag ++ rest ∧ front.length = place := by
    obtain ⟨front, rest, heq⟩ := hin
    exact ⟨front.length, front, tag, rest, htag, heq.symm, rfl⟩
  obtain ⟨front, tag, rest, htag, heq, hplace⟩ := Nat.find_spec hsome
  refine ⟨front, tag, rest, heq, htag, fun before other behind hother hcut => ?_,
    fun other hother hfront => (htag.eq_of_prefix hother hfront ▸ Nat.le_refl _)⟩
  rw [hplace]
  exact Nat.find_min' hsome ⟨before, other, behind, hother, hcut, rfl⟩

theorem exists_strips (text : List Char) : ∃ left, Strips text left := by
  induction hsize : text.length using Nat.strong_induction_on generalizing text with
  | _ size ih =>
    subst hsize
    by_cases huntagged : Untagged text
    · exact ⟨text, .untagged huntagged⟩
    · unfold Untagged at huntagged
      push Not at huntagged
      obtain ⟨tag, htag, hin⟩ := huntagged
      obtain ⟨front, tag, rest, hfirst⟩ := exists_firstTag htag hin
      have hshorter : rest.length < text.length := by
        obtain ⟨inner, -, -, rfl⟩ := hfirst.isTag
        have hlength := congrArg List.length hfirst.text_eq
        simp only [List.length_append, List.length_cons] at hlength
        omega
      obtain ⟨left, hleft⟩ := ih _ hshorter rest rfl
      exact ⟨front ++ left, .tag hfirst hleft⟩

theorem strips_iff : Strips text left ↔ left = stripTags text := by
  constructor
  · exact fun h => h.stripTags_eq.symm
  · rintro rfl
    obtain ⟨left, h⟩ := exists_strips text
    rwa [h.stripTags_eq]

/-- What is left has no tag, whatever was next to the tags that were removed. -/
theorem untagged_withoutTags (inside : Bool) (text : List Char) : Untagged (withoutTags inside text) := by
  induction text generalizing inside with
  | nil =>
    rintro _ ⟨inner, -, -, rfl⟩ hin
    cases List.infix_nil.mp hin
  | cons c rest ih =>
    rw [withoutTags]
    split
    · exact ih _
    split
    · exact ih _
    · rename_i hopens
      intro tag htag hin
      rcases List.infix_cons_iff.mp hin with hfront | hin
      · obtain ⟨inner, hne, hinner, rfl⟩ := htag
        obtain ⟨behind, heq⟩ := hfront
        obtain ⟨rfl, hkept⟩ := List.cons.inj heq
        have hclosing : '>' ∈ rest := (withoutTags_sublist false rest).subset (by simp [← hkept])
        -- the bracket is kept as the one right behind it closes, and that one is kept too
        cases rest with
        | nil => cases hclosing
        | cons d rest =>
          obtain rfl : d = '>' := by
            by_contra hd
            exact hopens (by simpa [opensTag, hd] using hclosing)
          obtain ⟨e, inner, rfl⟩ := List.exists_cons_of_ne_nil hne
          have he : e = '>' := (List.cons.inj hkept).1
          exact hinner (he ▸ List.mem_cons_self)
      · exact ih false tag htag hin

end Text

namespace Filter

theorem mapText_text_twice {f : List Char → List Char} (hf : ∀ text, f (f text) = f text) (text : List Char) :
    mapText f (.string (String.ofList (f text))) = .string (String.ofList (f text)) := by
  simp [mapText, Value.display, hf]

mutual

/-- What a function on texts does to all texts of a value it does once. -/
theorem mapText_mapText {f : List Char → List Char} (hf : ∀ text, f (f text) = f text) :
    (value : Value) → mapText f (mapText f value) = mapText f value
  | .array items => congrArg Value.array (mapTextItems_mapTextItems hf items)
  | .object fields => congrArg Value.object (mapTextMembers_mapTextMembers hf fields)
  | .null => mapText_text_twice hf _
  | .bool _ => mapText_text_twice hf _
  | .number _ => mapText_text_twice hf _
  | .string _ => mapText_text_twice hf _

theorem mapTextItems_mapTextItems {f : List Char → List Char} (hf : ∀ text, f (f text) = f text) :
    (items : List Value) → mapTextItems f (mapTextItems f items) = mapTextItems f items
  | [] => rfl
  | item :: rest => congrArg₂ List.cons (mapText_mapText hf item) (mapTextItems_mapTextItems hf rest)

theorem mapTextMembers_mapTextMembers {f : List Char → List Char} (hf : ∀ text, f (f text) = f text) :
    (fields : List (String × Value)) → mapTextMembers f (mapTextMembers f fields) = mapTextMembers f fields
  | [] => rfl
  | (name, item) :: rest =>
    congrArg₂ (fun item rest => (name, item) :: rest) (mapText_mapText hf item)
      (mapTextMembers_mapTextMembers hf rest)

end

/-- The filter removes the tags of a text from the left to the right, the first one each time, and keeps all
else as it stands. No tag is left or comes about, so that the filter does nothing to what it has been applied
to, be it a text or a value with texts inside. -/
theorem striptags_leaves_untagged (minutesBehind : Int32) :
    ∃ strip, Fields.get? (builtin minutesBehind) "striptags" = some strip ∧
      (∀ text arguments, ∃ left, strip (.string text) arguments = .string left ∧
        (∀ other, Text.Strips text.toList other ↔ other = left.toList) ∧ Text.Untagged left.toList) ∧
      ∀ value arguments others, strip (strip value arguments) others = strip value arguments := by
  have htwice (text : List Char) : Text.stripTags (Text.stripTags text) = Text.stripTags text :=
    Text.stripTags_of_untagged (Text.untagged_withoutTags false text)
  refine ⟨onText Text.stripTags, by rfl, fun text arguments => ?_,
    fun value _ _ => mapText_mapText htwice value⟩
  refine ⟨String.ofList (Text.stripTags text.toList), rfl, fun other => ?_, ?_⟩
  · rw [String.toList_ofList]
    exact Text.strips_iff
  · rw [String.toList_ofList]
    exact Text.untagged_withoutTags false text.toList

example : Text.stripTags "<<b>>a<b<c>d>e<>f>".toList = ">ad>e<>f>".toList := by decide

end Filter

end Stencil
