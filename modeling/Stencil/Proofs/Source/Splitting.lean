import Mathlib.Data.Nat.Find
import Mathlib.Order.Bounds.Defs
import Stencil.Source.Scanner

/-!
The splitting of a source, by places in it. From each place on, the first opening ends the text, and the
first closing behind it ends the tag. The scanner, which sees one character at a time, hands out just these
segments; its state at a place says what it saw since the last segment began.
-/
namespace Stencil.Source

/-- The character behind the brace. -/
def Delimiter.mark : Delimiter → Char
  | output => '\x7b'
  | logic => '%'
  | comment => '#'

theorem Delimiter.ofMark?_eq_some {c : Char} {delimiter : Delimiter} :
    ofMark? c = some delimiter ↔ c = delimiter.mark := by
  unfold ofMark?
  constructor
  · intro h
    split at h
    · cases h
      assumption
    split at h
    · cases h
      assumption
    split at h
    · cases h
      assumption
    · cases h
  · rintro rfl
    cases delimiter <;> rfl

/-- A tag opens at the place. -/
def OpensAt (source : List Char) (delimiter : Delimiter) (place : Nat) : Prop :=
  source[place]? = some '\x7b' ∧ source[place + 1]? = some delimiter.mark

/-- A tag can end at the place. -/
def ClosesAt (source : List Char) (delimiter : Delimiter) (place : Nat) : Prop :=
  source[place]? = some delimiter.closing ∧ source[place + 1]? = some '\x7d'

/-- The characters from one place up to another. -/
def between (source : List Char) (first last : Nat) : List Char := (source.drop first).take (last - first)

/-- The line of the character at the place. -/
def lineAt (source : List Char) (place : Nat) : Nat := 1 + lineEnds (source.take place)

/-- The first place, from a place on, where something is so. -/
def IsFirst (P : Nat → Prop) (start place : Nat) : Prop := IsLeast {q | start ≤ q ∧ P q} place

/-- The first opening from a place on. -/
def FirstOpening (source : List Char) (start : Nat) (delimiter : Delimiter) (place : Nat) : Prop :=
  IsFirst (fun q => ∃ other, OpensAt source other q) start place ∧ OpensAt source delimiter place

/-- An end tag of raw, from one place to another. -/
def RawEnds (source : List Char) (place closing : Nat) : Prop :=
  OpensAt source .logic place ∧ IsFirst (ClosesAt source .logic) (place + 2) closing ∧
    (TagText.ofContent (between source (place + 2) closing)).closesRaw = true

/-- The segments of the source from a place on. -/
inductive Splits (isRaw : List Char → Bool) (source : List Char) : Nat → Segments → Prop
  | rest {p : Nat} (h : ∀ q delimiter, p ≤ q → ¬ OpensAt source delimiter q) :
      Splits isRaw source p ⟨textSegment (source.drop p) (lineAt source p), none⟩
  | unclosed {p q : Nat} {delimiter : Delimiter} (hq : FirstOpening source p delimiter q)
      (h : ∀ r, q + 2 ≤ r → ¬ ClosesAt source delimiter r) :
      Splits isRaw source p ⟨textSegment (between source p q) (lineAt source p),
        some (lineAt source q, .unclosedDelimiter delimiter.opening)⟩
  | comment {p q r : Nat} {segments : Segments} (hq : FirstOpening source p .comment q)
      (hr : IsFirst (ClosesAt source .comment) (q + 2) r) (h : Splits isRaw source (r + 2) segments) :
      Splits isRaw source p (segments.before (textSegment (between source p q) (lineAt source p)))
  | output {p q r : Nat} {segments : Segments} (hq : FirstOpening source p .output q)
      (hr : IsFirst (ClosesAt source .output) (q + 2) r) (h : Splits isRaw source (r + 2) segments) :
      Splits isRaw source p (segments.before (textSegment (between source p q) (lineAt source p) ++
        [.output (between source (q + 2) r) (lineAt source q)]))
  | logic {p q r : Nat} {segments : Segments} (hq : FirstOpening source p .logic q)
      (hr : IsFirst (ClosesAt source .logic) (q + 2) r)
      (hraw : isRaw (between source (q + 2) r) = false) (h : Splits isRaw source (r + 2) segments) :
      Splits isRaw source p (segments.before (textSegment (between source p q) (lineAt source p) ++
        [.logic (between source (q + 2) r) (lineAt source q)]))
  | raw {p q r e f : Nat} {segments : Segments} (hq : FirstOpening source p .logic q)
      (hr : IsFirst (ClosesAt source .logic) (q + 2) r)
      (hraw : isRaw (between source (q + 2) r) = true)
      (he : IsFirst (fun e => ∃ f, RawEnds source e f) (r + 2) e) (hf : RawEnds source e f)
      (h : Splits isRaw source (f + 2) segments) :
      Splits isRaw source p (segments.before (textSegment (between source p q) (lineAt source p) ++
        [.raw (between source (q + 2) r) (lineAt source q) (between source (r + 2) e)
          (between source (e + 2) f)]))
  | unclosedRaw {p q r : Nat} (hq : FirstOpening source p .logic q)
      (hr : IsFirst (ClosesAt source .logic) (q + 2) r)
      (hraw : isRaw (between source (q + 2) r) = true)
      (h : ∀ e f, r + 2 ≤ e → ¬ RawEnds source e f) :
      Splits isRaw source p ⟨textSegment (between source p q) (lineAt source p),
        some (lineAt source q, .unclosedRaw)⟩

variable {source : List Char} {p q r place : Nat} {c : Char} {delimiter : Delimiter}

/-! Places. -/

theorem drop_eq_cons (h : source[place]? = some c) : source.drop place = c :: source.drop (place + 1) := by
  obtain ⟨hlt, rfl⟩ := List.getElem?_eq_some_iff.mp h
  exact List.drop_eq_getElem_cons hlt

theorem lineAt_succ (h : source[place]? = some c) :
    lineAt source (place + 1) = if c = '\n' then lineAt source place + 1 else lineAt source place := by
  unfold lineAt lineEnds
  rw [List.take_add_one, h, List.count_append]
  by_cases hc : c = '\n'
  · simp [hc, Nat.add_assoc]
  · simp [hc]

theorem lineAt_append {first last : Nat} (h : first ≤ last) :
    lineAt source last = lineAt source first + lineEnds (between source first last) := by
  have hsplit : source.take last = source.take first ++ between source first last := by
    rw [between, ← List.take_append_drop first (source.take last), List.take_take, List.drop_take,
      Nat.min_eq_left h]
  rw [lineAt, lineAt, hsplit, lineEnds, List.count_append, Nat.add_assoc]
  rfl

theorem IsFirst.not_of_lt {P : Nat → Prop} {start : Nat} (h : IsFirst P start place) (hstart : start ≤ q)
    (hlt : q < place) : ¬ P q := by
  intro hq
  exact absurd (h.2 ⟨hstart, hq⟩) (Nat.not_le.mpr hlt)

theorem exists_isFirst {P : Nat → Prop} {start : Nat} (h : ∃ q, start ≤ q ∧ P q) :
    ∃ q, IsFirst P start q := by
  classical
  exact ⟨Nat.find h, Nat.find_spec h, fun q hq => Nat.find_min' h hq⟩

theorem between_self (source : List Char) (place : Nat) : between source place place = [] := by
  rw [between, Nat.sub_self, List.take_zero]

theorem between_cons (hc : source[p]? = some c) (h : p < q) :
    between source p q = c :: between source (p + 1) q := by
  have hlength : q - p = q - (p + 1) + 1 := by omega
  rw [between, drop_eq_cons hc, hlength, List.take_succ_cons]
  rfl

theorem getElem?_of_drop {rest : List Char} (h : source.drop place = c :: rest) :
    source[place]? = some c ∧ source.drop (place + 1) = rest := by
  have hhead : (source.drop place).head? = some c := by rw [h]; rfl
  rw [List.head?_drop] at hhead
  exact ⟨hhead, (List.cons.inj ((drop_eq_cons hhead).symm.trans h)).2⟩

theorem ClosesAt.lt_length (h : ClosesAt source delimiter r) : r + 1 < source.length :=
  (List.getElem?_eq_some_iff.mp h.2).1

theorem lineAt_of_opens (h : OpensAt source delimiter q) : lineAt source (q + 2) = lineAt source q := by
  rw [lineAt_succ h.2, lineAt_succ h.1, if_neg (by cases delimiter <;> decide), if_neg (by decide)]

theorem lineAt_of_closes (h : ClosesAt source delimiter r) : lineAt source (r + 2) = lineAt source r := by
  rw [lineAt_succ h.2, lineAt_succ h.1, if_neg (by decide), if_neg (by cases delimiter <;> decide)]

/-! Tags and raw bodies. -/

theorem tagRun_cons_of_not_closes (hc : source[place]? = some c) (h : ¬ ClosesAt source delimiter place) :
    tagRun delimiter.closing (source.drop place) =
      (tagRun delimiter.closing (source.drop (place + 1))).map fun (content, after) =>
        (c :: content, after) := by
  rw [drop_eq_cons hc, tagRun, if_neg]
  intro hcloses
  obtain ⟨hclosing, hbrace⟩ := (Bool.and_eq_true _ _).mp hcloses
  obtain rfl := of_decide_eq_true hclosing
  refine h ⟨hc, ?_⟩
  rw [← List.head?_drop]
  exact of_decide_eq_true hbrace

theorem tagRun_eq_some (h : IsFirst (ClosesAt source delimiter) p r) :
    tagRun delimiter.closing (source.drop p) = some (between source p r, source.drop (r + 2)) := by
  have hlength := h.1.2.lt_length
  -- back from the closing, where nothing is left of the tag
  refine Nat.decreasingInduction' (fun place hlt hle hrun => ?_) h.1.1 ?_
  · have hc : source[place]? = some source[place] := List.getElem?_eq_getElem (by omega)
    rw [tagRun_cons_of_not_closes hc (h.not_of_lt hle hlt), hrun, between_cons hc hlt]
    rfl
  · obtain ⟨hclosing, hbrace⟩ := h.1.2
    rw [drop_eq_cons hclosing, tagRun, if_pos, between_self, drop_eq_cons hbrace]
    · rfl
    · simp [hbrace]

theorem tagRun_eq_none (h : ∀ r, p ≤ r → ¬ ClosesAt source delimiter r) :
    tagRun delimiter.closing (source.drop p) = none := by
  generalize hrest : source.drop p = rest
  induction rest generalizing p with
  | nil => rfl
  | cons c rest ih =>
    obtain ⟨hc, hrest'⟩ := getElem?_of_drop hrest
    rw [← hrest, tagRun_cons_of_not_closes hc (h p (Nat.le_refl p)), hrest',
      ih (fun r hr => h r (Nat.le_of_succ_le hr)) hrest']
    rfl

theorem rawStep_tag (rest : List Char) :
    rawStep ('\x7b' :: '%' :: rest) =
      match tagRun '%' rest with
      | none => .unclosed
      | some (content, after) =>
        if (TagText.ofContent content).closesRaw then .closer content after else .plain := rfl

theorem drop_of_opens (h : OpensAt source delimiter place) :
    source.drop place = '\x7b' :: delimiter.mark :: source.drop (place + 2) := by
  rw [drop_eq_cons h.1, drop_eq_cons h.2]

theorem rawStep_of_not_opens (h : ¬ OpensAt source .logic place) : rawStep (source.drop place) = .plain := by
  unfold rawStep
  split
  · rename_i rest hrest
    obtain ⟨hbrace, hbehind⟩ := getElem?_of_drop hrest
    exact absurd ⟨hbrace, (getElem?_of_drop hbehind).1⟩ h
  · rfl

theorem rawStep_of_ends (h : RawEnds source p q) :
    rawStep (source.drop p) = .closer (between source (p + 2) q) (source.drop (q + 2)) := by
  obtain ⟨hopens, hcloses, hraw⟩ := h
  have hrun : tagRun '%' _ = _ := tagRun_eq_some hcloses
  rw [drop_of_opens hopens, Delimiter.mark, rawStep_tag, hrun]
  exact if_pos hraw

/-- Where raw does not end, a tag is passed over if it is closed. -/
theorem rawStep_of_not_ends (h : ∀ r, ¬ RawEnds source p r) :
    rawStep (source.drop p) = .plain ∨
      rawStep (source.drop p) = .unclosed ∧ ∀ r, p + 2 ≤ r → ¬ ClosesAt source .logic r := by
  by_cases hopens : OpensAt source .logic p
  · rw [drop_of_opens hopens, Delimiter.mark, rawStep_tag]
    by_cases hclosed : ∃ r, p + 2 ≤ r ∧ ClosesAt source .logic r
    · obtain ⟨r, hr⟩ := exists_isFirst hclosed
      have hrun : tagRun '%' _ = _ := tagRun_eq_some hr
      rw [hrun]
      exact Or.inl (if_neg fun hraw => h r ⟨hopens, hr, hraw⟩)
    · have hnone : ∀ r, p + 2 ≤ r → ¬ ClosesAt source .logic r := fun r hr hcloses => hclosed ⟨r, hr, hcloses⟩
      have hrun : tagRun '%' _ = _ := tagRun_eq_none hnone
      rw [hrun]
      exact Or.inr ⟨rfl, hnone⟩
  · exact Or.inl (rawStep_of_not_opens hopens)

theorem rawRun_eq_some (h : IsFirst (fun e => ∃ f, RawEnds source e f) p q) (hq : RawEnds source q r) :
    rawRun (source.drop p) = some ⟨between source p q, between source (q + 2) r, source.drop (r + 2)⟩ := by
  have hcloses := hq.2.1.1.2
  have hlength := hcloses.lt_length
  have hle := hq.2.1.1.1
  -- back from the end tag, where nothing is left of the body
  refine Nat.decreasingInduction' (fun place hlt hplace hrun => ?_) h.1.1 ?_
  · have hc : source[place]? = some source[place] := List.getElem?_eq_getElem (by omega)
    have hplain : rawStep (source.drop place) = .plain := by
      rcases rawStep_of_not_ends fun f hf => h.not_of_lt hplace hlt ⟨f, hf⟩ with hplain | ⟨-, hnone⟩
      · exact hplain
      · exact absurd hcloses (hnone r (by omega))
    rw [between_cons hc hlt]
    rw [drop_eq_cons hc] at hplain ⊢
    rw [rawRun, hplain]
    dsimp only
    rw [hrun]
    rfl
  · have hstep := rawStep_of_ends hq
    rw [drop_eq_cons hq.1.1] at hstep ⊢
    rw [rawRun, hstep, between_self]

theorem rawRun_eq_none (h : ∀ e f, p ≤ e → ¬ RawEnds source e f) : rawRun (source.drop p) = none := by
  generalize hrest : source.drop p = rest
  induction rest generalizing p with
  | nil => rfl
  | cons c rest ih =>
    have hstep := rawStep_of_not_ends fun f => h p f (Nat.le_refl p)
    rw [hrest] at hstep
    rw [rawRun]
    rcases hstep with hplain | ⟨hunclosed, -⟩
    · rw [hplain]
      dsimp only
      rw [ih (fun e f he => h e f (Nat.le_of_succ_le he)) (getElem?_of_drop hrest).2]
      rfl
    · rw [hunclosed]

end Stencil.Source
