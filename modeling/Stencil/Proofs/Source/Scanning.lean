import Stencil.Proofs.Source.Splitting

/-!
The scanner, which sees one character at a time, hands out the segments of the splitting. Its state at a
place says what it saw since the last segment began, so each character that neither opens nor closes
anything leads from the state at one place to that at the next.
-/
namespace Stencil.Source

variable {source : List Char} {p q r place : Nat} {c : Char} {delimiter : Delimiter}

namespace Scanner

/-- In a text from `p` on, before the place. -/
def inText (source : List Char) (p place : Nat) : Scanner :=
  ⟨.plain, ⟨source.drop p, place - p⟩, lineAt source p, lineAt source place⟩

/-- In a tag opened at `q`, before the place. -/
def inTag (source : List Char) (p : Nat) (delimiter : Delimiter) (q place : Nat) : Scanner :=
  ⟨.inTag delimiter ⟨source.drop (q + 2), place - (q + 2)⟩ (lineAt source q),
    ⟨source.drop p, q - p⟩, lineAt source p, lineAt source place⟩

theorem start_eq_inText (source : List Char) (p : Nat) :
    start (source.drop p) (lineAt source p) = inText source p p := by
  rw [inText, Nat.sub_self]
  rfl

/-- A character of text, be it a brace or not, is passed over. -/
theorem next_inText (hp : p ≤ place) (hc : source[place]? = some c)
    (h : ∀ delimiter, ¬ OpensAt source delimiter place) :
    (inText source p place).next (source.drop place) =
      (inText source p (place + 1)).next (source.drop (place + 1)) := by
  have hlength : place - p + 1 = place + 1 - p := by omega
  have hline := lineAt_succ hc
  rw [drop_eq_cons hc]
  by_cases hbrace : c = '\x7b'
  · subst hbrace
    replace hline : lineAt source (place + 1) = lineAt source place := hline
    have hstep : (inText source p place).step '\x7b' (source.drop (place + 1)) =
        .goesOn { inText source p place with state := .brace } := rfl
    rw [next, hstep]
    cases hrest : source.drop (place + 1) with
    | nil => rfl
    | cons d rest =>
      have hnone : Delimiter.ofMark? d = none := by
        rw [Option.eq_none_iff_forall_ne_some]
        intro delimiter hd
        refine h delimiter ⟨hc, ?_⟩
        rw [← List.head?_drop, hrest, ← Delimiter.ofMark?_eq_some.mp hd]
        rfl
      simp only [next, step, hnone, inText, Stretch.grow, hlength, hline]
      rfl
  · have hstep : (inText source p place).step c (source.drop (place + 1)) =
        .goesOn (inText source p (place + 1)) := by
      simp [step, stepPlain, inText, hbrace, Stretch.grow, hlength, nextLine, hline]
    rw [next, hstep]

/-- A character of a tag is passed over, be it a closing mark or not. -/
theorem next_inTag (hq : q + 2 ≤ place) (hc : source[place]? = some c)
    (h : ¬ ClosesAt source delimiter place) :
    (inTag source p delimiter q place).next (source.drop place) =
      (inTag source p delimiter q (place + 1)).next (source.drop (place + 1)) := by
  have hlength : place - (q + 2) + 1 = place + 1 - (q + 2) := by omega
  have hline := lineAt_succ hc
  rw [drop_eq_cons hc]
  by_cases hclosing : c = delimiter.closing
  · have hstep : (inTag source p delimiter q place).step c (source.drop (place + 1)) =
        .goesOn { inTag source p delimiter q place with
          state := .closing delimiter ⟨source.drop (q + 2), place - (q + 2)⟩ (lineAt source q) } := by
      simp [step, inTag, stepInTag, hclosing]
    have hplain : c ≠ '\n' := by
      rw [hclosing]
      cases delimiter <;> decide
    rw [if_neg hplain] at hline
    rw [next, hstep]
    cases hrest : source.drop (place + 1) with
    | nil => rfl
    | cons d rest =>
      have hbrace : d ≠ '\x7d' := by
        rintro rfl
        refine h ⟨hclosing ▸ hc, ?_⟩
        rw [← List.head?_drop, hrest]
        rfl
      simp only [next, step, inTag, ne_eq, hbrace, not_false_eq_true, if_true, Stretch.grow, hlength, hline]
      rfl
  · have hstep : (inTag source p delimiter q place).step c (source.drop (place + 1)) =
        .goesOn (inTag source p delimiter q (place + 1)) := by
      simp [step, stepInTag, inTag, hclosing, Stretch.grow, hlength, nextLine, hline]
    rw [next, hstep]

theorem next_inText_until (hle : p ≤ q) (hlength : q ≤ source.length)
    (h : ∀ i, p ≤ i → i < q → ∀ delimiter, ¬ OpensAt source delimiter i) :
    (inText source p p).next (source.drop p) = (inText source p q).next (source.drop q) := by
  induction q, hle using Nat.le_induction with
  | base => rfl
  | succ q hle ih =>
    have hc : source[q]? = some source[q] := List.getElem?_eq_getElem hlength
    rw [ih (by omega) fun i hi hlt => h i hi (by omega), next_inText hle hc (h q hle (by omega))]

theorem next_inTag_until (hle : q + 2 ≤ r) (hlength : r ≤ source.length)
    (h : ∀ i, q + 2 ≤ i → i < r → ¬ ClosesAt source delimiter i) :
    (inTag source p delimiter q (q + 2)).next (source.drop (q + 2)) =
      (inTag source p delimiter q r).next (source.drop r) := by
  induction r, hle using Nat.le_induction with
  | base => rfl
  | succ r hle ih =>
    have hc : source[r]? = some source[r] := List.getElem?_eq_getElem hlength
    rw [ih (by omega) fun i hi hlt => h i hi (by omega), next_inTag hle hc (h r hle (by omega))]

/-- An opening hands out the text before it, unless that is empty. -/
theorem next_opening (hle : p ≤ q) (h : OpensAt source delimiter q) :
    (inText source p q).next (source.drop q) =
      if p = q then (inTag source p delimiter q (q + 2)).next (source.drop (q + 2))
      else .text (between source p q) (lineAt source p) (inTag source p delimiter q (q + 2))
        (source.drop (q + 2)) := by
  have hmark : Delimiter.ofMark? delimiter.mark = some delimiter := Delimiter.ofMark?_eq_some.mpr rfl
  have hline := lineAt_of_opens h
  have hempty : q - p = 0 ↔ p = q := by omega
  rw [drop_eq_cons h.1, drop_eq_cons h.2]
  simp only [next, step, inText, stepPlain, if_true, hmark, hempty, inTag, Nat.sub_self, hline]
  by_cases hpq : p = q
  · simp only [if_pos hpq]
  · simp only [if_neg hpq]
    rfl

/-- A closing hands out the tag, unless it is a comment. -/
theorem next_closing (h : ClosesAt source delimiter r) :
    (inTag source p delimiter q r).next (source.drop r) =
      if delimiter = .comment then (inText source (r + 2) (r + 2)).next (source.drop (r + 2))
      else .tag delimiter (between source (q + 2) r) (lineAt source q) (inText source (r + 2) (r + 2))
        (source.drop (r + 2)) := by
  have hline := lineAt_of_closes h
  rw [drop_eq_cons h.1, drop_eq_cons h.2, ← start_eq_inText, hline]
  simp only [next, step, inTag, stepInTag, if_true, ne_eq, not_true_eq_false, if_false]
  by_cases hcomment : delimiter = .comment
  · simp only [if_pos hcomment]
  · simp only [if_neg hcomment]
    rfl

/-! All pieces, one after the other. -/

variable {isRaw : List Char → Bool}

theorem collect_eq (isRaw : List Char → Bool) (scanner : Scanner) (source : List Char) :
    scanner.collect isRaw source =
      match scanner.next source with
      | .ended last => last
      | .text text line scanner rest => (scanner.collect isRaw rest).before [.text text line]
      | .tag delimiter content line scanner rest =>
        if delimiter = .output then (scanner.collect isRaw rest).before [.output content line]
        else if isRaw content then
          match scanner.takeRaw rest with
          | none => ⟨[], some (line, .unclosedRaw)⟩
          | some (run, scanner) =>
            (scanner.collect isRaw run.after).before [.raw content line run.body run.closer]
        else (scanner.collect isRaw rest).before [.logic content line] := by
  rw [collect]
  split
  · rename_i hnext
    simp only [hnext]
  · rename_i hnext
    simp only [hnext]
  · rename_i scanner rest hnext
    simp only [hnext]
    split
    · rfl
    split
    · split <;> simp only [*]
    · rfl

theorem collect_congr {scanner other : Scanner} {rest : List Char}
    (h : scanner.next source = other.next rest) :
    scanner.collect isRaw source = other.collect isRaw rest := by
  rw [collect_eq, collect_eq, h]

/-- The segments from a place on, before which nothing is pending. -/
theorem collect_of_no_opening (h : ∀ q delimiter, p ≤ q → ¬ OpensAt source delimiter q) :
    (inText source p p).collect isRaw (source.drop p) =
      ⟨textSegment (source.drop p) (lineAt source p), none⟩ := by
  by_cases hp : p ≤ source.length
  · have hend := next_inText_until hp (Nat.le_refl _) fun i hi _ delimiter => h i delimiter hi
    rw [List.drop_length] at hend
    rw [collect_eq, hend]
    rfl
  · rw [List.drop_eq_nil_of_le (by omega)]
    rw [collect_eq]
    simp only [next, finish, inText]
    rw [List.drop_eq_nil_of_le (by omega)]

theorem before_nil (segments : Segments) : segments.before [] = segments := rfl

theorem before_before (segments : Segments) (front back : List Segment) :
    (segments.before back).before front = segments.before (front ++ back) := by
  simp only [Segments.before, List.append_assoc]

theorem collect_of_opening (hq : FirstOpening source p delimiter q) :
    (inText source p p).collect isRaw (source.drop p) =
      ((inTag source p delimiter q (q + 2)).collect isRaw (source.drop (q + 2))).before
        (textSegment (between source p q) (lineAt source p)) := by
  obtain ⟨hfirst, hopens⟩ := hq
  have hlt : q + 1 < source.length := (List.getElem?_eq_some_iff.mp hopens.2).1
  have huntil := next_inText_until hfirst.1.1 (Nat.le_of_succ_le (Nat.le_of_lt hlt))
    fun i hi hiq other hother => hfirst.not_of_lt hi hiq ⟨other, hother⟩
  rw [next_opening hfirst.1.1 hopens] at huntil
  by_cases hpq : p = q
  · subst hpq
    rw [if_pos rfl] at huntil
    rw [collect_congr huntil, between_self]
    exact (before_nil _).symm
  · rw [if_neg hpq] at huntil
    have hplt : p < source.length := Nat.lt_of_le_of_lt hfirst.1.1 (Nat.lt_of_succ_lt hlt)
    have hc : source[p]? = some source[p] := List.getElem?_eq_getElem hplt
    rw [collect_eq, huntil, between_cons hc (Nat.lt_of_le_of_ne hfirst.1.1 hpq)]
    rfl

theorem collect_of_unclosed (h : ∀ r, q + 2 ≤ r → ¬ ClosesAt source delimiter r)
    (hopens : OpensAt source delimiter q) :
    (inTag source p delimiter q (q + 2)).collect isRaw (source.drop (q + 2)) =
      ⟨[], some (lineAt source q, .unclosedDelimiter delimiter.opening)⟩ := by
  have hlt : q + 1 < source.length := (List.getElem?_eq_some_iff.mp hopens.2).1
  have hend := next_inTag_until (p := p) hlt (Nat.le_refl _) fun i hi _ => h i hi
  rw [List.drop_length] at hend
  rw [collect_eq, hend]
  rfl

theorem next_of_closing (hr : IsFirst (ClosesAt source delimiter) (q + 2) r) :
    (inTag source p delimiter q (q + 2)).next (source.drop (q + 2)) =
      if delimiter = .comment then (inText source (r + 2) (r + 2)).next (source.drop (r + 2))
      else .tag delimiter (between source (q + 2) r) (lineAt source q) (inText source (r + 2) (r + 2))
        (source.drop (r + 2)) := by
  have hlt := hr.1.2.lt_length
  rw [next_inTag_until hr.1.1 (Nat.le_of_lt (Nat.lt_of_succ_lt hlt))
    fun i hi hir => hr.not_of_lt hi hir, next_closing hr.1.2]

theorem takeRaw_eq_some {e f : Nat} (he : IsFirst (fun e => ∃ f, RawEnds source e f) p e)
    (hf : RawEnds source e f) :
    (inText source p p).takeRaw (source.drop p) =
      some (⟨between source p e, between source (e + 2) f, source.drop (f + 2)⟩,
        inText source (f + 2) (f + 2)) := by
  have hopens := hf.1
  have hcloses := hf.2.1
  have hline : lineAt source (f + 2) =
      lineAt source p + lineEnds (between source p e) + lineEnds (between source (e + 2) f) := by
    rw [lineAt_of_closes hcloses.1.2, lineAt_append hcloses.1.1, lineAt_of_opens hopens,
      lineAt_append he.1.1]
  unfold takeRaw
  rw [rawRun_eq_some he hf, ← start_eq_inText source (f + 2), hline]
  rfl

theorem takeRaw_eq_none (h : ∀ e f, p ≤ e → ¬ RawEnds source e f) :
    (inText source p p).takeRaw (source.drop p) = none := by
  unfold takeRaw
  rw [rawRun_eq_none h]
  rfl

/-- The segments of the splitting are those that the scanner hands out. -/
theorem collect_of_splits {segments : Segments} (h : Splits isRaw source p segments) :
    (inText source p p).collect isRaw (source.drop p) = segments := by
  induction h with
  | rest h => exact collect_of_no_opening h
  | unclosed hq h =>
    rw [collect_of_opening hq, collect_of_unclosed h hq.2]
    simp [Segments.before]
  | comment hq hr _ ih =>
    rw [collect_of_opening hq, collect_congr ((next_of_closing hr).trans (if_pos rfl)), ih]
  | output hq hr _ ih =>
    rw [collect_of_opening hq, collect_eq, next_of_closing hr]
    simp only [reduceCtorEq, if_false, if_true, ih, before_before]
  | logic hq hr hraw _ ih =>
    rw [collect_of_opening hq, collect_eq, next_of_closing hr]
    simp only [reduceCtorEq, if_false, hraw, Bool.false_eq_true, ih, before_before]
  | raw hq hr hraw he hf _ ih =>
    rw [collect_of_opening hq, collect_eq, next_of_closing hr]
    simp only [reduceCtorEq, if_false, hraw, if_true, takeRaw_eq_some he hf, ih, before_before]
  | unclosedRaw hq hr hraw h =>
    rw [collect_of_opening hq, collect_eq, next_of_closing hr]
    simp only [reduceCtorEq, if_false, hraw, if_true, takeRaw_eq_none h]
    simp [Segments.before]

end Scanner

/-- Every source has a splitting, from each place on. -/
theorem exists_splits (isRaw : List Char → Bool) (source : List Char) (p : Nat) :
    ∃ segments, Splits isRaw source p segments := by
  induction hsize : source.length - p using Nat.strong_induction_on generalizing p with
  | _ size ih =>
    subst hsize
    by_cases hopening : ∃ q, p ≤ q ∧ ∃ delimiter, OpensAt source delimiter q
    · obtain ⟨q, hq⟩ := exists_isFirst hopening
      obtain ⟨delimiter, hopens⟩ := hq.1.2
      have hfirst : FirstOpening source p delimiter q := ⟨hq, hopens⟩
      by_cases hclosing : ∃ r, q + 2 ≤ r ∧ ClosesAt source delimiter r
      · obtain ⟨r, hr⟩ := exists_isFirst hclosing
        have hlt := hr.1.2.lt_length
        have hpq := hq.1.1
        have hqr := hr.1.1
        obtain ⟨segments, hsegments⟩ := ih _ (by omega) (r + 2) rfl
        cases delimiter with
        | output => exact ⟨_, .output hfirst hr hsegments⟩
        | comment => exact ⟨_, .comment hfirst hr hsegments⟩
        | logic =>
          cases hraw : isRaw (between source (q + 2) r) with
          | false => exact ⟨_, .logic hfirst hr hraw hsegments⟩
          | true =>
            by_cases hends : ∃ e, r + 2 ≤ e ∧ ∃ f, RawEnds source e f
            · obtain ⟨e, he⟩ := exists_isFirst hends
              obtain ⟨f, hf⟩ := he.1.2
              have hre := he.1.1
              have hef := hf.2.1.1.1
              obtain ⟨segments, hsegments⟩ := ih _ (by omega) (f + 2) rfl
              exact ⟨_, .raw hfirst hr hraw he hf hsegments⟩
            · exact ⟨_, .unclosedRaw hfirst hr hraw fun e f he hf => hends ⟨e, he, f, hf⟩⟩
      · exact ⟨_, .unclosed hfirst fun r hr hcloses => hclosing ⟨r, hr, hcloses⟩⟩
    · exact ⟨_, .rest fun q delimiter hq hopens => hopening ⟨q, hq, delimiter, hopens⟩⟩

/-- The scanner hands out the segments of the splitting, whatever tags are taken for raw ones: the texts, the
tags and the raw bodies, and the error at the end, each with the line of its first character. -/
theorem Scanner.collect_eq_iff_splits (isRaw : List Char → Bool) (source : List Char) (segments : Segments) :
    (Scanner.start source 1).collect isRaw source = segments ↔ Splits isRaw source 0 segments := by
  have hstart : Scanner.start source 1 = inText source 0 0 := start_eq_inText source 0
  have hrun : ∀ {segments}, Splits isRaw source 0 segments →
      (Scanner.start source 1).collect isRaw source = segments := by
    intro segments h
    rw [hstart]
    exact collect_of_splits h
  constructor
  · rintro rfl
    obtain ⟨segments, h⟩ := exists_splits isRaw source 0
    rwa [hrun h]
  · exact hrun

end Stencil.Source
