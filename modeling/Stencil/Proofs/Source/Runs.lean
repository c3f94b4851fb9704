import Stencil.Proofs.Source.Scanning

/-!
The segments by recursion on the source, a run of text or of tag content at a time. They are those of the
splitting, hence those that the scanner hands out.
-/
namespace Stencil.Source

/-- The text up to the first opening, and the opening with what follows it. -/
def textRun : List Char → List Char × Option (Delimiter × List Char)
  | '\x7b' :: c :: rest =>
    match Delimiter.ofMark? c with
    | some delimiter => ([], some (delimiter, rest))
    | none =>
      let (text, tag?) := textRun (c :: rest)
      ('\x7b' :: text, tag?)
  | c :: rest =>
    let (text, tag?) := textRun rest
    (c :: text, tag?)
  | [] => ([], none)

theorem length_textRun {source text rest : List Char} {delimiter : Delimiter}
    (h : textRun source = (text, some (delimiter, rest))) :
    text.length + rest.length + 2 = source.length := by
  fun_induction textRun source generalizing text with
  | case1 c tail d hd =>
    simp only [Prod.mk.injEq, Option.some.injEq] at h
    obtain ⟨rfl, -, rfl⟩ := h
    simp
  | case2 c tail hc t tag? ht ih =>
    simp only [Prod.mk.injEq] at h
    obtain ⟨rfl, rfl⟩ := h
    have := ih ht
    simp only [List.length_cons] at this ⊢
    omega
  | case3 c tail hc t tag? ht ih =>
    simp only [Prod.mk.injEq] at h
    obtain ⟨rfl, rfl⟩ := h
    have := ih ht
    simp only [List.length_cons]
    omega
  | case4 => simp at h

/-- The segments of a source whose first character is on the line. -/
def segmentsFrom (line : Nat) (source : List Char) : Segments :=
  match htext : textRun source with
  | (text, none) => ⟨textSegment text line, none⟩
  | (text, some (delimiter, rest)) =>
    let front := textSegment text line
    let opened := line + lineEnds text
    match htag : tagRun delimiter.closing rest with
    | none => ⟨front, some (opened, .unclosedDelimiter delimiter.opening)⟩
    | some (content, after) =>
      let next := opened + lineEnds content
      match delimiter with
      | .comment => (segmentsFrom next after).before front
      | .output => (segmentsFrom next after).before (front ++ [.output content opened])
      | .logic =>
        if (TagText.ofContent content).opensRaw then
          match hraw : rawRun after with
          | none => ⟨front, some (opened, .unclosedRaw)⟩
          | some run =>
            (segmentsFrom (next + lineEnds run.body + lineEnds run.closer) run.after).before
              (front ++ [.raw content opened run.body run.closer])
        else (segmentsFrom next after).before (front ++ [.logic content opened])
termination_by source.length
decreasing_by
  all_goals
    have := length_textRun htext
    have := length_tagRun htag
    try have := length_rawRun hraw
    omega

variable {source : List Char} {p q place : Nat} {c : Char} {delimiter : Delimiter}

theorem textRun_cons_of_not_opens (hc : source[place]? = some c)
    (h : ∀ delimiter, ¬ OpensAt source delimiter place) :
    textRun (source.drop place) = (c :: (textRun (source.drop (place + 1))).1,
      (textRun (source.drop (place + 1))).2) := by
  rw [drop_eq_cons hc]
  cases hrest : source.drop (place + 1) with
  | nil =>
    rw [textRun]
    simp
  | cons d rest =>
    by_cases hbrace : c = '\x7b'
    · subst hbrace
      have hnone : Delimiter.ofMark? d = none := by
        rw [Option.eq_none_iff_forall_ne_some]
        intro delimiter hd
        refine h delimiter ⟨hc, ?_⟩
        rw [(getElem?_of_drop hrest).1, Delimiter.ofMark?_eq_some.mp hd]
      rw [textRun, hnone]
    · rw [textRun]
      rintro _ _ rfl -
      exact hbrace rfl

theorem textRun_of_first (h : FirstOpening source p delimiter q) :
    textRun (source.drop p) = (between source p q, some (delimiter, source.drop (q + 2))) := by
  obtain ⟨hfirst, hopens⟩ := h
  have hlength : q + 1 < source.length := (List.getElem?_eq_some_iff.mp hopens.2).1
  refine Nat.decreasingInduction' (fun place hlt hle hrun => ?_) hfirst.1.1 ?_
  · have hc : source[place]? = some source[place] := List.getElem?_eq_getElem (by omega)
    have hnot : ∀ delimiter, ¬ OpensAt source delimiter place := fun other hother =>
      hfirst.not_of_lt hle hlt ⟨other, hother⟩
    rw [textRun_cons_of_not_opens hc hnot, hrun, between_cons hc hlt]
  · rw [drop_of_opens hopens, textRun, Delimiter.ofMark?_eq_some.mpr rfl, between_self]

theorem textRun_of_no_opening (h : ∀ q delimiter, p ≤ q → ¬ OpensAt source delimiter q) :
    textRun (source.drop p) = (source.drop p, none) := by
  generalize hrest : source.drop p = rest
  induction rest generalizing p with
  | nil => rfl
  | cons c rest ih =>
    obtain ⟨hc, hrest'⟩ := getElem?_of_drop hrest
    have hrun := ih (fun q delimiter hq => h q delimiter (Nat.le_of_succ_le hq)) hrest'
    rw [← hrest, textRun_cons_of_not_opens hc fun delimiter => h p delimiter (Nat.le_refl p), hrest', hrun,
      drop_eq_cons hc, hrest']

/-- A tag ends at the first of its closings. -/
theorem tagRun_append {closing : Char} {content : List Char} (h : ¬ [closing, '\x7d'] <:+: content)
    (hclosing : closing ≠ '\x7d') (rest : List Char) :
    tagRun closing (content ++ closing :: '\x7d' :: rest) = some (content, rest) := by
  induction content with
  | nil =>
    rw [List.nil_append, tagRun, if_pos]
    · rfl
    · simp
  | cons c content ih =>
    have hrest := ih fun hwithin => h (List.infix_cons hwithin)
    rw [List.cons_append, tagRun, hrest, if_neg]
    · rfl
    · intro hcloses
      obtain ⟨hc, hhead⟩ := (Bool.and_eq_true _ _).mp hcloses
      obtain rfl := of_decide_eq_true hc
      have hhead' : (content ++ c :: '\x7d' :: rest).head? = some '\x7d' := of_decide_eq_true hhead
      cases content with
      | nil => exact hclosing (Option.some.inj hhead')
      | cons d content =>
        obtain rfl : d = '\x7d' := Option.some.inj hhead'
        exact h ⟨[], content, rfl⟩

theorem segmentsFrom_eq (line : Nat) (source : List Char) :
    segmentsFrom line source =
      match textRun source with
      | (text, none) => ⟨textSegment text line, none⟩
      | (text, some (delimiter, rest)) =>
        let front := textSegment text line
        let opened := line + lineEnds text
        match tagRun delimiter.closing rest with
        | none => ⟨front, some (opened, .unclosedDelimiter delimiter.opening)⟩
        | some (content, after) =>
          let next := opened + lineEnds content
          match delimiter with
          | .comment => (segmentsFrom next after).before front
          | .output => (segmentsFrom next after).before (front ++ [.output content opened])
          | .logic =>
            if (TagText.ofContent content).opensRaw then
              match rawRun after with
              | none => ⟨front, some (opened, .unclosedRaw)⟩
              | some run =>
                (segmentsFrom (next + lineEnds run.body + lineEnds run.closer) run.after).before
                  (front ++ [.raw content opened run.body run.closer])
            else (segmentsFrom next after).before (front ++ [.logic content opened]) := by
  rw [segmentsFrom]
  split
  · rename_i text htext
    simp only [htext]
  · rename_i text delimiter rest htext
    simp only [htext]
    split
    · rename_i htag
      simp only [htag]
    · rename_i content after htag
      simp only [htag]
      cases delimiter with
      | output => rfl
      | comment => rfl
      | logic =>
        dsimp only
        split
        · split <;> simp only [*]
        · rfl

theorem segmentsFrom_nil (line : Nat) : segmentsFrom line [] = ⟨[], none⟩ := by
  rw [segmentsFrom_eq]
  rfl

theorem FirstOpening.lineAt_eq (h : FirstOpening source p delimiter q) :
    lineAt source p + lineEnds (between source p q) = lineAt source q :=
  (lineAt_append h.1.1.1).symm

/-- The line behind a tag. -/
theorem lineAt_tag {r : Nat} (hopens : OpensAt source delimiter q)
    (hr : IsFirst (ClosesAt source delimiter) (q + 2) r) :
    lineAt source q + lineEnds (between source (q + 2) r) = lineAt source (r + 2) := by
  rw [← lineAt_of_opens hopens, ← lineAt_append hr.1.1, lineAt_of_closes hr.1.2]

/-- The recursion on runs is the splitting that takes the bodies of raw tags as they stand. -/
theorem segmentsFrom_of_splits {segments : Segments}
    (h : Splits (fun content => (TagText.ofContent content).opensRaw) source p segments) :
    segmentsFrom (lineAt source p) (source.drop p) = segments := by
  induction h with
  | rest h => rw [segmentsFrom_eq, textRun_of_no_opening h]
  | unclosed hq h =>
    rw [segmentsFrom_eq]
    simp only [textRun_of_first hq, tagRun_eq_none h, hq.lineAt_eq]
  | comment hq hr _ ih =>
    rw [segmentsFrom_eq]
    simp only [textRun_of_first hq, tagRun_eq_some hr, hq.lineAt_eq, lineAt_tag hq.2 hr, ih]
  | output hq hr _ ih =>
    rw [segmentsFrom_eq]
    simp only [textRun_of_first hq, tagRun_eq_some hr, hq.lineAt_eq, lineAt_tag hq.2 hr, ih]
  | logic hq hr hraw _ ih =>
    rw [segmentsFrom_eq]
    simp only [textRun_of_first hq, tagRun_eq_some hr, hq.lineAt_eq, lineAt_tag hq.2 hr, hraw, ih,
      Bool.false_eq_true, if_false]
  | @raw p q r e f segments hq hr hraw he hf _ ih =>
    have hline : lineAt source e = lineAt source (r + 2) + lineEnds (between source (r + 2) e) :=
      lineAt_append he.1.1
    rw [segmentsFrom_eq]
    simp only [textRun_of_first hq, tagRun_eq_some hr, hq.lineAt_eq, lineAt_tag hq.2 hr, hraw, if_true,
      rawRun_eq_some he hf, ← hline, lineAt_tag hf.1 hf.2.1, ih]
  | unclosedRaw hq hr hraw h =>
    rw [segmentsFrom_eq]
    simp only [textRun_of_first hq, tagRun_eq_some hr, hq.lineAt_eq, hraw, if_true, rawRun_eq_none h]

theorem segments_eq (source : String) : segments source = segmentsFrom 1 source.toList := by
  obtain ⟨segments, h⟩ := exists_splits (fun content => (TagText.ofContent content).opensRaw) source.toList 0
  have hruns := segmentsFrom_of_splits h
  have hscanned := Scanner.collect_of_splits h
  exact hscanned.trans hruns.symm

end Stencil.Source
