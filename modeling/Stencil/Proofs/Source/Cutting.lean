import Stencil.Proofs.Source.Groups

/-!
How a text is cut into words. It is cut at the blanks that stand outside of all quotes and groups, and at
no other place, and nothing but these blanks is lost. So the words can be put together again with any
blanks between them. A text that is not cut closes what it did not open, or leaves something open.
-/
namespace Stencil.Source

/-- Words in their order, with blanks between them, and perhaps before and behind them, are the text. -/
inductive Spaced : List (List Char) → List Char → Prop
  | nil : Spaced [] []
  | blank {c : Char} {parts : List (List Char)} {text : List Char} (hblank : Text.isBlank c = true)
      (hrest : Spaced parts text) : Spaced parts (c :: text)
  | last (word : List Char) : Spaced [word] word
  | word (word : List Char) {c : Char} {parts : List (List Char)} {text : List Char}
      (hblank : Text.isBlank c = true) (hrest : Spaced parts text) : Spaced (word :: parts) (word ++ c :: text)

/-- Between the two texts stands a blank of the whole that is outside of all quotes and groups. -/
def BlankBetween (before rest text : List Char) : Prop :=
  BalancedText before ∧ ∃ c, Text.isBlank c = true ∧ text = before ++ c :: rest

/-- A word in one piece. -/
structure Undivided (word : List Char) : Prop where
  nonempty : word ≠ []
  balanced : BalancedText word
  unspaced : ∀ before rest, ¬ BlankBetween before rest word

/-- The text behind another one, without its blanks that are outside of all quotes and groups. -/
def keptBehind : List Char → List Char → List Char
  | _, [] => []
  | before, c :: rest =>
    if Text.isBlank c = true ∧ BalancedText before then keptBehind (before ++ [c]) rest
    else c :: keptBehind (before ++ [c]) rest

/-- A text without its blanks that are outside of all quotes and groups. -/
def kept (text : List Char) : List Char := keptBehind [] text

variable {nesting : Nesting} {parts front back : List (List Char)} {text before rest word gap : List Char}
  {c : Char}

theorem balancedText_blank (hblank : Text.isBlank c = true) : BalancedText [c] := by
  obtain ⟨hquote, hopener, hcloser⟩ := isQuote_of_isBlank hblank
  exact .plain (not_mem_delimiters hquote hopener hcloser)

namespace Spaced

theorem blanks (hgap : ∀ c ∈ gap, Text.isBlank c = true) (h : Spaced parts text) :
    Spaced parts (gap ++ text) := by
  induction gap with
  | nil => exact h
  | cons c gap ih =>
    obtain ⟨hblank, hrest⟩ := List.forall_mem_cons.mp hgap
    exact .blank hblank (ih hrest)

/-- Words with the same blanks between any two of them. -/
theorem intercalate (hne : gap ≠ []) (hgap : ∀ c ∈ gap, Text.isBlank c = true) :
    Spaced parts (gap.intercalate parts) := by
  obtain ⟨c, gap, rfl⟩ := List.exists_cons_of_ne_nil hne
  obtain ⟨hblank, hrest⟩ := List.forall_mem_cons.mp hgap
  induction parts with
  | nil => exact .nil
  | cons word parts ih =>
    cases parts with
    | nil =>
      rw [List.intercalate_singleton]
      exact .last word
    | cons next parts =>
      rw [List.intercalate_cons_cons, List.append_assoc]
      exact .word word hblank (blanks hrest ih)

theorem balanced (h : Spaced parts text) (hparts : ∀ word ∈ parts, BalancedText word) : BalancedText text := by
  induction h with
  | nil => exact .nil
  | blank hblank _ ih => exact (balancedText_blank hblank).append (ih hparts)
  | last word => exact hparts word (List.mem_singleton_self word)
  | word word hblank _ ih =>
    obtain ⟨hword, hparts⟩ := List.forall_mem_cons.mp hparts
    exact hword.append ((balancedText_blank hblank).append (ih hparts))

theorem length_le (h : Spaced parts text) (hmem : word ∈ parts) : word.length ≤ text.length := by
  induction h with
  | nil => cases hmem
  | blank _ _ ih =>
    have hle := ih hmem
    rw [List.length_cons]
    omega
  | last =>
    obtain rfl := List.mem_singleton.mp hmem
    exact le_rfl
  | word first _ _ ih =>
    rw [List.length_append, List.length_cons]
    rcases List.mem_cons.mp hmem with rfl | hmem
    · omega
    · have hle := ih hmem
      omega

/-- Two words that follow each other have a blank between them. -/
theorem split (h : Spaced (front ++ back) text) (hfront : front ≠ []) (hback : back ≠ []) :
    ∃ before c rest, text = before ++ c :: rest ∧ Text.isBlank c = true ∧ Spaced front before ∧
      Spaced back rest := by
  generalize hparts : front ++ back = parts at h
  induction h generalizing front with
  | nil => exact absurd (List.append_eq_nil_iff.mp hparts).1 hfront
  | @blank c parts text hblank _ ih =>
    obtain ⟨before, d, rest, rfl, hd, hbefore, hrest⟩ := ih hfront hparts
    exact ⟨c :: before, d, rest, rfl, hd, .blank hblank hbefore, hrest⟩
  | last word =>
    obtain ⟨first, front, rfl⟩ := List.exists_cons_of_ne_nil hfront
    obtain ⟨-, hnil⟩ := List.cons.inj hparts
    exact absurd (List.append_eq_nil_iff.mp hnil).2 hback
  | @word word c parts text hblank hrest ih =>
    obtain ⟨first, front, rfl⟩ := List.exists_cons_of_ne_nil hfront
    obtain ⟨rfl, rfl⟩ := List.cons.inj hparts
    cases front with
    | nil => exact ⟨first, c, text, rfl, hblank, .last first, hrest⟩
    | cons second front =>
      obtain ⟨before, d, rest, rfl, hd, hbefore, hbehind⟩ := ih (List.cons_ne_nil second front) rfl
      exact ⟨first ++ c :: before, d, rest, by simp, hd, .word first hblank hbefore, hbehind⟩

end Spaced

/-- The words of a text are found in it in their order, and all else is blank. -/
theorem spaced_of_wordsFrom (h : wordsFrom nesting word text = .ok parts) :
    Spaced parts (word.reverse ++ text) := by
  induction text generalizing nesting word parts with
  | nil =>
    rw [wordsFrom] at h
    split at h
    · cases h
      cases word with
      | nil => exact .nil
      | cons c word =>
        rw [List.append_nil]
        exact .last _
    · cases h
  | cons c text ih =>
    have hgoesOn : (c :: word).reverse ++ text = word.reverse ++ c :: text := by simp
    rw [wordsFrom] at h
    split at h
    · cases h
    · exact hgoesOn ▸ ih h
    · split at h
      · rename_i hblank
        obtain ⟨found, hrest, rfl⟩ := map_eq_ok.mp h
        cases word with
        | nil => exact .blank hblank (ih hrest)
        | cons d word => exact .word _ hblank (ih hrest)
      · exact hgoesOn ▸ ih h

theorem endWord_append (front back : List (List Char)) (word : List Char) :
    endWord word (front ++ back) = endWord word front ++ back := by
  unfold endWord
  split <;> rfl

/-- A blank outside of all quotes and groups cuts the text, and both sides are cut as if by themselves. -/
theorem wordsFrom_blank (hbefore : nesting.after? before = some .start) (hblank : Text.isBlank c = true) :
    wordsFrom nesting word (before ++ c :: rest) = .ok parts ↔ ∃ front back, parts = front ++ back ∧
      wordsFrom nesting word before = .ok front ∧ wordsFrom .start [] rest = .ok back := by
  induction before generalizing nesting word parts with
  | nil =>
    cases hbefore
    obtain ⟨hquote, hopener, hcloser⟩ := isQuote_of_isBlank hblank
    have hstep : Nesting.start.step c = (.start, .top) := by
      simp [Nesting.step, Nesting.start, hquote, hopener, hcloser]
    have hword : wordsFrom .start word [] = .ok (endWord word []) := by
      rw [wordsFrom, if_pos (by rw [Bool.or_comm]; rfl)]
    rw [List.nil_append, hword, wordsFrom, hstep]
    simp only [if_pos hblank]
    rw [map_eq_ok]
    constructor
    · rintro ⟨back, hback, rfl⟩
      exact ⟨_, back, endWord_append [] back word, rfl, hback⟩
    · rintro ⟨front, back, rfl, hfront, hback⟩
      cases hfront
      exact ⟨back, hback, endWord_append [] back word⟩
  | cons d before ih =>
    obtain ⟨hstray, hafter⟩ := Nesting.after?_cons_eq_some hbefore
    rw [List.cons_append, wordsFrom, wordsFrom]
    generalize nesting.step d = result at hstray hafter
    obtain ⟨next, place⟩ := result
    cases place with
    | stray => exact absurd rfl hstray
    | inside => exact ih hafter
    | top =>
      by_cases hd : Text.isBlank d = true
      · simp only [if_pos hd]
        rw [map_eq_ok]
        constructor
        · rintro ⟨found, hfound, rfl⟩
          obtain ⟨front, back, rfl, hfront, hback⟩ := (ih hafter).mp hfound
          exact ⟨_, back, endWord_append front back word, map_eq_ok.mpr ⟨front, hfront, rfl⟩, hback⟩
        · rintro ⟨front, back, rfl, hfront, hback⟩
          obtain ⟨found, hfound, rfl⟩ := map_eq_ok.mp hfront
          exact ⟨found ++ back, (ih hafter).mpr ⟨found, back, rfl, hfound, hback⟩,
            endWord_append found back word⟩
      · simp only [if_neg hd]
        exact ih hafter

theorem words_blank (h : BlankBetween before rest text) : words text = .ok parts ↔
    ∃ front back, parts = front ++ back ∧ words before = .ok front ∧ words rest = .ok back := by
  obtain ⟨hbefore, c, hblank, rfl⟩ := h
  simp only [words_eq_ok]
  exact wordsFrom_blank (balancedText_iff.mp hbefore) hblank

theorem spaced_of_words (h : words text = .ok parts) : Spaced parts text :=
  spaced_of_wordsFrom (words_eq_ok.mp h)

/-- Each word of a text is in one piece. -/
theorem undivided_of_mem (h : words text = .ok parts) (hmem : word ∈ parts) : Undivided word := by
  have hword := isWord_of_mem h hmem
  obtain ⟨⟨first, hfirst, -⟩, -⟩ := hword.ends
  refine ⟨List.ne_nil_of_mem (List.mem_of_mem_head? hfirst), balancedText_iff.mpr hword.closed, ?_⟩
  -- The word is its only word, so it would be one of those before or behind the blank.
  intro before rest hbetween
  obtain ⟨front, back, hparts, hbefore, hrest⟩ := (words_blank hbetween).mp hword.alone
  obtain ⟨-, c, -, hwhole⟩ := hbetween
  have hlength : word.length = before.length + (rest.length + 1) := by
    rw [hwhole, List.length_append, List.length_cons]
  have hside : word ∈ front ∨ word ∈ back := by
    rw [← List.mem_append, ← hparts]
    exact List.mem_singleton_self word
  rcases hside with hside | hside
  · have hle := (spaced_of_words hbefore).length_le hside
    omega
  · have hle := (spaced_of_words hrest).length_le hside
    omega

theorem Undivided.words_eq (h : Undivided word) : words word = .ok [word] := by
  obtain ⟨parts, hparts⟩ := exists_words_iff.mpr (balancedText_iff.mp h.balanced)
  cases spaced_of_words hparts with
  | nil => exact absurd rfl h.nonempty
  | @blank c _ text hblank _ => exact absurd ⟨.nil, c, hblank, rfl⟩ (h.unspaced [] text)
  | last => exact hparts
  | @word first c _ text hblank _ =>
    have hfirst := (undivided_of_mem hparts List.mem_cons_self).balanced
    exact absurd ⟨hfirst, c, hblank, rfl⟩ (h.unspaced first text)

/-- A text is cut into these words if and only if they are in one piece each and the text is made of them
and of blanks that separate them. -/
theorem words_eq_ok_iff : words text = .ok parts ↔ Spaced parts text ∧ ∀ word ∈ parts, Undivided word := by
  constructor
  · intro h
    exact ⟨spaced_of_words h, fun word hmem => undivided_of_mem h hmem⟩
  · rintro ⟨hspaced, hparts⟩
    induction hspaced with
    | nil => rfl
    | @blank c parts text hblank _ ih =>
      exact (words_blank ⟨.nil, c, hblank, rfl⟩).mpr ⟨[], parts, rfl, rfl, ih hparts⟩
    | last word => exact (hparts word (List.mem_singleton_self word)).words_eq
    | @word word c parts text hblank _ ih =>
      obtain ⟨hword, hparts⟩ := List.forall_mem_cons.mp hparts
      exact (words_blank ⟨hword.balanced, c, hblank, rfl⟩).mpr ⟨[word], parts, rfl, hword.words_eq, ih hparts⟩

/-! What is lost. -/

theorem keptBehind_append (text : List Char)
    (h : ∀ front c rest, word = front ++ c :: rest → BalancedText (before ++ front) → Text.isBlank c = false) :
    keptBehind before (word ++ text) = word ++ keptBehind (before ++ word) text := by
  induction word generalizing before with
  | nil => rw [List.nil_append, List.nil_append, List.append_nil]
  | cons c word ih =>
    have hkeep : ¬ (Text.isBlank c = true ∧ BalancedText before) := by
      rintro ⟨hblank, hbefore⟩
      have hnone := h [] c word rfl (by rwa [List.append_nil])
      rw [hblank] at hnone
      cases hnone
    have hrest : ∀ front d rest, word = front ++ d :: rest → BalancedText (before ++ [c] ++ front) →
        Text.isBlank d = false := by
      rintro front d rest rfl hfront
      exact h (c :: front) d rest rfl (by simpa using hfront)
    rw [List.cons_append, keptBehind, if_neg hkeep, ih hrest, List.append_assoc]
    rfl

theorem keptBehind_word (hbefore : BalancedText before) (h : Undivided word) (text : List Char) :
    keptBehind before (word ++ text) = word ++ keptBehind (before ++ word) text := by
  refine keptBehind_append text ?_
  intro front c rest hword hfront
  rw [hbefore.append_iff] at hfront
  exact Bool.eq_false_iff.mpr fun hblank => h.unspaced front rest ⟨hfront, c, hblank, hword⟩

theorem keptBehind_blank (hbefore : BalancedText before) (hblank : Text.isBlank c = true) (text : List Char) :
    keptBehind before (c :: text) = keptBehind (before ++ [c]) text := by
  rw [keptBehind, if_pos ⟨hblank, hbefore⟩]

/-- Without the blanks that separate them the words of a text stand next to each other. -/
theorem Spaced.keptBehind_eq (h : Spaced parts text) (hparts : ∀ word ∈ parts, Undivided word)
    (hbefore : BalancedText before) : keptBehind before text = parts.flatten := by
  induction h generalizing before with
  | nil => rfl
  | blank hblank _ ih =>
    rw [keptBehind_blank hbefore hblank, ih hparts (hbefore.append (balancedText_blank hblank))]
  | last word =>
    have hword := keptBehind_word hbefore (hparts word (List.mem_singleton_self word)) []
    rw [List.append_nil, keptBehind, List.append_nil] at hword
    rw [hword, List.flatten_singleton]
  | word word hblank _ ih =>
    obtain ⟨hword, hparts⟩ := List.forall_mem_cons.mp hparts
    have hbehind := hbefore.append hword.balanced
    rw [keptBehind_word hbefore hword, keptBehind_blank hbehind hblank,
      ih hparts (hbehind.append (balancedText_blank hblank)), List.flatten_cons]

/-! Why a text is not cut. -/

/-- The cutting stops at a stray closer, or at the end of the text, if something is open there. -/
theorem fault_of_wordsFrom {fault : WordFault} (h : wordsFrom nesting word text = .error fault) :
    (∃ closer, fault = .stray closer) ∧ nesting.after? text = none ∨
      (∃ front, fault = .unclosed front) ∧ ∃ after, nesting.after? text = some after ∧ after ≠ .start := by
  induction text generalizing nesting word with
  | nil =>
    rw [wordsFrom] at h
    split at h
    · cases h
    · rename_i hopen
      cases h
      refine Or.inr ⟨⟨_, rfl⟩, nesting, rfl, ?_⟩
      rintro rfl
      exact hopen (Bool.or_true _)
  | cons c text ih =>
    rw [wordsFrom] at h
    split at h
    · rename_i next hstep
      cases h
      refine Or.inl ⟨⟨c, rfl⟩, ?_⟩
      rw [Nesting.after?, hstep, if_pos rfl]
    · rename_i next hstep
      rw [Nesting.after?_of_step hstep (by decide)]
      exact ih h
    · rename_i next hstep
      rw [Nesting.after?_of_step hstep (by decide)]
      split at h
      · exact ih (map_eq_error.mp h)
      · exact ih h

/-- What is blamed: a closer that does not match, or what is open at the end. -/
theorem blame_of_words {complaint : Complaint} (h : words text = .error complaint) :
    HasStray text ∧ (∃ message, complaint = .malformed message) ∨
      EndsOpen text ∧ ∃ argument, complaint = .unclosedArgument argument := by
  rw [hasStray_iff, endsOpen_iff]
  unfold words at h
  split at h
  · cases h
  · rename_i hfault
    cases h
    rcases fault_of_wordsFrom hfault with ⟨-, hnone⟩ | ⟨⟨_, hother⟩, -⟩
    · exact Or.inl ⟨hnone, _, rfl⟩
    · cases hother
  · rename_i hfault
    cases h
    rcases fault_of_wordsFrom hfault with ⟨⟨_, hother⟩, -⟩ | ⟨-, hopen⟩
    · cases hother
    · exact Or.inr ⟨hopen, _, rfl⟩

/-- A text is not cut if and only if a closer in it does not match or something is open at its end. -/
theorem exists_words_error_iff :
    (∃ complaint, words text = .error complaint) ↔ HasStray text ∨ EndsOpen text := by
  constructor
  · rintro ⟨complaint, hfails⟩
    exact (blame_of_words hfails).imp And.left And.left
  · intro hopen
    cases hwords : words text with
    | error complaint => exact ⟨complaint, rfl⟩
    | ok parts =>
      have hafter := exists_words_iff.mp ⟨parts, hwords⟩
      rw [hasStray_iff, endsOpen_iff, hafter] at hopen
      rcases hopen with hnone | ⟨after, hsame, hne⟩
      · cases hnone
      · exact absurd (Option.some.inj hsame).symm hne

/-- Cutting a text fails if and only if one of its closers does not match or something in it stays open, and
which of the two it was is told. Otherwise the words are all of the text but for its blanks outside of
quotes and groups, each word is in one piece, two words are separate exactly where such a blank stands, and
from the words with blanks between them the same words are cut again. -/
theorem words_exact (text : List Char) :
    ((∃ complaint, words text = .error complaint) ↔ HasStray text ∨ EndsOpen text) ∧
      (∀ complaint, words text = .error complaint →
        HasStray text ∧ (∃ message, complaint = .malformed message) ∨
          EndsOpen text ∧ ∃ argument, complaint = .unclosedArgument argument) ∧
      ∀ parts, words text = .ok parts →
        kept text = parts.flatten ∧ Spaced parts text ∧ (∀ word ∈ parts, Undivided word) ∧
          (∀ before rest, BlankBetween before rest text →
            ∃ front back, parts = front ++ back ∧ words before = .ok front ∧ words rest = .ok back) ∧
          (∀ front back, parts = front ++ back → front ≠ [] → back ≠ [] →
            ∃ before rest, BlankBetween before rest text ∧ words before = .ok front ∧ words rest = .ok back) ∧
          ∀ gap, gap ≠ [] → (∀ c ∈ gap, Text.isBlank c = true) → words (gap.intercalate parts) = .ok parts := by
  refine ⟨exists_words_error_iff, fun _ => blame_of_words, ?_⟩
  intro parts hwords
  obtain ⟨hspaced, hparts⟩ := words_eq_ok_iff.mp hwords
  refine ⟨hspaced.keptBehind_eq hparts .nil, hspaced, hparts, ?_, ?_, ?_⟩
  · intro before rest hbetween
    exact (words_blank hbetween).mp hwords
  · rintro front back rfl hfront hback
    obtain ⟨hfrontParts, hbackParts⟩ := List.forall_mem_append.mp hparts
    obtain ⟨before, c, rest, rfl, hblank, hbefore, hrest⟩ := hspaced.split hfront hback
    have hbalanced := hbefore.balanced fun word hmem => (hfrontParts word hmem).balanced
    exact ⟨before, rest, ⟨hbalanced, c, hblank, rfl⟩, words_eq_ok_iff.mpr ⟨hbefore, hfrontParts⟩,
      words_eq_ok_iff.mpr ⟨hrest, hbackParts⟩⟩
  · intro gap hne hgap
    exact words_eq_ok_iff.mpr ⟨.intercalate hne hgap, hparts⟩

section Sample

/-- Three words; the first has a group behind its name, in which a quoted bracket stands. -/
def sampleText : List Char := " card(a, \")\")  [1 2] 'b \\' c' ".toList

def sampleParts : List (List Char) := ["card(a, \")\")", "[1 2]", "'b \\' c'"].map (·.toList)

theorem words_exact_card : words sampleText = .ok sampleParts ∧ kept sampleText = sampleParts.flatten ∧
    words ([' ', '\n'].intercalate sampleParts) = .ok sampleParts ∧
    ∃ complaint, words (sampleText ++ [')']) = .error complaint := by
  have hwords : words sampleText = .ok sampleParts := by rfl
  obtain ⟨hkept, -, -, -, -, hagain⟩ := (words_exact sampleText).2.2 sampleParts hwords
  have hblanks : ∀ c ∈ [' ', '\n'], Text.isBlank c = true :=
    List.forall_mem_cons.mpr ⟨rfl, List.forall_mem_singleton.mpr rfl⟩
  refine ⟨hwords, hkept, hagain [' ', '\n'] (by decide) hblanks, ?_⟩
  have hbalanced : BalancedText sampleText := by decide
  have hstray : HasStray (sampleText ++ [')']) := ⟨sampleText, ')', [], [], rfl, hbalanced, rfl, nofun⟩
  exact (words_exact (sampleText ++ [')'])).1.mpr (Or.inl hstray)

end Sample

end Stencil.Source
