import Stencil.Proofs.Expr.Spelling
import Stencil.Proofs.Result
import Stencil.Proofs.Source.TopLevel

/-!
The words of a text. A text is cut into words if and only if all its quotes and brackets are closed at its
end; each of the words is closed by itself, is cut no further, and has no blank at either end.
-/
namespace Stencil.Source

open Lexeme (HasEnds)

theorem isQuote_of_isBlank {c : Char} (h : Text.isBlank c = true) :
    isQuote c = false ∧ closerOf? c = none ∧ isCloser c = false :=
  isQuote_of_test h (by decide)

namespace Nesting

variable {nesting next after : Nesting} {place : Place} {c : Char} {text : List Char}

theorem after?_of_step (hstep : nesting.step c = (next, place)) (hstray : place ≠ .stray) :
    nesting.after? (c :: text) = next.after? text := by
  rw [Nesting.after?, hstep, if_neg hstray]

theorem after?_cons_eq_some (h : nesting.after? (c :: text) = some after) :
    (nesting.step c).2 ≠ .stray ∧ (nesting.step c).1.after? text = some after := by
  rw [Nesting.after?] at h
  split at h
  · cases h
  · rename_i hstray
    exact ⟨hstray, h⟩

/-- What one character does: inside of quotes behind a backslash, as a backslash, as the closing quote or as
any other character, and outside as a quote, an opening or a closing bracket, or any other character. -/
inductive Steps (nesting : Nesting) (c : Char) : Nesting → Place → Prop
  | skips {quote : Char} (hopen : nesting.quote = some quote) (hescaped : nesting.escaped = true) :
      Steps nesting c { nesting with escaped := false } .inside
  | escapes {quote : Char} (hopen : nesting.quote = some quote) (hescaped : nesting.escaped = false)
      (hc : c = '\\') : Steps nesting c { nesting with escaped := true } .inside
  | unquotes {quote : Char} (hopen : nesting.quote = some quote) (hescaped : nesting.escaped = false)
      (hc : c = quote) : Steps nesting c { nesting with quote := none } .inside
  | quoted {quote : Char} (hopen : nesting.quote = some quote) (hescaped : nesting.escaped = false)
      (hslash : c ≠ '\\') (hc : c ≠ quote) : Steps nesting c nesting .inside
  | quotes (hopen : nesting.quote = none) (hc : isQuote c = true) :
      Steps nesting c { nesting with quote := some c } .inside
  | opens {closer : Char} (hopen : nesting.quote = none) (hc : closerOf? c = some closer) :
      Steps nesting c { nesting with closers := closer :: nesting.closers } .inside
  | closes (hopen : nesting.quote = none) (hquote : isQuote c = false) (hc : isCloser c = true) :
      Steps nesting c { nesting with closers := nesting.closers.tail } .inside
  | stray (hopen : nesting.quote = none) (hquote : isQuote c = false) (hc : isCloser c = true) :
      Steps nesting c nesting .stray
  | grouped (hopen : nesting.quote = none) (hquote : isQuote c = false) (htop : nesting.isTop = false) :
      Steps nesting c nesting .inside
  | top (hopen : nesting.quote = none) (hquote : isQuote c = false) (htop : nesting.isTop = true) :
      Steps nesting c nesting .top

theorem steps_of_step (h : nesting.step c = (next, place)) : nesting.Steps c next place := by
  obtain ⟨quote?, escaped, closers⟩ := nesting
  cases quote? with
  | some quote =>
    simp only [Nesting.step, stepInQuote] at h
    obtain ⟨rfl, rfl⟩ := Prod.mk.inj h
    split
    · rename_i hescaped
      exact .skips rfl hescaped
    · rename_i hescaped
      have hplain := Bool.eq_false_iff.mpr hescaped
      split
      · rename_i hslash
        exact .escapes rfl hplain hslash
      · rename_i hslash
        split
        · rename_i hquote
          exact .unquotes rfl hplain hquote
        · rename_i hquote
          exact .quoted rfl hplain hslash hquote
  | none =>
    simp only [Nesting.step] at h
    split at h
    · rename_i hquote
      cases h
      exact .quotes rfl hquote
    · rename_i hquote
      have hplain := Bool.eq_false_iff.mpr hquote
      split at h
      · rename_i closer hcloser
        cases h
        exact .opens rfl hcloser
      · split at h
        · rename_i hcloser
          split at h
          · cases h
            exact .closes rfl hplain hcloser
          · cases h
            exact .stray rfl hplain hcloser
        · obtain ⟨rfl, hplace⟩ := Prod.mk.inj h
          split at hplace
          · rename_i hempty
            cases hplace
            exact .top rfl hplain hempty
          · rename_i hempty
            cases hplace
            exact .grouped rfl hplain (Bool.eq_false_iff.mpr hempty)

/-- A nesting that a text can lead to: what is open as a quote is one, and a backslash counts only
inside of quotes. -/
structure Sound (nesting : Nesting) : Prop where
  quote : ∀ quote, nesting.quote = some quote → isQuote quote = true
  escaped : nesting.quote = none → nesting.escaped = false

theorem sound_start : Sound .start := ⟨nofun, fun _ => rfl⟩

namespace Sound

theorem eq_start (h : nesting.Sound) (htop : nesting.isTop = true) : nesting = .start := by
  obtain ⟨quote, escaped, closers⟩ := nesting
  obtain ⟨hquote, hclosers⟩ := (Bool.and_eq_true _ _).mp htop
  obtain rfl : quote = none := Option.isNone_iff_eq_none.mp hquote
  obtain rfl : closers = [] := List.isEmpty_iff.mp hclosers
  obtain rfl : escaped = false := h.escaped rfl
  rfl

theorem step (h : nesting.Sound) (hstep : nesting.step c = (next, place)) : next.Sound := by
  have hstays : ∀ quote escaped, nesting.quote = some quote → Sound { nesting with escaped } :=
    fun quote escaped hopen => ⟨h.quote, fun hnone => absurd (hopen.symm.trans hnone) nofun⟩
  cases steps_of_step hstep with
  | skips hopen => exact hstays _ _ hopen
  | escapes hopen => exact hstays _ _ hopen
  | unquotes _ hescaped => exact ⟨nofun, fun _ => hescaped⟩
  | quotes hopen hc => exact ⟨fun quote heq => Option.some.inj heq ▸ hc, nofun⟩
  | opens hopen => exact ⟨h.quote, fun _ => h.escaped hopen⟩
  | closes hopen => exact ⟨h.quote, fun _ => h.escaped hopen⟩
  | _ => exact h

end Sound

/-- What is read at the top level leaves the nesting alone. -/
theorem of_step_top (h : nesting.step c = (next, .top)) : next = nesting ∧ nesting.isTop = true := by
  cases steps_of_step h with
  | top _ _ htop => exact ⟨rfl, htop⟩

/-- A blank opens and closes nothing, so it leads to the top level from there alone. -/
theorem step_blank (h : nesting.Sound) (hblank : Text.isBlank c = true) (hstep : nesting.step c = (next, place))
    (htop : nesting.isTop = true ∨ next.isTop = true) : nesting.isTop = true ∧ place = .top := by
  obtain ⟨hnoquote, hopens, hcloses⟩ := isQuote_of_isBlank hblank
  cases steps_of_step hstep with
  | skips hopen => simp [isTop, hopen] at htop
  | escapes hopen => simp [isTop, hopen] at htop
  | unquotes hopen _ hc =>
    have hquote := h.quote _ hopen
    rw [← hc, hnoquote] at hquote
    cases hquote
  | quoted hopen => simp [isTop, hopen] at htop
  | quotes _ hc =>
    rw [hnoquote] at hc
    cases hc
  | opens _ hc =>
    rw [hopens] at hc
    cases hc
  | closes _ _ hc | stray _ _ hc =>
    rw [hcloses] at hc
    cases hc
  | grouped _ _ hgrouped => simp [hgrouped] at htop
  | top _ _ hstands => exact ⟨hstands, rfl⟩

end Nesting

section Words

variable {nesting next : Nesting} {place : Place} {text word : List Char} {parts : List (List Char)} {c : Char}

theorem words_eq_ok : words text = .ok parts ↔ wordsFrom .start [] text = .ok parts := by
  unfold words
  cases wordsFrom .start [] text with
  | ok found =>
    constructor <;> rintro ⟨⟩ <;> rfl
  | error fault => cases fault <;> exact ⟨nofun, nofun⟩

theorem mem_endWord : word ∈ endWord text parts ↔ text ≠ [] ∧ word = text.reverse ∨ word ∈ parts := by
  unfold endWord
  cases text <;> simp

/-- What is cut into words is closed. -/
theorem after?_of_wordsFrom (hsound : nesting.Sound) (hword : word = [] → nesting.isTop = true)
    (h : wordsFrom nesting word text = .ok parts) : nesting.after? text = some .start := by
  induction text generalizing nesting word parts with
  | nil =>
    rw [wordsFrom] at h
    split at h
    · rename_i hends
      have htop : nesting.isTop = true := by
        rcases (Bool.or_eq_true _ _).mp hends with hempty | htop
        · exact hword (List.isEmpty_iff.mp hempty)
        · exact htop
      exact congrArg some (hsound.eq_start htop)
    · cases h
  | cons c text ih =>
    rw [wordsFrom] at h
    split at h
    · cases h
    · rename_i next hstep
      rw [Nesting.after?_of_step hstep (by decide)]
      exact ih (hsound.step hstep) (fun hnil => absurd hnil (List.cons_ne_nil c word)) h
    · rename_i next hstep
      obtain ⟨hnext, htop⟩ := Nesting.of_step_top hstep
      rw [Nesting.after?_of_step hstep (by decide)]
      split at h
      · obtain ⟨found, hrest, -⟩ := map_eq_ok.mp h
        exact ih (hsound.step hstep) (fun _ => hnext ▸ htop) hrest
      · exact ih (hsound.step hstep) (fun hnil => absurd hnil (List.cons_ne_nil c word)) h

/-- A text is cut into words if and only if its quotes and brackets are closed. -/
theorem exists_words_iff : (∃ parts, words text = .ok parts) ↔ Nesting.start.after? text = some .start := by
  constructor
  · rintro ⟨parts, hparts⟩
    exact after?_of_wordsFrom Nesting.sound_start (fun _ => rfl) (words_eq_ok.mp hparts)
  · intro hclosed
    exact exists_words_of_after? hclosed rfl

/-- A word that a text is cut into. -/
structure IsWord (word : List Char) : Prop where
  alone : words word = .ok [word]
  ends : HasEnds word

theorem IsWord.closed (h : IsWord word) : Nesting.start.after? word = some .start :=
  exists_words_iff.mp ⟨_, h.alone⟩

/-- A word that has begun, given in reverse. Cutting goes on from it in the same way whatever came before;
its first character is no blank, and its last one is none where the word can end. -/
structure Begun (nesting : Nesting) (word : List Char) : Prop where
  goesOn : ∀ rest, wordsFrom .start [] (word.reverse ++ rest) = wordsFrom nesting word rest
  sound : nesting.Sound
  top : word = [] → nesting.isTop = true
  first : ∀ c, word.getLast? = some c → Text.isBlank c = false
  last : nesting.isTop = true → ∀ c, word.head? = some c → Text.isBlank c = false

theorem begun_start : Begun .start [] where
  goesOn _ := rfl
  sound := Nesting.sound_start
  top _ := rfl
  first := nofun
  last := nofun

namespace Begun

theorem cons (h : Begun nesting word) (hstep : nesting.step c = (next, place)) (hstray : place ≠ .stray)
    (hblank : place = .top → Text.isBlank c = false) : Begun next (c :: word) where
  goesOn rest := by
    rw [List.reverse_cons, List.append_assoc, h.goesOn, List.singleton_append, wordsFrom, hstep]
    cases place with
    | stray => exact absurd rfl hstray
    | inside => rfl
    | top => simp [hblank rfl]
  sound := h.sound.step hstep
  top := nofun
  first d hd := by
    cases word with
    | cons d' word => exact h.first d (by rwa [List.getLast?_cons_cons] at hd)
    | nil =>
      obtain rfl : c = d := Option.some.inj hd
      by_contra hbad
      obtain ⟨-, rfl⟩ := Nesting.step_blank h.sound ((Bool.not_eq_false _).mp hbad) hstep
        (Or.inl (h.top rfl))
      exact hbad (hblank rfl)
  last htop d hd := by
    obtain rfl : c = d := Option.some.inj hd
    by_contra hbad
    obtain ⟨-, rfl⟩ := Nesting.step_blank h.sound ((Bool.not_eq_false _).mp hbad) hstep (Or.inr htop)
    exact hbad (hblank rfl)

theorem isWord_reverse (h : Begun nesting word) (hne : word ≠ []) (htop : nesting.isTop = true) :
    IsWord word.reverse where
  alone := by
    have hrun := h.goesOn []
    rw [List.append_nil, wordsFrom, htop, Bool.or_true, if_pos rfl] at hrun
    refine words_eq_ok.mpr (hrun.trans ?_)
    simp [endWord, hne]
  ends := by
    constructor
    · refine ⟨word.getLast hne, ?_, h.first _ (List.getLast?_eq_some_getLast hne)⟩
      rw [List.head?_reverse, List.getLast?_eq_some_getLast hne]
    · refine ⟨word.head hne, ?_, h.last htop _ (List.head?_eq_some_head hne)⟩
      rw [List.getLast?_reverse, List.head?_eq_some_head hne]

theorem isWord (h : Begun nesting word) (hrun : wordsFrom nesting word text = .ok parts) :
    ∀ part ∈ parts, IsWord part := by
  induction text generalizing nesting word parts with
  | nil =>
    rw [wordsFrom] at hrun
    split at hrun
    · rename_i hends
      cases hrun
      intro part hpart
      rcases mem_endWord.mp hpart with ⟨hne, rfl⟩ | hnone
      · refine h.isWord_reverse hne (((Bool.or_eq_true _ _).mp hends).resolve_left ?_)
        simpa using hne
      · cases hnone
    · cases hrun
  | cons c text ih =>
    rw [wordsFrom] at hrun
    split at hrun
    · cases hrun
    · rename_i next hstep
      exact ih (h.cons hstep (by decide) fun htop => absurd htop (by decide)) hrun
    · rename_i next hstep
      obtain ⟨rfl, htop⟩ := Nesting.of_step_top hstep
      split at hrun
      · obtain ⟨found, hrest, rfl⟩ := map_eq_ok.mp hrun
        intro part hpart
        rcases mem_endWord.mp hpart with ⟨hne, rfl⟩ | hfound
        · exact h.isWord_reverse hne htop
        · refine ih ?_ hrest part hfound
          rw [h.sound.eq_start htop]
          exact begun_start
      · rename_i hblank
        exact ih (h.cons hstep (by decide) fun _ => Bool.eq_false_iff.mpr hblank) hrun

end Begun

/-- Each word that a text is cut into is one by itself. -/
theorem isWord_of_mem (h : words text = .ok parts) (hmem : word ∈ parts) : IsWord word :=
  begun_start.isWord (words_eq_ok.mp h) word hmem

end Words

end Stencil.Source
