import Stencil.Proofs.Expr.Balanced
import Stencil.Proofs.Source.Words

/-!
The brackets of a text and those of its lexemes. The characters of a lexeme close what is open exactly if the
lexeme does, so a text is cut into words if and only if its lexemes are balanced; and where the lexemes
end at a quote that is never closed, the text is cut into no words.
-/
namespace Stencil

open Source (Nesting)

namespace Lexeme

/-- The closers that are awaited behind a lexeme, unless it closes a bracket that is not open. -/
def closersAfter? (closers : List Char) : Lexeme → Option (List Char)
  | .mark c =>
    match Source.closerOf? c with
    | some closer => some (closer :: closers)
    | none =>
      if Source.isCloser c then if closers.head? = some c then some closers.tail else none
      else some closers
  | _ => some closers

/-- The closers that are awaited behind all of these lexemes. -/
def closersBehind? : List Char → List Lexeme → Option (List Char)
  | closers, [] => some closers
  | closers, lexeme :: rest => (lexeme.closersAfter? closers).bind (closersBehind? · rest)

variable {afterPoint pipes : Bool} {lexeme : Lexeme} {lexemes front rest : List Lexeme}
  {closers word text : List Char}

theorem closersAfter?_of_plain (h : ∀ c ∈ brackets, lexeme ≠ .mark c) :
    lexeme.closersAfter? closers = some closers := by
  cases lexeme with
  | mark c =>
    have hc : c ∉ brackets := fun hmem => h c hmem rfl
    simp only [brackets, List.mem_cons, List.not_mem_nil, or_false, not_or] at hc
    simp [closersAfter?, Source.closerOf?, Source.isCloser, hc]
  | _ => rfl

theorem after?_bracket {c : Char} (h : c ∈ brackets) (closers : List Char) :
    (Nesting.awaiting closers).after? [c] = (closersAfter? closers (.mark c)).map .awaiting := by
  simp only [brackets, List.mem_cons, List.not_mem_nil, or_false] at h
  rcases h with rfl | rfl | rfl | rfl | rfl | rfl
  · rfl
  · by_cases hhead : closers.head? = some ')' <;>
      simp [Nesting.after?, Nesting.step, Nesting.awaiting, closersAfter?, Source.isQuote, Source.closerOf?,
        Source.isCloser, hhead]
  · rfl
  · by_cases hhead : closers.head? = some ']' <;>
      simp [Nesting.after?, Nesting.step, Nesting.awaiting, closersAfter?, Source.isQuote, Source.closerOf?,
        Source.isCloser, hhead]
  · rfl
  · by_cases hhead : closers.head? = some '\x7d' <;>
      simp [Nesting.after?, Nesting.step, Nesting.awaiting, closersAfter?, Source.isQuote, Source.closerOf?,
        Source.isCloser, hhead]

/-- A word opens and closes what its lexeme does. -/
theorem Spelled.after?_eq (h : Spelled lexeme word) (closers : List Char) :
    (Nesting.awaiting closers).after? word = (lexeme.closersAfter? closers).map .awaiting := by
  by_cases hplain : ∀ c ∈ brackets, lexeme ≠ .mark c
  · rw [closersAfter?_of_plain hplain]
    by_cases hpipe : lexeme = .mark '|'
    · subst hpipe
      cases h
      have hbar : '|' ∉ delimiters := by decide
      rw [Nesting.after?_of_step (step_awaiting hbar)]
      · rfl
      · split <;> decide
    · exact (h.uncut hplain fun heq => absurd heq hpipe).closed
  · push Not at hplain
    obtain ⟨c, hc, rfl⟩ := hplain
    cases h
    exact after?_bracket hc closers

/-- A text opens and closes what its lexemes do. -/
theorem after?_of_listFrom (h : listFrom afterPoint text = .ok lexemes) (closers : List Char) :
    (Nesting.awaiting closers).after? text = (closersBehind? closers lexemes).map .awaiting := by
  induction lexemes generalizing afterPoint text closers with
  | nil =>
    have hblanks : Source.Uncut (.awaiting closers) text (.awaiting closers) :=
      uncut_blanks (isSpace_of_listFrom_nil h)
    exact hblanks.closed
  | cons lexeme rest ih =>
    obtain ⟨blanks, word, after, rfl, hblanks, hspelled, -, hafter⟩ := exists_first h
    have hfront : Source.Uncut (.awaiting closers) blanks (.awaiting closers) := uncut_blanks hblanks
    rw [List.append_assoc, hfront.after?_append, Nesting.after?_append, hspelled.after?_eq, closersBehind?]
    cases lexeme.closersAfter? closers with
    | none => rfl
    | some closers' => exact ih hafter closers'

end Lexeme

section Matching

open Lexeme

variable {pipes : Bool} {lexemes front rest : List Lexeme} {closers : List Char}

theorem Balanced.closersBehind?_append (h : Balanced pipes front) (closers : List Char) (rest : List Lexeme) :
    closersBehind? closers (front ++ rest) = closersBehind? closers rest := by
  induction h generalizing closers rest with
  | nil => rfl
  | cons hbracket _ _ ih =>
    rw [List.cons_append, closersBehind?, closersAfter?_of_plain hbracket]
    exact ih closers rest
  | @group pipes opener closer inside behind hopener _ _ ih ih' =>
    have hopens : closersAfter? closers (.mark opener) = some (closer :: closers) := by
      simp [closersAfter?, hopener]
    have hcloses : closersAfter? (closer :: closers) (.mark closer) = some closers := by
      rcases closerOf?_cases hopener with ⟨-, rfl⟩ | ⟨-, rfl⟩ | ⟨-, rfl⟩ <;> rfl
    rw [List.append_assoc, List.cons_append, closersBehind?, hopens]
    change closersBehind? (closer :: closers) (inside ++ (.mark closer :: (behind ++ rest))) = _
    rw [ih, closersBehind?, hcloses]
    exact ih' closers rest

/-- Lexemes that close all of these, innermost first, and are balanced in between. -/
def Closes : List Char → List Lexeme → Prop
  | [], lexemes => Balanced true lexemes
  | closer :: closers, lexemes => ∃ inside rest,
      lexemes = inside ++ .mark closer :: rest ∧ Balanced true inside ∧ Closes closers rest

theorem Closes.append (hfront : Balanced true front) (h : Closes closers rest) : Closes closers (front ++ rest) := by
  cases closers with
  | nil => exact Balanced.append hfront h
  | cons closer closers =>
    obtain ⟨inside, behind, rfl, hinside, hbehind⟩ := h
    exact ⟨front ++ inside, behind, by rw [List.append_assoc], hfront.append hinside, hbehind⟩

theorem closes_of_closersBehind? (h : closersBehind? closers lexemes = some []) : Closes closers lexemes := by
  induction lexemes generalizing closers with
  | nil =>
    obtain rfl : closers = [] := Option.some.inj h
    exact Balanced.nil
  | cons lexeme rest ih =>
    rw [closersBehind?] at h
    by_cases hplain : ∀ c ∈ brackets, lexeme ≠ .mark c
    · rw [closersAfter?_of_plain hplain] at h
      exact Closes.append (.cons hplain (fun _ => rfl) .nil) (ih h)
    · push Not at hplain
      obtain ⟨c, -, rfl⟩ := hplain
      cases hopener : Source.closerOf? c with
      | some closer =>
        simp only [closersAfter?, hopener, Option.bind_some] at h
        obtain ⟨inside, behind, rfl, hinside, hbehind⟩ := ih h
        have hgroup : Balanced true (.mark c :: inside ++ [.mark closer]) := .group hopener hinside .nil
        have hcloses := Closes.append hgroup hbehind
        rwa [List.append_assoc, List.singleton_append] at hcloses
      | none =>
        simp only [closersAfter?, hopener] at h
        split at h
        · split at h
          · rename_i hhead
            obtain ⟨closers, rfl⟩ := List.head?_eq_some_iff.mp hhead
            exact ⟨[], rest, rfl, .nil, ih h⟩
          · cases h
        · rename_i hcloser
          refine Closes.append (.cons (fun d hd heq => ?_) (fun _ => rfl) .nil) (ih h)
          cases heq
          simp only [brackets, List.mem_cons, List.not_mem_nil, or_false] at hd
          rcases hd with rfl | rfl | rfl | rfl | rfl | rfl <;> simp_all [Source.closerOf?, Source.isCloser]

theorem balanced_iff : Balanced true lexemes ↔ closersBehind? [] lexemes = some [] := by
  constructor
  · intro h
    have hbehind := h.closersBehind?_append [] []
    rwa [List.append_nil] at hbehind
  · exact closes_of_closersBehind?

end Matching

namespace Lexeme

variable {afterPoint : Bool} {lexemes : List Lexeme} {c : Char} {text rest closers : List Char}

theorem ofText_eq_ok : ofText text = .ok lexemes ↔ listFrom false text = .ok lexemes := by
  unfold ofText
  cases listFrom false text with
  | ok found => constructor <;> rintro ⟨⟩ <;> rfl
  | error fault => cases fault <;> exact ⟨nofun, nofun⟩

/-- A text with lexemes is cut into words if and only if the lexemes are balanced. -/
theorem exists_words_iff_balanced (h : ofText text = .ok lexemes) :
    (∃ parts, Source.words text = .ok parts) ↔ Balanced true lexemes := by
  have hafter := after?_of_listFrom (ofText_eq_ok.mp h) []
  change Nesting.start.after? text = _ at hafter
  rw [Source.exists_words_iff, balanced_iff, hafter]
  cases closersBehind? [] lexemes with
  | none => exact ⟨nofun, nofun⟩
  | some closers =>
    constructor <;> rintro ⟨⟩ <;> rfl

/-! A quote that is never closed. -/

theorem scan_unclosed (h : scan afterPoint c text = .unclosed) :
    Source.isQuote c = true ∧ quotedRun c text = none := by
  unfold scan at h
  split at h
  · cases h
  · split at h
    · rename_i hquote
      cases hrun : quotedRun c text with
      | none => exact ⟨hquote, rfl⟩
      | some run =>
        rw [hrun] at h
        cases h
    · repeat' split at h
      all_goals cases h

/-- Without a closing quote the text stays inside of quotes. -/
theorem quote_of_quotedRun {quote : Char} {after : Nesting} (h : quotedRun quote text = none)
    (hafter : (Nesting.mk (some quote) false closers).after? text = some after) : after.quote = some quote := by
  fun_induction quotedRun quote text with
  | case1 =>
    cases hafter
    rfl
  | case2 =>
    cases hafter
    rfl
  | case3 c rest ih => exact ih (by simpa using h) hafter
  | case4 rest => cases h
  | case5 c rest hend hescape hne ih =>
    have hslash : c ≠ '\\' := by
      intro heq
      cases rest with
      | nil => exact hend heq rfl
      | cons d rest => exact hescape d rest heq rfl
    have hstep : Nesting.step ⟨some quote, false, closers⟩ c = (⟨some quote, false, closers⟩, .inside) := by
      simp [Nesting.step, Nesting.stepInQuote, hslash, hne]
    rw [Nesting.after?_of_step hstep (by decide)] at hafter
    exact ih (by simpa using h) hafter

/-- Where the lexemes of a text end at an open quote, the text ends inside of quotes. -/
theorem quote_of_unclosed (h : listFrom afterPoint text = .error (.unclosed rest)) {after : Nesting}
    (hafter : (Nesting.awaiting closers).after? text = some after) : after.quote ≠ none := by
  fun_induction listFrom afterPoint text generalizing closers with
  | case1 => cases h
  | case2 afterPoint c text hscan ih =>
    have hblank : Source.Uncut (.awaiting closers) [c] (.awaiting closers) :=
      uncut_blanks (List.forall_mem_singleton.mpr (isSpace_of_scan hscan))
    rw [← List.singleton_append, hblank.after?_append] at hafter
    exact ih h hafter
  | case3 afterPoint c text lexeme length hscan ih =>
    obtain ⟨word, behind, rfl, hread⟩ := exists_word hscan
    have hlength : length = word.length + 1 := by
      have hsame := (hread.scans behind (List.prefix_refl behind)).symm.trans hscan
      cases hsame
      rfl
    subst hlength
    rw [Nat.add_sub_cancel, List.drop_left] at h ih
    have hrest : listFrom (lexeme.isMark '.') behind = .error (.unclosed rest) := by
      cases hrun : listFrom (lexeme.isMark '.') behind with
      | ok lexemes =>
        rw [hrun] at h
        cases h
      | error fault =>
        rw [hrun] at h
        cases h
        rfl
    rw [← List.cons_append, Nesting.after?_append, hread.spelled.after?_eq] at hafter
    cases hclosers : lexeme.closersAfter? closers with
    | none =>
      rw [hclosers] at hafter
      cases hafter
    | some closers' =>
      rw [hclosers] at hafter
      exact ih hrest hafter
  | case4 afterPoint c text hscan =>
    obtain ⟨hquote, hrun⟩ := scan_unclosed hscan
    have hstep : (Nesting.awaiting closers).step c = (⟨some c, false, closers⟩, .inside) := by
      simp [Nesting.step, Nesting.awaiting, hquote]
    rw [Nesting.after?_of_step hstep (by decide)] at hafter
    rw [quote_of_quotedRun hrun hafter]
    exact Option.some_ne_none c
  | case5 afterPoint c text hscan => cases h

/-- In a closed text no quote stays open. -/
theorem ofText_ne_unclosed (hclosed : Nesting.start.after? text = some .start) (argument : String) :
    ofText text ≠ .error (.unclosedArgument argument) := by
  intro h
  unfold ofText at h
  cases hlist : listFrom false text with
  | ok lexemes =>
    rw [hlist] at h
    cases h
  | error fault =>
    rw [hlist] at h
    cases fault with
    | unexpected c => cases h
    | unclosed rest => exact quote_of_unclosed hlist hclosed rfl

end Lexeme

end Stencil
