import Mathlib.Data.List.Induction
import Stencil.Proofs.Expr.Literal

/-!
Words between quotes. A word that begins and ends with the same quote is one literal, or it begins with one
literal and ends with another; the two cannot be told apart by the ends alone.
-/
namespace Stencil

open Source (Nesting isQuote unescape unquote?)

namespace Source

open Lexeme (QuotedBody)

variable {nesting after : Nesting} {place : Place} {quote c : Char} {escaped : Bool}
  {closers text word name : List Char}

namespace Nesting

theorem Sound.after? (h : nesting.Sound) (hafter : nesting.after? text = some after) : after.Sound := by
  induction text generalizing nesting with
  | nil =>
    cases hafter
    exact h
  | cons c text ih =>
    exact ih (h.step rfl) (Nesting.after?_cons_eq_some hafter).2

/-- How a text comes to stand inside of quotes, or stays there. -/
theorem Sound.step_inside (h : nesting.Sound) (hstep : nesting.step c = (⟨some quote, escaped, closers⟩, place)) :
    nesting = .awaiting closers ∧ c = quote ∧ escaped = false ∨
      nesting = ⟨some quote, true, closers⟩ ∧ escaped = false ∨
      nesting = ⟨some quote, false, closers⟩ ∧
        (c = '\\' ∧ escaped = true ∨ c ≠ '\\' ∧ c ≠ quote ∧ escaped = false) := by
  have hsteps := steps_of_step hstep
  generalize hnext : (⟨some quote, escaped, closers⟩ : Nesting) = next at hsteps
  obtain ⟨open?, before, around⟩ := nesting
  cases hsteps with
  | skips hopen hbefore =>
    cases hopen
    cases hbefore
    cases hnext
    exact Or.inr (Or.inl ⟨rfl, rfl⟩)
  | escapes hopen hbefore hslash =>
    cases hopen
    cases hbefore
    cases hnext
    exact Or.inr (Or.inr ⟨rfl, Or.inl ⟨hslash, rfl⟩⟩)
  | unquotes => cases hnext
  | quoted hopen hbefore hslash hquote =>
    cases hopen
    cases hbefore
    cases hnext
    exact Or.inr (Or.inr ⟨rfl, Or.inr ⟨hslash, hquote, rfl⟩⟩)
  | quotes hopen =>
    cases hopen
    cases hnext
    obtain rfl : before = false := h.escaped rfl
    exact Or.inl ⟨rfl, rfl, rfl⟩
  | opens hopen | closes hopen | stray hopen | grouped hopen | top hopen =>
    cases hopen
    cases hnext

/-- A quote at the end of a closed text closes what it opened. -/
theorem step_closing (hquote : isQuote quote = true) (hstep : nesting.step quote = (.start, place)) :
    nesting = ⟨some quote, false, []⟩ := by
  have hsteps := steps_of_step hstep
  generalize hnext : Nesting.start = next at hsteps
  obtain ⟨open?, before, around⟩ := nesting
  cases hsteps with
  | unquotes hopen hbefore hc =>
    cases hopen
    cases hbefore
    cases hnext
    rw [hc]
  | skips hopen | escapes hopen | quoted hopen =>
    cases hopen
    cases hnext
  | quotes | opens => cases hnext
  | closes _ hplain | stray _ hplain | grouped _ hplain | top _ hplain =>
    rw [hquote] at hplain
    cases hplain

theorem after?_concat (h : nesting.after? (text ++ [c]) = some after) :
    ∃ between place, nesting.after? text = some between ∧ between.step c = (after, place) := by
  rw [after?_append] at h
  obtain ⟨between, hbetween, hlast⟩ := Option.bind_eq_some_iff.mp h
  obtain ⟨-, hend⟩ := after?_cons_eq_some hlast
  cases hend
  exact ⟨between, (between.step c).2, hbetween, rfl⟩

end Nesting

/-- A text that ends inside of quotes, taken apart where they are opened. -/
theorem exists_openQuote (h : Nesting.start.after? text = some ⟨some quote, escaped, closers⟩) :
    ∃ front body, text = front ++ quote :: (body ++ if escaped then ['\\'] else []) ∧
      QuotedBody quote body ∧ Nesting.start.after? front = some (.awaiting closers) := by
  induction text using List.reverseRecOn generalizing escaped with
  | nil => cases h
  | append_singleton text c ih =>
    obtain ⟨between, place, hbetween, hstep⟩ := Nesting.after?_concat h
    rcases (Nesting.sound_start.after? hbetween).step_inside hstep with
      ⟨rfl, rfl, rfl⟩ | ⟨rfl, rfl⟩ | ⟨rfl, ⟨rfl, rfl⟩ | ⟨hslash, hne, rfl⟩⟩
    · exact ⟨text, [], rfl, .nil, hbetween⟩
    · obtain ⟨front, body, rfl, hbody, hfront⟩ := ih hbetween
      exact ⟨front, body ++ ['\\', c], by simp, hbody.append (.escape c .nil), hfront⟩
    · obtain ⟨front, body, rfl, hbody, hfront⟩ := ih hbetween
      exact ⟨front, body, by simp, hbody, hfront⟩
    · obtain ⟨front, body, rfl, hbody, hfront⟩ := ih hbetween
      exact ⟨front, body ++ [c], by simp, hbody.append (.plain hslash hne .nil), hfront⟩

/-- A closed text that ends with a quote ends with a literal. -/
theorem exists_lastLiteral (hquote : isQuote quote = true)
    (h : Nesting.start.after? (text ++ [quote]) = some .start) :
    ∃ front body, text = front ++ quote :: body ∧ QuotedBody quote body ∧
      Nesting.start.after? front = some .start := by
  obtain ⟨between, place, hbetween, hstep⟩ := Nesting.after?_concat h
  obtain rfl := Nesting.step_closing hquote hstep
  obtain ⟨front, body, rfl, hbody, hfront⟩ := exists_openQuote hbetween
  exact ⟨front, body, by simp, hbody, hfront⟩

/-- A closed text that begins with a quote begins with a literal. -/
theorem exists_firstLiteral (hquote : isQuote quote = true)
    (h : Nesting.start.after? (quote :: text) = some .start) :
    ∃ body after, text = body ++ quote :: after ∧ QuotedBody quote body ∧
      Nesting.start.after? after = some .start := by
  have hstep : Nesting.start.step quote = (⟨some quote, false, []⟩, .inside) := by
    simp [Nesting.step, Nesting.start, hquote]
  rw [Nesting.after?_of_step hstep (by decide)] at h
  cases hrun : Lexeme.quotedRun quote text with
  | none =>
    have hopen := Lexeme.quote_of_quotedRun hrun h
    cases hopen
  | some run =>
    obtain ⟨rfl, hbody⟩ := Lexeme.quotedRun_eq_some hrun
    refine ⟨run.1, run.2, rfl, hbody, ?_⟩
    have huncut : Uncut ⟨some quote, false, []⟩ (run.1 ++ [quote]) .start := hbody.uncut hquote
    have hclosed := huncut.after?_append run.2
    rw [List.append_assoc] at hclosed
    exact hclosed.symm.trans h

/-- Two literals in equal quotes, and between them a text of which the quotes and brackets are closed. -/
inductive Joined : List Char → Prop
  | intro {quote : Char} {first middle last : List Char} (hquote : isQuote quote = true)
      (hfirst : QuotedBody quote first) (hmiddle : Nesting.start.after? middle = some .start)
      (hlast : QuotedBody quote last) :
      Joined (quote :: first ++ quote :: (middle ++ quote :: last ++ [quote]))

/-- What stands between the first and the last character, as a literal. -/
def insideOf (word : List Char) : List Char := unescape word.tail.dropLast

theorem Joined.unquote?_eq (h : Joined word) : unquote? word = some (insideOf word) := by
  cases h with
  | @intro quote first middle last hquote _ _ _ =>
    have hsplit : quote :: first ++ quote :: (middle ++ quote :: last ++ [quote]) =
        quote :: (first ++ quote :: (middle ++ quote :: last)) ++ [quote] := by simp
    rw [hsplit, unquote?_quotes hquote, insideOf, List.cons_append, List.tail_cons, List.dropLast_concat]

/-- Joined literals are more than one lexeme. -/
theorem Joined.ofText_ne (h : Joined word) (literal : String) : Lexeme.ofText word ≠ .ok [.literal literal] := by
  cases h with
  | @intro quote first middle last hquote hfirst _ _ =>
    intro hread
    have hlist := Lexeme.ofText_eq_ok.mp hread
    rw [hfirst.listFrom_eq hquote] at hlist
    obtain ⟨lexemes, hafter, hcons⟩ := map_eq_ok.mp hlist
    cases hcons
    have hspace := Lexeme.isSpace_of_listFrom_nil hafter quote (by simp)
    have hblank := Lexeme.isBlank_of_isSpace hspace
    rw [isBlank_of_isQuote hquote] at hblank
    cases hblank

/-- A text with one literal and blanks around it is taken for that literal. -/
theorem unquote?_of_ofText {literal : String} (h : Lexeme.ofText text = .ok [.literal literal]) :
    unquote? text = some literal.toList := by
  obtain ⟨blanks, word, after, rfl, hblanks, hspelled, hreads, hafter⟩ :=
    Lexeme.exists_first (Lexeme.ofText_eq_ok.mp h)
  cases hspelled with
  | @literal quote body _ hquote hbody =>
    have hsame : literal = String.ofList (unescape body) := by
      have hread := hreads [] List.nil_prefix
      rw [List.append_nil, Lexeme.listFrom_blanks hblanks, hbody.listFrom_eq hquote, Lexeme.listFrom,
        Lexeme.listFrom] at hread
      cases hread
      rfl
    have hquotes := unquote?_quotes hquote body
    unfold unquote? at hquotes ⊢
    rw [(hasEnds_quotes hquote body).trim_self] at hquotes
    rw [Lexeme.trim_eq hblanks (hasEnds_quotes hquote body) (Lexeme.isSpace_of_listFrom_nil hafter), hquotes,
      hsame, String.toList_ofList]

/-- A word between quotes is one literal, or begins with one and ends with another. -/
theorem IsWord.unquote?_iff (h : IsWord word) :
    unquote? word = some name ↔
      Lexeme.ofText word = .ok [.literal (String.ofList name)] ∨ Joined word ∧ name = insideOf word := by
  constructor
  · intro hname
    unfold unquote? at hname
    rw [h.ends.trim_self] at hname
    cases word with
    | nil => cases hname
    | cons quote rest =>
      dsimp only at hname
      split at hname
      · rename_i hends
        obtain ⟨hquote, hlast⟩ := (Bool.and_eq_true _ _).mp hends
        obtain ⟨inside, rfl⟩ := List.getLast?_eq_some_iff.mp (of_decide_eq_true hlast)
        cases hname
        obtain ⟨first, after, hsplit, hfirst, hafter⟩ := exists_firstLiteral hquote h.closed
        rcases after.eq_nil_or_concat with rfl | ⟨after, other, rfl⟩
        · obtain ⟨rfl, -⟩ := List.append_inj' hsplit rfl
          rw [List.dropLast_concat]
          exact Or.inl (hfirst.ofText_eq hquote)
        · rw [List.concat_eq_append] at hsplit hafter
          have hsame : inside ++ [quote] = first ++ quote :: after ++ [other] := by simpa using hsplit
          obtain ⟨rfl, hother⟩ := List.append_inj' hsame rfl
          cases hother
          obtain ⟨middle, last, rfl, hlast, hmiddle⟩ := exists_lastLiteral hquote hafter
          have hjoined := Joined.intro hquote hfirst hmiddle hlast
          refine Or.inr ⟨?_, rfl⟩
          simpa using hjoined
      · cases hname
  · rintro (hread | ⟨hjoined, rfl⟩)
    · exact (unquote?_of_ofText hread).trans (congrArg some String.toList_ofList)
    · exact hjoined.unquote?_eq

end Source

end Stencil
