import Stencil.Proofs.Expr.Joined

/-!
The quotes and groups of a text, told from the text alone. What the reading of a text finds open at its end
is what the text leaves open, and the reading stops at the first closer that does not match.
-/
namespace Stencil.Source

open Lexeme (QuotedBody)

/-- A text in which all quotes and groups that are opened are closed, and no others. -/
inductive BalancedText : List Char → Prop
  | nil : BalancedText []
  | plain {c : Char} (hc : c ∉ Lexeme.delimiters) : BalancedText [c]
  | quoted {quote : Char} {body : List Char} (hquote : isQuote quote = true) (hbody : QuotedBody quote body) :
      BalancedText (quote :: body ++ [quote])
  | group {opener closer : Char} {inside : List Char} (hopener : closerOf? opener = some closer)
      (hinside : BalancedText inside) : BalancedText (opener :: inside ++ [closer])
  | append {front rest : List Char} (hfront : BalancedText front) (hrest : BalancedText rest) :
      BalancedText (front ++ rest)

/-- A text at whose end the groups with these closers are still open, the innermost first. -/
def LeavesOpen : List Char → List Char → Prop
  | [], text => BalancedText text
  | closer :: closers, text => ∃ before opener inside, text = before ++ opener :: inside ∧
      LeavesOpen closers before ∧ closerOf? opener = some closer ∧ BalancedText inside

/-- Outside of quotes some closer is not that of the innermost group that is open there. -/
def HasStray (text : List Char) : Prop :=
  ∃ before c rest closers, text = before ++ c :: rest ∧ LeavesOpen closers before ∧ isCloser c = true ∧
    closers.head? ≠ some c

/-- At its end a group is still open, or a quote: behind that stands no closing one, but perhaps, at the
very end, a backslash that nothing follows. -/
def EndsOpen (text : List Char) : Prop :=
  (∃ closer closers, LeavesOpen (closer :: closers) text) ∨
    ∃ before quote body closers, text = before ++ quote :: body ∧ LeavesOpen closers before ∧
      isQuote quote = true ∧ (QuotedBody quote body ∨ ∃ front, body = front ++ ['\\'] ∧ QuotedBody quote front)

section Reading

variable {nesting after : Nesting} {place : Place} {c : Char} {text rest closers : List Char}

theorem not_mem_delimiters (hquote : isQuote c = false) (hopener : closerOf? c = none)
    (hcloser : isCloser c = false) : c ∉ Lexeme.delimiters := by
  intro hmem
  simp only [Lexeme.delimiters, List.mem_cons, List.not_mem_nil, or_false] at hmem
  rcases hmem with rfl | rfl | rfl | rfl | rfl | rfl | rfl | rfl <;> cases hquote <;> cases hopener <;>
    cases hcloser

namespace Nesting

theorem step_quote {quote : Char} (hquote : isQuote quote = true) (closers : List Char) :
    (awaiting closers).step quote = (⟨some quote, false, closers⟩, .inside) := by
  simp [step, awaiting, hquote]

theorem step_opener {opener closer : Char} (hopener : closerOf? opener = some closer) (closers : List Char) :
    (awaiting closers).step opener = (awaiting (closer :: closers), .inside) := by
  rcases Lexeme.closerOf?_cases hopener with ⟨rfl, rfl⟩ | ⟨rfl, rfl⟩ | ⟨rfl, rfl⟩ <;> rfl

theorem step_closer {closer : Char} (hcloser : isCloser closer = true) (closers : List Char) :
    (awaiting (closer :: closers)).step closer = (awaiting closers, .inside) := by
  simp only [isCloser, Bool.or_eq_true, beq_iff_eq] at hcloser
  rcases hcloser with (rfl | rfl) | rfl <;> rfl

/-- How a text comes to stand outside of quotes, or stays there. -/
theorem Sound.step_outside (h : nesting.Sound) (hstep : nesting.step c = (.awaiting closers, place))
    (hstray : place ≠ .stray) :
    nesting = ⟨some c, false, closers⟩ ∧ isQuote c = true ∨
      nesting = .awaiting closers ∧ c ∉ Lexeme.delimiters ∨
      (∃ closer outer, nesting = .awaiting outer ∧ closers = closer :: outer ∧ closerOf? c = some closer) ∨
      nesting = .awaiting (c :: closers) ∧ isCloser c = true := by
  obtain ⟨quote?, escaped, around⟩ := nesting
  cases quote? with
  | some quote =>
    have hsteps := steps_of_step hstep
    generalize hnext : Nesting.awaiting closers = next at hsteps
    cases hsteps with
    | unquotes hopen hescaped hc =>
      cases hopen
      cases hescaped
      cases hnext
      exact Or.inl ⟨by rw [hc], hc ▸ h.quote quote rfl⟩
    | skips hopen | escapes hopen | quoted hopen =>
      cases hopen
      cases hnext
    | quotes hopen | opens hopen | closes hopen | stray hopen | grouped hopen | top hopen => cases hopen
  | none =>
    obtain rfl : escaped = false := h.escaped rfl
    simp only [Nesting.step] at hstep
    split at hstep
    · cases hstep
    · rename_i hquote
      split at hstep
      · rename_i closer hopener
        cases hstep
        exact Or.inr (Or.inr (Or.inl ⟨closer, around, rfl, rfl, hopener⟩))
      · rename_i hopener
        split at hstep
        · rename_i hcloser
          split at hstep
          · rename_i hhead
            cases hstep
            obtain ⟨outer, rfl⟩ := List.head?_eq_some_iff.mp hhead
            exact Or.inr (Or.inr (Or.inr ⟨rfl, hcloser⟩))
          · cases hstep
            exact absurd rfl hstray
        · rename_i hcloser
          obtain ⟨hsame, -⟩ := Prod.mk.inj hstep
          cases hsame
          exact Or.inr (Or.inl ⟨rfl, not_mem_delimiters (Bool.eq_false_iff.mpr hquote) hopener
            (Bool.eq_false_iff.mpr hcloser)⟩)

theorem Sound.eq_awaiting (h : nesting.Sound) (hquote : nesting.quote = none) :
    nesting = .awaiting nesting.closers := by
  obtain ⟨quote?, escaped, closers⟩ := nesting
  obtain rfl : quote? = none := hquote
  obtain rfl : escaped = false := h.escaped rfl
  rfl

/-- Only a closer outside of quotes is stray, and it is if the innermost group awaits another. -/
theorem Sound.step_stray (h : nesting.Sound) (hstray : (nesting.step c).2 = .stray) :
    nesting = .awaiting nesting.closers ∧ isCloser c = true ∧ nesting.closers.head? ≠ some c := by
  have hcases : nesting.quote = none ∧ isCloser c = true := by
    have hstep : nesting.step c = ((nesting.step c).1, .stray) := Prod.ext rfl hstray
    generalize (nesting.step c).1 = next at hstep
    cases steps_of_step hstep with
    | stray hopen _ hcloser => exact ⟨hopen, hcloser⟩
  obtain ⟨hopen, hcloser⟩ := hcases
  refine ⟨h.eq_awaiting hopen, hcloser, ?_⟩
  intro hhead
  obtain ⟨outer, houter⟩ := List.head?_eq_some_iff.mp hhead
  rw [h.eq_awaiting hopen, houter, step_closer hcloser] at hstray
  cases hstray

/-- A closer that the innermost group does not await is stray. -/
theorem step_of_mismatch (hcloser : isCloser c = true) (hhead : closers.head? ≠ some c) :
    ((awaiting closers).step c).2 = .stray := by
  simp only [isCloser, Bool.or_eq_true, beq_iff_eq] at hcloser
  rcases hcloser with (rfl | rfl) | rfl <;>
    simp [step, awaiting, isQuote, closerOf?, isCloser, hhead]

/-- The reading stops at the first stray closer. -/
theorem after?_eq_none : nesting.after? text = none ↔ ∃ before c rest between,
    text = before ++ c :: rest ∧ nesting.after? before = some between ∧ (between.step c).2 = .stray := by
  constructor
  · intro h
    induction text generalizing nesting with
    | nil => cases h
    | cons c text ih =>
      by_cases hstray : (nesting.step c).2 = .stray
      · exact ⟨[], c, text, nesting, rfl, rfl, hstray⟩
      · rw [after?, if_neg hstray] at h
        obtain ⟨before, d, rest, between, rfl, hbefore, hplace⟩ := ih h
        exact ⟨c :: before, d, rest, between, rfl, by rw [after?, if_neg hstray, hbefore], hplace⟩
  · rintro ⟨before, c, rest, between, rfl, hbefore, hplace⟩
    rw [after?_append, hbefore, Option.bind_some, after?, if_pos hplace]

end Nesting

theorem BalancedText.after?_eq (h : BalancedText text) (closers : List Char) :
    (Nesting.awaiting closers).after? text = some (.awaiting closers) := by
  induction h generalizing closers with
  | nil => rfl
  | plain hc =>
    rw [Nesting.after?, Lexeme.step_awaiting hc, if_neg (by cases closers <;> simp)]
    rfl
  | quoted hquote hbody =>
    rw [List.cons_append, Nesting.after?_of_step (Nesting.step_quote hquote closers) (by decide)]
    exact (hbody.uncut hquote).closed
  | @group opener closer inside hopener hinside ih =>
    have hcloses := (Lexeme.uncut_closer hopener closers).closed
    rw [List.cons_append, Nesting.after?_of_step (Nesting.step_opener hopener closers) (by decide),
      Nesting.after?_append, ih, Option.bind_some, hcloses]
  | append hfront hrest ihfront ihrest =>
    rw [Nesting.after?_append, ihfront, Option.bind_some, ihrest]

namespace LeavesOpen

theorem append (h : LeavesOpen closers text) (hrest : BalancedText rest) :
    LeavesOpen closers (text ++ rest) := by
  cases closers with
  | nil => exact BalancedText.append h hrest
  | cons closer closers =>
    obtain ⟨before, opener, inside, rfl, hbefore, hopener, hinside⟩ := h
    exact ⟨before, opener, inside ++ rest, by simp, hbefore, hopener, hinside.append hrest⟩

theorem after?_eq (h : LeavesOpen closers text) : Nesting.start.after? text = some (.awaiting closers) := by
  induction closers generalizing text with
  | nil => exact BalancedText.after?_eq h []
  | cons closer closers ih =>
    obtain ⟨before, opener, inside, rfl, hbefore, hopener, hinside⟩ := h
    rw [Nesting.after?_append, ih hbefore, Option.bind_some,
      Nesting.after?_of_step (Nesting.step_opener hopener closers) (by decide), hinside.after?_eq]

/-- A group is closed with all that it holds. -/
theorem closes {closer : Char} (h : LeavesOpen (closer :: closers) text) :
    LeavesOpen closers (text ++ [closer]) := by
  obtain ⟨before, opener, inside, rfl, hbefore, hopener, hinside⟩ := h
  have hgroup := hbefore.append (.group hopener hinside)
  rwa [← List.append_assoc] at hgroup

end LeavesOpen

/-- What is awaited behind a text is what the text leaves open. -/
theorem leavesOpen_of_after? (h : Nesting.start.after? text = some (.awaiting closers)) :
    LeavesOpen closers text := by
  -- A quote that ends with the last character began any number of characters before it.
  induction hlength : text.length using Nat.strong_induction_on generalizing text closers with
  | _ length ih =>
    subst hlength
    cases text using List.reverseRecOn with
    | nil =>
      cases h
      exact BalancedText.nil
    | append_singleton text c =>
      have hshorter : text.length < (text ++ [c]).length := by simp
      rw [Nesting.after?_append] at h
      obtain ⟨between, hbetween, hlast⟩ := Option.bind_eq_some_iff.mp h
      obtain ⟨hstray, hend⟩ := Nesting.after?_cons_eq_some hlast
      have hstep : between.step c = (.awaiting closers, (between.step c).2) :=
        Prod.ext (Option.some.inj hend) rfl
      rcases (Nesting.sound_start.after? hbetween).step_outside hstep hstray with
        ⟨rfl, hquote⟩ | ⟨rfl, hplain⟩ | ⟨closer, outer, rfl, rfl, hopener⟩ | ⟨rfl, hcloser⟩
      · obtain ⟨front, body, rfl, hbody, hfront⟩ := exists_openQuote hbetween
        have hopen := ih front.length (by simp) hfront rfl
        have hquoted := hopen.append (.quoted hquote hbody)
        simpa using hquoted
      · exact (ih text.length hshorter hbetween rfl).append (.plain hplain)
      · exact ⟨text, c, [], rfl, ih text.length hshorter hbetween rfl, hopener, .nil⟩
      · exact (ih text.length hshorter hbetween rfl).closes

theorem leavesOpen_iff : LeavesOpen closers text ↔ Nesting.start.after? text = some (.awaiting closers) :=
  ⟨LeavesOpen.after?_eq, leavesOpen_of_after?⟩

theorem balancedText_iff : BalancedText text ↔ Nesting.start.after? text = some .start := by
  change LeavesOpen [] text ↔ Nesting.start.after? text = some (.awaiting [])
  exact leavesOpen_iff

instance (text : List Char) : Decidable (BalancedText text) := decidable_of_iff _ balancedText_iff.symm

/-- What stands behind a balanced text is balanced if it all is. -/
theorem BalancedText.append_iff (h : BalancedText text) : BalancedText (text ++ rest) ↔ BalancedText rest := by
  rw [balancedText_iff, Nesting.after?_append, balancedText_iff.mp h, Option.bind_some, ← balancedText_iff]

theorem hasStray_iff : HasStray text ↔ Nesting.start.after? text = none := by
  rw [Nesting.after?_eq_none]
  constructor
  · rintro ⟨before, c, rest, closers, rfl, hbefore, hcloser, hhead⟩
    exact ⟨before, c, rest, _, rfl, hbefore.after?_eq, Nesting.step_of_mismatch hcloser hhead⟩
  · rintro ⟨before, c, rest, between, rfl, hbefore, hplace⟩
    obtain ⟨houtside, hcloser, hhead⟩ := (Nesting.sound_start.after? hbefore).step_stray hplace
    rw [houtside] at hbefore
    exact ⟨before, c, rest, between.closers, rfl, leavesOpen_of_after? hbefore, hcloser, hhead⟩

/-- A quote that is not closed is still open behind the text, whatever its last backslash takes. -/
theorem after?_openQuote {before body : List Char} {quote : Char} (hbefore : LeavesOpen closers before)
    (hquote : isQuote quote = true) (hbody : QuotedBody quote body) :
    Nesting.start.after? (before ++ quote :: body) = some ⟨some quote, false, closers⟩ := by
  rw [Nesting.after?_append, hbefore.after?_eq, Option.bind_some,
    Nesting.after?_of_step (Nesting.step_quote hquote closers) (by decide)]
  clear hbefore
  induction hbody with
  | nil => rfl
  | escape c _ ih => exact ih
  | @plain c body hslash hne _ ih =>
    have hstep : Nesting.step ⟨some quote, false, closers⟩ c = (⟨some quote, false, closers⟩, .inside) := by
      simp [Nesting.step, Nesting.stepInQuote, hslash, hne]
    rw [Nesting.after?_of_step hstep (by decide), ih]

theorem endsOpen_iff : EndsOpen text ↔ ∃ after, Nesting.start.after? text = some after ∧ after ≠ .start := by
  constructor
  · rintro (⟨closer, closers, hopen⟩ | ⟨before, quote, body, closers, rfl, hbefore, hquote, hbody | hbody⟩)
    · exact ⟨_, hopen.after?_eq, nofun⟩
    · exact ⟨_, after?_openQuote hbefore hquote hbody, nofun⟩
    · obtain ⟨front, rfl, hfront⟩ := hbody
      refine ⟨⟨some quote, true, closers⟩, ?_, nofun⟩
      rw [← List.cons_append, ← List.append_assoc, Nesting.after?_append,
        after?_openQuote hbefore hquote hfront]
      rfl
  · rintro ⟨⟨quote?, escaped, closers⟩, hafter, hne⟩
    have hsound := Nesting.sound_start.after? hafter
    cases quote? with
    | none =>
      obtain rfl : escaped = false := hsound.escaped rfl
      cases closers with
      | nil => exact absurd rfl hne
      | cons closer closers => exact Or.inl ⟨closer, closers, leavesOpen_of_after? hafter⟩
    | some quote =>
      obtain ⟨before, body, rfl, hbody, hbefore⟩ := exists_openQuote hafter
      refine Or.inr ⟨before, quote, _, closers, rfl, leavesOpen_of_after? hbefore, hsound.quote quote rfl, ?_⟩
      cases escaped with
      | false => exact Or.inl (by simpa using hbody)
      | true => exact Or.inr ⟨body, rfl, hbody⟩

end Reading

end Stencil.Source
