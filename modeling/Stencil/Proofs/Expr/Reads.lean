import Stencil.Expr.Reading
import Stencil.Proofs.Result

/-!
What parsers take from the front of the lexemes, and that they take the same when less of the lexemes
follows: bounds on the depth and on the repetitions are never met.
-/
namespace Stencil

namespace Parser

variable {α β : Type} {bound bound' more more' : Nat} {p q : Parser α}
  {T U : α → List Lexeme → Prop}

theorem run_bind_eq_ok {next : α → Parser β} {b : β} {lexemes rest : List Lexeme} :
    (p >>= next).run lexemes = .ok (b, rest) ↔
      ∃ a between, p.run lexemes = .ok (a, between) ∧ (next a).run between = .ok (b, rest) := by
  rw [StateT.run_bind, bind_eq_ok]
  constructor
  · rintro ⟨⟨a, between⟩, hfirst, hnext⟩
    exact ⟨a, between, hfirst, hnext⟩
  · rintro ⟨a, between, hfirst, hnext⟩
    exact ⟨(a, between), hfirst, hnext⟩

/-- What the first parser takes from lexemes within its bound is as the predicate says, and the second one
takes the same when less follows, within its own bound. -/
def Reads (bound bound' : Nat) (p q : Parser α) (T : α → List Lexeme → Prop) : Prop :=
  ∀ lexemes a rest, lexemes.length < bound → p.run lexemes = .ok (a, rest) →
    ∃ front, lexemes = front ++ rest ∧ T a front ∧
      ∀ kept, kept <+: rest → (front ++ kept).length < bound' → q.run (front ++ kept) = .ok (a, kept)

namespace Reads

theorem imp (h : Reads bound bound' p q T) (hT : ∀ a front, T a front → U a front) :
    Reads bound bound' p q U := by
  intro lexemes a rest hlength hrun
  obtain ⟨front, hsplit, htaken, hkept⟩ := h lexemes a rest hlength hrun
  exact ⟨front, hsplit, hT a front htaken, hkept⟩

theorem mono (h : Reads bound bound' p q T) (hbound : more ≤ bound) (hbound' : more' ≤ bound') :
    Reads more more' p q T := by
  intro lexemes a rest hlength hrun
  obtain ⟨front, hsplit, htaken, hkept⟩ := h lexemes a rest (by omega) hrun
  refine ⟨front, hsplit, htaken, ?_⟩
  intro kept hleads hlength'
  exact hkept kept hleads (by omega)

theorem bind {next next' : α → Parser β} {V : β → List Lexeme → Prop} (h : Reads bound bound' p q T)
    (hnext : ∀ a front, T a front → Reads (bound - front.length) (bound' - front.length) (next a) (next' a)
      fun b back => V b (front ++ back)) :
    Reads bound bound' (p >>= next) (q >>= next') V := by
  intro lexemes b rest hlength hrun
  obtain ⟨a, between, hfirst, hsecond⟩ := run_bind_eq_ok.mp hrun
  obtain ⟨front, rfl, htaken, hkept⟩ := h lexemes a between hlength hfirst
  rw [List.length_append] at hlength
  obtain ⟨back, rfl, htaken', hkept'⟩ := hnext a front htaken between b rest (by omega) hsecond
  refine ⟨front ++ back, by rw [List.append_assoc], htaken', ?_⟩
  intro kept hleads hlength'
  rw [List.append_assoc, List.length_append] at hlength'
  rw [List.append_assoc]
  refine run_bind_eq_ok.mpr ⟨a, back ++ kept, ?_, ?_⟩
  · exact hkept _ ((List.prefix_append_right_inj back).mpr hleads) (by rw [List.length_append]; omega)
  · exact hkept' kept hleads (by omega)

theorem pure {a : α} (h : T a []) : Reads bound bound' (pure a) (pure a) T := by
  intro lexemes b rest _ hrun
  cases hrun
  exact ⟨[], rfl, h, fun kept _ _ => rfl⟩

theorem throw {complaint : Complaint} : Reads bound bound' (throw complaint) q T := by
  intro lexemes a rest _ hrun
  cases hrun

/-- Where nothing is in the bound, it does not matter what is read there. -/
theorem zero {q' : Parser α} (h : Reads bound bound' p q T) : Reads bound 0 p q' T := by
  intro lexemes a rest hlength hrun
  obtain ⟨front, hsplit, htaken, -⟩ := h lexemes a rest hlength hrun
  exact ⟨front, hsplit, htaken, fun kept _ hlength' => by omega⟩

/-- Nor where there is too little for what is read. -/
theorem one {q' : Parser α} (h : Reads bound bound' p q T) (hne : ∀ a front, T a front → front ≠ []) :
    Reads bound 1 p q' T := by
  intro lexemes a rest hlength hrun
  obtain ⟨front, hsplit, htaken, -⟩ := h lexemes a rest hlength hrun
  have hpos : 0 < front.length := List.length_pos_iff.mpr (hne a front htaken)
  refine ⟨front, hsplit, htaken, fun kept _ hlength' => ?_⟩
  rw [List.length_append] at hlength'
  omega

theorem malformed {message : String} : Reads bound bound' (malformed message) q T := throw

/-- A rule that repeats itself, with a bound on the repetitions: it is enough to follow one of them, for a
parser in whose bound there is nothing does not matter. -/
theorem upTo {ι : Type} {p q : Nat → ι → Parser α}
    (hstep : ∀ more more' i,
      (∀ i, Reads (min more bound) (min more' bound') (p more i) (q more' i) T) →
      Reads (min (more + 1) bound) (min (more' + 1) bound') (p (more + 1) i) (q (more' + 1) i) T)
    (more more' : Nat) (i : ι) :
    Reads (min more bound) (min more' bound') (p more i) (q more' i) T := by
  induction more generalizing more' i with
  | zero =>
    intro lexemes a rest hlength
    omega
  | succ more ih =>
    cases more' with
    | zero =>
      rw [Nat.zero_min]
      exact (hstep more 0 i (ih 0)).zero
    | succ more' => exact hstep more more' i (ih more')

end Reads

/-- A test that is passed takes one lexeme. -/
theorem reads_accept (test : Lexeme → Bool) :
    Reads bound bound' (accept test) (accept test) fun passed front =>
      if passed then ∃ lexeme, front = [lexeme] ∧ test lexeme = true else front = [] := by
  intro lexemes passed rest _ hrun
  cases lexemes with
  | nil =>
    cases hrun
    refine ⟨[], rfl, rfl, ?_⟩
    intro kept hleads _
    obtain rfl := List.prefix_nil.mp hleads
    rfl
  | cons lexeme more =>
    by_cases htest : test lexeme = true
    · have haccept : ∀ kept, (accept test).run (lexeme :: kept) = .ok (true, kept) := by
        intro kept
        change Except.ok (if test lexeme then (true, kept) else (false, lexeme :: kept)) = _
        rw [if_pos htest]
      cases (haccept more).symm.trans hrun
      exact ⟨[lexeme], rfl, ⟨lexeme, rfl, htest⟩, fun kept _ _ => haccept kept⟩
    · have haccept : ∀ kept, (accept test).run (lexeme :: kept) = .ok (false, lexeme :: kept) := by
        intro kept
        change Except.ok (if test lexeme then (true, kept) else (false, lexeme :: kept)) = _
        rw [if_neg htest]
      cases (haccept more).symm.trans hrun
      refine ⟨[], rfl, rfl, ?_⟩
      intro kept hleads _
      cases kept with
      | nil => rfl
      | cons first kept =>
        obtain ⟨rfl, -⟩ := List.cons_prefix_cons.mp hleads
        exact haccept kept

theorem reads_next :
    Reads bound bound' next next fun lexeme? front => front = lexeme?.toList := by
  intro lexemes lexeme? rest _ hrun
  cases hrun
  cases lexemes with
  | nil =>
    refine ⟨[], rfl, rfl, ?_⟩
    intro kept hleads _
    obtain rfl := List.prefix_nil.mp hleads
    rfl
  | cons lexeme more => exact ⟨[lexeme], rfl, rfl, fun kept _ _ => rfl⟩

/-- A check takes nothing. -/
theorem reads_lift (result : Except Complaint α) :
    Reads bound bound' (liftM result : Parser α) (liftM result : Parser α) fun _ front => front = [] := by
  intro lexemes a rest _ hrun
  cases result with
  | error complaint => cases hrun
  | ok value =>
    cases hrun
    exact ⟨[], rfl, rfl, fun kept _ _ => rfl⟩

/-- The number of lexemes that are left is bound enough. -/
theorem reads_remaining {f g : Nat → Parser α}
    (h : ∀ size size', Reads (min (size + 1) bound) (min (size' + 1) bound') (f size) (g size') T) :
    Reads bound bound' (remaining >>= f) (remaining >>= g) T := by
  intro lexemes a rest hlength hrun
  obtain ⟨size, between, hsize, hrun⟩ := run_bind_eq_ok.mp hrun
  cases hsize
  obtain ⟨front, hsplit, htaken, -⟩ := h lexemes.length 0 lexemes a rest (by omega) hrun
  refine ⟨front, hsplit, htaken, ?_⟩
  intro kept hleads hlength'
  obtain ⟨front', hsplit', -, hkept⟩ :=
    h lexemes.length (front ++ kept).length lexemes a rest (by omega) hrun
  have hfront : front' = front := List.append_cancel_right (hsplit'.symm.trans hsplit)
  subst hfront
  exact run_bind_eq_ok.mpr ⟨_, _, rfl, hkept kept hleads (by omega)⟩

theorem reads_acceptMark (c : Char) :
    Reads bound bound' (acceptMark c) (acceptMark c) fun passed front =>
      front = if passed then [.mark c] else [] := by
  refine (reads_accept _).imp ?_
  intro passed front htaken
  cases passed with
  | false => exact htaken
  | true =>
    obtain ⟨lexeme, rfl, htest⟩ := htaken
    cases lexeme with
    | mark d =>
      have hd : d = c := by simpa [Lexeme.isMark] using htest
      rw [hd]
      rfl
    | _ => cases htest

/-- A test for a mark, with and without it. -/
theorem reads_ifMark {c : Char} {next next' : Bool → Parser α}
    (htrue : Reads (bound - 1) (bound' - 1) (next true) (next' true) fun a back => T a (.mark c :: back))
    (hfalse : Reads bound bound' (next false) (next' false) T) :
    Reads bound bound' (acceptMark c >>= next) (acceptMark c >>= next') T := by
  refine (reads_acceptMark c).bind ?_
  intro passed front htaken
  subst htaken
  cases passed with
  | true => exact htrue
  | false => exact hfalse

theorem reads_expectMark {c : Char} {next next' : Parser α}
    (h : Reads (bound - 1) (bound' - 1) next next' fun a back => T a (.mark c :: back)) :
    Reads bound bound' (expectMark c >>= fun _ => next) (expectMark c >>= fun _ => next') T := by
  have hexpect : Reads bound bound' (expectMark c) (expectMark c) fun _ front => front = [.mark c] :=
    reads_ifMark (Reads.pure rfl) Reads.malformed
  refine hexpect.bind ?_
  intro _ front htaken
  subst htaken
  exact h

end Parser

end Stencil
