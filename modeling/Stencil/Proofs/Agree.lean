import Stencil.Render.Basic

/-!
Runs that agree. Two computations agree if from related states they both succeed, with related results,
or both fail, with related faults, and end in related states. Everything that renders is built from a few
combinators, and each of them keeps agreement. On the right there may be states beyond comparison, which
are never left again: a run that gets there agrees with anything.
-/
namespace Stencil

/-- How the states on two sides are related, and which ones on the right are beyond comparison. -/
structure Comparison (σ τ : Type) where
  related : σ → τ → Prop
  beyond : τ → Prop

/-- Without states beyond comparison. -/
instance {σ τ : Type} : Coe (σ → τ → Prop) (Comparison σ τ) := ⟨fun R => ⟨R, fun _ => False⟩⟩

/-- The same kind of ending on both sides, and related states. -/
def EndAlike {ε σ τ α β : Type} (R : σ → τ → Prop) (F : ε → ε → Prop) (V : α → β → Prop) :
    EStateM.Result ε σ α → EStateM.Result ε τ β → Prop
  | .ok a s, .ok b t => V a b ∧ R s t
  | .error e s, .error f t => F e f ∧ R s t
  | _, _ => False

/-- An ending with some state, and with a result that could have been compared. -/
def EndBeyond {ε τ α β : Type} (X : τ → Prop) (V : α → β → Prop) : EStateM.Result ε τ β → Prop
  | .ok b t => X t ∧ ∃ a, V a b
  | .error _ t => X t

structure Agree {ε σ τ α β : Type} (R : Comparison σ τ) (F : ε → ε → Prop) (V : α → β → Prop)
    (m : EStateM ε σ α) (m' : EStateM ε τ β) : Prop where
  ends : ∀ s t, R.related s t → EndAlike R.related F V (m s) (m' t) ∨ EndBeyond R.beyond V (m' t)
  stays : ∀ t, R.beyond t → EndBeyond R.beyond V (m' t)

/-- Equal results that have a property. -/
def EqualWith {α : Type} (P : α → Prop) (a b : α) : Prop := a = b ∧ P a

/-- Equal results, whatever they are. -/
abbrev Equal {α : Type} : α → α → Prop := EqualWith fun _ => True

theorem Equal.refl {α : Type} (a : α) : Equal a a := ⟨rfl, trivial⟩

/-- Faults of the same kind, with related errors. -/
def Fault.Alike (E : TemplateError → TemplateError → Prop) : Fault → Fault → Prop
  | .error e, .error f => E e f
  | .tooDeep, .tooDeep => True
  | _, _ => False

namespace Fault.Alike

variable {E : TemplateError → TemplateError → Prop} {e f g : Fault}

theorem symm (hE : ∀ a b, E a b → E b a) (h : Fault.Alike E e f) : Fault.Alike E f e := by
  cases e <;> cases f
  · exact hE _ _ h
  · exact h
  · exact h
  · exact True.intro

theorem trans (hE : ∀ a b c, E a b → E b c → E a c) (h : Fault.Alike E e f)
    (h' : Fault.Alike E f g) : Fault.Alike E e g := by
  cases f with
  | error b =>
    cases e with
    | error a =>
      cases g with
      | error c => exact hE a b c h h'
      | tooDeep => exact h'.elim
    | tooDeep => exact h.elim
  | tooDeep =>
    cases e with
    | error a => exact h.elim
    | tooDeep => exact h'

end Fault.Alike

namespace EndAlike

variable {ε σ τ α β : Type} {R : σ → τ → Prop} {F : ε → ε → Prop} {V W : α → β → Prop}

theorem mono {F' : ε → ε → Prop} (hF : ∀ e f, F e f → F' e f) (hVW : ∀ a b, V a b → W a b)
    {r : EStateM.Result ε σ α} {r' : EStateM.Result ε τ β}
    (h : EndAlike R F V r r') : EndAlike R F' W r r' := by
  cases r <;> cases r'
  · exact ⟨hVW _ _ h.1, h.2⟩
  · exact h
  · exact h
  · exact ⟨hF _ _ h.1, h.2⟩

theorem weaken {R' : σ → τ → Prop} (hR : ∀ s t, R s t → R' s t) {r : EStateM.Result ε σ α}
    {r' : EStateM.Result ε τ β} (h : EndAlike R F V r r') : EndAlike R' F V r r' := by
  cases r <;> cases r'
  · exact ⟨h.1, hR _ _ h.2⟩
  · exact h
  · exact h
  · exact ⟨h.1, hR _ _ h.2⟩

/-- If one side succeeds then so does the other. -/
theorem of_ok {a : α} {s : σ} {r' : EStateM.Result ε τ β} (h : EndAlike R F V (.ok a s) r') :
    ∃ b t, r' = .ok b t ∧ V a b ∧ R s t := by
  cases r' with
  | ok b t => exact ⟨b, t, rfl, h.1, h.2⟩
  | error f t => exact h.elim

/-- If one side fails then so does the other. -/
theorem of_error {e : ε} {s : σ} {r' : EStateM.Result ε τ β}
    (h : EndAlike R F V (.error e s : EStateM.Result ε σ α) r') :
    ∃ f t, r' = .error f t ∧ F e f ∧ R s t := by
  cases r' with
  | ok b t => exact h.elim
  | error f t => exact ⟨f, t, rfl, h.1, h.2⟩

end EndAlike

theorem EndBeyond.mono {ε τ α β : Type} {X : τ → Prop} {V W : α → β → Prop}
    (hVW : ∀ a b, V a b → W a b) {r : EStateM.Result ε τ β} (h : EndBeyond X V r) :
    EndBeyond X W r := by
  cases r with
  | ok b t => exact ⟨h.1, h.2.imp fun a => hVW a b⟩
  | error e t => exact h

namespace Agree

variable {ε σ τ α β γ δ : Type} {R : Comparison σ τ} {F : ε → ε → Prop} {V : α → β → Prop}
  {W : γ → δ → Prop}

/-- Where nothing is beyond comparison. -/
theorem of {R : σ → τ → Prop} {m : EStateM ε σ α} {m' : EStateM ε τ β}
    (h : ∀ s t, R s t → EndAlike R F V (m s) (m' t)) : Agree R F V m m' :=
  ⟨fun s t hR => Or.inl (h s t hR), fun _ h => h.elim⟩

theorem endAlike {m : EStateM ε σ α} {m' : EStateM ε τ β} (h : Agree R F V m m')
    (hnever : ∀ t, ¬ R.beyond t) {s : σ} {t : τ} (hR : R.related s t) :
    EndAlike R.related F V (m s) (m' t) := by
  refine (h.ends s t hR).resolve_right fun hbeyond => ?_
  cases hrun : m' t with
  | ok b t' =>
    rw [hrun] at hbeyond
    exact hnever t' hbeyond.1
  | error f t' =>
    rw [hrun] at hbeyond
    exact hnever t' hbeyond

theorem run {R : σ → τ → Prop} {m : EStateM ε σ α} {m' : EStateM ε τ β} (h : Agree R F V m m')
    {s : σ} {t : τ} (hR : R s t) : EndAlike R F V (m s) (m' t) :=
  h.endAlike (fun _ hX => hX) hR

theorem pure {a : α} {b : β} (h : V a b) :
    Agree R F V (Pure.pure a : EStateM ε σ α) (Pure.pure b : EStateM ε τ β) :=
  ⟨fun _ _ hR => Or.inl ⟨h, hR⟩, fun _ hX => ⟨hX, a, h⟩⟩

theorem throw {e f : ε} (h : F e f) :
    Agree R F V (MonadExcept.throw e : EStateM ε σ α) (MonadExcept.throw f : EStateM ε τ β) :=
  ⟨fun _ _ hR => Or.inl ⟨h, hR⟩, fun _ hX => hX⟩

/-- What goes on from a state beyond comparison ends in one. -/
theorem beyond_bind {X : τ → Prop} {m' : EStateM ε τ β} {k' : β → EStateM ε τ δ} {t : τ}
    (hm : EndBeyond X V (m' t)) (hk : ∀ a b t, V a b → X t → EndBeyond X W (k' b t)) :
    EndBeyond X W ((m' >>= k') t) := by
  change EndBeyond X W (EStateM.bind m' k' t)
  unfold EStateM.bind
  cases hrun : m' t with
  | ok b t' =>
    rw [hrun] at hm
    obtain ⟨hX, a, hV⟩ := hm
    exact hk a b t' hV hX
  | error f t' =>
    rw [hrun] at hm
    exact hm

theorem bind {m : EStateM ε σ α} {m' : EStateM ε τ β} {k : α → EStateM ε σ γ}
    {k' : β → EStateM ε τ δ} (hm : Agree R F V m m')
    (hk : ∀ a b, V a b → Agree R F W (k a) (k' b)) :
    Agree R F W (m >>= k) (m' >>= k') := by
  have hbeyond : ∀ t, EndBeyond R.beyond V (m' t) → EndBeyond R.beyond W ((m' >>= k') t) :=
    fun t ht => beyond_bind ht fun a b t' hV => (hk a b hV).stays t'
  refine ⟨fun s t hR => ?_, fun t hX => hbeyond t (hm.stays t hX)⟩
  rcases hm.ends s t hR with hrun | hrun
  · change EndAlike _ F W (EStateM.bind m k s) (EStateM.bind m' k' t) ∨
      EndBeyond _ W (EStateM.bind m' k' t)
    unfold EStateM.bind
    cases hs : m s with
    | ok a s₁ =>
      rw [hs] at hrun
      obtain ⟨b, t₁, ht, hV, hR₁⟩ := hrun.of_ok
      rw [ht]
      exact (hk a b hV).ends s₁ t₁ hR₁
    | error e s₁ =>
      rw [hs] at hrun
      obtain ⟨f, t₁, ht, hF, hR₁⟩ := hrun.of_error
      rw [ht]
      exact Or.inl ⟨hF, hR₁⟩
  · exact Or.inr (hbeyond t hrun)

/-- Equal results on the way have to be followed once only. -/
theorem bindWith {P : α → Prop} {m : EStateM ε σ α} {m' : EStateM ε τ α} {k : α → EStateM ε σ γ}
    {k' : α → EStateM ε τ δ} (hm : Agree R F (EqualWith P) m m')
    (hk : ∀ a, P a → Agree R F W (k a) (k' a)) : Agree R F W (m >>= k) (m' >>= k') := by
  refine hm.bind ?_
  rintro a _ ⟨rfl, hP⟩
  exact hk a hP

theorem map {f : α → γ} {g : β → δ} {m : EStateM ε σ α} {m' : EStateM ε τ β} (hm : Agree R F V m m')
    (hfg : ∀ a b, V a b → W (f a) (g b)) : Agree R F W (f <$> m) (g <$> m') := by
  rw [map_eq_pure_bind, map_eq_pure_bind]
  exact hm.bind fun a b hV => Agree.pure (hfg a b hV)

theorem mono {V' : α → β → Prop} {m : EStateM ε σ α} {m' : EStateM ε τ β}
    (hm : Agree R F V m m') (hV : ∀ a b, V a b → V' a b) : Agree R F V' m m' :=
  ⟨fun s t hR => (hm.ends s t hR).imp (EndAlike.mono (fun _ _ h => h) hV) (EndBeyond.mono hV),
    fun t hX => (hm.stays t hX).mono hV⟩

theorem monoFault {F' : ε → ε → Prop} {m : EStateM ε σ α} {m' : EStateM ε τ β}
    (hm : Agree R F V m m') (hF : ∀ e f, F e f → F' e f) : Agree R F' V m m' :=
  ⟨fun s t hR => (hm.ends s t hR).imp_left (EndAlike.mono hF fun _ _ h => h), hm.stays⟩

/-- Equal faults are alike. -/
theorem alike {E : TemplateError → TemplateError → Prop} (hE : ∀ e, E e e) {m : EStateM Fault σ α}
    {m' : EStateM Fault τ β} (hm : Agree R Eq V m m') : Agree R (Fault.Alike E) V m m' := by
  refine hm.monoFault ?_
  rintro fault _ rfl
  cases fault with
  | error e => exact hE e
  | tooDeep => exact True.intro

theorem symm {R : σ → τ → Prop} {m : EStateM ε σ α} {m' : EStateM ε τ β} (h : Agree R F V m m') :
    Agree (fun t s => R s t) (fun f e => F e f) (fun b a => V a b) m' m := by
  refine .of fun t s hR => ?_
  have hends := h.run hR
  cases hs : m s with
  | ok a s' =>
    rw [hs] at hends
    obtain ⟨b, t', ht, hV, hR'⟩ := hends.of_ok
    rw [ht]
    exact ⟨hV, hR'⟩
  | error e s' =>
    rw [hs] at hends
    obtain ⟨f, t', ht, hF, hR'⟩ := hends.of_error
    rw [ht]
    exact ⟨hF, hR'⟩

/-- Agreement by way of a third computation. -/
theorem trans {υ ζ : Type} {R : σ → τ → Prop} {R' : τ → υ → Prop} {S : σ → υ → Prop}
    {V' : β → ζ → Prop} {U : α → ζ → Prop} {m : EStateM ε σ α} {m' : EStateM ε τ β}
    {m'' : EStateM ε υ ζ} (h : Agree R F V m m') (h' : Agree R' F V' m' m'')
    (hstart : ∀ s u, S s u → ∃ t, R s t ∧ R' t u) (hend : ∀ s t u, R s t → R' t u → S s u)
    (hF : ∀ e f g, F e f → F f g → F e g) (hV : ∀ a b c, V a b → V' b c → U a c) :
    Agree S F U m m'' := by
  refine .of fun s u hS => ?_
  obtain ⟨t, hR, hR'⟩ := hstart s u hS
  have hends := h.run hR
  have hends' := h'.run hR'
  cases hs : m s with
  | ok a s' =>
    rw [hs] at hends
    obtain ⟨b, t', ht, hab, hst⟩ := hends.of_ok
    rw [ht] at hends'
    obtain ⟨c, u', hu, hbc, htu⟩ := hends'.of_ok
    rw [hu]
    exact ⟨hV a b c hab hbc, hend s' t' u' hst htu⟩
  | error e s' =>
    rw [hs] at hends
    obtain ⟨f, t', ht, hef, hst⟩ := hends.of_error
    rw [ht] at hends'
    obtain ⟨g, u', hu, hfg, htu⟩ := hends'.of_error
    rw [hu]
    exact ⟨hF e f g hef hfg, hend s' t' u' hst htu⟩

/-- What is known of the results on one side is known of equal results. -/
theorem equalWith_of_ok {I : σ → Prop} {P Q : α → Prop} {m m' : EStateM ε σ α}
    (h : Agree (EqualWith I) F (EqualWith Q) m m') (hok : ∀ s a s', I s → m' s = .ok a s' → P a) :
    Agree (EqualWith I) F (EqualWith P) m m' := by
  refine .of ?_
  rintro s _ ⟨rfl, hI⟩
  have hends := h.run ⟨rfl, hI⟩
  cases hrun : m' s with
  | ok b t =>
    rw [hrun] at hends
    cases hm : m s with
    | ok a s' =>
      rw [hm] at hends
      obtain ⟨⟨rfl, -⟩, hstate⟩ := hends
      exact ⟨⟨rfl, hok s a t hI hrun⟩, hstate⟩
    | error e s' =>
      rw [hm] at hends
      exact hends.elim
  | error f t =>
    rw [hrun] at hends
    cases hm : m s with
    | ok a s' =>
      rw [hm] at hends
      exact hends.elim
    | error e s' =>
      rw [hm] at hends
      exact hends

end Agree

/-- A run keeps a property of the state, however it ends, and its results have another one. -/
abbrev Keeps {ε σ α : Type} (I : σ → Prop) (Q : α → Prop) (m : EStateM ε σ α) : Prop :=
  Agree (EqualWith I) Eq (EqualWith Q) m m

namespace Keeps

variable {ε σ α : Type} {I : σ → Prop} {Q : α → Prop} {F : ε → ε → Prop} {m : EStateM ε σ α}
  {s s' : σ}

theorem ok {a : α} (h : Agree (EqualWith I) F (EqualWith Q) m m) (hs : I s)
    (hrun : m s = .ok a s') : Q a ∧ I s' := by
  have hends := h.run ⟨rfl, hs⟩
  rw [hrun] at hends
  exact ⟨hends.1.2, hends.2.2⟩

theorem error {e : ε} (h : Agree (EqualWith I) F (EqualWith Q) m m) (hs : I s)
    (hrun : m s = .error e s') : I s' := by
  have hends := h.run ⟨rfl, hs⟩
  rw [hrun] at hends
  exact hends.2.2

theorem of_run (hok : ∀ s a s', I s → m s = .ok a s' → Q a ∧ I s')
    (herror : ∀ s e s', I s → m s = .error e s' → I s') : Keeps I Q m := by
  refine .of ?_
  rintro s _ ⟨rfl, hI⟩
  cases hrun : m s with
  | ok a s' =>
    obtain ⟨hQ, hI'⟩ := hok s a s' hI hrun
    exact ⟨⟨rfl, hQ⟩, rfl, hI'⟩
  | error e s' => exact ⟨rfl, rfl, herror s e s' hI hrun⟩

theorem and {J : σ → Prop} {Q' : α → Prop} (h : Keeps I Q m) (h' : Keeps J Q' m) :
    Keeps (fun s => I s ∧ J s) (fun a => Q a ∧ Q' a) m := by
  refine .of ?_
  rintro s _ ⟨rfl, hI, hJ⟩
  have hends := h.run ⟨rfl, hI⟩
  have hends' := h'.run ⟨rfl, hJ⟩
  cases hrun : m s with
  | ok a s' =>
    rw [hrun] at hends hends'
    exact ⟨⟨rfl, hends.1.2, hends'.1.2⟩, rfl, hends.2.2, hends'.2.2⟩
  | error e s' =>
    rw [hrun] at hends hends'
    exact ⟨rfl, rfl, hends.2.2, hends'.2.2⟩

theorem pure {a : α} (h : Q a) : Keeps I Q (Pure.pure a : EStateM ε σ α) := Agree.pure ⟨rfl, h⟩

theorem throw (e : ε) : Keeps I Q (MonadExcept.throw e : EStateM ε σ α) := Agree.throw rfl

end Keeps

end Stencil
