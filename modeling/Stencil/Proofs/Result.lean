import Stencil.Error

/-!
What it means for a chain of computations to succeed.
-/
namespace Stencil

theorem bind_eq_ok {ε α β : Type} {result : Except ε α} {next : α → Except ε β} {b : β} :
    (result >>= next) = .ok b ↔ ∃ a, result = .ok a ∧ next a = .ok b := by
  cases result with
  | ok a =>
    refine ⟨fun h => ⟨a, rfl, h⟩, ?_⟩
    rintro ⟨_, ⟨⟩, h⟩
    exact h
  | error e =>
    constructor
    · intro h
      cases h
    · rintro ⟨_, ⟨⟩, _⟩

theorem map_eq_ok {ε α β : Type} {result : Except ε α} {f : α → β} {b : β} :
    result.map f = .ok b ↔ ∃ a, result = .ok a ∧ f a = b := by
  cases result with
  | ok a =>
    constructor
    · rintro ⟨⟩
      exact ⟨a, rfl, rfl⟩
    · rintro ⟨_, ⟨⟩, rfl⟩
      rfl
  | error e =>
    constructor
    · intro h
      cases h
    · rintro ⟨_, ⟨⟩, _⟩

theorem eq_ok_of_isOk {ε α : Type} {result : Except ε α} (h : result.isOk = true) (default : α) :
    result = .ok (result.toOption.getD default) := by
  cases result with
  | ok a => rfl
  | error e => cases h

theorem eq_ok_of_toOption {ε α : Type} {result : Except ε α} {a : α} (h : result.toOption = some a) :
    result = .ok a := by
  cases result with
  | ok b => exact congrArg Except.ok (Option.some.inj h)
  | error e => cases h

theorem exists_eq_ok {ε α : Type} {result : Except ε α} (h : result.isOk = true) :
    ∃ a, result = .ok a := by
  cases result with
  | ok a => exact ⟨a, rfl⟩
  | error e => cases h

theorem exists_eq_ok_of_map {ε α β : Type} {result : Except ε α} {f : α → β} {b : β}
    (h : result.toOption.map f = some b) : ∃ a, result = .ok a ∧ f a = b := by
  obtain ⟨a, ha, hb⟩ := Option.map_eq_some_iff.mp h
  exact ⟨a, eq_ok_of_toOption ha, hb⟩

theorem run_bind_eq_ok {ε σ α β : Type} {m : EStateM ε σ α} {next : α → EStateM ε σ β} {b : β}
    {s after : σ} :
    (m >>= next) s = .ok b after ↔ ∃ a between, m s = .ok a between ∧ next a between = .ok b after := by
  change EStateM.bind m next s = .ok b after ↔ _
  unfold EStateM.bind
  cases m s with
  | ok a between =>
    refine ⟨fun h => ⟨a, between, rfl, h⟩, ?_⟩
    rintro ⟨_, _, ⟨⟩, h⟩
    exact h
  | error e between =>
    constructor
    · intro h
      cases h
    · rintro ⟨_, _, ⟨⟩, _⟩

theorem run_bind_of_ok {ε σ α β : Type} {m : EStateM ε σ α} {next : α → EStateM ε σ β} {a : α}
    {s after : σ} (h : m s = .ok a after) : (m >>= next) s = next a after := by
  change EStateM.bind m next s = _
  unfold EStateM.bind
  rw [h]

theorem run_bind_of_error {ε σ α β : Type} {m : EStateM ε σ α} {next : α → EStateM ε σ β} {e : ε}
    {s after : σ} (h : m s = .error e after) : (m >>= next) s = .error e after := by
  change EStateM.bind m next s = _
  unfold EStateM.bind
  rw [h]

@[simp] theorem located_eq_ok {α : Type} {line : Nat} {result : Except Complaint α} {a : α} :
    located line result = .ok a ↔ result = .ok a := by
  cases result <;> simp [located]

section Errors

variable {ε α β : Type} {result : Except ε α}

theorem bind_eq_error {next : α → Except ε β} {e : ε} :
    (result >>= next) = .error e ↔ result = .error e ∨ ∃ a, result = .ok a ∧ next a = .error e := by
  cases result with
  | ok a =>
    constructor
    · intro h
      exact Or.inr ⟨a, rfl, h⟩
    · rintro (⟨⟨⟩⟩ | ⟨_, ⟨⟩, h⟩)
      exact h
  | error other =>
    constructor
    · rintro ⟨⟩
      exact Or.inl rfl
    · rintro (⟨⟨⟩⟩ | ⟨_, ⟨⟩, _⟩)
      rfl

theorem map_eq_error {f : α → β} {e : ε} : result.map f = .error e ↔ result = .error e := by
  cases result with
  | ok a => exact ⟨nofun, nofun⟩
  | error other =>
    constructor
    · rintro ⟨⟩
      rfl
    · rintro ⟨⟩
      rfl

theorem eq_error_of_map {f : α → β} {result' : Except ε α} {e : ε} (h : f <$> result = f <$> result')
    (herror : result = .error e) : result' = .error e :=
  map_eq_error.mp (h.symm.trans (map_eq_error.mpr herror))

theorem located_eq_error {line : Nat} {result : Except Complaint α} {error : TemplateError} :
    located line result = .error error ↔
      ∃ complaint, result = .error complaint ∧ error = .located line complaint := by
  cases result with
  | ok a => exact ⟨nofun, nofun⟩
  | error complaint =>
    constructor
    · rintro ⟨⟩
      exact ⟨complaint, rfl, rfl⟩
    · rintro ⟨_, ⟨⟩, rfl⟩
      rfl

end Errors

end Stencil
