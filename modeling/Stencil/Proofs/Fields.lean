import Stencil.Fields

/-!
Fields of which every value has a property, where the values of fields come from, and fields with the same
names and related values.
-/
namespace Stencil.Fields

variable {α : Type}

def AllValues (p : α → Prop) (fields : Fields α) : Prop := ∀ entry ∈ fields, p entry.2

theorem mem_of_get? {fields : Fields α} {name : String} {value : α}
    (h : get? fields name = some value) : (name, value) ∈ fields := by
  induction fields with
  | nil => simp at h
  | cons entry rest ih =>
    obtain ⟨key, old⟩ := entry
    by_cases hk : key = name
    · simp only [get?, hk, if_true, Option.some.injEq] at h
      subst hk h
      exact List.mem_cons_self
    · simp only [get?, hk, if_false] at h
      exact List.mem_cons_of_mem _ (ih h)

theorem AllValues.get? {p : α → Prop} {fields : Fields α} {name : String} {value : α}
    (h : AllValues p fields) (hget : Fields.get? fields name = some value) : p value :=
  h _ (mem_of_get? hget)

theorem AllValues.nil (p : α → Prop) : AllValues p [] := fun _ h => (List.not_mem_nil h).elim

theorem AllValues.put {p : α → Prop} {fields : Fields α} {value : α} (h : AllValues p fields)
    (name : String) (hvalue : p value) : AllValues p (put fields name value) := by
  induction fields with
  | nil => simpa [AllValues, Fields.put] using hvalue
  | cons entry rest ih =>
    obtain ⟨key, old⟩ := entry
    have hrest : AllValues p rest := fun e he => h e (List.mem_cons_of_mem _ he)
    have hold : p old := h (key, old) List.mem_cons_self
    by_cases hk : key = name
    · simp only [Fields.put, hk, if_true]
      exact List.forall_mem_cons.mpr ⟨hvalue, hrest⟩
    · simp only [Fields.put, hk, if_false]
      exact List.forall_mem_cons.mpr ⟨hold, ih hrest⟩

/-- A name that the later entries do not give keeps its value. -/
theorem get?_merge_of_absent {fields later : Fields α} {name : String} (h : get? later name = none) :
    get? (merge fields later) name = get? fields name := by
  induction later generalizing fields with
  | nil => rfl
  | cons entry rest ih =>
    obtain ⟨key, value⟩ := entry
    by_cases hk : key = name
    · simp [get?, hk] at h
    · simp only [get?, hk, if_false] at h
      exact (ih h).trans (get?_put_of_ne fields value (Ne.symm hk))

/-- The same names in the same order, with related values. -/
inductive Alike (R : α → α → Prop) : Fields α → Fields α → Prop
  | nil : Alike R [] []
  | cons (name : String) {a b : α} {rest₁ rest₂ : Fields α} (hvalue : R a b)
      (hrest : Alike R rest₁ rest₂) : Alike R ((name, a) :: rest₁) ((name, b) :: rest₂)

namespace Alike

variable {R : α → α → Prop} {fields₁ fields₂ : Fields α}

theorem get? (h : Alike R fields₁ fields₂) (name : String) :
    (∃ a b, Fields.get? fields₁ name = some a ∧ Fields.get? fields₂ name = some b ∧ R a b) ∨
      Fields.get? fields₁ name = none ∧ Fields.get? fields₂ name = none := by
  induction h with
  | nil => exact Or.inr ⟨rfl, rfl⟩
  | @cons key a b _ _ hvalue _ ih =>
    by_cases hk : key = name
    · refine Or.inl ⟨a, b, ?_, ?_, hvalue⟩
      · simp [Fields.get?, hk]
      · simp [Fields.get?, hk]
    · simpa [Fields.get?, hk] using ih

theorem put (h : Alike R fields₁ fields₂) (name : String) {a b : α} (hvalue : R a b) :
    Alike R (Fields.put fields₁ name a) (Fields.put fields₂ name b) := by
  induction h with
  | nil => exact .cons name hvalue .nil
  | @cons key _ _ _ _ hold hrest ih =>
    by_cases hk : key = name
    · simp only [Fields.put, hk, if_true]
      exact .cons name hvalue hrest
    · simp only [Fields.put, hk, if_false]
      exact .cons key hold ih

variable {p : String × α → Bool} (hp : ∀ name a b, p (name, a) = p (name, b))

include hp

/-- What is sought by the names alone is found at the same place. -/
theorem find? (h : Alike R fields₁ fields₂) :
    (∃ a b, List.find? p fields₁ = some a ∧ List.find? p fields₂ = some b ∧ R a.2 b.2) ∨
      List.find? p fields₁ = none ∧ List.find? p fields₂ = none := by
  induction h with
  | nil => exact Or.inr ⟨rfl, rfl⟩
  | @cons name a b _ _ hvalue _ ih =>
    have hsame := hp name a b
    by_cases hfound : p (name, a) = true
    · refine Or.inl ⟨(name, a), (name, b), ?_, ?_, hvalue⟩
      · rw [List.find?_cons_of_pos hfound]
      · rw [List.find?_cons_of_pos (hsame.symm.trans hfound)]
    · rw [List.find?_cons_of_neg hfound, List.find?_cons_of_neg (hsame ▸ hfound)]
      exact ih

theorem any (h : Alike R fields₁ fields₂) : List.any fields₁ p = List.any fields₂ p := by
  induction h with
  | nil => rfl
  | @cons name a b _ _ _ _ ih => rw [List.any_cons, List.any_cons, hp name a b, ih]

end Alike

end Stencil.Fields
