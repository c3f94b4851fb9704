/-!
Values kept under names, in the order in which the names were first given. Giving a name again
replaces its value and leaves its place alone. The same container holds the members of an object, the
variables of a context, the blocks of a program and the sources of a loader.
-/
namespace Stencil

abbrev Fields (α : Type) := List (String × α)

namespace Fields

variable {α β : Type}

def get? : Fields α → String → Option α
  | [], _ => none
  | (key, value) :: rest, name => if key = name then some value else get? rest name

def has (fields : Fields α) (name : String) : Bool := (get? fields name).isSome

def put : Fields α → String → α → Fields α
  | [], name, value => [(name, value)]
  | (key, old) :: rest, name, value =>
      if key = name then (key, value) :: rest else (key, old) :: put rest name value

def erase : Fields α → String → Fields α
  | [], _ => []
  | (key, value) :: rest, name =>
      if key = name then erase rest name else (key, value) :: erase rest name

/-- The later entries win, one after another. -/
def merge (fields : Fields α) (later : Fields α) : Fields α :=
  later.foldl (fun acc entry => put acc entry.1 entry.2) fields

/-- Entries of which a name may occur twice, as a writer would give them one by one. -/
def ofEntries (entries : List (String × α)) : Fields α := merge [] entries

def names (fields : Fields α) : List String := fields.map (·.1)

/-- Put the value back under the name, or leave the name free. -/
def restore (fields : Fields α) (name : String) : Option α → Fields α
  | some value => put fields name value
  | none => erase fields name

@[simp] theorem get?_nil (name : String) : get? ([] : Fields α) name = none := rfl

theorem get?_put_self (fields : Fields α) (name : String) (value : α) :
    get? (put fields name value) name = some value := by
  induction fields with
  | nil => simp [put, get?]
  | cons entry rest ih =>
    obtain ⟨key, old⟩ := entry
    by_cases h : key = name <;> simp [put, get?, h, ih]

theorem get?_put_of_ne (fields : Fields α) {name other : String} (value : α) (h : other ≠ name) :
    get? (put fields name value) other = get? fields other := by
  induction fields with
  | nil => simp [put, get?, h.symm]
  | cons entry rest ih =>
    obtain ⟨key, old⟩ := entry
    by_cases hk : key = name
    · subst hk
      simp [put, get?, h.symm]
    · by_cases ho : key = other
      · subst ho
        simp [put, get?, h]
      · simp [put, get?, hk, ho, ih]

theorem get?_erase_self (fields : Fields α) (name : String) :
    get? (erase fields name) name = none := by
  induction fields with
  | nil => rfl
  | cons entry rest ih =>
    obtain ⟨key, old⟩ := entry
    by_cases h : key = name <;> simp [erase, get?, h, ih]

theorem get?_erase_of_ne (fields : Fields α) {name other : String} (h : other ≠ name) :
    get? (erase fields name) other = get? fields other := by
  induction fields with
  | nil => rfl
  | cons entry rest ih =>
    obtain ⟨key, old⟩ := entry
    by_cases hk : key = name
    · subst hk
      simp [erase, get?, h.symm, ih]
    · by_cases ho : key = other
      · subst ho
        simp [erase, get?, h]
      · simp [erase, get?, hk, ho, ih]

theorem get?_restore_self (fields : Fields α) (name : String) (saved : Option α) :
    get? (restore fields name saved) name = saved := by
  cases saved <;> simp [restore, get?_put_self, get?_erase_self]

theorem get?_restore_of_ne (fields : Fields α) {name other : String} (saved : Option α)
    (h : other ≠ name) : get? (restore fields name saved) other = get? fields other := by
  cases saved <;> simp [restore, get?_put_of_ne, get?_erase_of_ne, h]

end Fields

end Stencil
