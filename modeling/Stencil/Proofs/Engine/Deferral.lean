import Stencil.Proofs.Engine.Sources
import Stencil.Proofs.Source.ExtendsTag
import Stencil.Value.Basic

/-!
Loaders of which some sources are changed: the name in the extends tag at their start gives way to a
variable that the globals bind to that name.
-/
namespace Stencil

/-- The same source, or one that names its layout by a variable in place of a quoted text. -/
inductive Source.Defers (globals : Fields Value) : String → String → Prop
  | same (source : String) : Defers globals source source
  | layout {global name : String} (hglobal : IsVariable global) (hname : IsPlainName name)
      (hbound : Fields.get? globals global = some (.string name)) (rest : List Char) :
      Defers globals (String.ofList (extendsSource ('"' :: name.toList ++ ['"']) rest))
        (String.ofList (extendsSource global.toList rest))

/-- The same source, a changed one, or the same reason why there is none. -/
inductive Source.AnswersDefer (globals : Fields Value) : Except String String → Except String String → Prop
  | ok {source₁ source₂ : String} (hsource : Source.Defers globals source₁ source₂) :
      AnswersDefer globals (.ok source₁) (.ok source₂)
  | error (message : String) : AnswersDefer globals (.error message) (.error message)

theorem Source.AnswersDefer.refl (globals : Fields Value) (answer : Except String String) :
    AnswersDefer globals answer answer := by
  cases answer with
  | ok source => exact .ok (.same source)
  | error message => exact .error message

/-- Loaders of the same kind whose sources are the same, or changed to name their layouts by variables. A
loader of the host has finitely many: with a layout above every file a compilation would never end where the
layout is named, while one that waits for its layout may be refused for what follows the tag, and an inclusion
can pass over such an error. -/
inductive Loader.Defers (globals : Fields Value) : Loader → Loader → Prop
  | table {sources₁ sources₂ : Fields String}
      (hsources : Fields.Alike (Source.Defers globals) sources₁ sources₂) :
      Defers globals (.table sources₁) (.table sources₂)
  | folder {files₁ files₂ : Fields String}
      (hfiles : Fields.Alike (Source.Defers globals) files₁ files₂) :
      Defers globals (.folder files₁) (.folder files₂)
  | custom {answer₁ answer₂ : String → Except String String}
      (hfinite : {key | Location.IsKey key ∧ ∃ source, answer₁ key = .ok source}.Finite)
      (hanswers : ∀ path, Source.AnswersDefer globals (answer₁ path) (answer₂ path)) :
      Defers globals (.custom answer₁) (.custom answer₂)

namespace Loader.Defers

variable {globals : Fields Value} {loader₁ loader₂ : Loader}

/-- A file is read on both sides or on none. -/
theorem readFile {files₁ files₂ : Fields String}
    (h : Fields.Alike (Source.Defers globals) files₁ files₂) (path : String) :
    (∃ text₁ text₂, Loader.readFile files₁ path = .ok text₁ ∧ Loader.readFile files₂ path = .ok text₂ ∧
      Source.Defers globals text₁ text₂) ∨
    ∃ fault, Loader.readFile files₁ path = .error fault ∧ Loader.readFile files₂ path = .error fault := by
  have hfile : ∀ inner, isFile files₁ inner = isFile files₂ inner := fun inner =>
    h.any fun _ _ _ => rfl
  have hfolder : ∀ inner, isFolder files₁ inner = isFolder files₂ inner := fun inner =>
    congrArg (inner.isEmpty || ·) (h.any fun _ _ _ => rfl)
  unfold Loader.readFile
  split
  · exact Or.inr ⟨_, rfl, rfl⟩
  · split
    · exact Or.inr ⟨_, rfl, rfl⟩
    · split
      · split <;> exact Or.inr ⟨_, rfl, rfl⟩
      · rename_i inner _
        have hfind := h.find? (p := fun file => inside? (Location.components file.1) == some inner)
          fun _ _ _ => rfl
        rcases hfind with ⟨file₁, file₂, hfind₁, hfind₂, htext⟩ | ⟨hfind₁, hfind₂⟩
        · rw [hfind₁, hfind₂]
          exact Or.inl ⟨file₁.2, file₂.2, rfl, rfl, htext⟩
        · simp only [hfind₁, hfind₂, hfile, hfolder]
          split
          · exact Or.inr ⟨_, rfl, rfl⟩
          · split <;> exact Or.inr ⟨_, rfl, rfl⟩

/-- What is loaded from a path is changed in that way too. -/
theorem load (h : Defers globals loader₁ loader₂) (path : String) :
    Source.AnswersDefer globals (loader₁.load path) (loader₂.load path) := by
  cases h with
  | table hsources =>
    unfold Loader.load
    dsimp only
    rcases hsources.get? (Location.write (Location.components path)) with
      ⟨source₁, source₂, hget₁, hget₂, hsource⟩ | ⟨hget₁, hget₂⟩
    · rw [hget₁, hget₂]
      exact .ok hsource
    · rw [hget₁, hget₂]
      exact .error _
  | folder hfiles =>
    unfold Loader.load
    dsimp only
    rcases readFile hfiles path with ⟨text₁, text₂, hread₁, hread₂, htext⟩ | ⟨fault, hread₁, hread₂⟩
    · rw [hread₁, hread₂]
      exact .ok htext
    · rw [hread₁, hread₂]
      exact .error _
  | custom _ hanswers => exact hanswers path

end Loader.Defers

end Stencil
