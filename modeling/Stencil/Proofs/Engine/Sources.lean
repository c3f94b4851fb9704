import Mathlib.Data.Set.Finite.Basic
import Stencil.Engine.Store
import Stencil.Proofs.Fields
import Stencil.Proofs.Location

/-!
The sources of a loader and how many templates there can be. Different keys that have a stored source have
different ones, so that a list of such keys without repetition is no longer than the loader's.
-/
namespace Stencil

namespace Environment

variable {env : Environment}

/-- A key under which there is a source. -/
structure HasSource (env : Environment) (key : String) : Prop where
  isKey : Location.IsKey key
  source : ∃ source, env.source key = .ok source

theorem isKey_of_resolve {name key : String} {from? : Option String}
    (h : env.resolve name from? = .ok key) : Location.IsKey key := by
  unfold resolve at h
  split at h
  · rename_i path hpath
    cases h
    exact Location.isKey_of_resolve hpath
  · cases h

theorem load_of_source {key source : String} (h : env.source key = .ok source) :
    env.loader.load key = .ok source := by
  unfold Environment.source at h
  split at h
  · rename_i hload
    cases h
    exact hload
  · cases h

end Environment

namespace Loader

open Location

/-- A source of a table is kept under its key. -/
theorem mem_names_of_load {sources : Fields String} {key source : String} (hkey : IsKey key)
    (h : (table sources).load key = .ok source) : key ∈ Fields.names sources := by
  unfold load at h
  dsimp only at h
  split at h
  · rename_i text hget
    rw [hkey.write_components] at hget
    exact List.mem_map.mpr ⟨_, Fields.mem_of_get? hget, rfl⟩
  · cases h

/-- What is loaded from a folder is the text of a file at the same place in it. -/
theorem exists_file_of_load {files : Fields String} {path source : String}
    (h : (folder files).load path = .ok source) :
    ∃ inner name, inside? (components path) = some inner ∧
      files.find? (fun file => inside? (components file.1) == some inner) = some (name, source) := by
  have hread : readFile files path = .ok source := by
    unfold load at h
    dsimp only at h
    split at h
    · rename_i text hread
      cases h
      exact hread
    · cases h
  unfold readFile at hread
  split at hread
  · cases hread
  · split at hread
    · cases hread
    · split at hread
      · split at hread <;> cases hread
      · rename_i inner hinner
        split at hread
        · rename_i name text hfind
          cases hread
          exact ⟨inner, name, hinner, hfind⟩
        · split at hread
          · cases hread
          · split at hread <;> cases hread

/-- The file of a key has the path of the key. -/
theorem mem_paths_of_load {files : Fields String} {key source : String} (hkey : IsKey key)
    (h : (folder files).load key = .ok source) :
    components key ∈ files.filterMap fun file => inside? (components file.1) := by
  obtain ⟨inner, name, hinner, hfind⟩ := exists_file_of_load h
  have hself : inner = components key := by
    unfold inside? at hinner
    split at hinner <;> cases hinner
    exact hkey.normalise_components
  have hfile := List.find?_some hfind
  refine List.mem_filterMap.mpr ⟨_, List.mem_of_find?_eq_some hfind, ?_⟩
  rw [eq_of_beq hfile, hself]

/-- All sources of a loader have the property: those that are stored, or all that the loader may answer. -/
def AllSources (p : String → Prop) : Loader → Prop
  | table sources => sources.AllValues p
  | folder files => files.AllValues p
  | custom answer => ∀ path source, answer path = .ok source → p source

theorem isStored_put {loader : Loader} (h : loader.isStored = true) (path source : String) :
    (loader.put path source).isStored = true := by
  cases loader with
  | custom answer => cases h
  | _ => rfl

theorem AllSources.load {p : String → Prop} {loader : Loader} (h : loader.AllSources p) {path source : String}
    (hload : loader.load path = .ok source) : p source := by
  cases loader with
  | table sources =>
    unfold Loader.load at hload
    dsimp only at hload
    split at hload
    · rename_i found hget
      cases hload
      exact Fields.AllValues.get? h hget
    · cases hload
  | folder files =>
    obtain ⟨inner, name, -, hfind⟩ := exists_file_of_load hload
    exact h _ (List.mem_of_find?_eq_some hfind)
  | custom answer => exact h path source hload

theorem AllSources.mono {p q : String → Prop} {loader : Loader} (h : loader.AllSources p)
    (hpq : ∀ source, p source → q source) : loader.AllSources q := by
  cases loader with
  | custom answer => exact fun path source hload => hpq source (h path source hload)
  | _ => exact fun entry hentry => hpq entry.2 (h entry hentry)

theorem AllSources.put {p : String → Prop} {loader : Loader} (h : loader.AllSources p) (path : String)
    {source : String} (hsource : p source) : (loader.put path source).AllSources p := by
  cases loader with
  | table sources => exact Fields.AllValues.put h _ hsource
  | folder files => exact Fields.AllValues.put h _ hsource
  | custom answer =>
    intro other text htext
    dsimp only at htext
    split at htext
    · cases htext
      exact hsource
    · exact h other text htext

end Loader

namespace Environment

variable {env : Environment}

/-- No more than so many keys have sources. -/
def HoldsAtMost (env : Environment) (size : Nat) : Prop :=
  ∀ keys : List String, keys.Nodup → (∀ key ∈ keys, env.HasSource key) → keys.length ≤ size

/-- Keys with sources are no more than there are sources, if these are stored. -/
theorem holdsAtMost_size (hstored : env.loader.isStored = true) : env.HoldsAtMost env.loader.size := by
  intro keys hnodup hkeys
  have hload : ∀ key ∈ keys, ∃ source, env.loader.load key = .ok source := fun key hkey =>
    (hkeys key hkey).source.imp fun _ hsource => load_of_source hsource
  unfold Loader.size
  generalize env.loader = loader at hstored hload ⊢
  cases loader with
  | custom answer => cases hstored
  | table sources =>
    have hsub : keys ⊆ Fields.names sources := fun key hkey => by
      obtain ⟨source, hsource⟩ := hload key hkey
      exact Loader.mem_names_of_load (hkeys key hkey).isKey hsource
    have hle := hnodup.length_le_of_subset hsub
    rwa [Fields.names, List.length_map] at hle
  | folder files =>
    have hinjective : (keys.map Location.components).Nodup := by
      refine List.Pairwise.map _ ?_ (List.Pairwise.and_mem.mp hnodup)
      rintro a b ⟨ha, hb, hne⟩ heq
      rw [← (hkeys a ha).isKey.write_components, ← (hkeys b hb).isKey.write_components, heq] at hne
      exact hne rfl
    have hsub : keys.map Location.components ⊆
        files.filterMap fun file => Loader.inside? (Location.components file.1) := by
      intro path hpath
      obtain ⟨key, hkey, rfl⟩ := List.mem_map.mp hpath
      obtain ⟨source, hsource⟩ := hload key hkey
      exact Loader.mem_paths_of_load (hkeys key hkey).isKey hsource
    have hle := hinjective.length_le_of_subset hsub
    rw [List.length_map] at hle
    exact Nat.le_trans hle (List.length_filterMap_le _ _)

end Environment

end Stencil
