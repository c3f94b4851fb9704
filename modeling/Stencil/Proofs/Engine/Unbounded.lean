import Stencil.Engine.Store
import Stencil.Proofs.Agree
import Stencil.Proofs.Result

/-!
Runs with less and with more room. With more room a run does what it does with less, unless that was not
enough. A load with as much room as it takes ends as it does with any room that is enough for it; if no room
is, then it never ends.
-/
namespace Stencil

/-- The second computation does what the first one does, wherever that one does not go too deep. -/
def Deepens {σ α : Type} (m m' : EStateM Fault σ α) : Prop := ∀ s, EndsTooDeep (m s) ∨ m' s = m s

namespace Deepens

variable {σ α β : Type} {m m' m'' : EStateM Fault σ α}

theorem refl (m : EStateM Fault σ α) : Deepens m m := fun _ => Or.inr rfl

theorem tooDeep (m : EStateM Fault σ α) : Deepens (throw .tooDeep) m := fun s => Or.inl ⟨s, rfl⟩

theorem trans (h : Deepens m m') (h' : Deepens m' m'') : Deepens m m'' := by
  intro s
  rcases h s with hdeep | hsame
  · exact Or.inl hdeep
  · rw [← hsame]
    exact h' s

theorem bind {next next' : α → EStateM Fault σ β} (h : Deepens m m')
    (hnext : ∀ a, Deepens (next a) (next' a)) : Deepens (m >>= next) (m' >>= next') := by
  intro s
  rcases h s with ⟨t, hdeep⟩ | hsame
  · exact Or.inl ⟨t, run_bind_of_error hdeep⟩
  · cases hrun : m s with
    | ok a t =>
      rw [run_bind_of_ok hrun, run_bind_of_ok (hsame.trans hrun)]
      exact hnext a t
    | error fault t =>
      rw [run_bind_of_error hrun, run_bind_of_error (hsame.trans hrun)]
      exact Or.inr rfl

theorem bindPure (h : Deepens m m') (f : α → β) :
    Deepens (m >>= fun a => pure (f a)) (m' >>= fun a => pure (f a)) :=
  h.bind fun a => refl (pure (f a))

theorem map (h : Deepens m m') (f : α → β) : Deepens (f <$> m) (f <$> m') := by
  rw [map_eq_pure_bind, map_eq_pure_bind]
  exact h.bindPure f

end Deepens

/-- Runs that are alike go too deep together. -/
theorem EndAlike.endsTooDeep_iff {σ τ α β : Type} {R : σ → τ → Prop} {V : α → β → Prop}
    {E : TemplateError → TemplateError → Prop} {r : EStateM.Result Fault σ α} {r' : EStateM.Result Fault τ β}
    (h : EndAlike R (Fault.Alike E) V r r') : EndsTooDeep r ↔ EndsTooDeep r' := by
  constructor
  · rintro ⟨s, rfl⟩
    obtain ⟨fault, t, rfl, hfault, -⟩ := h.of_error
    cases fault with
    | error error => exact hfault.elim
    | tooDeep => exact ⟨t, rfl⟩
  · rintro ⟨t, rfl⟩
    cases r with
    | ok a s => exact h.elim
    | error fault s =>
      cases fault with
      | error error => exact h.1.elim
      | tooDeep => exact ⟨s, rfl⟩

namespace LoadM

variable {α β : Type} {load : Nat → LoadM α} {store : Store}

/-- A load ends as it does with some room that is enough, or never does. -/
theorem unbounded_cases (load : Nat → LoadM α) (store : Store) :
    (∃ room, unbounded load store = load room store ∧ ¬ EndsTooDeep (load room store)) ∨
      unbounded load store = .error .tooDeep store ∧ ∀ room, EndsTooDeep (load room store) := by
  unfold unbounded
  cases search load store 0 with
  | ends room hends => exact Or.inl ⟨room, rfl, hends⟩
  | never hnever => exact Or.inr ⟨rfl, hnever⟩

/-- More room makes no difference where there was enough. -/
def Grows (load : Nat → LoadM α) : Prop := ∀ room, Deepens (load room) (load (room + 1))

theorem Grows.deepens (h : Grows load) {less more : Nat} (hle : less ≤ more) :
    Deepens (load less) (load more) := by
  induction hle with
  | refl => exact .refl _
  | step _ ih => exact ih.trans (h _)

theorem Grows.unbounded_eq (h : Grows load) {room : Nat} (hends : ¬ EndsTooDeep (load room store)) :
    unbounded load store = load room store := by
  rcases unbounded_cases load store with ⟨enough, hrun, henough⟩ | ⟨-, hnever⟩
  · rw [hrun]
    rcases Nat.le_total room enough with hle | hle
    · exact (h.deepens hle store).resolve_left hends
    · exact ((h.deepens hle store).resolve_left henough).symm
  · exact absurd (hnever room) hends

theorem Grows.deepens_unbounded {load' : Nat → LoadM α} (hgrows : Grows load')
    (h : ∀ room, Deepens (load room) (load' room)) : Deepens (unbounded load) (unbounded load') := by
  intro store
  rcases unbounded_cases load store with ⟨room, hrun, hends⟩ | ⟨hnever, -⟩
  · have hsame := (h room store).resolve_left hends
    rw [hrun, hgrows.unbounded_eq (hsame ▸ hends)]
    exact Or.inr hsame
  · exact Or.inl ⟨store, hnever⟩

/-- What agrees with any room agrees with as much as it takes. -/
theorem Grows.agree_unbounded {R : Store → Store → Prop} {E : TemplateError → TemplateError → Prop}
    {V : α → β → Prop} {load' : Nat → LoadM β} (hgrows : Grows load')
    (h : ∀ room, Agree R (Fault.Alike E) V (load room) (load' room)) :
    Agree R (Fault.Alike E) V (unbounded load) (unbounded load') := by
  refine .of fun s t hR => ?_
  rcases unbounded_cases load s with ⟨room, hrun, hends⟩ | ⟨hrun, hnever⟩
  · have hroom := (h room).run hR
    rw [hrun, hgrows.unbounded_eq (mt hroom.endsTooDeep_iff.mpr hends)]
    exact hroom
  · rcases unbounded_cases load' t with ⟨room, -, hends⟩ | ⟨hrun', -⟩
    · exact absurd (((h room).run hR).endsTooDeep_iff.mp (hnever room)) hends
    · rw [hrun, hrun']
      exact ⟨True.intro, hR⟩

theorem deepens_throughStore {compile compile' : LoadM Template} (h : Deepens compile compile')
    (caching : Bool) (key : String) :
    Deepens (throughStore caching key compile) (throughStore caching key compile') := by
  unfold throughStore
  cases caching with
  | false => exact h.bind fun template => .refl _
  | true =>
    refine (Deepens.refl get).bind fun store => ?_
    cases store.get? key with
    | some kept => exact .refl _
    | none => exact h.bind fun template => .refl _

/-- What is kept with any room is kept with as much as it takes. -/
theorem keeps_unbounded {I : Store → Prop} {Q : α → Prop} (h : ∀ room, Keeps I Q (load room)) :
    Keeps I Q (unbounded load) := by
  refine Keeps.of_run (fun store a after hstore hrun => ?_) fun store fault after hstore hrun => ?_
  · rcases unbounded_cases load store with ⟨room, hroom, -⟩ | ⟨hnever, -⟩
    · exact Keeps.ok (h room) hstore (hroom ▸ hrun)
    · cases hnever.symm.trans hrun
  · rcases unbounded_cases load store with ⟨room, hroom, -⟩ | ⟨hnever, -⟩
    · exact Keeps.error (h room) hstore (hroom ▸ hrun)
    · cases hnever.symm.trans hrun
      exact hstore

end LoadM

namespace Environment

variable {env : Environment} {around : List String} {path : String}

theorem deepens_build {load load' : String → LoadM Compiled} {id source : String} {origin : Option String}
    (h : ∀ key, Deepens (load key) (load' key)) :
    Deepens (env.build load around id source origin) (env.build load' around id source origin) := by
  unfold build
  refine (Deepens.refl _).bind fun tokens => (Deepens.refl _).bind fun layout => ?_
  match layout with
  | none => exact .refl _
  | some (.computed layout, line) => exact .refl _
  | some (.named name, line) =>
    refine (Deepens.refl _).bind fun key => ?_
    dsimp only
    split
    · exact .refl _
    · exact (h key).bind fun layout => .refl _

theorem grows_loadPath (env : Environment) (around : List String) (path : String) :
    LoadM.Grows fun room => env.loadPath room around path := by
  intro room
  induction room generalizing around path with
  | zero => exact .tooDeep _
  | succ room ih =>
    refine (Deepens.refl _).bind fun _ => LoadM.deepens_throughStore ?_ _ _
    exact (Deepens.refl _).bind fun source => deepens_build fun key => ih (path :: around) key

/-- A file is loaded as with any room that is enough for it. -/
theorem loadFile_eq_loadPath {room : Nat} {store : Store}
    (hends : ¬ EndsTooDeep (env.loadPath room around path store))
    (hstored : env.loader.isStored = true → ¬ EndsTooDeep (env.loadPath env.layoutBound around path store)) :
    env.loadFile around path store = env.loadPath room around path store := by
  have hgrows := env.grows_loadPath around path
  unfold loadFile
  split
  · rename_i h
    rcases Nat.le_total room env.layoutBound with hle | hle
    · exact (hgrows.deepens hle store).resolve_left hends
    · exact ((hgrows.deepens hle store).resolve_left (hstored h)).symm
  · exact hgrows.unbounded_eq hends

theorem loadFile_of_stored (h : env.loader.isStored = true) :
    env.loadFile around path = env.loadPath env.layoutBound around path := if_pos h

/-- A file is loaded with some room, unless no room is enough for it. -/
theorem loadFile_cases (env : Environment) (around : List String) (path : String) (store : Store) :
    (∃ room, env.loadFile around path store = env.loadPath room around path store) ∨
      env.loadFile around path store = .error .tooDeep store ∧
        ∀ room, EndsTooDeep (env.loadPath room around path store) := by
  unfold loadFile
  split
  · exact Or.inl ⟨env.layoutBound, rfl⟩
  · exact (LoadM.unbounded_cases _ store).imp_left fun ⟨room, hroom, _⟩ => ⟨room, hroom⟩

/-- If all room makes no difference then any will do. -/
theorem loadFile_of_forall {store : Store} {outcome : EStateM.Result Fault Store Compiled}
    (hends : ¬ EndsTooDeep outcome) (h : ∀ room, env.loadPath (room + 1) around path store = outcome) :
    env.loadFile around path store = outcome := by
  unfold loadFile
  split
  · exact h env.loader.size
  · rcases LoadM.unbounded_cases (fun room => env.loadPath room around path) store with
      ⟨room, hroom, hsettled⟩ | ⟨-, hnever⟩
    · cases room with
      | zero => exact absurd ⟨store, rfl⟩ hsettled
      | succ room => exact hroom.trans (h room)
    · exact absurd (h 0 ▸ hnever 1) hends

theorem keeps_loadFile {I : Store → Prop} {Q : Compiled → Prop}
    (h : ∀ room, Keeps I Q (env.loadPath room around path)) : Keeps I Q (env.loadFile around path) := by
  unfold loadFile
  split
  · exact h env.layoutBound
  · exact LoadM.keeps_unbounded h

end Environment

end Stencil
