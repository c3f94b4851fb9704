import Stencil.Proofs.Engine.Files
import Stencil.Proofs.Engine.Provenance

/-!
Loading without a cache: each load compiles its file and all files above it again, and asks for all of them.
Beside it, what is loaded with a cache and was not kept before is compiled and then kept.
-/
namespace Stencil

/-- What a store keeps of itself when paths are asked for and templates are numbered. -/
structure Store.Persists (I : Store → Prop) : Prop where
  ask : ∀ store path, I store → I { store with asked := path :: store.asked }
  stamp : ∀ store, I store → I { store with nextStamp := store.nextStamp + 1 }

/-- A computation that keeps a property can go on from what was compared with anything. -/
theorem Keeps.endBeyond {ε σ α β : Type} {I : σ → Prop} {Q : β → Prop} {V : α → β → Prop}
    {m : EStateM ε σ β} {s : σ} (h : Keeps I Q m) (hs : I s) (hV : ∀ b, Q b → ∃ a, V a b) :
    EndBeyond I V (m s) := by
  cases hrun : m s with
  | ok b after =>
    obtain ⟨hQ, hafter⟩ := Keeps.ok h hs hrun
    exact ⟨hafter, hV b hQ⟩
  | error e after =>
    have hafter : I after := Keeps.error h hs hrun
    exact hafter

/-- One template on both sides. -/
def SameTemplate (P : Template → Prop) (compiled compiled' : Compiled) : Prop :=
  compiled.template = compiled'.template ∧ P compiled.template

theorem SameTemplate.of {P : Template → Prop} {compiled : Compiled} (h : P compiled.template) :
    ∃ compiled', SameTemplate P compiled' compiled := ⟨compiled, rfl, h⟩

namespace Environment

variable {env : Environment} {bound : Nat} {around files : List String} {path key source : String}
  {template : Template} {s t after : Store} {compiled : Compiled}

/-- The same environment, in which templates are kept. -/
def caching (env : Environment) : Environment :=
  { env with settings := { env.settings with cache := true } }

theorem FromFile.hasSource {P : String → Template → Prop} (h : env.FromFile P path template)
    (hpath : Location.IsKey path) : env.HasSource template.id := by
  obtain ⟨source, hsource, hbuilt⟩ := h
  rw [hbuilt.id_eq]
  exact ⟨hpath, source, hsource⟩

theorem loadPath_caching (s : Store) :
    env.caching.loadPath (bound + 1) around path s =
      LoadM.throughStore true path (env.caching.buildFile bound around path)
        { s with asked := path :: s.asked } := rfl

section Uncached

variable (hcache : env.settings.cache = false)

include hcache

theorem loadPath_uncached (t : Store) :
    env.loadPath (bound + 1) around path t =
      LoadM.throughStore false path (env.buildFile bound around path) { t with asked := path :: t.asked } := by
  rw [loadPath_succ, hcache]

theorem keeps_loadPath_uncached {I : Store → Prop} (hI : Store.Persists I) (bound : Nat)
    (around : List String) (path : String) :
    Keeps I (fun compiled => env.FromFile (fun _ _ => True) path compiled.template)
      (env.loadPath bound around path) := by
  induction bound generalizing around path with
  | zero => exact Keeps.throw _
  | succ bound ih =>
    refine (keeps_ask fun store => hI.ask store path).bindWith fun _ _ => ?_
    rw [hcache]
    refine keeps_throughStore_false (Q := env.FromFile (fun _ _ => True) path) hI.stamp ?_
    exact keeps_buildFile fun key _ _ => (ih (path :: around) key).mono fun _ _ hab => ⟨hab.1, True.intro⟩

/-- What is known once a path was asked for. -/
theorem endBeyond_loadPath {I : Store → Prop} (hI : Store.Persists I)
    (h : I { t with asked := path :: t.asked }) :
    EndBeyond I (SameTemplate (env.FromFile (fun _ _ => True) path))
      (env.loadPath (bound + 1) around path t) := by
  have hbuild : Keeps I (env.FromFile (fun _ _ => True) path) (env.buildFile bound around path) :=
    keeps_buildFile fun key _ _ => (keeps_loadPath_uncached hcache hI bound (path :: around) key).mono
      fun _ _ hab => ⟨hab.1, True.intro⟩
  rw [loadPath_uncached hcache]
  exact (keeps_throughStore_false hI.stamp hbuild).endBeyond h fun _ => SameTemplate.of

/-- A source is compiled on the right without anything being kept. -/
theorem keeps_compile_uncached {I : Store → Prop} (hI : Store.Persists I) (id source : String)
    (origin : Option String) : Keeps I (fun _ => True) (env.compile id source origin) := by
  have hload : ∀ key, Keeps I (fun _ => True) (env.loadFile [id] key) := fun key => keeps_loadFile fun room =>
    (keeps_loadPath_uncached hcache hI room [id] key).mono fun _ _ hab => ⟨hab.1, True.intro⟩
  exact (keeps_build (P := fun _ _ => True) (fun key _ _ => hload key) source origin).mono
    fun _ _ hab => ⟨hab.1, True.intro⟩

/-- What a load does that succeeds. -/
theorem loadPath_eq_ok (h : env.loadPath (bound + 1) around path t = .ok compiled after) :
    ∃ source template between, env.source path = .ok source ∧
      env.build (env.loadPath bound (path :: around)) around path source (some path)
        { t with asked := path :: t.asked } = .ok template between ∧
      after = { between with nextStamp := between.nextStamp + 1 } := by
  obtain ⟨_, noted, hask, h⟩ := run_bind_eq_ok.mp h
  cases hask
  rw [hcache] at h
  obtain ⟨template, between, hcompile, hstamp⟩ := run_bind_eq_ok.mp h
  obtain ⟨source, _, hsource, hbuild⟩ := run_bind_eq_ok.mp hcompile
  cases hstamp
  cases hfile : env.source path with
  | error error =>
    rw [hfile] at hsource
    cases hsource
  | ok found =>
    rw [hfile] at hsource
    cases hsource
    exact ⟨source, template, between, rfl, hbuild, rfl⟩

/-- Without a cache every file above a file is asked for. -/
theorem mem_asked_of_loadPath {above : String} (habove : Relation.ReflTransGen env.Extends path above)
    (h : env.loadPath bound around path t = .ok compiled after) : above ∈ after.asked := by
  induction habove using Relation.ReflTransGen.head_induction_on generalizing bound around t compiled after with
  | refl =>
    cases bound with
    | zero => cases h
    | succ bound =>
      obtain ⟨source, template, between, -, hbuild, rfl⟩ := loadPath_eq_ok hcache h
      have hload : ∀ key, Keeps (fun store => above ∈ store.asked) (fun _ => True)
          (env.loadPath bound (above :: around) key) :=
        keeps_loadPath_of_admits (Store.Admits.asked above) (fun _ _ _ _ _ => True.intro) bound
          (above :: around)
      have hasked : above ∈ between.asked := (Keeps.ok (keeps_build (P := fun _ _ => True)
        (fun key _ _ => hload key) source (some above)) List.mem_cons_self hbuild).2
      exact hasked
  | head hstep _ ih =>
    cases bound with
    | zero => cases h
    | succ bound =>
      obtain ⟨source, template, between, hsource, hbuild, rfl⟩ := loadPath_eq_ok hcache h
      obtain ⟨source', hsource', hnames⟩ := hstep
      cases hsource.symm.trans hsource'
      obtain ⟨layout, hload⟩ := load_of_build hnames hbuild
      have hasked : above ∈ between.asked := ih hload
      exact hasked

end Uncached

/-- What is not kept is compiled on both sides, and then kept on the left one. -/
theorem throughStore_ends {S : Comparison Store Store} {P : Template → Prop}
    {compile compile' : LoadM Template} (hfree : s.get? key = none)
    (hstill : Keeps (fun store : Store => store.get? key = none) (fun _ => True) compile)
    (hrun : EndAlike S.related Eq (EqualWith P) (compile s) (compile' t) ∨
      EndBeyond S.beyond (EqualWith P) (compile' t))
    (hput : ∀ template s' t', P template → compile' t = .ok template t' → S.related s' t' →
      S.related
        { s' with
          nextStamp := s'.nextStamp + 1
          cache := Fields.put s'.cache key ⟨s'.nextStamp, template⟩ }
        { t' with nextStamp := t'.nextStamp + 1 })
    (hstamp : ∀ t, S.beyond t → S.beyond { t with nextStamp := t.nextStamp + 1 }) :
    EndAlike S.related Eq (SameTemplate P) (LoadM.throughStore true key compile s)
        (LoadM.throughStore false key compile' t) ∨
      EndBeyond S.beyond (SameTemplate P) (LoadM.throughStore false key compile' t) := by
  have hoff : false = true → t.get? key = none := by
    intro hfalse
    cases hfalse
  rcases hrun with hrun | hrun
  · refine Or.inl ?_
    cases hs : compile s with
    | ok template s' =>
      rw [hs] at hrun
      obtain ⟨_, t', ht, ⟨rfl, hP⟩, hrelated⟩ := hrun.of_ok
      have hfree' := (Keeps.ok hstill hfree hs).2
      rw [LoadM.throughStore_of_new hfree hs hfree', LoadM.throughStore_of_ok ht]
      exact ⟨⟨rfl, hP⟩, hput template s' t' hP ht hrelated⟩
    | error fault s' =>
      rw [hs] at hrun
      obtain ⟨_, t', ht, rfl, hrelated⟩ := hrun.of_error
      rw [LoadM.throughStore_of_error (fun _ => hfree) hs,
        LoadM.throughStore_of_error hoff ht]
      exact ⟨rfl, hrelated⟩
  · refine Or.inr ?_
    cases ht : compile' t with
    | ok template t' =>
      rw [ht] at hrun
      obtain ⟨hbeyond, _, rfl, hP⟩ := hrun
      rw [LoadM.throughStore_of_ok ht]
      exact ⟨hstamp t' hbeyond, SameTemplate.of hP⟩
    | error fault t' =>
      rw [ht] at hrun
      rw [LoadM.throughStore_of_error hoff ht]
      exact hrun

end Environment

end Stencil
