import Stencil.Proofs.Engine.Pages
import Stencil.Proofs.Engine.Sessions

/-!
What becomes of the templates that an engine keeps. A template that is kept under a key stays there, whatever
is compiled, loaded or rendered, until the engine forgets all of them; until then every way to the key leads
to this template. What does not compile leaves nothing under its own key, only layouts that were loaded for
it on the way.
-/
namespace Stencil

namespace Store

/-- What was kept before is kept after, the same template under the same key. -/
def Grows (before after : Store) : Prop :=
  ∀ key kept, before.get? key = some kept → after.get? key = some kept

/-- A compiled template gets a number, and is put under the key if it is to be kept. -/
def take (store : Store) (caching : Bool) (key : String) (template : Template) : Store :=
  { store with
    nextStamp := store.nextStamp + 1
    cache := if caching then Fields.put store.cache key ⟨store.nextStamp, template⟩ else store.cache }

variable {before between after store : Store} {key : String} {template : Template} {caching : Bool}

namespace Grows

theorem refl (store : Store) : store.Grows store := fun _ _ h => h

theorem trans (h : before.Grows between) (h' : between.Grows after) : before.Grows after :=
  fun key kept hget => h' key kept (h key kept hget)

theorem of_cache (h : after.cache = before.cache) : before.Grows after := by
  intro key kept hget
  rw [← hget]
  simp only [get?, h]

/-- What grows without the key getting a template keeps what is there. -/
theorem get?_eq (h : before.Grows after) (hfree : before.get? key = none → after.get? key = none) :
    after.get? key = before.get? key := by
  cases hget : before.get? key with
  | none => exact hfree hget
  | some kept => exact h key kept hget

end Grows

theorem get?_take_self : (store.take true key template).get? key = some ⟨store.nextStamp, template⟩ := by
  simp [take, get?, Fields.get?_put_self]

/-- Only its own key gets the template. -/
theorem get?_take_cases {other : String} {kept : Compiled}
    (h : (store.take caching key template).get? other = some kept) :
    store.get? other = some kept ∨
      caching = true ∧ other = key ∧ kept = ⟨store.nextStamp, template⟩ := by
  cases caching with
  | false => exact Or.inl h
  | true =>
    by_cases hkey : other = key
    · subst hkey
      rw [get?_take_self] at h
      exact Or.inr ⟨rfl, rfl, (Option.some.inj h).symm⟩
    · simp only [take, get?, if_true, Fields.get?_put_of_ne _ _ hkey] at h
      exact Or.inl h

theorem grows_take (hfree : caching = true → store.get? key = none) :
    store.Grows (store.take caching key template) := by
  intro other kept hget
  cases caching with
  | false => exact hget
  | true =>
    have hne : other ≠ key := by
      rintro rfl
      rw [hfree rfl] at hget
      cases hget
    simp only [take, get?, if_true, Fields.get?_put_of_ne _ _ hne]
    exact hget

end Store

/-- A template is taken from the store, or compiled; and then, if all goes well, put into the store. -/
theorem LoadM.throughStore_cases {key : String} {compile : LoadM Template}
    (hstill : Keeps (fun store : Store => store.get? key = none) (fun _ => True) compile) (caching : Bool)
    (store : Store) :
    (∃ kept, caching = true ∧ store.get? key = some kept ∧
      throughStore caching key compile store = .ok kept store) ∨
    (∃ fault between, compile store = .error fault between ∧
      throughStore caching key compile store = .error fault between) ∨
    ∃ template between, compile store = .ok template between ∧
      (caching = true → store.get? key = none) ∧ (caching = true → between.get? key = none) ∧
      throughStore caching key compile store =
        .ok ⟨between.nextStamp, template⟩ (between.take caching key template) := by
  by_cases hkept : ∃ kept, caching = true ∧ store.get? key = some kept
  · obtain ⟨kept, rfl, hget⟩ := hkept
    exact Or.inl ⟨kept, rfl, hget, throughStore_of_kept hget⟩
  · have hfree : caching = true → store.get? key = none := by
      intro hcaching
      cases hget : store.get? key with
      | none => rfl
      | some kept => exact absurd ⟨kept, hcaching, hget⟩ hkept
    refine Or.inr ?_
    cases hrun : compile store with
    | error fault between => exact Or.inl ⟨fault, between, rfl, throughStore_of_error hfree hrun⟩
    | ok template between =>
      refine Or.inr ⟨template, between, rfl, hfree, ?_⟩
      cases caching with
      | false => exact ⟨Bool.noConfusion, throughStore_of_ok hrun⟩
      | true =>
        have hstill' := (Keeps.ok hstill (hfree rfl) hrun).2
        exact ⟨fun _ => hstill', throughStore_of_new (hfree rfl) hrun hstill'⟩

namespace Environment

variable {env : Environment} {new : String → Prop} {start s t before after store : Store}
  {key path source : String} {origin : Option String} {kept : Compiled} {template : Template}

/-- The template got under its key when it was loaded, on the way from one store to the other. -/
def LoadedBetween (env : Environment) (before : Store) (key : String) (kept : Compiled) (after : Store) :
    Prop :=
  ∃ bound around s t, before.Grows s ∧ s.get? key = none ∧
    env.loadPath bound around key s = .ok kept t ∧ t.get? key = some kept ∧ t.Grows after

/-- The store grows, and what is new in it was loaded on the way and has a key of the given kind. -/
structure Adds (env : Environment) (new : String → Prop) (before after : Store) : Prop where
  grows : before.Grows after
  others : ∀ key kept, after.get? key = some kept →
    before.get? key = some kept ∨ new key ∧ env.LoadedBetween before key kept after

namespace Adds

theorem refl (new : String → Prop) (store : Store) : env.Adds new store store :=
  ⟨.refl store, fun _ _ h => Or.inl h⟩

/-- What was loaded on the way to one store was so on the way to a greater one. -/
theorem later (h : env.Adds new start s) (hgrows : s.Grows t)
    (hothers : ∀ key kept, t.get? key = some kept →
      s.get? key = some kept ∨ new key ∧ env.LoadedBetween start key kept t) : env.Adds new start t where
  grows := h.grows.trans hgrows
  others key kept hget := by
    rcases hothers key kept hget with hold | hnew
    · refine (h.others key kept hold).imp_right fun hnew => ⟨hnew.1, ?_⟩
      obtain ⟨bound, around, s', t', hs', hfree, hload, hget', ht'⟩ := hnew.2
      exact ⟨bound, around, s', t', hs', hfree, hload, hget', ht'.trans hgrows⟩
    · exact Or.inr hnew

theorem of_cache (h : env.Adds new start s) (hcache : t.cache = s.cache) : env.Adds new start t := by
  refine h.later (.of_cache hcache) fun key kept hget => Or.inl ?_
  rw [← hget]
  simp only [Store.get?, hcache]

end Adds

/-- What only adds to a store leaves what is in it. -/
theorem keeps_grows {α : Type} {load : LoadM α}
    (h : ∀ start, Keeps (env.Adds new start) (fun _ => True) load) : Keeps start.Grows (fun _ => True) load :=
  Keeps.of_run
    (fun s _ _ hs hrun => ⟨True.intro, hs.trans (Keeps.ok (h s) (.refl new s) hrun).2.grows⟩)
    fun s _ _ hs hrun => hs.trans (Keeps.error (h s) (.refl new s) hrun).grows

/-- Compiling a source adds what loading the layout that it names adds. -/
theorem keeps_adds_build {load : String → LoadM Compiled} {around : List String} {id : String}
    (hload : ∀ key, env.Names source origin key → Keeps (env.Adds new start) (fun _ => True) (load key)) :
    Keeps (env.Adds new start) (fun _ => True) (env.build load around id source origin) :=
  (agree_build (P := fun _ _ => True) (fun _ => rfl) fun key hnames _ _ =>
    (hload key hnames).mono fun _ _ hab => ⟨congrArg Compiled.template hab.1, True.intro⟩).mono
    fun _ _ hab => ⟨hab.1, True.intro⟩

theorem keeps_buildFile_absent (bound : Nat) (around : List String) (path : String) :
    Keeps (fun store : Store => store.get? path = none) (fun _ => True) (env.buildFile bound around path) :=
  (keeps_buildFile (P := fun _ _ => True) fun _ hne _ => keeps_absent bound List.mem_cons_self hne).mono
    fun _ _ hab => ⟨hab.1, True.intro⟩

/-- Compiling a file adds what loading the layout above it adds. -/
theorem keeps_adds_buildFile {bound : Nat} {around : List String} (hload : ∀ above, env.Extends path above →
      Keeps (env.Adds new start) (fun _ => True) (env.loadPath bound (path :: around) above)) :
    Keeps (env.Adds new start) (fun _ => True) (env.buildFile bound around path) :=
  (keeps_ofExcept _).bindWith fun source hsource =>
    keeps_adds_build fun above hnames => hload above ⟨source, hsource, hnames⟩

/-- Loading a file adds the file and what is above it. -/
theorem keeps_adds_loadPath (hclosed : ∀ key above, new key → env.Extends key above → new above)
    (start : Store) (bound : Nat) (around : List String) (hpath : new path) :
    Keeps (env.Adds new start) (fun _ => True) (env.loadPath bound around path) := by
  induction bound generalizing around path with
  | zero => exact Keeps.throw _
  | succ bound ih =>
    have hbuild : Keeps (env.Adds new start) (fun _ => True) (env.buildFile bound around path) :=
      keeps_adds_buildFile fun above habove => ih (path :: around) (hclosed path above hpath habove)
    refine .of ?_
    rintro s _ ⟨rfl, hs⟩
    have hasked : env.Adds new start { s with asked := path :: s.asked } := hs.of_cache rfl
    have hload := @loadPath_succ env bound around path s
    rcases LoadM.throughStore_cases (keeps_buildFile_absent bound around path) env.settings.cache
      { s with asked := path :: s.asked } with
      ⟨kept, -, -, hrun⟩ | ⟨fault, between, hfails, hrun⟩ |
      ⟨template, between, hbuilt, hfree, hstill, hrun⟩
    · rw [hload, hrun]
      exact ⟨⟨rfl, True.intro⟩, rfl, hasked⟩
    · rw [hload, hrun]
      exact ⟨rfl, rfl, Keeps.error hbuild hasked hfails⟩
    · rw [hrun] at hload
      rw [hload]
      have hbetween := (Keeps.ok hbuild hasked hbuilt).2
      refine ⟨⟨rfl, True.intro⟩, rfl, hbetween.later (Store.grows_take hstill) ?_⟩
      intro key kept hget
      refine (Store.get?_take_cases hget).imp_right ?_
      rintro ⟨hcaching, rfl, rfl⟩
      -- the load that has just succeeded is the one that put the template there
      refine ⟨hpath, bound + 1, around, s, _, hs.grows, hfree hcaching, hload, hget, .refl _⟩

/-- What a computation leaves that fails to give the template under a key: nothing new under the key, and
elsewhere only layouts that were loaded on the way. -/
structure Leaves (env : Environment) (key : String) (layouts : String → Prop) (before after : Store) :
    Prop where
  own : after.get? key = before.get? key
  others : env.Adds layouts before after

namespace Leaves

variable {layouts : String → Prop}

theorem of_cache (h : env.Leaves key layouts before s) (hcache : t.cache = s.cache) :
    env.Leaves key layouts before t where
  own := by
    rw [← h.own]
    simp only [Store.get?, hcache]
  others := h.others.of_cache hcache

/-- What adds layouts only, and nothing under a key that is free, leaves so much when it fails. -/
theorem of_error {compile : LoadM Template} {fault : Fault}
    (hadds : Keeps (env.Adds layouts s) (fun _ => True) compile)
    (hstill : Keeps (fun store : Store => store.get? key = none) (fun _ => True) compile)
    (h : compile s = .error fault after) : env.Leaves key layouts s after := by
  have hafter := Keeps.error hadds (.refl layouts s) h
  refine ⟨hafter.grows.get?_eq fun hfree => ?_, hafter⟩
  have hfree' := Keeps.error hstill hfree h
  exact hfree'

end Leaves

/-- The layouts of a source: the one that it names, and those above. -/
def Above (env : Environment) (source : String) (origin : Option String) (key : String) : Prop :=
  ∃ first, env.Names source origin first ∧ Relation.ReflTransGen env.Extends first key

/-- A file that cannot be loaded leaves layouts only. -/
theorem loadPath_leaves {bound : Nat} {around : List String} {fault : Fault}
    (h : env.loadPath bound around path store = .error fault after) :
    env.Leaves path (Relation.TransGen env.Extends path) store after := by
  cases bound with
  | zero =>
    cases h
    exact ⟨rfl, .refl _ _⟩
  | succ bound =>
    have hbuild : ∀ start, Keeps (env.Adds (Relation.TransGen env.Extends path) start) (fun _ => True)
        (env.buildFile bound around path) := fun start => keeps_adds_buildFile fun above habove =>
      keeps_adds_loadPath (fun _ _ hkey hnext => hkey.tail hnext) start bound _ (.single habove)
    have hstill := @keeps_buildFile_absent env bound around path
    rw [loadPath_succ] at h
    rcases LoadM.throughStore_cases hstill env.settings.cache { store with asked := path :: store.asked } with
      ⟨kept, -, -, hrun⟩ | ⟨fault', between, hfails, hrun⟩ | ⟨template, between, -, -, -, hrun⟩
    · cases hrun.symm.trans h
    · cases hrun.symm.trans h
      -- that the path was asked for is nothing that is kept
      have hleaves := Leaves.of_error (hbuild _) hstill hfails
      exact ⟨hleaves.own, hleaves.others.grows, hleaves.others.others⟩
    · cases hrun.symm.trans h

theorem loadFile_leaves {around : List String} {fault : Fault}
    (h : env.loadFile around path store = .error fault after) :
    env.Leaves path (Relation.TransGen env.Extends path) store after := by
  rcases env.loadFile_cases around path store with ⟨room, hroom⟩ | ⟨hnever, -⟩
  · exact loadPath_leaves (hroom ▸ h)
  · cases hnever.symm.trans h
    exact ⟨rfl, .refl _ _⟩

theorem keeps_adds_compile (start : Store) (id source : String) (origin : Option String) :
    Keeps (env.Adds (env.Above source origin) start) (fun _ => True) (env.compile id source origin) :=
  keeps_adds_build fun _ hnames => keeps_loadFile fun room =>
    keeps_adds_loadPath (fun _ _ hkey habove => hkey.imp fun _ hfirst => ⟨hfirst.1, hfirst.2.tail habove⟩)
      start room [id] ⟨_, hnames, .refl⟩

end Environment

namespace Engine

open Environment

/-- There is no template, or only one that renders why. -/
def Failed : Except Fault Compiled → Prop
  | .ok compiled => ∃ error, compiled.template.body = .failed error
  | .error _ => True

theorem failed_of_isOk {result : Except Fault Compiled} (h : result.isOk = false) : Failed result := by
  cases result with
  | ok compiled => cases h
  | error fault => exact True.intro

/-- A compilation gives what is kept, or fails, or gives a template that may then be kept. -/
theorem compileSource_cases (env : Environment) (source : String) (options : CompileOptions) (store : Store) :
    let key := options.filename.getD source
    let caching := options.cache.getD env.settings.cache
    (∃ kept, caching = true ∧ store.get? key = some kept ∧
      compileSource env source options store = .ok kept store) ∨
    (∃ fault between after, env.compile key source options.filename store = .error fault between ∧
      after.cache = between.cache ∧ (compileSource env source options store = .error fault after ∨
        ∃ compiled, compileSource env source options store = .ok compiled after)) ∨
    ∃ template between, env.compile key source options.filename store = .ok template between ∧
      (caching = true → between.get? key = none) ∧
      compileSource env source options store =
        .ok ⟨between.nextStamp, template⟩ (between.take caching key template) := by
  intro key caching
  unfold compileSource
  dsimp only
  rcases LoadM.throughStore_cases (keeps_compile_absent key source options.filename) caching store with
    ⟨kept, hcaching, hget, hrun⟩ | ⟨fault, between, hfails, hrun⟩ |
    ⟨template, between, hbuilt, -, hstill, hrun⟩
  · rw [hrun]
    exact Or.inl ⟨kept, hcaching, hget, rfl⟩
  · rw [hrun]
    refine Or.inr (Or.inl ?_)
    cases fault with
    | tooDeep => exact ⟨_, between, between, hfails, rfl, Or.inl rfl⟩
    | error error =>
      dsimp only
      split
      · exact ⟨_, between, { between with nextStamp := between.nextStamp + 1 }, hfails, rfl,
          Or.inr ⟨_, rfl⟩⟩
      · exact ⟨_, between, between, hfails, rfl, Or.inl rfl⟩
  · rw [hrun]
    exact Or.inr (Or.inr ⟨template, between, hbuilt, hstill, rfl⟩)

theorem keeps_grows_compileSource (start : Store) (env : Environment) (source : String)
    (options : CompileOptions) : Keeps start.Grows (fun _ => True) (compileSource env source options) := by
  refine .of ?_
  rintro s _ ⟨rfl, hs⟩
  have hadds := @keeps_adds_compile env s (options.filename.getD source) source options.filename
  have hstart := @Adds.refl env (env.Above source options.filename) s
  rcases compileSource_cases env source options s with
    ⟨kept, -, -, hrun⟩ | ⟨fault, between, after, hfails, hcache, hrun⟩ |
    ⟨template, between, hbuilt, hstill, hrun⟩
  · rw [hrun]
    exact ⟨⟨rfl, True.intro⟩, rfl, hs⟩
  · have hafter := hs.trans ((Keeps.error hadds hstart hfails).of_cache hcache).grows
    rcases hrun with hrun | ⟨compiled, hrun⟩
    · rw [hrun]
      exact ⟨rfl, rfl, hafter⟩
    · rw [hrun]
      exact ⟨⟨rfl, True.intro⟩, rfl, hafter⟩
  · rw [hrun]
    have hbetween := (Keeps.ok hadds hstart hbuilt).2.grows
    exact ⟨⟨rfl, True.intro⟩, rfl, (hs.trans hbetween).trans (Store.grows_take hstill)⟩

section Run

variable {engine : Engine} {key : String} {kept : Compiled}

/-- A source that does not compile leaves layouts only, also where a template stands for it. -/
theorem compile_leaves (engine : Engine) (source : String) (options : CompileOptions)
    (h : Failed (engine.compile source options).1) :
    engine.env.Leaves (options.filename.getD source) (engine.env.Above source options.filename)
      engine.store (engine.compile source options).2.store := by
  have hadds := @keeps_adds_compile engine.env engine.store (options.filename.getD source) source
    options.filename
  have hstill := @keeps_compile_absent engine.env (options.filename.getD source) source options.filename
  unfold compile run at h ⊢
  rcases compileSource_cases engine.env source options engine.store with
    ⟨kept, -, -, hrun⟩ | ⟨fault, between, after, hfails, hcache, hrun⟩ |
    ⟨template, between, hbuilt, -, hrun⟩
  · rw [hrun]
    exact ⟨rfl, .refl _ _⟩
  · have hleaves := (Leaves.of_error hadds hstill hfails).of_cache hcache
    rcases hrun with hrun | ⟨compiled, hrun⟩
    · rw [hrun]
      exact hleaves
    · rw [hrun]
      exact hleaves
  · rw [hrun] at h
    obtain ⟨error, hbody⟩ := h
    have hcompile := @keeps_compile engine.env (fun _ _ => True) (fun _ _ _ _ _ => True.intro)
      (options.filename.getD source) source options.filename
    have hsettled := (Keeps.ok hcompile (fun _ _ _ => True.intro) hbuilt).1.settled
    exact absurd hbody (hsettled error)

theorem run_eq_error {α : Type} {load : LoadM α} {fault : Fault} (h : (engine.run load).1 = .error fault) :
    load engine.store = .error fault (engine.run load).2.store := by
  unfold run at h ⊢
  cases hrun : load engine.store with
  | ok a after =>
    rw [hrun] at h
    cases h
  | error fault' after =>
    rw [hrun] at h
    cases h
    rfl

/-- A computation that goes on with what it loads fails with the load. -/
theorem run_bind_of_error {α β : Type} {load : LoadM α} {next : α → LoadM β} {fault : Fault}
    (h : (engine.run load).1 = .error fault) :
    engine.run (load >>= next) = (.error fault, (engine.run load).2) := by
  have hload := run_eq_error h
  unfold run at hload ⊢
  rw [Stencil.run_bind_of_error hload, hload]

theorem compileFile_leaves {name : String} {fault : Fault}
    (h : (engine.compileFile name).1 = .error fault) :
    (engine.compileFile name).2.store = engine.store ∨ ∃ path, engine.env.resolve name none = .ok path ∧
      engine.env.Leaves path (Relation.TransGen engine.env.Extends path) engine.store
        (engine.compileFile name).2.store := by
  have hload : engine.env.load name none engine.store = .error fault (engine.compileFile name).2.store :=
    run_eq_error h
  cases hpath : engine.env.resolve name none with
  | error error =>
    unfold Environment.load at hload
    rw [hpath] at hload
    exact Or.inl (EStateM.Result.error.inj hload).2.symm
  | ok path =>
    unfold Environment.load at hload
    rw [LoadM.ofExcept_bind hpath] at hload
    exact Or.inr ⟨path, rfl, loadFile_leaves hload⟩

/-- What does not compile leaves layouts only, whoever asks for it. -/
structure FailsClean (engine : Engine) : Prop where
  compile : ∀ source options, Failed (engine.compile source options).1 →
    engine.env.Leaves (options.filename.getD source) (engine.env.Above source options.filename)
      engine.store (engine.compile source options).2.store
  compileFile : ∀ name fault, (engine.compileFile name).1 = .error fault →
    (engine.compileFile name).2.store = engine.store ∨ ∃ path, engine.env.resolve name none = .ok path ∧
      engine.env.Leaves path (Relation.TransGen engine.env.Extends path) engine.store
        (engine.compileFile name).2.store
  render : ∀ source context fault, (engine.compile source {}).1 = .error fault →
    engine.render source context = (.error fault, (engine.compile source {}).2)
  renderFile : ∀ name context fault, (engine.compileFile name).1 = .error fault →
    engine.renderFile name context = (.error fault, (engine.compileFile name).2)
  /-- Also a layout that is loaded while others are. -/
  layout : ∀ bound around path fault after,
    engine.env.loadPath bound around path engine.store = .error fault after →
    engine.env.Leaves path (Relation.TransGen engine.env.Extends path) engine.store after

theorem failsClean (engine : Engine) : engine.FailsClean where
  compile := compile_leaves engine
  compileFile _ _ h := compileFile_leaves h
  render _ _ _ h := run_bind_of_error h
  renderFile _ _ _ h := run_bind_of_error h
  layout _ _ _ _ _ h := loadPath_leaves h

/-- The engine while a step comes through the store. -/
def withStore (engine : Engine) (store : Store) : Engine := { engine with store }

/-- The engine after a template was asked for at the path. -/
def noting (engine : Engine) (path : String) : Engine :=
  engine.withStore { engine.store with asked := path :: engine.store.asked }

/-- Every way to the template under the key leads to this one, and changes nothing. -/
structure Gives (engine : Engine) (key : String) (kept : Compiled) : Prop where
  compile : ∀ source options, options.filename.getD source = key →
    options.cache.getD engine.settings.cache = true → engine.compile source options = (.ok kept, engine)
  render : engine.settings.cache = true → ∀ context,
    engine.render key context = engine.renderHeld kept.template context []
  /-- For what is asked for by name: files, and all that sources include, import and extend. -/
  load : engine.settings.cache = true → ∀ name from?, engine.env.resolve name from? = .ok key →
    engine.run (engine.env.load name from?) = (.ok kept, engine.noting key)
  compileFile : engine.settings.cache = true → ∀ name, engine.env.resolve name none = .ok key →
    engine.compileFile name = (.ok kept, engine.noting key)
  renderFile : engine.settings.cache = true → ∀ name context, engine.env.resolve name none = .ok key →
    engine.renderFile name context = (engine.noting key).renderHeld kept.template context []
  /-- For a layout that is loaded while others are. -/
  layout : engine.settings.cache = true → ∀ bound around,
    engine.run (engine.env.loadPath (bound + 1) around key) = (.ok kept, engine.noting key)

section Gives

variable (hkept : engine.store.get? key = some kept)

include hkept

theorem compileSource_of_kept {source : String} {options : CompileOptions}
    (hkey : options.filename.getD source = key)
    (hcaching : options.cache.getD engine.settings.cache = true) :
    compileSource engine.env source options engine.store = .ok kept engine.store := by
  unfold compileSource
  dsimp only
  rw [hkey, show options.cache.getD engine.env.settings.cache = true from hcaching,
    LoadM.throughStore_of_kept hkept]

variable (hcache : engine.settings.cache = true)

include hcache

theorem loadPath_of_kept (bound : Nat) (around : List String) :
    engine.env.loadPath (bound + 1) around key engine.store = .ok kept (engine.noting key).store := by
  rw [loadPath_succ, show engine.env.settings.cache = true from hcache]
  exact LoadM.throughStore_of_kept hkept

theorem load_of_kept {name : String} {from? : Option String}
    (hkey : engine.env.resolve name from? = .ok key) :
    engine.env.load name from? engine.store = .ok kept (engine.noting key).store := by
  unfold Environment.load
  rw [LoadM.ofExcept_bind hkey]
  exact loadFile_of_forall nofun fun room => loadPath_of_kept hkept hcache room []

end Gives

/-- What a run does whose first step succeeds. -/
theorem run_bind_of_ok {α β : Type} {load : LoadM α} {next : α → LoadM β} {a : α} {after : Store}
    (h : load engine.store = .ok a after) :
    engine.run (load >>= next) = (engine.withStore after).run (next a) := by
  unfold run
  rw [Stencil.run_bind_of_ok h]
  rfl

theorem run_of_ok {α : Type} {load : LoadM α} {a : α} {after : Store}
    (h : load engine.store = .ok a after) : engine.run load = (.ok a, engine.withStore after) := by
  unfold run
  rw [h]
  rfl

theorem gives_of_kept (hkept : engine.store.get? key = some kept) : engine.Gives key kept where
  compile _ _ hkey hcaching := run_of_ok (compileSource_of_kept hkept hkey hcaching)
  render hcache _ := run_bind_of_ok (compileSource_of_kept hkept rfl hcache)
  load hcache _ _ hkey := run_of_ok (load_of_kept hkept hcache hkey)
  compileFile hcache _ hkey := run_of_ok (load_of_kept hkept hcache hkey)
  renderFile hcache _ _ hkey := run_bind_of_ok (load_of_kept hkept hcache hkey)
  layout hcache bound around := run_of_ok (loadPath_of_kept hkept hcache bound around)

end Run

end Engine

/-- An action that makes the engine forget what it keeps. -/
def Action.Clears : Action → Prop
  | .clearCache => True
  | .init .. => True
  | _ => False

/-- Every template is kept under its own key, and none stands for a source that did not compile. -/
def Store.Sound (store : Store) : Prop := store.All fun key template => template.id = key ∧ template.Settled

/-- The store is as it should be, with all that was there at the start. -/
def Store.SoundSince (start store : Store) : Prop := store.Sound ∧ start.Grows store

namespace Environment

theorem sound_closed (env : Environment) :
    env.Closed fun key template => template.id = key ∧ template.Settled :=
  fun _ _ _ _ hbuilt => ⟨hbuilt.id_eq, hbuilt.settled⟩

theorem loadsKnown_sound (env : Environment) :
    Guarantee.vacuous.LoadsKnown (fun _ => True) Store.Sound env := fun name from? =>
  (keeps_load env.sound_closed name from?).mono fun _ _ hab => by
    obtain ⟨heq, _, -, -, hsettled⟩ := hab
    exact ⟨heq, Guarantee.knownTemplate_vacuous hsettled⟩

theorem keeps_grows_load (start : Store) (env : Environment) (name : String) (from? : Option String) :
    Keeps start.Grows (fun _ => True) (env.load name from?) := by
  have hadds : ∀ start path, Keeps (env.Adds (fun _ => True) start) (fun _ => True)
      (env.loadFile [] path) := fun start path => keeps_loadFile fun room =>
    keeps_adds_loadPath (fun _ _ _ _ => True.intro) start room [] True.intro
  exact (keeps_ofExcept _).bindWith fun path _ => keeps_grows fun s => hadds s path

theorem loadsKnown_soundSince (start : Store) (env : Environment) :
    Guarantee.vacuous.LoadsKnown (fun _ => True) start.SoundSince env := fun name from? =>
  ((env.loadsKnown_sound name from?).and (keeps_grows_load start env name from?)).mono
    fun _ _ hab => ⟨hab.1, hab.2.1⟩

end Environment

namespace Engine

theorem keeps_sound_compileSource (env : Environment) (source : String) (options : CompileOptions) :
    Keeps Store.Sound (fun _ => True) (compileSource env source options) :=
  (keeps_compileSource (P := fun key template => template.id = key ∧ template.Settled)
    ((Environment.keeps_compile env.sound_closed _ source options.filename).mono fun _ _ hab =>
      ⟨hab.1, hab.2.id_eq, hab.2.settled⟩)).mono fun _ _ hab => ⟨hab.1, True.intro⟩

theorem keeps_soundSince_compileSource (start : Store) (env : Environment) (source : String)
    (options : CompileOptions) : Keeps start.SoundSince (fun _ => True) (compileSource env source options) :=
  ((keeps_sound_compileSource env source options).and
    (keeps_grows_compileSource start env source options)).mono fun _ _ hab => ⟨hab.1, True.intro⟩

end Engine

namespace Session

variable {session : Session}

/-- Whatever a session does, its engine keeps templates as it should. -/
theorem sound_after (h : session.engine.store.Sound) (actions : List Action) :
    (session.after actions).engine.store.Sound :=
  keeps_after (I := fun _ => Store.Sound)
    (fun _ _ _ _ key kept hget => by simp [Store.get?, Store.clear] at hget) Environment.loadsKnown_sound
    (fun env source options => Engine.keeps_sound_compileSource env source options) h actions

/-- A step that does not clear the store leaves all that is in it. -/
theorem grows_step (hsound : session.engine.store.Sound) {action : Action} (h : ¬ action.Clears) :
    session.engine.store.Grows (session.step action).1.engine.store := by
  unfold step
  split
  · exact .refl _
  · have hserves : session.Serves session.engine.env session.engine.store.SoundSince :=
      ⟨rfl, hsound, .refl _⟩
    by_cases hreads : action.Reads fun _ _ => True
    · have hafter := hserves.act (Environment.loadsKnown_soundSince _ _)
        (fun source options _ => Engine.keeps_soundSince_compileSource _ _ source options) hreads
        (by rintro rfl; exact absurd True.intro h)
      exact hafter.store.2
    · cases action with
      | put name source => exact .refl _
      | init config host => exact absurd True.intro h
      | _ => exact absurd True.intro hreads

theorem grows_after (hsound : session.engine.store.Sound) {actions : List Action}
    (h : ∀ action ∈ actions, ¬ action.Clears) :
    session.engine.store.Grows (session.after actions).engine.store := by
  induction actions generalizing session with
  | nil => exact .refl _
  | cons action rest ih =>
    obtain ⟨haction, hrest⟩ := List.forall_mem_cons.mp h
    exact (grows_step hsound haction).trans (ih (sound_after hsound [action]) hrest)

/-- After any steps every template that is kept has its own key, and none of them stands for a source that
did not compile. In whatever store a step may come through, what does not compile leaves nothing under its
own key, only layouts that were loaded for it. No step takes a template out of the store or puts another one
in its place, unless it makes the engine forget all of them. Until then every way to the key of a template
gives that very template, also in the stores that later steps come through. -/
theorem kept_until_cleared (config : Config) (host : Host) (loader : Loader) (ownership : Ownership)
    (actions : List Action)
    (hsession : session = (ofEngine (.new config host loader) ownership).after actions) :
    session.engine.store.Sound ∧
      (∀ store, (session.engine.withStore store).FailsClean) ∧
      (∀ action : Action, ¬ action.Clears →
        session.engine.store.Grows (session.step action).1.engine.store) ∧
      ∀ key kept, session.engine.store.get? key = some kept →
        ∀ more : List Action, (∀ action ∈ more, ¬ action.Clears) →
          ∀ store, (session.after more).engine.store.Grows store →
            ((session.after more).engine.withStore store).Gives key kept := by
  have hempty : (ofEngine (.new config host loader) ownership).engine.store.Sound := Store.All.empty _
  have hsound : session.engine.store.Sound := hsession ▸ sound_after hempty actions
  refine ⟨hsound, fun store => Engine.failsClean _, fun _ => grows_step hsound, ?_⟩
  intro key kept hkept more hmore store hstore
  exact Engine.gives_of_kept (hstore key kept (grows_after hsound hmore key kept hkept))

end Session

section Sample

def frameLoader : Loader := .table [("frame", "[\x7b% block b %\x7d\x7b% endblock %\x7d]")]

/-- A page over the frame with an expression that does not end. -/
def brokenPage : String :=
  "\x7b% extends \"frame\" %\x7d\x7b% block b %\x7d\x7b\x7b a. \x7d\x7d\x7b% endblock %\x7d"

/-- A session that has tried to compile the page. -/
def brokenSession : Session :=
  (Session.ofEngine (.new {} {} frameLoader) .own).after [.compile "h" brokenPage {}]

/-- Afterwards the file of the frame changes. -/
def laterActions : List Action := [.put "frame" "other", .compile "h" "page" {}]

/-- The frame is kept and the page is not, however often it is tried; and the frame is not compiled again
when its file has changed. -/
theorem kept_until_cleared_frame :
    ∃ kept, brokenSession.engine.store.get? "frame" = some kept ∧ kept.template.id = "frame" ∧
      (brokenSession.engine.compile brokenPage {}).2.store.get? brokenPage = none ∧
      ((brokenSession.after laterActions).engine.compileFile "frame").1 = .ok kept := by
  obtain ⟨hsound, hclean, -, hgives⟩ := @Session.kept_until_cleared brokenSession {} {} frameLoader .own
    [.compile "h" brokenPage {}] rfl
  obtain ⟨kept, hkept⟩ := Option.isSome_iff_exists.mp
    (by decide +kernel : (brokenSession.engine.store.get? "frame").isSome = true)
  refine ⟨kept, hkept, (hsound "frame" kept hkept).1, ?_, ?_⟩
  · have hleaves := (hclean brokenSession.engine.store).compile brokenPage {}
      (Engine.failed_of_isOk (by decide +kernel))
    exact hleaves.own.trans (Option.isNone_iff_eq_none.mp (by decide +kernel))
  · have hgiven := hgives "frame" kept hkept laterActions
      (List.forall_mem_cons.mpr ⟨id, List.forall_mem_singleton.mpr id⟩) _ (.refl _)
    have hkey := eq_ok_of_isOk (by decide +kernel :
      ((brokenSession.after laterActions).engine.env.resolve "frame" none).isOk = true) ""
    exact congrArg Prod.fst (hgiven.compileFile (by decide +kernel) "frame"
      (hkey.trans (congrArg Except.ok (by decide +kernel))))

end Sample

end Stencil
