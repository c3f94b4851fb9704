import Stencil.Proofs.Engine.Sessions

/-!
Where kept templates come from. Files are kept under their paths and sources under their texts, in one
store: a text that is also a path brings the template of the one to those who ask for the other. So a
template comes from the file at its key, or from its key as a source, and which of the two it is can be
told where no source was compiled that reads like the path, or the path was never asked for.
-/
namespace Stencil

namespace Environment

variable {env : Environment} {sources : String → Prop} {P : String → Template → Prop} {bound : Nat}
  {key source : String} {template : Template}

/-- Compiled from the file at the key. -/
def FromFile (env : Environment) (P : String → Template → Prop) (key : String) (template : Template) :
    Prop :=
  ∃ source, env.source key = .ok source ∧ env.Built P key source (some key) template

/-- Compiled from the key itself. -/
def FromSource (env : Environment) (P : String → Template → Prop) (key : String)
    (template : Template) : Prop :=
  env.Built P key key none template

/-- From the file at the key, or from the key if that is one of the sources; and so are the layouts, with
less than so many of them. -/
def TracedWithin (env : Environment) (sources : String → Prop) : Nat → String → Template → Prop
  | 0, _, _ => False
  | more + 1, key, template =>
    env.FromFile (TracedWithin env sources more) key template ∨
      sources key ∧ env.FromSource (TracedWithin env sources more) key template

def Traced (env : Environment) (sources : String → Prop) (key : String) (template : Template) : Prop :=
  ∃ bound, env.TracedWithin sources bound key template

theorem FromFile.origin_eq (h : env.FromFile P key template) : template.origin = some key :=
  h.elim fun _ hbuilt => hbuilt.2.origin_eq

theorem traced_closed : env.Closed (env.Traced sources) := by
  intro path source template hsource hbuilt
  obtain ⟨bound, hbuilt⟩ := hbuilt.exists_bound
  exact ⟨bound + 1, Or.inl ⟨source, hsource, hbuilt⟩⟩

theorem FromSource.traced (h : env.FromSource (env.Traced sources) key template)
    (hkey : sources key) : env.Traced sources key template := by
  obtain ⟨bound, hbuilt⟩ := h.exists_bound
  exact ⟨bound + 1, Or.inr ⟨hkey, hbuilt⟩⟩

theorem Traced.cases (h : env.Traced sources key template) :
    env.FromFile (env.Traced sources) key template ∨
      sources key ∧ env.FromSource (env.Traced sources) key template := by
  obtain ⟨bound, h⟩ := h
  cases bound with
  | zero => exact h.elim
  | succ bound =>
    rcases h with ⟨source, hsource, hbuilt⟩ | ⟨hkey, hbuilt⟩
    · exact Or.inl ⟨source, hsource, hbuilt.mono fun _ _ hlayout => ⟨bound, hlayout⟩⟩
    · exact Or.inr ⟨hkey, hbuilt.mono fun _ _ hlayout => ⟨bound, hlayout⟩⟩

theorem Traced.settled (h : env.Traced sources key template) : template.Settled := by
  rcases h.cases with ⟨_, _, hbuilt⟩ | ⟨_, hbuilt⟩
  · exact hbuilt.settled
  · exact hbuilt.settled

/-- All that is kept is traced, and what comes from a file was asked for. -/
structure KeepsTraced (env : Environment) (sources : String → Prop) (store : Store) : Prop where
  traced : store.All (env.Traced sources)
  asked : store.All fun key template => template.origin = some key → key ∈ store.asked

theorem KeepsTraced.of_empty {store : Store} (h : store.cache = []) : env.KeepsTraced sources store where
  traced key kept hget := by simp [Store.get?, h] at hget
  asked key kept hget := by simp [Store.get?, h] at hget

theorem KeepsTraced.ask {store : Store} (h : env.KeepsTraced sources store) (path : String) :
    env.KeepsTraced sources { store with asked := path :: store.asked } where
  traced := h.traced
  asked key kept hget horigin := List.mem_cons_of_mem path (h.asked key kept hget horigin)

/-- A traced template can be put under its key, if it is no file or the file was asked for. -/
theorem KeepsTraced.put {store : Store} (compiled : Compiled) (h : env.KeepsTraced sources store)
    (htraced : env.Traced sources key compiled.template)
    (hasked : compiled.template.origin = some key → key ∈ store.asked) :
    env.KeepsTraced sources { store with cache := Fields.put store.cache key compiled } where
  traced := (Store.All.admits (env.Traced sources) key).put store compiled h.traced htraced
  asked := (Store.All.admits (fun key template => template.origin = some key → key ∈ store.asked)
    key).put store compiled h.asked hasked

/-- Once a path was asked for, the template of its file can be put under it. -/
theorem KeepsTraced.admits_file (path : String) :
    Store.Admits (fun store => env.KeepsTraced sources store ∧ path ∈ store.asked)
      (env.Traced sources path) path where
  ask _ h := ⟨h.1.ask path, List.mem_cons_self⟩
  stamp _ h := ⟨⟨h.1.traced, h.1.asked⟩, h.2⟩
  put _ compiled h htraced := ⟨h.1.put compiled htraced fun _ => h.2, h.2⟩
  kept _ compiled h hget := h.1.traced path compiled hget

theorem keeps_traced_loadPath (bound : Nat) (around : List String) (path : String) :
    Keeps (env.KeepsTraced sources) (fun compiled => env.Traced sources path compiled.template)
      (env.loadPath bound around path) := by
  induction bound generalizing around path with
  | zero => exact Keeps.throw _
  | succ bound ih =>
    refine keeps_ask_bind (fun store h => h.ask path) ?_
    refine keeps_throughStore (KeepsTraced.admits_file path) _ ?_
    -- the layouts are loaded while this path has been asked for
    have hasked : ∀ key, Keeps (fun store => path ∈ store.asked) (fun _ => True)
        (env.loadPath bound (path :: around) key) :=
      keeps_loadPath_of_admits (Store.Admits.asked path) (fun _ _ _ _ _ => True.intro) bound
        (path :: around)
    refine (keeps_buildFile (P := env.Traced sources) fun key _ _ => ?_).mono
      fun template _ hab => ⟨hab.1, ?_⟩
    · exact ((ih (path :: around) key).and (hasked key)).mono fun _ _ hab => ⟨hab.1, hab.2.1⟩
    · obtain ⟨source, hsource, hbuilt⟩ := hab.2
      exact traced_closed path source template hsource hbuilt

/-- A template that is loaded by name is traced. -/
theorem keeps_traced_load (name : String) (from? : Option String) :
    Keeps (env.KeepsTraced sources)
      (fun compiled => ∃ path, env.resolve name from? = .ok path ∧
        env.Traced sources path compiled.template)
      (env.load name from?) :=
  (keeps_ofExcept _).bindWith fun path hpath =>
    (keeps_loadFile fun room => keeps_traced_loadPath room [] path).mono
      fun _ _ hab => ⟨hab.1, path, hpath, hab.2⟩

theorem keeps_traced_compile (source : String) :
    Keeps (env.KeepsTraced sources) (env.FromSource (env.Traced sources) source)
      (env.compile source source none) :=
  keeps_build (fun key _ _ => keeps_loadFile fun room => keeps_traced_loadPath room [source] key) source none

/-- A source gives its own template, or that of a file whose path it is. -/
theorem KeepsTraced.throughStore {store : Store} (h : env.KeepsTraced sources store)
    (hsource : sources source) (caching : Bool) :
    (∀ compiled after,
      LoadM.throughStore caching source (env.compile source source none) store = .ok compiled after →
      env.KeepsTraced sources after ∧
        (env.FromSource (env.Traced sources) source compiled.template ∨
          source ∈ store.asked ∧ env.FromFile (env.Traced sources) source compiled.template)) ∧
    ∀ fault after,
      LoadM.throughStore caching source (env.compile source source none) store = .error fault after →
      env.KeepsTraced sources after := by
  by_cases hkept : caching = true ∧ ∃ kept, store.get? source = some kept
  · obtain ⟨rfl, kept, hget⟩ := hkept
    rw [LoadM.throughStore_of_kept hget]
    refine ⟨?_, nofun⟩
    rintro _ _ ⟨⟩
    refine ⟨h, ?_⟩
    rcases (h.traced source kept hget).cases with hfile | ⟨-, hown⟩
    · exact Or.inr ⟨h.asked source kept hget hfile.origin_eq, hfile⟩
    · exact Or.inl hown
  · have hfree : caching = true → store.get? source = none := fun hcaching =>
      Option.eq_none_iff_forall_ne_some.mpr fun kept hget => hkept ⟨hcaching, kept, hget⟩
    cases hcompile : env.compile source source none store with
    | error fault between =>
      rw [LoadM.throughStore_of_error hfree hcompile]
      refine ⟨nofun, ?_⟩
      rintro _ _ ⟨⟩
      exact Keeps.error (keeps_traced_compile source) h hcompile
    | ok template between =>
      obtain ⟨hown, hbetween⟩ := Keeps.ok (keeps_traced_compile source) h hcompile
      cases caching with
      | false =>
        rw [LoadM.throughStore_of_ok hcompile]
        refine ⟨?_, nofun⟩
        rintro _ _ ⟨⟩
        exact ⟨⟨hbetween.traced, hbetween.asked⟩, Or.inl hown⟩
      | true =>
        have hstill := (Keeps.ok (keeps_compile_absent source source none) (hfree rfl) hcompile).2
        rw [LoadM.throughStore_of_new (hfree rfl) hcompile hstill]
        refine ⟨?_, nofun⟩
        rintro _ _ ⟨⟩
        have hnone : template.origin = none := hown.origin_eq
        refine ⟨?_, Or.inl hown⟩
        have hstamped : env.KeepsTraced sources { between with nextStamp := between.nextStamp + 1 } :=
          ⟨hbetween.traced, hbetween.asked⟩
        exact hstamped.put ⟨between.nextStamp, template⟩ (hown.traced hsource)
          fun horigin => by simp [hnone] at horigin

/-- What a source compiles to, and what it leaves in the store. -/
theorem KeepsTraced.compileSource {store : Store} (h : env.KeepsTraced sources store)
    (hsource : sources source) {options : CompileOptions} (hfilename : options.filename = none) :
    (∀ compiled after, Engine.compileSource env source options store = .ok compiled after →
      env.KeepsTraced sources after ∧
        (env.FromSource (env.Traced sources) source compiled.template ∨
          source ∈ store.asked ∧ env.FromFile (env.Traced sources) source compiled.template ∨
          options.allowErrors = true ∧ ∃ error, compiled.template.body = .failed error)) ∧
    ∀ fault after, Engine.compileSource env source options store = .error fault after →
      env.KeepsTraced sources after := by
  obtain ⟨hok, herror⟩ := h.throughStore hsource (options.cache.getD env.settings.cache)
  unfold Engine.compileSource
  simp only [hfilename, Option.getD_none]
  cases hrun : LoadM.throughStore (options.cache.getD env.settings.cache) source
      (env.compile source source none) store with
  | ok compiled after =>
    obtain ⟨hafter, hcompiled⟩ := hok compiled after hrun
    refine ⟨?_, nofun⟩
    rintro _ _ ⟨⟩
    exact ⟨hafter, hcompiled.imp_right Or.inl⟩
  | error fault after =>
    have hafter := herror fault after hrun
    cases fault with
    | tooDeep =>
      refine ⟨nofun, ?_⟩
      rintro _ _ ⟨⟩
      exact hafter
    | error error =>
      dsimp only
      split
      · rename_i hallow
        refine ⟨?_, nofun⟩
        rintro _ _ ⟨⟩
        exact ⟨⟨hafter.traced, hafter.asked⟩, Or.inr (Or.inr ⟨hallow, error, rfl⟩)⟩
      · refine ⟨nofun, ?_⟩
        rintro _ _ ⟨⟩
        exact hafter

theorem traced_loads :
    Guarantee.vacuous.LoadsKnown (fun _ => True) (env.KeepsTraced sources) env :=
  fun name from? => (keeps_traced_load name from?).mono fun _ _ hab => by
    obtain ⟨heq, _, -, htraced⟩ := hab
    exact ⟨heq, Guarantee.knownTemplate_vacuous htraced.settled⟩

end Environment

/-- While a session compiles sources under their own texts, and files, a template that is asked for by a
source was compiled from that source, unless the source reads like a path that was asked for before; and
one that is asked for by a name was compiled from the file at the path that the name leads to, unless
that path reads like one of the sources. Then it comes from the file or the source of that spelling. -/
theorem Session.serves_traced {engine : Engine} {ownership : Ownership} {before : List Action}
    {sources : String → Prop} (hempty : engine.store = {})
    (hbefore : ∀ action ∈ before, action.Reads fun source options =>
      options.filename = none ∧ sources source) :
    ((Session.ofEngine engine ownership).after before).Serves engine.env
      (engine.env.KeepsTraced sources) ∧
    ∀ store, engine.env.KeepsTraced sources store →
      (∀ source options compiled after, sources source → options.filename = none →
        Engine.compileSource engine.env source options store = .ok compiled after →
        engine.env.FromSource (engine.env.Traced sources) source compiled.template ∨
          source ∈ store.asked ∧
            engine.env.FromFile (engine.env.Traced sources) source compiled.template ∨
          options.allowErrors = true ∧ ∃ error, compiled.template.body = .failed error) ∧
      ∀ name from? compiled after, engine.env.load name from? store = .ok compiled after →
        engine.env.KeepsTraced sources after ∧
          ∃ path, engine.env.resolve name from? = .ok path ∧
            (engine.env.FromFile (engine.env.Traced sources) path compiled.template ∨
              sources path ∧
                engine.env.FromSource (engine.env.Traced sources) path compiled.template) := by
  refine ⟨?_, fun store hstore => ⟨fun source options compiled after hsource hfilename hrun => ?_,
    fun name from? compiled after hrun => ?_⟩⟩
  · have hstart : (Session.ofEngine engine ownership).Serves engine.env
        (engine.env.KeepsTraced sources) :=
      ⟨rfl, Environment.KeepsTraced.of_empty (congrArg Store.cache hempty)⟩
    refine hstart.after (fun _ _ => Environment.KeepsTraced.of_empty rfl) Environment.traced_loads
      (fun source options hcompiled => ?_) hbefore
    exact Keeps.of_run
      (fun _ _ _ hI hrun => ⟨True.intro, ((hI.compileSource hcompiled.2 hcompiled.1).1 _ _ hrun).1⟩)
      fun _ _ _ hI hrun => (hI.compileSource hcompiled.2 hcompiled.1).2 _ _ hrun
  · exact ((hstore.compileSource hsource hfilename).1 compiled after hrun).2
  · obtain ⟨⟨path, hpath, htraced⟩, hafter⟩ :=
      Keeps.ok (Environment.keeps_traced_load name from?) hstore hrun
    exact ⟨hafter, path, hpath, htraced.cases⟩

section Sample

/-- A file whose path has a single letter, which is a source as well. -/
def letterEngine : Engine := .new {} {} (.table [("a", "file")])

/-- With another source compiled before, the file is what it should be. -/
theorem serves_traced_letter :
    ∃ compiled after,
      letterEngine.env.load "a" none
        ((Session.ofEngine letterEngine .own).after [.compile "t" "b" {}]).engine.store =
          .ok compiled after ∧
      letterEngine.env.FromFile (letterEngine.env.Traced (· = "b")) "a" compiled.template := by
  have hserves := @Session.serves_traced letterEngine .own [.compile "t" "b" {}] (· = "b") rfl
    (List.forall_mem_singleton.mpr ⟨rfl, rfl⟩)
  obtain ⟨compiled, hcompiled⟩ := exists_eq_ok (by decide +kernel :
    (((Session.ofEngine letterEngine .own).after [.compile "t" "b" {}]).engine.compileFile "a").1.isOk =
      true)
  obtain ⟨after, hload⟩ := Engine.run_eq_ok.mp hcompiled
  rw [hserves.1.env] at hload
  obtain ⟨-, path, hpath, hfrom⟩ := (hserves.2 _ hserves.1.store).2 "a" none compiled after hload
  have ha : path = "a" := (Except.ok.inj hpath).symm
  subst ha
  exact ⟨compiled, after, hload, hfrom.resolve_right fun hsource => absurd hsource.1 (by decide)⟩

/-- A source that reads like the path takes the place of the file, and the other way round. -/
theorem file_hidden_letter :
    letterEngine.env.source "a" = .ok "file" ∧
    (letterEngine.renderFile "a" {}).1 = .ok "file" ∧
    (((Session.ofEngine letterEngine .own).after [.compile "t" "a" {}]).engine.renderFile "a" {}).1 =
      .ok "a" ∧
    (((Session.ofEngine letterEngine .own).after [.compileFile "t" "a"]).engine.render "a" {}).1 =
      .ok "file" := by
  have hok : ∀ {result : Except Fault String} {text : String}, result.isOk = true →
      result.toOption.getD "" = text → result = .ok text :=
    fun hresult htext => (eq_ok_of_isOk hresult "").trans (congrArg Except.ok htext)
  exact ⟨rfl, hok (by decide +kernel) (by decide +kernel), hok (by decide +kernel) (by decide +kernel),
    hok (by decide +kernel) (by decide +kernel)⟩

end Sample

end Stencil
