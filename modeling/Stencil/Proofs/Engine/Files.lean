import Stencil.Proofs.Engine.Pages
import Stencil.Proofs.Engine.Sessions

/-!
Loads from stores that keep templates of files only. Such a load gives the template of its file, and fails
exactly where the file has none; it never nests too deep, as the files around it are all different.
-/
namespace Stencil

namespace LoadM

variable {α β : Type}

/-- A load that never nests too deep. -/
def Shallow (load : LoadM α) : Prop := ∀ store after, load store ≠ .error .tooDeep after

theorem Shallow.bind {load : LoadM α} {next : α → LoadM β} (h : Shallow load)
    (hnext : ∀ a, Shallow (next a)) : Shallow (load >>= next) := by
  intro store after hrun
  change EStateM.bind load next store = _ at hrun
  unfold EStateM.bind at hrun
  cases hload : load store with
  | ok a between =>
    rw [hload] at hrun
    exact hnext a between after hrun
  | error fault between =>
    rw [hload] at hrun
    cases hrun
    exact h store _ hload

theorem shallow_ofExcept_bind {result : Except TemplateError α} {next : α → LoadM β}
    (hnext : ∀ a, result = .ok a → Shallow (next a)) : Shallow (ofExcept result >>= next) := by
  cases result with
  | ok a => exact hnext a rfl
  | error e =>
    intro store after hrun
    cases hrun

theorem shallow_pure (a : α) : Shallow (pure a : LoadM α) := by
  intro store after hrun
  cases hrun

theorem shallow_fail_bind (error : TemplateError) (next : α → LoadM β) :
    Shallow (fail error >>= next) := by
  intro store after hrun
  cases hrun

theorem shallow_ask (path : String) : Shallow (ask path) := by
  intro store after hrun
  cases hrun

theorem shallow_stamp (template : Template) : Shallow (stamp template) := by
  intro store after hrun
  cases hrun

theorem shallow_keep (key : String) (compiled : Compiled) : Shallow (keep key compiled) := by
  intro store after hrun
  cases hget : store.get? key with
  | some kept =>
    rw [keep_of_some hget] at hrun
    cases hrun
  | none =>
    rw [keep_of_none hget] at hrun
    cases hrun

theorem Shallow.throughStore {compile : LoadM Template} (h : Shallow compile) (caching : Bool)
    (key : String) : Shallow (throughStore caching key compile) := by
  unfold LoadM.throughStore
  cases caching with
  | false => exact h.bind fun template => shallow_stamp template
  | true =>
    refine Shallow.bind (fun store after hrun => by cases hrun) fun store => ?_
    cases store.get? key with
    | some kept => exact shallow_pure kept
    | none => exact h.bind fun template => (shallow_stamp template).bind fun _ => shallow_keep key _

/-- What can be compiled can be loaded. -/
theorem throughStore_succeeds {compile : LoadM Template} {key : String} {store after : Store}
    {template : Template} (h : compile store = .ok template after) (caching : Bool) :
    ∃ compiled final, throughStore caching key compile store = .ok compiled final := by
  unfold throughStore
  cases caching with
  | false => exact ⟨_, _, run_bind_eq_ok.mpr ⟨template, after, h, rfl⟩⟩
  | true =>
    cases hget : store.get? key with
    | some kept =>
      refine ⟨kept, store, run_bind_eq_ok.mpr ⟨store, store, rfl, ?_⟩⟩
      rw [hget]
      rfl
    | none =>
      obtain ⟨compiled, final, hkeep⟩ : ∃ compiled final, keep key ⟨after.nextStamp, template⟩
          { after with nextStamp := after.nextStamp + 1 } = .ok compiled final := by
        cases hget' : Store.get? { after with nextStamp := after.nextStamp + 1 } key with
        | some kept => exact ⟨_, _, keep_of_some hget'⟩
        | none => exact ⟨_, _, keep_of_none hget'⟩
      refine ⟨compiled, final, run_bind_eq_ok.mpr ⟨store, store, rfl, ?_⟩⟩
      rw [hget]
      exact run_bind_eq_ok.mpr ⟨template, after, h, run_bind_eq_ok.mpr ⟨_, _, rfl, hkeep⟩⟩

end LoadM

namespace Environment

open LoadM

variable {env : Environment} {bound : Nat} {around : List String} {path : String}

/-- The files that are being loaded around a path, all different, and room for all the others that there
are. -/
structure Room (env : Environment) (bound : Nat) (around : List String) (path : String) : Prop where
  nodup : (path :: around).Nodup
  sources : ∀ key ∈ around, env.HasSource key
  isKey : Location.IsKey path
  bound : ∃ size, env.HoldsAtMost size ∧ size < bound + around.length

theorem Room.start {size : Nat} (hholds : env.HoldsAtMost size) (hpath : Location.IsKey path)
    (hbound : size < bound) : env.Room bound [] path where
  nodup := List.pairwise_singleton _ path
  sources := nofun
  isKey := hpath
  bound := ⟨size, hholds, hbound⟩

theorem Room.of_stored (hstored : env.loader.isStored = true) (hpath : Location.IsKey path) :
    env.Room env.layoutBound [] path :=
  .start (holdsAtMost_size hstored) hpath (Nat.lt_succ_self _)

/-- There is always room left. -/
theorem Room.bound_ne_zero (h : env.Room bound around path) : bound ≠ 0 := by
  intro hzero
  obtain ⟨size, hholds, hlt⟩ := h.bound
  have hle := hholds around (List.nodup_cons.mp h.nodup).2 h.sources
  omega

theorem Room.above (h : env.Room (bound + 1) around path) (hpath : ∃ source, env.source path = .ok source)
    {key : String} (hkey : Location.IsKey key) (hnew : key ∉ path :: around) :
    env.Room bound (path :: around) key where
  nodup := List.nodup_cons.mpr ⟨hnew, h.nodup⟩
  sources := List.forall_mem_cons.mpr ⟨⟨h.isKey, hpath⟩, h.sources⟩
  isKey := hkey
  bound := by
    obtain ⟨size, hholds, hlt⟩ := h.bound
    refine ⟨size, hholds, ?_⟩
    rw [List.length_cons]
    omega

/-- The files that are being loaded lead to the path. -/
def Below (env : Environment) (around : List String) (path : String) : Prop :=
  ∀ file ∈ around, Relation.TransGen env.Extends file path

theorem Below.up {above : String} (h : env.Below around path) (habove : env.Extends path above) :
    env.Below (path :: around) above :=
  List.forall_mem_cons.mpr ⟨.single habove, fun file hfile => (h file hfile).tail habove⟩

theorem shallow_build {load : String → LoadM Compiled} {id source : String} {origin : Option String}
    (hload : ∀ key, env.Names source origin key → key ∉ id :: around → Shallow (load key)) :
    Shallow (env.build load around id source origin) := by
  unfold build
  refine shallow_ofExcept_bind fun tokens htokens => shallow_ofExcept_bind fun layout hlayout => ?_
  match layout with
  | none => exact shallow_ofExcept_bind fun program _ => shallow_pure _
  | some (.computed layout, line) => exact shallow_ofExcept_bind fun _ _ => shallow_pure _
  | some (.named name, line) =>
    refine shallow_ofExcept_bind fun key hkey => ?_
    dsimp only
    split
    · exact shallow_fail_bind _ _
    · rename_i hcircle
      simp only [Bool.or_eq_true, decide_eq_true_eq, not_or, List.contains_iff_mem] at hcircle
      have hnew : key ∉ id :: around := List.not_mem_cons_of_ne_of_not_mem hcircle.1 hcircle.2
      refine (hload key ⟨tokens, name, line, htokens, hlayout, hkey⟩ hnew).bind fun layout => ?_
      exact shallow_ofExcept_bind fun body _ => shallow_pure _

/-- A load nests no deeper than that of the layout. -/
theorem shallow_loadPath_succ (h : ∀ above, env.Extends path above → above ∉ path :: around →
    Shallow (env.loadPath bound (path :: around) above)) :
    Shallow (env.loadPath (bound + 1) around path) := by
  refine (shallow_ask path).bind fun _ => ?_
  refine Shallow.throughStore (shallow_ofExcept_bind fun source hsource => ?_) _ _
  exact shallow_build fun above hnames hnew => h above ⟨source, hsource, hnames⟩ hnew

/-- With room for all files a load never nests too deep. -/
theorem shallow_loadPath (h : env.Room bound around path) : Shallow (env.loadPath bound around path) := by
  induction bound generalizing around path with
  | zero => exact absurd rfl h.bound_ne_zero
  | succ bound ih =>
    refine shallow_loadPath_succ fun above habove hnew => ?_
    exact ih (h.above habove.exists_source habove.isKey hnew)

/-- With room for all files a load takes no more. -/
theorem Room.loadFile_eq (h : env.Room bound [] path) : env.loadFile [] path = env.loadPath bound [] path := by
  funext store
  refine loadFile_eq_loadPath (fun ⟨after, hdeep⟩ => shallow_loadPath h store after hdeep) fun hstored => ?_
  exact fun ⟨after, hdeep⟩ => shallow_loadPath (Room.of_stored hstored h.isKey) store after hdeep

/-- Only the templates of files are kept. -/
abbrev KeepsFiles (env : Environment) : Store → Prop := Store.All env.Compiles

/-- A source compiles if the layout that it names can be loaded. -/
theorem build_succeeds {load : String → LoadM Compiled} {id source : String} {origin : Option String}
    {template : Template} {store : Store} {P : String → Template → Prop}
    (hbuilt : env.Built P id source origin template)
    (hload : ∀ key layout, env.Names source origin key → key ≠ id → P key layout →
      key ∉ around ∧ ∃ compiled after, load key store = .ok compiled after ∧ compiled.template = layout) :
    ∃ after, env.build load around id source origin store = .ok template after := by
  cases hbuilt with
  | alone htokens hlayout hprogram =>
    rw [build_alone htokens hlayout hprogram]
    exact ⟨_, rfl⟩
  | computed htokens hlayout hcheck =>
    rw [build_computed htokens hlayout hcheck]
    exact ⟨_, rfl⟩
  | @named _ _ key _ layout body htokens hlayout hkey hne hparent hbody =>
    have hnames : env.Names source origin key := ⟨_, _, _, htokens, hlayout, hkey⟩
    obtain ⟨hnew, compiled, after, hload, hcompiled⟩ := hload key layout hnames hne hparent
    rw [build_named htokens hlayout hkey, if_neg (by simp [hne, hnew])]
    refine ⟨after, run_bind_eq_ok.mpr ⟨compiled, after, hload, ?_⟩⟩
    rw [hcompiled, ofExcept_bind hbody]
    rfl

/-- A file that compiles can be loaded, if none of those that are being loaded is above it. -/
theorem loadPath_succeeds {store : Store} {files : List String} {template : Template}
    (hstore : env.KeepsFiles store) (hroom : env.Room bound files path) (hfiles : files ⊆ around)
    (hcompiles : env.Compiles path template)
    (hapart : ∀ key ∈ around, ¬ Relation.ReflTransGen env.Extends path key) :
    ∃ compiled after, env.loadPath bound around path store = .ok compiled after ∧
      compiled.template = template := by
  obtain ⟨steps, hcompiles⟩ := hcompiles
  induction steps generalizing bound around path files template store with
  | zero => exact hcompiles.elim
  | succ steps ih =>
    cases bound with
    | zero => exact absurd rfl hroom.bound_ne_zero
    | succ bound =>
      have hself : env.CompilesWithin (steps + 1) path template := hcompiles
      obtain ⟨source, hsource, hbuilt⟩ := hcompiles
      obtain ⟨noted, hask, hnoted⟩ : ∃ noted, ask path store = .ok () noted ∧ env.KeepsFiles noted :=
        ⟨_, rfl, hstore⟩
      obtain ⟨after, hbuild⟩ : ∃ after, env.build (env.loadPath bound (path :: around)) around path source
          (some path) noted = .ok template after := by
        refine build_succeeds hbuilt fun key layout hnames hne hlayout => ?_
        have habove : env.Extends path key := ⟨source, hsource, hnames⟩
        have hnew : key ∉ around := fun hmem => hapart key hmem (.single habove)
        have hroom' := hroom.above ⟨source, hsource⟩ hnames.isKey
          (List.not_mem_cons_of_ne_of_not_mem hne fun hmem => hnew (hfiles hmem))
        refine ⟨hnew, ih hnoted hroom' (List.cons_subset_cons path hfiles)
          (List.forall_mem_cons.mpr ⟨fun hback => ?_, ?_⟩) hlayout⟩
        · exact hself.not_circular (.head' habove hback)
        · exact fun other hother hback => hapart other hother (.head habove hback)
      have hcompile : env.buildFile bound around path noted = .ok template after :=
        (congrFun (ofExcept_bind hsource) noted).trans hbuild
      obtain ⟨compiled, final, hrun⟩ := throughStore_succeeds hcompile env.settings.cache
      have hload : env.loadPath (bound + 1) around path store = .ok compiled final :=
        run_bind_eq_ok.mpr ⟨(), noted, hask, hrun⟩
      obtain ⟨⟨_, hcompiled⟩, -⟩ := Keeps.ok (keeps_loadPath compiles_closed _ _ path) hstore hload
      exact ⟨compiled, final, hload, hcompiled.unique hself⟩

/-- A load from a store of files gives the template of the file, and fails where there is none. -/
theorem load_cases {size : Nat} (hholds : env.HoldsAtMost size) {store : Store}
    (hstore : env.KeepsFiles store) (name : String) (from? : Option String) :
    (∃ key compiled after, env.resolve name from? = .ok key ∧ env.Compiles key compiled.template ∧
      env.KeepsFiles after ∧ env.load name from? store = .ok compiled after) ∨
    ∃ error after, env.KeepsFiles after ∧ env.load name from? store = .error (.error error) after ∧
      ∀ key, env.resolve name from? = .ok key → ¬ ∃ template, env.Compiles key template := by
  have hclosed : env.Closed env.Compiles := compiles_closed
  have hkeeps := keeps_load hclosed name from?
  cases hkey : env.resolve name from? with
  | error error =>
    refine Or.inr ⟨error, store, hstore, ?_, nofun⟩
    unfold load
    rw [hkey]
    rfl
  | ok key =>
    have hroom : env.Room (size + 1) [] key :=
      Room.start hholds (isKey_of_resolve hkey) (Nat.lt_succ_self _)
    have hload : env.load name from? = env.loadPath (size + 1) [] key :=
      (ofExcept_bind hkey).trans hroom.loadFile_eq
    cases hrun : env.load name from? store with
    | ok compiled after =>
      obtain ⟨⟨path, hpath, hcompiled⟩, hafter⟩ := Keeps.ok hkeeps hstore hrun
      cases hkey.symm.trans hpath
      exact Or.inl ⟨key, compiled, after, rfl, hcompiled, hafter, rfl⟩
    | error fault after =>
      have hafter := Keeps.error hkeeps hstore hrun
      rw [hload] at hrun
      cases fault with
      | tooDeep => exact absurd hrun (shallow_loadPath hroom store after)
      | error error =>
        refine Or.inr ⟨error, after, hafter, rfl, ?_⟩
        rintro _ ⟨⟩ ⟨template, hcompiles⟩
        obtain ⟨compiled, final, hok, -⟩ :=
          loadPath_succeeds hstore hroom (List.Subset.refl _) hcompiles (List.forall_mem_nil _)
        rw [hok] at hrun
        cases hrun

/-- Whatever is loaded from a store of files is compiled. -/
theorem settles_of_files {store : Store} (h : env.KeepsFiles store) : env.Settles store := by
  intro name from? compiled after hrun
  obtain ⟨⟨_, -, _, hcompiles⟩, -⟩ := Keeps.ok (keeps_load compiles_closed name from?) h hrun
  exact hcompiles.settled

/-- The source of a file is compiled under the key of that file. -/
def CompilesFile (env : Environment) (source : String) (options : CompileOptions) : Prop :=
  ∃ key, options.filename = some key ∧ env.source key = .ok source

theorem files_loads : Guarantee.vacuous.LoadsKnown (fun _ => True) env.KeepsFiles env :=
  fun name from? => (keeps_load compiles_closed name from?).mono fun _ _ hab => by
    obtain ⟨heq, _, -, _, hcompiles⟩ := hab
    exact ⟨heq, Guarantee.knownTemplate_vacuous hcompiles.settled⟩

theorem CompilesFile.keeps {source : String} {options : CompileOptions}
    (h : env.CompilesFile source options) :
    Keeps env.KeepsFiles (fun _ => True) (Engine.compileSource env source options) := by
  obtain ⟨key, hfilename, hsource⟩ := h
  refine (Engine.keeps_compileSource (P := env.Compiles)
    ((keeps_compile compiles_closed (options.filename.getD source) source options.filename).mono
      fun template _ hbuilt => ⟨hbuilt.1, ?_⟩)).mono fun _ _ hab => ⟨hab.1, True.intro⟩
  have hfile := hbuilt.2
  rw [hfilename, Option.getD_some] at hfile ⊢
  exact compiles_closed key source template hsource hfile

end Environment

/-- Only the templates of files are kept, whatever a session does with files. -/
theorem Session.serves_files {env : Environment} {engine : Engine} {ownership : Ownership}
    {before : List Action} (henv : engine.env = env) (hempty : engine.store = {})
    (hbefore : ∀ action ∈ before, action.Reads env.CompilesFile) :
    ((Session.ofEngine engine ownership).after before).Serves env env.KeepsFiles := by
  have hstart : (Session.ofEngine engine ownership).Serves env env.KeepsFiles :=
    ⟨henv, by rw [ofEngine, hempty]; exact Store.All.empty _⟩
  exact hstart.after (fun _ _ key kept hget => by simp [Store.get?, Store.clear] at hget)
    Environment.files_loads (fun _ _ hfile => hfile.keeps) hbefore

end Stencil
