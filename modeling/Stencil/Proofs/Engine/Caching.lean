import Stencil.Proofs.Engine.Uncached

/-!
Loading with and without a cache. Beside an engine that keeps what it compiles runs another one that keeps
nothing and asks for every file again. While the files stay the same, what the first one keeps is what the
second one would compile; after they have changed this is only known of sources without layouts, until
the cache is cleared. The comparison ends where the path of a file that was asked for reads like a source.
-/
namespace Stencil

/-- What a compilation gives in the end: an error is rendered by a template if errors are allowed. -/
def CompileOptions.allowing (options : CompileOptions) (source : String) :
    EStateM.Result Fault Store Compiled → EStateM.Result Fault Store Compiled
  | .ok compiled store => .ok compiled store
  | .error (.error error) store =>
    if options.allowErrors then LoadM.stamp ⟨source, none, none, .failed error⟩ store
    else .error (.error error) store
  | .error .tooDeep store => .error .tooDeep store

theorem Engine.compileSource_eq_allowing {env : Environment} {source : String} {options : CompileOptions}
    (hfilename : options.filename = none) (hoption : options.cache = none) (store : Store) :
    compileSource env source options store = options.allowing source
      (LoadM.throughStore env.settings.cache source (env.compile source source none) store) := by
  unfold compileSource
  rw [hfilename, hoption]
  rfl

section Allowing

variable {R : Store → Store → Prop} {X : Store → Prop} {options : CompileOptions} {source : String}
  {result result' : EStateM.Result Fault Store Compiled}

/-- The same error on both sides gives the same template for it, if errors are allowed. -/
theorem EndAlike.allowing
    (hR : ∀ s t, R s t → R { s with nextStamp := s.nextStamp + 1 } { t with nextStamp := t.nextStamp + 1 })
    (h : EndAlike R Eq (SameTemplate fun _ => True) result result') :
    EndAlike R Eq (SameTemplate fun _ => True) (options.allowing source result)
      (options.allowing source result') := by
  cases result with
  | ok compiled s =>
    obtain ⟨compiled', t, rfl, hsame⟩ := h.of_ok
    exact hsame
  | error fault s =>
    obtain ⟨_, t, rfl, rfl, hrelated⟩ := h.of_error
    cases fault with
    | tooDeep => exact ⟨rfl, hrelated⟩
    | error error =>
      dsimp only [CompileOptions.allowing]
      split
      · exact ⟨⟨rfl, True.intro⟩, hR s t hrelated⟩
      · exact ⟨rfl, hrelated⟩

theorem EndBeyond.allowing (hX : ∀ t, X t → X { t with nextStamp := t.nextStamp + 1 })
    (h : EndBeyond X (SameTemplate fun _ => True) result) :
    EndBeyond X (SameTemplate fun _ => True) (options.allowing source result) := by
  cases result with
  | ok compiled t => exact h
  | error fault t =>
    cases fault with
    | tooDeep => exact h
    | error error =>
      dsimp only [CompileOptions.allowing]
      split
      · exact ⟨hX t h, _, rfl, True.intro⟩
      · exact h

end Allowing

namespace Environment

variable {env : Environment} {bound : Nat} {around files : List String} {path key source : String}
  {template : Template} {s t after : Store} {compiled : Compiled}

/-- A file and all files above it were asked for, and it compiles. -/
def Requested (env : Environment) (asked : List String) (key : String) (template : Template) : Prop :=
  env.Compiles key template ∧ ∀ above, Relation.ReflTransGen env.Extends key above → above ∈ asked

/-- What is kept beside a store without templates, while the files stay the same: the templates of
files that were asked for, and those of sources over such files. -/
structure KeptFresh (env : Environment) (sources : String → Prop) (s t : Store) : Prop where
  empty : t.cache = []
  kept : s.All fun key template => env.Requested t.asked key template ∨
    sources key ∧ env.FromSource (env.Requested t.asked) key template

/-- A path that was asked for reads like a source. -/
structure Clashes (sources : String → Prop) (t : Store) : Prop where
  empty : t.cache = []
  asked : ∃ key ∈ t.asked, sources key

def fresh (env : Environment) (sources : String → Prop) : Comparison Store Store :=
  ⟨env.KeptFresh sources, Clashes sources⟩

theorem persists_asked (asked : List String) :
    Store.Persists fun t => t.cache = [] ∧ asked <:+ t.asked where
  ask _ path h := ⟨h.1, h.2.trans (List.suffix_cons path _)⟩
  stamp _ h := h

theorem persists_clashes (sources : String → Prop) : Store.Persists (Clashes sources) where
  ask _ path h := ⟨h.empty, h.asked.imp fun _ hkey => ⟨List.mem_cons_of_mem path hkey.1, hkey.2⟩⟩
  stamp _ h := ⟨h.empty, h.asked⟩

theorem Requested.later {asked asked' : List String} (h : env.Requested asked key template)
    (hasked : asked ⊆ asked') : env.Requested asked' key template :=
  ⟨h.1, fun above habove => hasked (h.2 above habove)⟩

/-- More can be asked for on the right. -/
theorem KeptFresh.later {sources : String → Prop} {s' t' : Store} (h : env.KeptFresh sources s t)
    (hs : s'.cache = s.cache) (ht : t'.cache = []) (hasked : t.asked <:+ t'.asked) :
    env.KeptFresh sources s' t' where
  empty := ht
  kept key kept hget := by
    have hkept := h.kept key kept (by rw [← hget]; simp only [Store.get?, hs])
    exact hkept.imp (fun hfile => hfile.later hasked.subset) fun hsource =>
      ⟨hsource.1, hsource.2.mono fun _ _ hlayout => hlayout.later hasked.subset⟩

theorem KeptFresh.of_empty {sources : String → Prop} (hs : s.cache = []) (ht : t.cache = []) :
    env.KeptFresh sources s t where
  empty := ht
  kept key kept hget := by simp [Store.get?, hs] at hget

theorem KeptFresh.put {sources : String → Prop} (h : env.KeptFresh sources s t) (stamp next next' : Nat)
    (htemplate : env.Requested t.asked key template ∨
      sources key ∧ env.FromSource (env.Requested t.asked) key template) :
    env.KeptFresh sources
      { s with nextStamp := next, cache := Fields.put s.cache key ⟨stamp, template⟩ }
      { t with nextStamp := next' } where
  empty := h.empty
  kept := (Store.All.admits _ key).put s ⟨stamp, template⟩ h.kept htemplate

/-- Files that lead to a path are being loaded, with room for all others, and besides them only sources are. -/
structure Within (env : Environment) (sources : String → Prop) (bound : Nat) (files around : List String)
    (path : String) : Prop where
  room : env.Room bound files path
  subset : files ⊆ around
  others : ∀ key ∈ around, key ∈ files ∨ sources key
  below : env.Below files path

theorem Within.start {sources : String → Prop} (hstored : env.loader.isStored = true)
    (hpath : Location.IsKey path) (hothers : ∀ key ∈ around, sources key) :
    env.Within sources env.layoutBound [] around path where
  room := Room.of_stored hstored hpath
  subset := List.nil_subset _
  others key hkey := Or.inr (hothers key hkey)
  below := List.forall_mem_nil _

theorem Within.up {sources : String → Prop} (h : env.Within sources (bound + 1) files around path)
    (hsource : env.source path = .ok source) (hnames : env.Names source (some path) key) (hne : key ≠ path)
    (hnew : key ∉ around) : env.Within sources bound (path :: files) (path :: around) key where
  room := h.room.above ⟨source, hsource⟩ hnames.isKey
    (List.not_mem_cons_of_ne_of_not_mem hne fun hmem => hnew (h.subset hmem))
  subset := List.cons_subset_cons path h.subset
  others := List.forall_mem_cons.mpr ⟨Or.inl List.mem_cons_self, fun other hother =>
    (h.others other hother).imp_left (List.mem_cons_of_mem path)⟩
  below := h.below.up ⟨source, hsource, hnames⟩

/-- A store without templates keeps files only. -/
theorem keepsFiles_of_empty (h : t.cache = []) : env.KeepsFiles t :=
  fun key kept hget => by simp [Store.get?, h] at hget

section Fresh

variable {sources : String → Prop} (hcache : env.settings.cache = false)

include hcache

theorem clashes_loadPath (h : Clashes sources t) (bound : Nat) (around : List String) (path : String) :
    EndBeyond (Clashes sources) (SameTemplate (env.FromFile (fun _ _ => True) path))
      (env.loadPath bound around path t) :=
  (keeps_loadPath_uncached hcache (persists_clashes sources) bound around path).endBeyond h
    fun _ => SameTemplate.of

/-- A kept file can be loaded on the right too. -/
theorem KeptFresh.loadPath (h : env.KeptFresh sources s t)
    (hwithin : env.Within sources bound files around path)
    (hkept : env.Requested t.asked path template) (hclash : ¬ ∃ key ∈ t.asked, sources key) :
    ∃ compiled after, env.loadPath bound around path t = .ok compiled after ∧
      compiled.template = template ∧ after.cache = [] ∧ t.asked <:+ after.asked ∧
      env.FromFile (fun _ _ => True) path template := by
  obtain ⟨compiled, after, hload, rfl⟩ := loadPath_succeeds (keepsFiles_of_empty h.empty) hwithin.room
    hwithin.subset hkept.1 fun key hkey habove => by
      rcases hwithin.others key hkey with hfile | hsource
      · obtain ⟨steps, hcompiles⟩ := hkept.1
        exact hcompiles.not_circular (.trans_right habove (hwithin.below key hfile))
      · exact hclash ⟨key, hkept.2 key habove, hsource⟩
  obtain ⟨hfile, hempty, hasked⟩ := Keeps.ok
    (keeps_loadPath_uncached hcache (persists_asked t.asked) bound around path)
    ⟨h.empty, List.suffix_rfl⟩ hload
  exact ⟨compiled, after, hload, rfl, hempty, hasked, hfile⟩

/-- A load of what is kept agrees with one without a cache, unless a path reads like a source. -/
theorem KeptFresh.ends_of_kept {kept : Compiled} (h : env.KeptFresh sources s t)
    (hwithin : env.Within sources (bound + 1) files around path) (hget : s.get? path = some kept) :
    EndAlike (env.KeptFresh sources) Eq (SameTemplate (env.FromFile (fun _ _ => True) path))
        (env.caching.loadPath (bound + 1) around path s) (env.loadPath (bound + 1) around path t) ∨
      EndBeyond (Clashes sources) (SameTemplate (env.FromFile (fun _ _ => True) path))
        (env.loadPath (bound + 1) around path t) := by
  by_cases hclash : ∃ key ∈ t.asked, sources key
  · exact Or.inr (clashes_loadPath hcache ⟨h.empty, hclash⟩ _ around path)
  · rcases h.kept path kept hget with hkept | ⟨hsource, -⟩
    · obtain ⟨compiled, after, hload, hsame, hempty, hasked, hfile⟩ :=
        h.loadPath hcache hwithin hkept hclash
      have hnoted : Store.get? { s with asked := path :: s.asked } path = some kept := hget
      rw [loadPath_caching, LoadM.throughStore_of_kept hnoted, hload]
      exact Or.inl ⟨⟨hsame.symm, hfile⟩, h.later rfl hempty hasked⟩
    · exact Or.inr (endBeyond_loadPath hcache (persists_clashes sources)
        ⟨h.empty, path, List.mem_cons_self, hsource⟩)

omit hcache in
/-- Compilations of a file agree, if loads of the layout above it do. -/
theorem agree_buildFile (hwithin : env.Within sources (bound + 1) files around path)
    (hload : ∀ key, env.Within sources bound (path :: files) (path :: around) key →
      Agree (env.fresh sources) Eq (SameTemplate (env.FromFile (fun _ _ => True) key))
        (env.caching.loadPath bound (path :: around) key) (env.loadPath bound (path :: around) key)) :
    Agree (env.fresh sources) Eq (EqualWith (env.FromFile (fun _ _ => True) path))
      (env.caching.buildFile bound around path) (env.buildFile bound around path) := by
  change Agree _ _ _ (LoadM.ofExcept (env.source path) >>= fun source =>
    env.build (env.caching.loadPath bound (path :: around)) around path source (some path)) _
  refine (agree_ofExcept (fun _ => rfl) _).bindWith fun source hsource => ?_
  refine (agree_build (P := fun _ _ => True) (fun _ => rfl) fun key hnames hne hnew => ?_).mono
    fun _ _ hab => ⟨hab.1, source, hsource, hab.2⟩
  exact (hload key (hwithin.up hsource hnames hne hnew)).mono fun _ _ hab => ⟨hab.1, True.intro⟩

/-- Loads of a file agree. -/
theorem agree_loadPath (hwithin : env.Within sources bound files around path) :
    Agree (env.fresh sources) Eq (SameTemplate (env.FromFile (fun _ _ => True) path))
      (env.caching.loadPath bound around path) (env.loadPath bound around path) := by
  induction bound generalizing around files path with
  | zero => exact Agree.throw rfl
  | succ bound ih =>
    refine ⟨fun s t h => ?_, fun t h => clashes_loadPath hcache h _ around path⟩
    cases hget : s.get? path with
    | some kept => exact h.ends_of_kept hcache hwithin hget
    | none =>
      have hstill : Keeps (fun store : Store => store.get? path = none) (fun _ => True)
          (env.caching.buildFile bound around path) :=
        (keeps_buildFile (P := fun _ _ => True) fun _ hne _ => keeps_absent bound List.mem_cons_self hne).mono
          fun _ _ hab => ⟨hab.1, True.intro⟩
      rw [loadPath_caching, loadPath_uncached hcache]
      refine throughStore_ends hget hstill ((agree_buildFile hwithin fun _ => ih).ends _ _ ?_) ?_
        fun t' h' => ⟨h'.empty, h'.asked⟩
      · exact h.later rfl h.empty (List.suffix_cons _ _)
      · intro template s' t' _ hrun hrelated
        have hload : env.loadPath (bound + 1) around path t =
            .ok ⟨t'.nextStamp, template⟩ { t' with nextStamp := t'.nextStamp + 1 } := by
          rw [loadPath_uncached hcache, LoadM.throughStore_of_ok hrun]
        have hcompiles : env.Compiles path template :=
          (Keeps.ok (keeps_loadPath compiles_closed _ _ path) (keepsFiles_of_empty h.empty) hload).1
        have hasked : ∀ above, Relation.ReflTransGen env.Extends path above → above ∈ t'.asked := by
          intro above habove
          have hmem := mem_asked_of_loadPath hcache habove hload
          exact hmem
        exact hrelated.put _ _ _ (Or.inl ⟨hcompiles, hasked⟩)

/-- Loads of a file that is stored agree from the start. -/
theorem agree_loadFile (hstored : env.loader.isStored = true) (hpath : Location.IsKey path)
    (hothers : ∀ key ∈ around, sources key) :
    Agree (env.fresh sources) Eq (SameTemplate (env.FromFile (fun _ _ => True) path))
      (env.caching.loadFile around path) (env.loadFile around path) := by
  have hcaching : env.caching.loader.isStored = true := hstored
  rw [loadFile_of_stored hstored, loadFile_of_stored hcaching]
  exact agree_loadPath hcache (.start hstored hpath hothers)

variable (hstored : env.loader.isStored = true)

include hstored

/-- Loads by name agree while the files stay the same. -/
theorem agree_load_fresh (name : String) (from? : Option String) :
    Agree (env.fresh sources) Eq (SameTemplate fun template => env.HasSource template.id)
      (env.caching.load name from?) (env.load name from?) := by
  refine (agree_ofExcept (fun _ => rfl) _).bindWith fun path hpath => ?_
  have hkey : Location.IsKey path := isKey_of_resolve hpath
  exact (agree_loadFile hcache hstored hkey (List.forall_mem_nil _)).mono
    fun _ _ hab => ⟨hab.1, hab.2.hasSource hkey⟩

omit hstored

/-- A source is compiled on the right without leaving what is beyond comparison. -/
theorem endBeyond_throughStore {X : Store → Prop} (hX : Store.Persists X) (h : X t) :
    EndBeyond X (SameTemplate fun _ => True)
      (LoadM.throughStore false source (env.compile source source none) t) :=
  (keeps_throughStore_false (Q := fun _ => True) hX.stamp
    (keeps_compile_uncached hcache hX source source none)).endBeyond h fun _ _ => SameTemplate.of True.intro

/-- A kept source compiles to the same template on the right, which asks for more and keeps nothing. -/
theorem throughStore_of_recompiled {kept : Compiled} (hget : s.get? source = some kept) (hempty : t.cache = [])
    (hcompile : env.compile source source none t = .ok kept.template after) :
    ∃ final, LoadM.throughStore true source (env.caching.compile source source none) s = .ok kept s ∧
      LoadM.throughStore false source (env.compile source source none) t =
        .ok ⟨after.nextStamp, kept.template⟩ final ∧ final.cache = [] ∧ t.asked <:+ final.asked := by
  obtain ⟨-, hafter, hasked⟩ := Keeps.ok
    (keeps_compile_uncached hcache (persists_asked t.asked) source source none)
    ⟨hempty, List.suffix_rfl⟩ hcompile
  exact ⟨_, LoadM.throughStore_of_kept hget, LoadM.throughStore_of_ok hcompile, hafter, hasked⟩

include hstored

/-- A kept source compiles on the right as well, while the files stay the same. -/
theorem KeptFresh.compile (h : env.KeptFresh sources s t) (hsource : sources source)
    (hkept : env.FromSource (env.Requested t.asked) source template)
    (hclash : ¬ ∃ key ∈ t.asked, sources key) :
    ∃ after, env.compile source source none t = .ok template after := by
  refine build_succeeds hkept fun key layout hnames _ hlayout => ⟨List.not_mem_nil, ?_⟩
  obtain ⟨compiled, after, hload, hsame, -⟩ := h.loadPath hcache
    (.start hstored hnames.isKey (List.forall_mem_singleton.mpr hsource)) hlayout hclash
  exact ⟨compiled, after, (congrFun (loadFile_of_stored hstored) t).trans hload, hsame⟩

/-- Compilations of a source agree while the files stay the same. -/
theorem agree_compile_fresh (hsource : sources source) :
    Agree (env.fresh sources) Eq (EqualWith fun _ => True)
      (env.caching.compile source source none) (env.compile source source none) := by
  refine (agree_build (P := fun _ _ => True) (fun _ => rfl) fun key hnames _ _ => ?_).mono
    fun _ _ hab => ⟨hab.1, True.intro⟩
  exact (agree_loadFile hcache hstored hnames.isKey (List.forall_mem_singleton.mpr hsource)).mono
    fun _ _ hab => ⟨hab.1, True.intro⟩

/-- A source compiles to one template on both sides while the files stay the same. -/
theorem agree_throughStore_fresh (hsource : sources source) :
    Agree (env.fresh sources) Eq (SameTemplate fun _ => True)
      (LoadM.throughStore true source (env.caching.compile source source none))
      (LoadM.throughStore false source (env.compile source source none)) := by
  have hstays : ∀ t, (env.fresh sources).beyond t →
      EndBeyond (env.fresh sources).beyond (SameTemplate fun _ => True)
        (LoadM.throughStore false source (env.compile source source none) t) :=
    fun _ => endBeyond_throughStore hcache (persists_clashes sources)
  refine ⟨fun s t h => ?_, hstays⟩
  cases hget : s.get? source with
  | some kept =>
    by_cases hclash : ∃ key ∈ t.asked, sources key
    · exact Or.inr (hstays t ⟨h.empty, hclash⟩)
    · rcases h.kept source kept hget with hfile | ⟨-, hkept⟩
      · exact absurd ⟨source, hfile.2 source .refl, hsource⟩ hclash
      · obtain ⟨after, hcompile⟩ := h.compile hcache hstored hsource hkept hclash
        obtain ⟨final, hleft, hright, hempty, hasked⟩ :=
          throughStore_of_recompiled hcache hget h.empty hcompile
        rw [hleft, hright]
        exact Or.inl ⟨⟨rfl, True.intro⟩, h.later rfl hempty hasked⟩
  | none =>
    refine throughStore_ends hget (keeps_compile_absent source source none)
      ((agree_compile_fresh hcache hstored hsource).ends s t h) ?_ fun t' h' => ⟨h'.empty, h'.asked⟩
    intro template s' t' _ hrun hrelated
    have hbuilt : env.FromSource env.Compiles source template :=
      (Keeps.ok (keeps_compile compiles_closed source source none) (keepsFiles_of_empty h.empty) hrun).1
    refine hrelated.put _ _ _ (Or.inr ⟨hsource, hbuilt.imp fun key layout hnames hlayout => ⟨hlayout, ?_⟩⟩)
    intro above habove
    obtain ⟨compiled, hload⟩ := load_of_build hnames hrun
    exact mem_asked_of_loadPath hcache habove ((congrFun (loadFile_of_stored hstored) t).symm.trans hload)

end Fresh

/-- What is kept beside a store without templates after the files have changed: templates under paths
that were asked for before, and those of sources, over whatever files. -/
structure KeptStale (env : Environment) (sources : String → Prop) (asked : List String) (s t : Store) :
    Prop where
  empty : t.cache = []
  asked : asked.length ≤ t.asked.length
  kept : s.All fun key template => key ∈ t.asked ∨
    sources key ∧ ∃ loader, FromSource ⟨env.settings, loader⟩ (fun _ _ => True) key template

/-- A path was asked for since, or one of those that were reads like a source. -/
structure Loads (sources : String → Prop) (asked : List String) (t : Store) : Prop where
  empty : t.cache = []
  asked : asked.length < t.asked.length ∨ ∃ key ∈ t.asked, sources key

def stale (env : Environment) (sources : String → Prop) (asked : List String) :
    Comparison Store Store :=
  ⟨env.KeptStale sources asked, Loads sources asked⟩

theorem persists_loads (sources : String → Prop) (asked : List String) :
    Store.Persists (Loads sources asked) where
  ask t path h := by
    refine ⟨h.empty, h.asked.imp (fun hlt => ?_) ?_⟩
    · simp only [List.length_cons]
      omega
    · exact fun hclash => hclash.imp fun _ hkey => ⟨List.mem_cons_of_mem path hkey.1, hkey.2⟩
  stamp _ h := ⟨h.empty, h.asked⟩

section Stale

variable {sources : String → Prop} {asked : List String}

theorem KeptStale.later {s' t' : Store} (h : env.KeptStale sources asked s t) (hs : s'.cache = s.cache)
    (ht : t'.cache = []) (hasked : t.asked <:+ t'.asked) : env.KeptStale sources asked s' t' where
  empty := ht
  asked := Nat.le_trans h.asked hasked.length_le
  kept key kept hget := by
    have hkept := h.kept key kept (by rw [← hget]; simp only [Store.get?, hs])
    exact hkept.imp_left fun hmem => hasked.subset hmem

theorem KeptStale.put (h : env.KeptStale sources asked s t) (stamp next next' : Nat)
    (hkey : sources key) (htemplate : env.FromSource (fun _ _ => True) key template) :
    env.KeptStale sources asked
      { s with nextStamp := next, cache := Fields.put s.cache key ⟨stamp, template⟩ }
      { t with nextStamp := next' } where
  empty := h.empty
  asked := h.asked
  kept := (Store.All.admits _ key).put s ⟨stamp, template⟩ h.kept (Or.inr ⟨hkey, env.loader, htemplate⟩)

/-- When the files change, nothing is known any more of the templates of files. -/
theorem KeptFresh.stale (h : env.KeptFresh sources s t) (loader : Loader) :
    KeptStale ⟨env.settings, loader⟩ sources t.asked s t where
  empty := h.empty
  asked := Nat.le_refl _
  kept key kept hget := (h.kept key kept hget).imp (fun hfile => hfile.2 key .refl) fun hsource =>
    ⟨hsource.1, env.loader, hsource.2.mono fun _ _ _ => True.intro⟩

theorem KeptStale.stale (h : env.KeptStale sources asked s t) (loader : Loader) :
    KeptStale ⟨env.settings, loader⟩ sources t.asked s t where
  empty := h.empty
  asked := Nat.le_refl _
  kept := h.kept

/-- Without a layout the files do not matter. -/
theorem FromSource.alone {loader : Loader}
    (h : FromSource ⟨env.settings, loader⟩ (fun _ _ => False) key template) :
    env.FromSource (fun _ _ => False) key template := by
  cases h with
  | alone htokens hlayout hprogram => exact .alone htokens hlayout hprogram
  | computed htokens hlayout hcheck => exact .computed htokens hlayout hcheck
  | named htokens hlayout hkey hne hparent hbody => exact hparent.elim

variable (hcache : env.settings.cache = false)

include hcache

/-- Any load from a path leads beyond comparison. -/
theorem KeptStale.loads (h : env.KeptStale sources asked s t) (bound : Nat) (around : List String)
    (path : String) :
    EndBeyond (Loads sources asked) (SameTemplate (env.FromFile (fun _ _ => True) path))
      (env.loadPath (bound + 1) around path t) := by
  refine endBeyond_loadPath hcache (persists_loads sources asked) ⟨h.empty, Or.inl ?_⟩
  have hasked := h.asked
  simp only [List.length_cons]
  omega

theorem agree_loadPath_stale (load : LoadM Compiled) (bound : Nat) (around : List String)
    (path : String) :
    Agree (env.stale sources asked) Eq (SameTemplate (env.FromFile (fun _ _ => True) path)) load
      (env.loadPath (bound + 1) around path) :=
  ⟨fun _ _ h => Or.inr (KeptStale.loads hcache h bound around path), fun _ h =>
    (keeps_loadPath_uncached hcache (persists_loads sources asked) (bound + 1) around path).endBeyond h
      fun _ => SameTemplate.of⟩

variable (hstored : env.loader.isStored = true)

include hstored

/-- A source that names a layout leads beyond comparison as well. -/
theorem KeptStale.loads_compile (h : env.KeptStale sources asked s t) (hnames : env.Names source none key)
    (hne : key ≠ source) :
    EndBeyond (Loads sources asked) (SameTemplate fun _ => True)
      (LoadM.throughStore false source (env.compile source source none) t) := by
  obtain ⟨tokens, name, line, hbuild⟩ := @build_of_names env
    (env.loadFile [source]) [] source source key none hnames
  rw [if_neg (by simp [hne]), loadFile_of_stored hstored] at hbuild
  have hrest : ∀ layout, Keeps (Loads sources asked) (fun _ => True)
      (LoadM.ofExcept (env.bodyOver tokens name line layout) >>= fun body =>
        (return ⟨source, none, some key, body⟩ : LoadM Template)) := fun layout =>
    (keeps_ofExcept _).bindWith fun body _ => Keeps.pure True.intro
  have hcompile : EndBeyond (Loads sources asked) Equal (env.compile source source none t) := by
    have hrun : env.compile source source none = _ := hbuild
    rw [hrun]
    exact Agree.beyond_bind (KeptStale.loads hcache h env.loader.size [source] key)
      fun _ layout after _ hafter => Keeps.endBeyond (hrest layout.template) hafter
        fun template _ => ⟨template, Equal.refl template⟩
  change EndBeyond _ _ ((env.compile source source none >>= LoadM.stamp) t)
  exact Agree.beyond_bind hcompile fun _ template after _ hafter =>
    ⟨⟨hafter.empty, hafter.asked⟩, _, rfl, True.intro⟩

theorem agree_load_stale (name : String) (from? : Option String) :
    Agree (env.stale sources asked) Eq (SameTemplate fun template => env.HasSource template.id)
      (env.caching.load name from?) (env.load name from?) := by
  refine (agree_ofExcept (fun _ => rfl) _).bindWith fun path hpath => ?_
  rw [loadFile_of_stored hstored]
  exact (agree_loadPath_stale hcache _ _ [] path).mono
    fun _ _ hab => ⟨hab.1, hab.2.hasSource (isKey_of_resolve hpath)⟩

/-- A source without a layout compiles to one template on both sides even after the files have
changed. -/
theorem agree_throughStore_stale (hsource : sources source) :
    Agree (env.stale sources asked) Eq (SameTemplate fun _ => True)
      (LoadM.throughStore true source (env.caching.compile source source none))
      (LoadM.throughStore false source (env.compile source source none)) := by
  have hpersists := persists_loads sources asked
  have hstays : ∀ t, (env.stale sources asked).beyond t →
      EndBeyond (env.stale sources asked).beyond (SameTemplate fun _ => True)
        (LoadM.throughStore false source (env.compile source source none) t) :=
    fun _ => endBeyond_throughStore hcache hpersists
  refine ⟨fun s t h => ?_, hstays⟩
  cases hget : s.get? source with
  | some kept =>
    rcases h.kept source kept hget with hasked | ⟨-, loader, hbuilt⟩
    · exact Or.inr (hstays t ⟨h.empty, Or.inr ⟨source, hasked, hsource⟩⟩)
    · rcases hbuilt.alone_or_over with halone | ⟨key, hnames, hne⟩
      · obtain ⟨after, hcompile⟩ : ∃ after, env.compile source source none t = .ok kept.template after :=
          build_succeeds (FromSource.alone halone) fun _ _ _ _ hfalse => False.elim hfalse
        obtain ⟨final, hleft, hright, hempty, hasked⟩ :=
          throughStore_of_recompiled hcache hget h.empty hcompile
        rw [hleft, hright]
        exact Or.inl ⟨⟨rfl, True.intro⟩, h.later rfl hempty hasked⟩
      · exact Or.inr (KeptStale.loads_compile hcache hstored h hnames hne)
  | none =>
    have hcompile : Agree (env.stale sources asked) Eq
        (EqualWith (env.FromSource (fun _ _ => True) source))
        (env.caching.compile source source none) (env.compile source source none) :=
      agree_build (fun _ => rfl) fun key _ _ _ => by
        rw [loadFile_of_stored hstored]
        exact (agree_loadPath_stale hcache _ env.loader.size [source] key).mono
          fun _ _ hab => ⟨hab.1, True.intro⟩
    refine (throughStore_ends hget (keeps_compile_absent source source none) (hcompile.ends s t h) ?_
      hpersists.stamp).imp ?_ ?_
    · intro template s' t' hbuilt _ hrelated
      exact hrelated.put _ _ _ hsource hbuilt
    · exact EndAlike.mono (fun _ _ hfault => hfault) fun _ _ hab => ⟨hab.1, True.intro⟩
    · exact EndBeyond.mono fun _ _ hab => ⟨hab.1, True.intro⟩

end Stale

/-- Loads by name and compilations of sources agree with and without a cache, over stored files. -/
structure Transparent (env : Environment) (sources : String → Prop) (S : Comparison Store Store) :
    Prop where
  stored : env.loader.isStored = true
  load : ∀ name from?, Agree S Eq (SameTemplate fun template => env.HasSource template.id)
    (env.caching.load name from?) (env.load name from?)
  compile : ∀ source options, sources source → options.filename = none → options.cache = none →
    Agree S Eq (SameTemplate fun _ => True) (Engine.compileSource env.caching source options)
      (Engine.compileSource env source options)

section Transparent

variable {S : Comparison Store Store} {sources : String → Prop} (hcache : env.settings.cache = false)

include hcache

/-- A source that does not compile gives the same error on both sides, or the same template for it. -/
theorem agree_compileSource {options : CompileOptions} (hfilename : options.filename = none)
    (hoption : options.cache = none)
    (hstamp : ∀ s t, S.related s t →
      S.related { s with nextStamp := s.nextStamp + 1 } { t with nextStamp := t.nextStamp + 1 })
    (hstays : ∀ t, S.beyond t → S.beyond { t with nextStamp := t.nextStamp + 1 })
    (h : Agree S Eq (SameTemplate fun _ => True)
      (LoadM.throughStore true source (env.caching.compile source source none))
      (LoadM.throughStore false source (env.compile source source none))) :
    Agree S Eq (SameTemplate fun _ => True) (Engine.compileSource env.caching source options)
      (Engine.compileSource env source options) := by
  have hleft : ∀ s, Engine.compileSource env.caching source options s = options.allowing source
      (LoadM.throughStore true source (env.caching.compile source source none) s) :=
    Engine.compileSource_eq_allowing hfilename hoption
  have hright : ∀ t, Engine.compileSource env source options t = options.allowing source
      (LoadM.throughStore false source (env.compile source source none) t) :=
    hcache ▸ Engine.compileSource_eq_allowing hfilename hoption
  refine ⟨fun s t hrelated => ?_, fun t ht => ?_⟩
  · rw [hleft s, hright t]
    exact (h.ends s t hrelated).imp (EndAlike.allowing hstamp) (EndBeyond.allowing hstays)
  · rw [hright t]
    exact (h.stays t ht).allowing hstays

theorem transparent_fresh (hstored : env.loader.isStored = true) (sources : String → Prop) :
    env.Transparent sources (env.fresh sources) where
  stored := hstored
  load := agree_load_fresh hcache hstored
  compile _ _ hsource hfilename hoption := agree_compileSource hcache hfilename hoption
    (fun _ _ h => h.later rfl h.empty List.suffix_rfl) (fun _ h => ⟨h.empty, h.asked⟩)
    (agree_throughStore_fresh hcache hstored hsource)

theorem transparent_stale (hstored : env.loader.isStored = true) (sources : String → Prop)
    (asked : List String) : env.Transparent sources (env.stale sources asked) where
  stored := hstored
  load := agree_load_stale hcache hstored
  compile _ _ hsource hfilename hoption := agree_compileSource hcache hfilename hoption
    (fun _ _ h => h.later rfl h.empty List.suffix_rfl) (persists_loads sources asked).stamp
    (agree_throughStore_stale hcache hstored hsource)

end Transparent

end Environment

end Stencil
