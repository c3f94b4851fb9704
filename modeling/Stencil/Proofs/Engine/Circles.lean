import Mathlib.Data.Set.Finite.Basic
import Stencil.Proofs.Engine.Files

/-!
The walk from a file up through the layouts that the sources name. It ends at a file without a layout, at a
key without a source, or where a file names one that the walk has visited. If nothing is wrong in the
sources themselves, a load ends as the walk does, whatever files are kept. A walk through finitely many files
has an end, so all walks through stored files do; a loader of the host may have a new layout for every file,
and then neither the walk nor the load ends.
-/
namespace Stencil

namespace LoadM

variable {α β : Type} {store : Store}

/-- The fault that a load ends in, if it fails. -/
def fault? (load : LoadM α) (store : Store) : Option Fault :=
  match load store with
  | .ok _ _ => none
  | .error fault _ => some fault

theorem fault?_eq_some {load : LoadM α} {fault : Fault} :
    load.fault? store = some fault ↔ ∃ after, load store = .error fault after := by
  unfold fault?
  cases load store <;> simp

theorem fault?_eq_none {load : LoadM α} :
    load.fault? store = none ↔ ∃ a after, load store = .ok a after := by
  unfold fault?
  cases load store <;> simp

theorem fault?_bind_of_ok {load : LoadM α} {next : α → LoadM β}
    (h : ∀ a after, load store = .ok a after → (next a).fault? after = none) :
    (load >>= next).fault? store = load.fault? store := by
  cases hrun : load store with
  | error fault after =>
    rw [fault?_eq_some.mpr ⟨after, hrun⟩, fault?_eq_some.mpr ⟨after, run_bind_of_error hrun⟩]
  | ok a after =>
    obtain ⟨b, final, hnext⟩ := fault?_eq_none.mp (h a after hrun)
    rw [fault?_eq_none.mpr ⟨a, after, hrun⟩,
      fault?_eq_none.mpr ⟨b, final, (run_bind_of_ok hrun).trans hnext⟩]

/-- What is not kept is loaded if it can be compiled. -/
theorem fault?_throughStore {compile : LoadM Template} {caching : Bool} {key : String}
    (hfree : caching = true → store.get? key = none) :
    (throughStore caching key compile).fault? store = compile.fault? store := by
  cases hrun : compile store with
  | error fault after =>
    rw [fault?_eq_some.mpr ⟨after, hrun⟩, fault?_eq_some.mpr ⟨after, throughStore_of_error hfree hrun⟩]
  | ok template after =>
    rw [fault?_eq_none.mpr ⟨template, after, hrun⟩,
      fault?_eq_none.mpr (throughStore_succeeds hrun caching)]

end LoadM

namespace Environment

variable {env : Environment} {bound line : Nat} {visited : List String} {key above : String}
  {store : Store}

/-- The tag on a line of the file at the key names the file above it. -/
def ExtendsAt (env : Environment) (key : String) (line : Nat) (above : String) : Prop :=
  ∃ tokens name, env.page key = .ok (tokens, some (.named name, line)) ∧
    env.resolve name (some key) = .ok above

/-- How a walk ends. -/
inductive WalkEnd where
  /-- At a file that extends nothing. -/
  | alone
  /-- At a key without a source, for this reason. -/
  | missing (key message : String)
  /-- At the tag on this line, which names a file that was visited before. -/
  | circle (line : Nat) (key : String)

/-- The end of the walk from a key upwards. The keys visited before are all different, the last one
comes first. -/
inductive WalksTo (env : Environment) : List String → String → WalkEnd → Prop
  | alone {visited : List String} {key : String} {tokens : List Token}
      (hpage : env.page key = .ok (tokens, none)) : WalksTo env visited key .alone
  | missing {visited : List String} {key message : String}
      (hload : env.loader.load key = .error message) : WalksTo env visited key (.missing key message)
  | circle {visited : List String} {key above : String} {line : Nat}
      (habove : env.ExtendsAt key line above) (hseen : above ∈ key :: visited) :
      WalksTo env visited key (.circle line above)
  | up {visited : List String} {key above : String} {line : Nat} {ending : WalkEnd}
      (habove : env.ExtendsAt key line above) (hnew : above ∉ key :: visited)
      (hrest : WalksTo env (key :: visited) above ending) : WalksTo env visited key ending

/-- Nothing is wrong in the sources themselves, and no layout is computed or has a blank name. -/
def PlainLayouts (env : Environment) : Prop :=
  ∀ key source, env.source key = .ok source → ∃ tokens,
    env.page key = .ok (tokens, none) ∨
      ∃ name line, env.page key = .ok (tokens, some (.named name, line)) ∧
        ¬ Text.isBlankText name.toList

theorem exists_resolve (env : Environment) {name : String} (hname : ¬ Text.isBlankText name.toList)
    (from? : Option String) : ∃ key, env.resolve name from? = .ok key := by
  obtain ⟨key, hkey⟩ : ∃ key, Location.resolve env.settings.root from? name = .ok key := by
    unfold Location.resolve
    rw [if_neg hname]
    split <;> exact ⟨_, rfl⟩
  refine ⟨key, ?_⟩
  unfold resolve
  rw [hkey]

theorem source_eq_error {error : TemplateError} :
    env.source key = .error error ↔
      ∃ message, env.loader.load key = .error message ∧ error = .load key message := by
  unfold source
  cases env.loader.load key <;> simp [eq_comm]

theorem source_eq_ok {text : String} :
    env.source key = .ok text ↔ env.loader.load key = .ok text := by
  unfold source
  cases env.loader.load key <;> simp

theorem page_of_load {message : String} (h : env.loader.load key = .error message) :
    env.page key = .error (.load key message) := by
  unfold page
  rw [source_eq_error.mpr ⟨message, h, rfl⟩]
  rfl

theorem ExtendsAt.extends (h : env.ExtendsAt key line above) : env.Extends key above := by
  obtain ⟨tokens, name, hpage, habove⟩ := h
  obtain ⟨source, hsource, htokens, hlayout, -⟩ := page_eq_ok.mp hpage
  exact ⟨source, hsource, tokens, name, line, htokens, hlayout, habove⟩

theorem ExtendsAt.eq_of_extends {other : String} (h : env.ExtendsAt key line above)
    (hother : env.Extends key other) : other = above := by
  obtain ⟨tokens, name, hpage, habove⟩ := h
  obtain ⟨_, _, hlayout, hother⟩ := hother.of_page hpage
  cases hlayout
  exact Except.ok.inj (hother.symm.trans habove)

/-- A file names one layout at most. -/
theorem ExtendsAt.unique {line' : Nat} {above' : String} (h : env.ExtendsAt key line above)
    (h' : env.ExtendsAt key line' above') : line = line' ∧ above = above' := by
  obtain ⟨tokens, name, hpage, habove⟩ := h
  obtain ⟨tokens', name', hpage', habove'⟩ := h'
  cases hpage.symm.trans hpage'
  cases habove.symm.trans habove'
  exact ⟨rfl, rfl⟩

theorem ExtendsAt.ne_alone {tokens : List Token} (h : env.ExtendsAt key line above) :
    env.page key ≠ .ok (tokens, none) := by
  obtain ⟨_, _, hpage, -⟩ := h
  rw [hpage]
  nofun

theorem ExtendsAt.ne_missing {message : String} (h : env.ExtendsAt key line above) :
    env.loader.load key ≠ .error message := by
  obtain ⟨_, _, hpage, -⟩ := h
  intro hload
  cases hpage.symm.trans (page_of_load hload)

/-- A walk has one end. -/
theorem WalksTo.unique {ending ending' : WalkEnd} (h : env.WalksTo visited key ending)
    (h' : env.WalksTo visited key ending') : ending = ending' := by
  induction h with
  | alone hpage =>
    cases h' with
    | alone => rfl
    | missing hload => cases hpage.symm.trans (page_of_load hload)
    | circle habove => exact absurd hpage habove.ne_alone
    | up habove => exact absurd hpage habove.ne_alone
  | missing hload =>
    cases h' with
    | alone hpage => cases hpage.symm.trans (page_of_load hload)
    | missing hload' =>
      cases hload.symm.trans hload'
      rfl
    | circle habove => exact absurd hload habove.ne_missing
    | up habove => exact absurd hload habove.ne_missing
  | circle habove hseen =>
    cases h' with
    | alone hpage => exact absurd hpage habove.ne_alone
    | missing hload => exact absurd hload habove.ne_missing
    | circle habove' =>
      obtain ⟨rfl, rfl⟩ := habove.unique habove'
      rfl
    | up habove' hnew =>
      obtain ⟨-, rfl⟩ := habove.unique habove'
      exact absurd hseen hnew
  | up habove hnew _ ih =>
    cases h' with
    | alone hpage => exact absurd hpage habove.ne_alone
    | missing hload => exact absurd hload habove.ne_missing
    | circle habove' hseen =>
      obtain ⟨-, rfl⟩ := habove.unique habove'
      exact absurd hseen hnew
    | up habove' _ hrest =>
      obtain ⟨-, rfl⟩ := habove.unique habove'
      exact ih hrest

/-- From a file that compiles the walk ends well, if no file that was visited is above it. -/
theorem CompilesWithin.walksTo (hplain : env.PlainLayouts) {template : Template}
    (h : env.CompilesWithin bound key template)
    (hapart : ∀ other ∈ visited, ¬ Relation.ReflTransGen env.Extends key other) :
    env.WalksTo visited key .alone := by
  induction bound generalizing visited key template with
  | zero => exact h.elim
  | succ bound ih =>
    have hself : env.CompilesWithin (bound + 1) key template := h
    obtain ⟨source, hsource, -⟩ := h
    obtain ⟨tokens, hpage | ⟨name, line, hpage, hname⟩⟩ := hplain key source hsource
    · exact .alone hpage
    · obtain ⟨above, hresolve⟩ := env.exists_resolve hname (some key)
      have habove : env.ExtendsAt key line above := ⟨tokens, name, hpage, hresolve⟩
      obtain ⟨layout, hlayout⟩ := hself.above habove.extends
      have hcircle : ¬ Relation.ReflTransGen env.Extends above key := fun hback =>
        hself.not_circular (.head' habove.extends hback)
      have hnew : above ∉ key :: visited := fun hmem => by
        rcases List.mem_cons.mp hmem with rfl | hmem
        · exact hcircle .refl
        · exact hapart above hmem (.single habove.extends)
      refine .up habove hnew (ih hlayout (List.forall_mem_cons.mpr ⟨hcircle, fun other hother hback => ?_⟩))
      exact hapart other hother (.head habove.extends hback)

/-- The fault of a load, by the end of the walk. -/
def WalkEnd.fault? : WalkEnd → Option Fault
  | .alone => none
  | .missing key message => some (.error (.load key message))
  | .circle line key => some (.error (.located line (.circularExtends key)))

theorem WalkEnd.fault?_inj {ending ending' : WalkEnd} : ending.fault? = ending'.fault? ↔ ending = ending' := by
  cases ending <;> cases ending' <;> simp [fault?]

theorem WalkEnd.fault?_ne_tooDeep (ending : WalkEnd) : ending.fault? ≠ some .tooDeep := by
  cases ending <;> simp [fault?]

/-- A source that names its layout fails as the load of the layout does, unless that was visited before. -/
theorem fault?_build {load : String → LoadM Compiled} {source : String} (habove : env.ExtendsAt key line above)
    (hsource : env.source key = .ok source)
    (hload : above ∉ key :: visited →
      ∀ layout after, load above store = .ok layout after → layout.template.Settled) :
    (env.build load visited key source (some key)).fault? store =
      if above ∈ key :: visited then (WalkEnd.circle line above).fault? else (load above).fault? store := by
  obtain ⟨tokens, name, hpage, hresolve⟩ := habove
  obtain ⟨source', hsource', htokens, hlayout, hreview⟩ := page_eq_ok.mp hpage
  cases hsource.symm.trans hsource'
  have hseen : (decide (above = key) || visited.contains above) = true ↔ above ∈ key :: visited := by
    simp only [Bool.or_eq_true, decide_eq_true_eq, List.contains_iff_mem, List.mem_cons]
  rw [build_named htokens hlayout hresolve]
  split
  · rename_i hcircle
    rw [if_pos (hseen.mp hcircle)]
    rfl
  · rename_i hcircle
    have hnew := mt hseen.mpr hcircle
    rw [if_neg hnew]
    refine LoadM.fault?_bind_of_ok fun layout after hrun => ?_
    obtain ⟨body, hbody⟩ := bodyOver_of_review (hload hnew layout after hrun) hreview
    rw [LoadM.ofExcept_bind hbody]
    rfl

/-- A load fails for lack of room, or ends as the walk from the key does. -/
def FollowsWalk {α : Type} (env : Environment) (visited : List String) (key : String) (load : LoadM α)
    (store : Store) : Prop :=
  load.fault? store = some .tooDeep ∨
    ∃ ending, env.WalksTo visited key ending ∧ load.fault? store = ending.fault?

/-- A file is compiled as the walk goes on above it. -/
theorem buildFile_followsWalk (hplain : env.PlainLayouts)
    (hload : ∀ line above, env.ExtendsAt key line above → above ∉ key :: visited →
      env.FollowsWalk (key :: visited) above (env.loadPath bound (key :: visited) above) store ∧
        ∀ layout after, env.loadPath bound (key :: visited) above store = .ok layout after →
          layout.template.Settled) :
    env.FollowsWalk visited key (env.buildFile bound visited key) store := by
  unfold buildFile
  cases hsource : env.source key with
  | error error =>
    obtain ⟨message, hmissing, rfl⟩ := source_eq_error.mp hsource
    exact Or.inr ⟨.missing key message, .missing hmissing, rfl⟩
  | ok source =>
    rw [LoadM.ofExcept_bind rfl]
    obtain ⟨tokens, hpage | ⟨name, line, hpage, hname⟩⟩ := hplain key source hsource
    · obtain ⟨_, hsource', htokens, hlayout, hreview⟩ := page_eq_ok.mp hpage
      cases hsource.symm.trans hsource'
      obtain ⟨program, hprogram⟩ := ending_eq_ok.mp hreview
      refine Or.inr ⟨.alone, .alone hpage, ?_⟩
      rw [build_alone htokens hlayout hprogram]
      rfl
    · obtain ⟨above, hresolve⟩ := env.exists_resolve hname (some key)
      have habove : env.ExtendsAt key line above := ⟨tokens, name, hpage, hresolve⟩
      unfold FollowsWalk
      rw [fault?_build habove hsource fun hnew => (hload line above habove hnew).2]
      by_cases hseen : above ∈ key :: visited
      · exact Or.inr ⟨.circle line above, .circle habove hseen, if_pos hseen⟩
      · rw [if_neg hseen]
        exact (hload line above habove hseen).1.imp_right fun ⟨ending, hwalk, hfault⟩ =>
          ⟨ending, .up habove hseen hwalk, hfault⟩

/-- With any room a load follows the walk, from whatever store of files. -/
theorem loadPath_followsWalk (hplain : env.PlainLayouts) (hstore : env.KeepsFiles store)
    (hbelow : env.Below visited key) :
    env.FollowsWalk visited key (env.loadPath bound visited key) store := by
  induction bound generalizing visited key store with
  | zero => exact Or.inl rfl
  | succ bound ih =>
    let noted : Store := { store with asked := key :: store.asked }
    have hnoted : env.KeepsFiles noted := hstore
    change env.FollowsWalk visited key
      (LoadM.throughStore env.settings.cache key (env.buildFile bound visited key)) noted
    -- a kept file is not compiled again, but it was once, and so were all files above it
    by_cases hkept : env.settings.cache = true ∧ ∃ kept, noted.get? key = some kept
    · obtain ⟨hcache, kept, hget⟩ := hkept
      obtain ⟨steps, hcompiles⟩ := hnoted key kept hget
      refine Or.inr ⟨.alone, hcompiles.walksTo hplain fun other hother hback => ?_, ?_⟩
      · exact hcompiles.not_circular (.trans_right hback (hbelow other hother))
      · rw [hcache]
        exact LoadM.fault?_eq_none.mpr ⟨_, _, LoadM.throughStore_of_kept hget⟩
    · have hfree : env.settings.cache = true → noted.get? key = none := fun hcache =>
        Option.eq_none_iff_forall_not_mem.mpr fun kept hget => hkept ⟨hcache, kept, hget⟩
      unfold FollowsWalk
      rw [LoadM.fault?_throughStore hfree]
      refine buildFile_followsWalk hplain fun line above habove _ => ?_
      refine ⟨ih hnoted (hbelow.up habove.extends), fun layout after hload => ?_⟩
      obtain ⟨⟨_, hcompiles⟩, -⟩ := Keeps.ok (keeps_loadPath compiles_closed _ _ above) hnoted hload
      exact hcompiles.settled

/-- A walk through stored files has an end. -/
theorem PlainLayouts.exists_walksTo_of_stored (hplain : env.PlainLayouts) (hstored : env.loader.isStored = true)
    (hkey : Location.IsKey key) : ∃ ending, env.WalksTo [] key ending := by
  have hempty : env.KeepsFiles {} := Store.All.empty _
  have hroom : env.Room env.layoutBound [] key := .of_stored hstored hkey
  rcases loadPath_followsWalk hplain hempty (List.forall_mem_nil _) with hdeep | ⟨ending, hwalk, -⟩
  · obtain ⟨after, hdeep⟩ := LoadM.fault?_eq_some.mp hdeep
    exact absurd hdeep (shallow_loadPath hroom _ _)
  · exact ⟨ending, hwalk⟩

/-- If the walk has an end, then with some room the load never nests too deep. -/
theorem WalksTo.exists_shallow {ending : WalkEnd} (h : env.WalksTo visited key ending) :
    ∃ room, LoadM.Shallow (env.loadPath room visited key) := by
  induction h with
  | alone hpage =>
    refine ⟨1, shallow_loadPath_succ fun above habove _ => ?_⟩
    obtain ⟨_, _, hlayout, -⟩ := habove.of_page hpage
    cases hlayout
  | missing hload =>
    refine ⟨1, shallow_loadPath_succ fun above habove _ => ?_⟩
    obtain ⟨source, hsource⟩ := habove.exists_source
    cases hload.symm.trans (source_eq_ok.mp hsource)
  | circle habove hseen =>
    refine ⟨1, shallow_loadPath_succ fun other hother hnew => ?_⟩
    obtain rfl := habove.eq_of_extends hother
    exact absurd hseen hnew
  | up habove _ _ ih =>
    obtain ⟨room, hroom⟩ := ih
    refine ⟨room + 1, shallow_loadPath_succ fun other hother _ => ?_⟩
    obtain rfl := habove.eq_of_extends hother
    exact hroom

/-- A load ends as the walk does, and never ends if the walk does not. -/
theorem loadFile_walksTo (hplain : env.PlainLayouts) (hstore : env.KeepsFiles store)
    (hkey : Location.IsKey key) :
    (∃ ending, env.WalksTo [] key ending ∧ (env.loadFile [] key).fault? store = ending.fault?) ∨
      (¬ ∃ ending, env.WalksTo [] key ending) ∧ (env.loadFile [] key).fault? store = some .tooDeep := by
  have hwalk {room : Nat} (hrun : env.loadFile [] key store = env.loadPath room [] key store)
      (hends : ¬ EndsTooDeep (env.loadPath room [] key store)) :
      ∃ ending, env.WalksTo [] key ending ∧ (env.loadFile [] key).fault? store = ending.fault? := by
    have hfault : (env.loadFile [] key).fault? store = (env.loadPath room [] key).fault? store := by
      unfold LoadM.fault?
      rw [hrun]
    rw [hfault]
    refine (loadPath_followsWalk hplain hstore (List.forall_mem_nil _)).resolve_left fun hdeep => ?_
    exact hends (LoadM.fault?_eq_some.mp hdeep)
  by_cases hstored : env.loader.isStored = true
  · have hroom : env.Room env.layoutBound [] key := .of_stored hstored hkey
    refine Or.inl (hwalk (congrFun (loadFile_of_stored hstored) store) ?_)
    exact fun ⟨after, hdeep⟩ => shallow_loadPath hroom store after hdeep
  · have hload : env.loadFile [] key = LoadM.unbounded fun room => env.loadPath room [] key := if_neg hstored
    rcases LoadM.unbounded_cases (fun room => env.loadPath room [] key) store with
      ⟨room, hrun, hends⟩ | ⟨hrun, hnever⟩
    · exact Or.inl (hwalk ((congrFun hload store).trans hrun) hends)
    · refine Or.inr ⟨fun ⟨ending, hends⟩ => ?_, LoadM.fault?_eq_some.mpr ⟨store, hload ▸ hrun⟩⟩
      obtain ⟨room, hshallow⟩ := hends.exists_shallow
      obtain ⟨after, hdeep⟩ := hnever room
      exact hshallow store after hdeep

/-- A walk has come to its end, or there is a file above that is new to it. -/
theorem PlainLayouts.walksTo_or (hplain : env.PlainLayouts) (visited : List String) (key : String) :
    (∃ ending, env.WalksTo visited key ending) ∨
      ∃ line above, env.ExtendsAt key line above ∧ above ∉ key :: visited := by
  cases hsource : env.source key with
  | error error =>
    obtain ⟨message, hmissing, -⟩ := source_eq_error.mp hsource
    exact Or.inl ⟨_, .missing hmissing⟩
  | ok source =>
    obtain ⟨tokens, hpage | ⟨name, line, hpage, hname⟩⟩ := hplain key source hsource
    · exact Or.inl ⟨_, .alone hpage⟩
    · obtain ⟨above, hresolve⟩ := env.exists_resolve hname (some key)
      have habove : env.ExtendsAt key line above := ⟨tokens, name, hpage, hresolve⟩
      by_cases hseen : above ∈ key :: visited
      · exact Or.inl ⟨_, .circle habove hseen⟩
      · exact Or.inr ⟨line, above, habove, hseen⟩

/-- A walk through finitely many files has an end. -/
theorem PlainLayouts.exists_walksTo (hplain : env.PlainLayouts) {keys : Finset String}
    (hkeys : ∀ other, Relation.ReflTransGen env.Extends key other → other ∈ keys) :
    ∃ ending, env.WalksTo visited key ending := by
  -- every step up visits one of the files that are left
  induction hleft : (keys \ (key :: visited).toFinset).card using Nat.strong_induction_on
    generalizing visited key with
  | _ left ih =>
    rcases hplain.walksTo_or visited key with hends | ⟨line, above, habove, hnew⟩
    · exact hends
    · have hmem : above ∈ keys \ (key :: visited).toFinset :=
        Finset.mem_sdiff.mpr ⟨hkeys above (.single habove.extends), mt List.mem_toFinset.mp hnew⟩
      have hless : (keys \ (above :: key :: visited).toFinset).card < left := by
        rw [List.toFinset_cons, Finset.sdiff_insert, ← hleft]
        exact Finset.card_erase_lt_of_mem hmem
      obtain ⟨ending, hrest⟩ :=
        ih _ hless (fun other hother => hkeys other (.head habove.extends hother)) rfl
      exact ⟨ending, .up habove hnew hrest⟩

end Environment

/-- The result of a run on an engine, by the fault that the run ends in. -/
theorem Engine.run_fault? {α : Type} {engine : Engine} {load : LoadM α} {fault? : Option Fault}
    (h : load.fault? engine.store = fault?) :
    ((∃ a, (engine.run load).1 = .ok a) ↔ fault? = none) ∧
      ∀ fault, (engine.run load).1 = .error fault ↔ fault? = some fault := by
  subst h
  unfold run LoadM.fault?
  cases load engine.store <;> simp

/-- A file can be compiled, after whatever was done with files before, if the walk from it reaches a file
that extends nothing. Otherwise the error tells the key without a source that the walk comes to, or the file
that the walk visits twice and the line of the tag that leads back to it. The walk has an end if the sources
are stored, or if it can reach only finitely many files, and the compilation never ends if the walk does not. -/
theorem Session.compileFile_walksTo {env : Environment} {engine : Engine} {ownership : Ownership}
    {before : List Action} (henv : engine.env = env) (hempty : engine.store = {})
    (hbefore : ∀ action ∈ before, action.Reads env.CompilesFile) (hplain : env.PlainLayouts)
    {name : String} (hname : ¬ Text.isBlankText name.toList) {result : Except Fault Compiled}
    (hresult : (((Session.ofEngine engine ownership).after before).engine.compileFile name).1 = result) :
    ∃ start, env.resolve name none = .ok start ∧
      (env.loader.isStored = true ∨ {key | Relation.ReflTransGen env.Extends start key}.Finite →
        ∃ ending, env.WalksTo [] start ending) ∧
      ((∃ compiled, result = .ok compiled) ↔ env.WalksTo [] start .alone) ∧
      (∀ key message, result = .error (.error (.load key message)) ↔
        env.WalksTo [] start (.missing key message)) ∧
      (∀ line key, result = .error (.error (.located line (.circularExtends key))) ↔
        env.WalksTo [] start (.circle line key)) ∧
      (result = .error .tooDeep ↔ ¬ ∃ ending, env.WalksTo [] start ending) := by
  obtain ⟨hserved, hstore⟩ := @Session.serves_files env engine ownership before henv hempty hbefore
  generalize ((Session.ofEngine engine ownership).after before).engine = served at hserved hstore hresult
  obtain ⟨start, hstart⟩ := env.exists_resolve hname none
  have hkey : Location.IsKey start := Environment.isKey_of_resolve hstart
  have hrun : result = (served.run (env.loadFile [] start)).1 := by
    have hload : env.load name none = env.loadFile [] start := LoadM.ofExcept_bind hstart
    rw [← hresult, Engine.compileFile, hserved, ← hload]
    rfl
  refine ⟨start, hstart, fun hfinite => ?_, ?_⟩
  · rcases hfinite with hstored | hfinite
    · exact hplain.exists_walksTo_of_stored hstored hkey
    · exact hplain.exists_walksTo fun other hother => hfinite.mem_toFinset.mpr hother
  rcases Environment.loadFile_walksTo hplain hstore hkey with ⟨ending, hwalk, hfault⟩ | ⟨hnone, hfault⟩
  · obtain ⟨hok, herror⟩ := hrun ▸ Engine.run_fault? hfault
    have hends (other : Environment.WalkEnd) :
        ending.fault? = other.fault? ↔ env.WalksTo [] start other :=
      Environment.WalkEnd.fault?_inj.trans ⟨fun h => h ▸ hwalk, hwalk.unique⟩
    exact ⟨hok.trans (hends .alone), fun key message => (herror _).trans (hends (.missing key message)),
      fun line key => (herror _).trans (hends (.circle line key)),
      (herror _).trans (iff_of_false ending.fault?_ne_tooDeep (not_not_intro ⟨ending, hwalk⟩))⟩
  · obtain ⟨hok, herror⟩ := hrun ▸ Engine.run_fault? hfault
    have hnever (other : Environment.WalkEnd) : ¬ env.WalksTo [] start other :=
      fun hwalk => hnone ⟨other, hwalk⟩
    exact ⟨hok.trans (iff_of_false nofun (hnever _)),
      fun key message => (herror _).trans (iff_of_false nofun (hnever _)),
      fun line key => (herror _).trans (iff_of_false nofun (hnever _)),
      (herror _).trans (iff_of_true rfl hnone)⟩

section Sample

/-- The layout of a page and the line of its tag, if the page names its layout, or that it has none. -/
def plainTag? : Except TemplateError (List Token × Option (Layout × Nat)) →
    Option (Option (String × Nat))
  | .ok (_, none) => some none
  | .ok (_, some (.named name, line)) => some (some (name, line))
  | _ => none

theorem exists_page_of_plainTag? {page : Except TemplateError (List Token × Option (Layout × Nat))}
    {tag : Option (String × Nat)} (h : plainTag? page = some tag) :
    ∃ tokens, page = .ok (tokens, tag.map fun named => (.named named.1, named.2)) := by
  unfold plainTag? at h
  split at h <;> cases h <;> exact ⟨_, rfl⟩

/-- Whether a source has no layout or names it. -/
def Environment.isPlain (env : Environment) (source : String) : Bool :=
  match plainTag? (env.pageOf source) with
  | some none => true
  | some (some (name, _)) => !Text.isBlankText name.toList
  | none => false

theorem Environment.plainLayouts_of_sources {env : Environment}
    (h : env.loader.AllSources fun source => env.isPlain source = true) : env.PlainLayouts := by
  intro key source hsource
  have hpage : env.page key = env.pageOf source := by
    unfold page
    rw [hsource]
    rfl
  have hplain := h.load (source_eq_ok.mp hsource)
  unfold isPlain at hplain
  split at hplain
  · rename_i htag
    obtain ⟨tokens, htokens⟩ := exists_page_of_plainTag? htag
    exact ⟨tokens, Or.inl (hpage.trans htokens)⟩
  · rename_i name line htag
    obtain ⟨tokens, htokens⟩ := exists_page_of_plainTag? htag
    exact ⟨tokens, Or.inr ⟨name, line, hpage.trans htokens, by simpa using hplain⟩⟩
  · cases hplain

theorem Environment.extendsAt_of_plainTag? {env : Environment} {key name above : String} {line : Nat}
    (htag : plainTag? (env.page key) = some (some (name, line)))
    (habove : env.resolve name (some key) = .ok above) : env.ExtendsAt key line above := by
  obtain ⟨tokens, htokens⟩ := exists_page_of_plainTag? htag
  exact ⟨tokens, name, htokens, habove⟩

/-- The entry leads to a circle that it is not in itself, the page to a base, the last file nowhere. -/
def circleFiles : Fields String := [
  ("entry", "\x7b% extends 'd/b' %\x7d"), ("d/b", "\n\x7b% extends './c' %\x7d"),
  ("d/c", "\n\n\x7b% extends '../d/b' %\x7d"), ("page", "\x7b% extends 'base' %\x7d"),
  ("base", "text"), ("lost", "\x7b% extends 'gone' %\x7d")]

def circleEngine : Engine := .new {} {} (.table circleFiles)

/-- The files that end well and badly, each after other files were compiled. -/
def circleActions : List Action :=
  [.compileFile "t" "base", .compileFile "t" "entry", .compileFile "t" "lost"]

theorem compileFile_walksTo_circle :
    let compiled name :=
      (((Session.ofEngine circleEngine .own).after circleActions).engine.compileFile name).1
    (∃ template, compiled "page" = .ok template) ∧
      compiled "lost" = .error (.error (.load "gone" "Template not found: gone")) ∧
      compiled "entry" = .error (.error (.located 3 (.circularExtends "d/b"))) := by
  have hplain : circleEngine.env.PlainLayouts :=
    Environment.plainLayouts_of_sources (List.all_eq_true.mp (by decide +kernel :
      circleFiles.all (fun file => circleEngine.env.isPlain file.2) = true))
  have hends (name : String) (hname : ¬ Text.isBlankText name.toList) :=
    @Session.compileFile_walksTo _ circleEngine .own circleActions rfl rfl
      (by simp [circleActions, Action.Reads]) hplain name hname _ rfl
  have htag {key name above : String} {line : Nat}
      (h : plainTag? (circleEngine.env.page key) = some (some (name, line)))
      (habove : circleEngine.env.resolve name (some key) = .ok above) :=
    Environment.extendsAt_of_plainTag? h habove
  refine ⟨?_, ?_, ?_⟩
  · obtain ⟨start, hstart, -, halone, -⟩ := hends "page" (by decide)
    obtain rfl : start = "page" := (Except.ok.inj hstart).symm
    obtain ⟨tokens, hbase⟩ := exists_page_of_plainTag? (by decide +kernel :
      plainTag? (circleEngine.env.page "base") = some none)
    exact halone.mpr (.up (htag (by decide +kernel : _ = some (some ("base", 1))) rfl) (by decide)
      (.alone hbase))
  · obtain ⟨start, hstart, -, -, hmissing, -⟩ := hends "lost" (by decide)
    obtain rfl : start = "lost" := (Except.ok.inj hstart).symm
    exact (hmissing _ _).mpr (.up (htag (by decide +kernel : _ = some (some ("gone", 1))) rfl)
      (by decide) (.missing rfl))
  · obtain ⟨start, hstart, -, -, -, hcircle, -⟩ := hends "entry" (by decide)
    obtain rfl : start = "entry" := (Except.ok.inj hstart).symm
    exact (hcircle _ _).mpr (.up (htag (by decide +kernel : _ = some (some ("d/b", 1))) rfl) (by decide)
      (.up (htag (by decide +kernel : _ = some (some ("./c", 2))) rfl) (by decide)
        (.circle (htag (by decide +kernel : _ = some (some ("../d/b", 3))) rfl) (by decide))))

/-- Every file names the one of the same name in the directory below its own. -/
def endlessEngine : Engine := .new {} {} (.custom fun _ => .ok "\x7b% extends 'd/t' %\x7d")

/-- The path of the file so many directories down. -/
def endlessPath (depth : Nat) : List Location.Component :=
  List.replicate depth (.name ['d']) ++ [.name ['t']]

theorem goes_endlessPath (depth : Nat) : ∀ component ∈ endlessPath depth, component.Goes := by
  have hdirectory : (Location.Component.name ['d']).Goes := ⟨by decide, by decide⟩
  have hfile : (Location.Component.name ['t']).Goes := ⟨by decide, by decide⟩
  intro component hmem
  rcases List.mem_append.mp hmem with hmem | hmem
  · exact List.eq_of_mem_replicate hmem ▸ hdirectory
  · exact List.mem_singleton.mp hmem ▸ hfile

theorem normalise_endlessPath (depth : Nat) : Location.normalise (endlessPath depth) = endlessPath depth := by
  have hdirectories : Location.normalise (List.replicate depth (.name ['d'])) =
      List.replicate depth (.name ['d']) := by
    induction depth with
    | zero => rfl
    | succ depth ih => rw [List.replicate_succ', Location.normalise_append_name, ih]
  rw [endlessPath, Location.normalise_append_name, hdirectories]

theorem resolve_endless (depth : Nat) :
    endlessEngine.env.resolve "d/t" (some (Location.write (endlessPath depth))) =
      .ok (Location.write (endlessPath (depth + 1))) := by
  have hbase : Location.base none (some (Location.write (endlessPath depth))) =
      List.replicate depth (.name ['d']) := by
    have hread := Location.components_write_of_goes (goes_endlessPath depth)
    have hlast : (endlessPath depth).getLast? = some (.name ['t']) := List.getLast?_concat
    simp only [Location.base, Option.bind_some, hread, Location.directory?, hlast]
    exact List.dropLast_concat
  have hpath : List.replicate depth (.name ['d']) ++ Location.components "d/t" = endlessPath (depth + 1) := by
    rw [endlessPath, List.replicate_succ', List.append_assoc]
    rfl
  have hresolve : Location.resolve none (some (Location.write (endlessPath depth))) "d/t" =
      .ok (Location.write (endlessPath (depth + 1))) := by
    have hname : Text.isBlankText "d/t".toList = false := by decide
    have hrelative : (Location.isAbsolute "d/t" || Location.isRooted "d/t") = false := by decide
    rw [Location.resolve, hname, hrelative, hbase, hpath, normalise_endlessPath]
    rfl
  unfold Environment.resolve
  rw [show endlessEngine.env.settings.root = none from rfl, hresolve]

/-- Going down all the time, the walk comes to no end. -/
theorem not_walksTo_endless {visited : List String} {key : String} {ending : Environment.WalkEnd}
    (h : endlessEngine.env.WalksTo visited key ending) {depth : Nat}
    (hkey : key = Location.write (endlessPath depth))
    (hvisited : ∀ other ∈ visited, ∃ above < depth, other = Location.write (endlessPath above)) : False := by
  have hextends (depth : Nat) : endlessEngine.env.ExtendsAt (Location.write (endlessPath depth)) 1
      (Location.write (endlessPath (depth + 1))) :=
    Environment.extendsAt_of_plainTag? (by decide +kernel :
      plainTag? (endlessEngine.env.pageOf "\x7b% extends 'd/t' %\x7d") = _) (resolve_endless depth)
  have hseen {depth : Nat} {visited : List String}
      (hvisited : ∀ other ∈ visited, ∃ above < depth, other = Location.write (endlessPath above)) :
      ∀ other ∈ Location.write (endlessPath depth) :: visited,
        ∃ above < depth + 1, other = Location.write (endlessPath above) :=
    List.forall_mem_cons.mpr ⟨⟨depth, Nat.lt_succ_self depth, rfl⟩, fun other hother =>
      (hvisited other hother).imp fun _ habove => ⟨Nat.lt_succ_of_lt habove.1, habove.2⟩⟩
  induction h generalizing depth with
  | alone hpage => exact (hextends depth).ne_alone (hkey ▸ hpage)
  | missing hload => exact (hextends depth).ne_missing (hkey ▸ hload)
  | circle habove hmem =>
    subst hkey
    obtain ⟨-, rfl⟩ := habove.unique (hextends depth)
    obtain ⟨above, hless, heq⟩ := hseen hvisited _ hmem
    have hpaths := congrArg Location.components heq
    rw [Location.components_write_of_goes (goes_endlessPath _),
      Location.components_write_of_goes (goes_endlessPath _)] at hpaths
    have hlength := congrArg List.length hpaths
    simp only [endlessPath, List.length_append, List.length_replicate] at hlength
    omega
  | up habove _ _ ih =>
    subst hkey
    obtain ⟨-, rfl⟩ := habove.unique (hextends depth)
    exact ih rfl (hseen hvisited)

/-- The host has a tag of its own in the place of the one that names the layout. -/
def shadowEngine : Engine :=
  .new {} { tags := [("extends", ⟨false, fun _ => .ok "shadow"⟩)] }
    (.table [("t", "\x7b% extends 't' %\x7d")])

/-- With a new layout for every file the compilation never ends. With another tag under the name there is no
circle where the text has one. -/
theorem compileFile_endless :
    endlessEngine.env.PlainLayouts ∧ ¬ Text.isBlankText "t".toList ∧
      (endlessEngine.compileFile "t").1 = .error .tooDeep ∧
      shadowEngine.env.source "t" = .ok "\x7b% extends 't' %\x7d" ∧
      (shadowEngine.compileFile "t").1.isOk = true := by
  have hplain : endlessEngine.env.PlainLayouts := by
    refine Environment.plainLayouts_of_sources fun path source hsource => ?_
    cases hsource
    decide +kernel
  have hstore : endlessEngine.env.KeepsFiles endlessEngine.store := Store.All.empty _
  have hkey : Location.IsKey "t" :=
    @Environment.isKey_of_resolve endlessEngine.env "t" "t" none (by decide +kernel)
  refine ⟨hplain, by decide, ?_, rfl, by decide +kernel⟩
  rcases Environment.loadFile_walksTo hplain hstore hkey with ⟨ending, hwalk, -⟩ | ⟨-, hfault⟩
  · exact (@not_walksTo_endless _ _ _ hwalk 0 rfl (List.forall_mem_nil _)).elim
  · exact ((Engine.run_fault? hfault).2 _).mpr rfl

end Sample

end Stencil
