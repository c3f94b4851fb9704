import Stencil.Proofs.Render.Transparency

/-!
Sessions with and without a cache. Two sessions make the same steps, one on an engine that caches and the
other on one that does not. As long as the cache is cleared after a file has changed and before the next
load, and no source reads like the path of a file that is loaded, they give the same answers.
-/
namespace Stencil

/-- An answer without the other handles that hold the very same template. -/
def Answer.plain : Answer → Answer
  | .compiled template _ => .compiled template []
  | answer => answer

namespace Action

/-- The same action for engines that cache or do not. -/
def withCache (caching : Bool) : Action → Action
  | .init config host => .init { config with cache := caching } host
  | action => action

/-- The source that an action compiles. -/
def source? : Action → Option String
  | .compile _ source _ => some source
  | .renderSource source _ => some source
  | _ => none

/-- Actions that can be compared: sources are compiled under their own texts and kept as the engine
does, and nobody looks at the keys or gives the engine away. -/
def Comparable : Action → Prop
  | .compile _ _ options => options.filename = none ∧ options.cache = none
  | .keys => False
  | .clone => False
  | .drop => False
  | _ => True

/-- Actions that leave the files, the settings and the cache as they are. -/
def Works : Action → Prop
  | .put .. => False
  | .init .. => False
  | .clearCache => False
  | _ => True

/-- Whether files may have changed since the cache was cleared. -/
def leavesStale (stale : Bool) : Action → Bool
  | .put .. => true
  | .init .. => false
  | .clearCache => false
  | _ => stale

end Action

namespace Session

/-- After a file was put nothing is loaded before the cache is cleared or the engine set up anew. -/
def Refreshes : Bool → Session → List Action → Prop
  | _, _, [] => True
  | stale, session, action :: rest =>
    (stale = true → (session.step action).1.engine.store.asked = session.engine.store.asked) ∧
      Refreshes (action.leavesStale stale) (session.step action).1 rest

instance decidableRefreshes : (stale : Bool) → (session : Session) → (actions : List Action) →
    Decidable (session.Refreshes stale actions)
  | _, _, [] => inferInstanceAs (Decidable True)
  | stale, session, action :: rest =>
    have := decidableRefreshes (action.leavesStale stale) (session.step action).1 rest
    inferInstanceAs (Decidable (_ ∧ _))

/-- Two sessions with engines of their own, of which the first one caches. -/
structure Beside (env : Environment) (S : Comparison Store Store) (session₁ session₂ : Session) :
    Prop where
  env₁ : session₁.engine.env = env.caching
  env₂ : session₂.engine.env = env
  attached₁ : session₁.attached = true
  attached₂ : session₂.attached = true
  own₁ : session₁.ownership = .own
  own₂ : session₂.ownership = .own
  store : S.related session₁.engine.store session₂.engine.store
  handles : Fields.Alike (SameTemplate fun _ => True) session₁.handles session₂.handles

/-- The same answer from sessions that stay beside each other, or the end of the comparison. -/
def StepAgrees (env : Environment) (S : Comparison Store Store) (step₁ step₂ : Session × Answer) :
    Prop :=
  step₁.2.plain = step₂.2.plain ∧ Beside env S step₁.1 step₂.1 ∨ S.beyond step₂.1.engine.store

/-- Nothing is refused. -/
theorem step_eq_act {session : Session} (hattached : session.attached = true)
    (hown : session.ownership = .own) (action : Action) : session.step action = session.act action := by
  unfold step
  rw [hattached, hown]
  simp

theorem failure_eq {fault fault' : Fault} (h : fault.Alike Eq fault') : failure fault = failure fault' := by
  cases fault with
  | error error =>
    cases fault' with
    | error error' => exact congrArg Answer.failed h
    | tooDeep => exact h.elim
  | tooDeep =>
    cases fault' with
    | error error' => exact h.elim
    | tooDeep => rfl

/-- Two results that are alike: values that the relation holds of, or faults that fail alike. -/
inductive ResultsAlike {α : Type} (V : α → α → Prop) : Except Fault α → Except Fault α → Prop where
  | ok {a b : α} (h : V a b) : ResultsAlike V (.ok a) (.ok b)
  | error {fault fault' : Fault} (h : fault.Alike Eq fault') : ResultsAlike V (.error fault) (.error fault')

namespace Beside

variable {env : Environment} {S : Comparison Store Store} {sources : String → Prop}
  {session₁ session₂ : Session}

/-- A computation ends alike on both sides and the sessions stay beside each other with what it leaves of
their engines, or the comparison ends. -/
theorem run (h : Beside env S session₁ session₂) {α : Type} {V : α → α → Prop} {load load' : LoadM α}
    (hload : Agree S (Fault.Alike Eq) V load load') :
    ResultsAlike V (session₁.engine.run load).1 (session₂.engine.run load').1 ∧
        Beside env S { session₁ with engine := (session₁.engine.run load).2 }
          { session₂ with engine := (session₂.engine.run load').2 } ∨
      S.beyond (session₂.engine.run load').2.store := by
  unfold Engine.run
  rcases hload.ends _ _ h.store with hends | hends
  · refine Or.inl ?_
    cases hs : load session₁.engine.store with
    | ok a s =>
      rw [hs] at hends
      obtain ⟨b, t, ht, hab, hrelated⟩ := hends.of_ok
      rw [ht]
      exact ⟨.ok hab, h.env₁, h.env₂, h.attached₁, h.attached₂, h.own₁, h.own₂, hrelated, h.handles⟩
    | error fault s =>
      rw [hs] at hends
      obtain ⟨fault', t, ht, hfault, hrelated⟩ := hends.of_error
      rw [ht]
      exact ⟨.error hfault, h.env₁, h.env₂, h.attached₁, h.attached₂, h.own₁, h.own₂, hrelated,
        h.handles⟩
  · refine Or.inr ?_
    cases ht : load' session₂.engine.store with
    | ok b t =>
      rw [ht] at hends
      exact hends.1
    | error fault t =>
      rw [ht] at hends
      exact hends

/-- What is compiled on both sides is held on both sides. -/
theorem hold (h : Beside env S session₁ session₂) (handle : String) {load load' : LoadM Compiled}
    (hload : Agree S (Fault.Alike Eq) (SameTemplate fun _ => True) load load') :
    StepAgrees env S (session₁.hold handle (session₁.engine.run load))
      (session₂.hold handle (session₂.engine.run load')) := by
  have hrun := h.run hload
  generalize session₁.engine.run load = left at hrun ⊢
  generalize session₂.engine.run load' = right at hrun ⊢
  obtain ⟨result, engine⟩ := left
  obtain ⟨result', engine'⟩ := right
  rcases hrun with ⟨hresult, hbeside⟩ | hbeyond
  · refine Or.inl ?_
    cases hresult with
    | ok hsame =>
      exact ⟨congrArg (Answer.compiled · []) hsame.1,
        { hbeside with handles := h.handles.put handle hsame }⟩
    | error hfault => exact ⟨congrArg Answer.plain (failure_eq hfault), hbeside⟩
  · refine Or.inr ?_
    cases result' <;> exact hbeyond

/-- What renders to the same text on both sides is the same answer. -/
theorem rendered (h : Beside env S session₁ session₂) {load load' : LoadM String}
    (hload : Agree S (Fault.Alike Eq) Equal load load') :
    StepAgrees env S (session₁.rendered (session₁.engine.run load))
      (session₂.rendered (session₂.engine.run load')) := by
  have hrun := h.run hload
  generalize session₁.engine.run load = left at hrun ⊢
  generalize session₂.engine.run load' = right at hrun ⊢
  obtain ⟨result, engine⟩ := left
  obtain ⟨result', engine'⟩ := right
  refine hrun.imp_left ?_
  rintro ⟨hresult, hbeside⟩
  cases hresult with
  | ok htext => exact ⟨congrArg Answer.output htext.1, hbeside⟩
  | error hfault => exact ⟨congrArg Answer.plain (failure_eq hfault), hbeside⟩

variable (htransparent : env.Transparent sources S)

include htransparent

theorem compileNamed (name : String) :
    Agree S (Fault.Alike Eq) (SameTemplate fun _ => True) (Engine.compileNamed env.caching name)
      (Engine.compileNamed env name) :=
  ((htransparent.load name none).alike fun _ => rfl).mono fun _ _ hab => ⟨hab.1, True.intro⟩

/-- What is compiled alike renders alike. -/
theorem loadAndRender {load load' : LoadM Compiled}
    (hload : Agree S (Fault.Alike Eq) (SameTemplate fun _ => True) load load') (context : Context) :
    Agree S (Fault.Alike Eq) Equal
      (load >>= fun compiled => Engine.renderTemplate env.caching compiled.template context [])
      (load' >>= fun compiled => Engine.renderTemplate env compiled.template context []) := by
  refine hload.bind ?_
  rintro ⟨stamp, template⟩ ⟨stamp', _⟩ ⟨rfl, -⟩
  exact htransparent.renderTemplate template context []

/-- An action that leaves files and settings alone has the same answer on both sides. -/
theorem act (h : Beside env S session₁ session₂) {action : Action} (haction : action.Comparable)
    (hsource : ∀ source, action.source? = some source → sources source) (hworks : action.Works) :
    StepAgrees env S (session₁.act action) (session₂.act action) := by
  have hcompile : ∀ source options, action.source? = some source → options.filename = none →
      options.cache = none → Agree S (Fault.Alike Eq) (SameTemplate fun _ => True)
        (Engine.compileSource env.caching source options) (Engine.compileSource env source options) :=
    fun source options haction hfilename hoption =>
      (htransparent.compile source options (hsource source haction) hfilename hoption).alike fun _ => rfl
  cases action with
  | put name source => exact hworks.elim
  | init config host => exact hworks.elim
  | clearCache => exact hworks.elim
  | keys => exact haction.elim
  | clone => exact haction.elim
  | drop => exact haction.elim
  | compile handle source options =>
    obtain ⟨hfilename, hoption⟩ := haction
    have hload := hcompile source options rfl hfilename hoption
    rw [← h.env₁, ← h.env₂] at hload
    exact h.hold handle hload
  | compileFile handle name =>
    have hload := compileNamed htransparent name
    rw [← h.env₁, ← h.env₂] at hload
    exact h.hold handle hload
  | render handle context ancestors =>
    unfold Session.act
    dsimp only
    rcases h.handles.get? handle with ⟨held₁, held₂, hget₁, hget₂, hsame, -⟩ | ⟨hget₁, hget₂⟩
    · have hexists₁ : session₁.engineExists = true := by simp [engineExists, h.attached₁]
      have hexists₂ : session₂.engineExists = true := by simp [engineExists, h.attached₂]
      rw [hget₁, hget₂]
      dsimp only
      rw [if_pos hexists₁, if_pos hexists₂, hsame]
      have hload := htransparent.renderTemplate held₂.template context ancestors
      rw [← h.env₁, ← h.env₂] at hload
      exact h.rendered hload
    · rw [hget₁, hget₂]
      exact Or.inl ⟨rfl, h⟩
  | renderSource source context =>
    have hload := loadAndRender htransparent (hcompile source {} rfl rfl rfl) context
    rw [← h.env₁, ← h.env₂] at hload
    exact h.rendered hload
  | renderFile name context =>
    have hload := loadAndRender htransparent (compileNamed htransparent name) context
    rw [← h.env₁, ← h.env₂] at hload
    exact h.rendered hload

end Beside

/-- How stores are compared, depending on whether files may have changed. -/
def phase (sources : String → Prop) (env : Environment) (asked : List String) :
    Bool → Comparison Store Store
  | false => env.fresh sources
  | true => env.stale sources asked

/-- Two sessions that are compared, of which only the first one caches. -/
structure Along (sources : String → Prop) (stale : Bool) (session₁ session₂ : Session) : Prop where
  uncached : session₂.engine.env.settings.cache = false
  stored : session₂.engine.env.loader.isStored = true
  beside : Beside session₂.engine.env
    (phase sources session₂.engine.env session₂.engine.store.asked stale) session₁ session₂

namespace Along

variable {sources : String → Prop} {stale : Bool} {session₁ session₂ : Session}

theorem transparent (h : Along sources stale session₁ session₂) :
    session₂.engine.env.Transparent sources
      (phase sources session₂.engine.env session₂.engine.store.asked stale) := by
  cases stale with
  | false => exact Environment.transparent_fresh h.uncached h.stored sources
  | true => exact Environment.transparent_stale h.uncached h.stored sources _

/-- Nothing is kept on the right, and what is kept on the left can outlast a change of the files. -/
theorem keptStale (h : Along sources stale session₁ session₂) (loader : Loader) :
    Environment.KeptStale ⟨session₂.engine.settings, loader⟩ sources session₂.engine.store.asked
      session₁.engine.store session₂.engine.store := by
  have hstore := h.beside.store
  cases stale with
  | false => exact Environment.KeptFresh.stale hstore loader
  | true => exact Environment.KeptStale.stale hstore loader

/-- Comparison ends where something is loaded that must not be. -/
theorem not_beyond {env : Environment} {asked : List String} {store : Store}
    (hquiet : stale = true → store.asked = asked) (hapart : ∀ key ∈ store.asked, ¬ sources key) :
    ¬ (phase sources env asked stale).beyond store := by
  intro hbeyond
  cases stale with
  | false =>
    obtain ⟨-, key, hkey, hsource⟩ := hbeyond
    exact hapart key hkey hsource
  | true =>
    rcases hbeyond with ⟨-, hlt | ⟨key, hkey, hsource⟩⟩
    · rw [hquiet rfl] at hlt
      omega
    · exact hapart key hkey hsource

/-- After a file has changed. -/
theorem put (h : Along sources stale session₁ session₂) (name source : String) :
    Along sources true (session₁.act (.put name source)).1 (session₂.act (.put name source)).1 := by
  have hbeside := h.beside
  have hsettings : session₁.engine.settings = _ := congrArg Environment.settings hbeside.env₁
  have hloader : session₁.engine.loader = _ := congrArg Environment.loader hbeside.env₁
  refine ⟨h.uncached, Loader.isStored_put h.stored name source, ?_, rfl, hbeside.attached₁,
    hbeside.attached₂, hbeside.own₁, hbeside.own₂, h.keptStale _, hbeside.handles⟩
  change Environment.mk session₁.engine.settings (session₁.engine.loader.put name source) = _
  rw [hsettings, hloader]
  rfl

/-- After the engine was set up anew. -/
theorem init (h : Along sources stale session₁ session₂) (config : Config) (host : Host) :
    Along sources false (session₁.act (.init { config with cache := true } host)).1
      (session₂.act (.init { config with cache := false } host)).1 := by
  have hbeside := h.beside
  have hloader : session₁.engine.loader = _ := congrArg Environment.loader hbeside.env₁
  refine ⟨rfl, h.stored, ?_, rfl, hbeside.attached₁, hbeside.attached₂, hbeside.own₁, hbeside.own₂,
    Environment.KeptFresh.of_empty rfl rfl, hbeside.handles⟩
  change Environment.mk _ session₁.engine.loader = _
  rw [hloader]
  rfl

/-- After the cache was cleared. -/
theorem clearCache (h : Along sources stale session₁ session₂) :
    Along sources false (session₁.act .clearCache).1 (session₂.act .clearCache).1 :=
  have hbeside := h.beside
  ⟨h.uncached, h.stored, hbeside.env₁, rfl, hbeside.attached₁, hbeside.attached₂, hbeside.own₁, hbeside.own₂,
    Environment.KeptFresh.of_empty rfl rfl, hbeside.handles⟩

/-- An action that leaves files and settings alone. -/
theorem works (h : Along sources stale session₁ session₂) {action : Action} (haction : action.Comparable)
    (hsource : ∀ source, action.source? = some source → sources source) (hworks : action.Works)
    (hquiet : stale = true →
      (session₂.act action).1.engine.store.asked = session₂.engine.store.asked)
    (hapart : ∀ key ∈ (session₂.act action).1.engine.store.asked, ¬ sources key) :
    (session₁.act action).2.plain = (session₂.act action).2.plain ∧
      Along sources stale (session₁.act action).1 (session₂.act action).1 := by
  obtain ⟨hanswer, hafter⟩ := (h.beside.act h.transparent haction hsource hworks).resolve_right
    (not_beyond hquiet hapart)
  have hphase : phase sources session₂.engine.env session₂.engine.store.asked stale =
      phase sources session₂.engine.env (session₂.act action).1.engine.store.asked stale := by
    cases stale with
    | false => rfl
    | true => rw [hquiet rfl]
  have henv := hafter.env₂
  rw [hphase, ← henv] at hafter
  exact ⟨hanswer, henv ▸ h.uncached, henv ▸ h.stored, hafter⟩

/-- Each action has the same answer on both sides, and the comparison goes on. -/
theorem step (h : Along sources stale session₁ session₂) {action : Action} (haction : action.Comparable)
    (hsource : ∀ source, action.source? = some source → sources source)
    (hquiet : stale = true → (session₂.step (action.withCache false)).1.engine.store.asked =
      session₂.engine.store.asked)
    (hapart : ∀ key ∈ (session₂.step (action.withCache false)).1.engine.store.asked, ¬ sources key) :
    (session₁.step (action.withCache true)).2.plain =
        (session₂.step (action.withCache false)).2.plain ∧
      Along sources (action.leavesStale stale) (session₁.step (action.withCache true)).1
        (session₂.step (action.withCache false)).1 := by
  have hbeside := h.beside
  rw [step_eq_act hbeside.attached₂ hbeside.own₂] at hquiet hapart
  rw [step_eq_act hbeside.attached₁ hbeside.own₁, step_eq_act hbeside.attached₂ hbeside.own₂]
  cases action with
  | put name source => exact ⟨rfl, h.put name source⟩
  | init config host => exact ⟨rfl, h.init config host⟩
  | clearCache => exact ⟨rfl, h.clearCache⟩
  | _ => exact h.works haction hsource True.intro hquiet hapart

end Along

/-- In a session nothing is kept that did not compile, and what was asked for is not forgotten. -/
theorem asked_subset_after {session : Session} {asked : List String}
    (h : (session.engine.store.All fun _ template => template.Settled) ∧
      asked ⊆ session.engine.store.asked) (actions : List Action) :
    ((session.after actions).engine.store.All fun _ template => template.Settled) ∧
      asked ⊆ (session.after actions).engine.store.asked := by
  have hclosed : ∀ env : Environment, env.Closed fun _ template => template.Settled :=
    fun _ _ _ _ _ hbuilt => hbuilt.settled
  have hadmits : ∀ key, Store.Admits (fun store => asked ⊆ store.asked) (fun _ => True) key := fun key =>
    { ask := fun _ hasked => List.subset_cons_of_subset key hasked
      stamp := fun _ hasked => hasked
      put := fun _ _ hasked _ => hasked
      kept := fun _ _ _ _ => True.intro }
  have hpath : ∀ (env : Environment) bound around path, Keeps (fun store => asked ⊆ store.asked)
      (fun _ => True) (env.loadPath bound around path) := fun env =>
    Environment.keeps_loadPath_of_admits hadmits fun _ _ _ _ _ => True.intro
  refine keeps_after (I := fun _ store => (store.All fun _ template => template.Settled) ∧
    asked ⊆ store.asked) ?_ ?_ ?_ h actions
  · intro _ _ store hstore
    exact ⟨fun _ _ hget => by simp [Store.get?, Store.clear] at hget, hstore.2⟩
  · intro env name from?
    have hload : Keeps (fun store => asked ⊆ store.asked) (fun _ => True) (env.load name from?) :=
      (keeps_ofExcept _).bindWith fun path _ => Environment.keeps_loadFile fun room => hpath env room [] path
    refine ((Environment.keeps_load (hclosed env) name from?).and hload).mono ?_
    rintro compiled _ ⟨rfl, ⟨_, -, hcompiled⟩, -⟩
    exact ⟨rfl, Guarantee.knownTemplate_vacuous hcompiled⟩
  · intro env source options
    have hsettled : Keeps (Store.All fun _ template => template.Settled) Template.Settled
        (env.compile (options.filename.getD source) source options.filename) :=
      (Environment.keeps_compile (hclosed env) _ source options.filename).mono
        fun _ _ hab => ⟨hab.1, hab.2.settled⟩
    have hasked : Keeps (fun store => asked ⊆ store.asked) (fun _ => True)
        (env.compile (options.filename.getD source) source options.filename) :=
      (Environment.keeps_build (P := fun _ _ => True)
        (fun key _ _ => Environment.keeps_loadFile fun room => hpath env room [options.filename.getD source] key)
        source options.filename).mono fun _ _ hab => ⟨hab.1, True.intro⟩
    exact ((Engine.keeps_compileSource (P := fun _ template => template.Settled) hsettled).and
      (Engine.keeps_compileSource_of_admits (hadmits _) hasked)).mono fun _ _ hab => ⟨hab.1, True.intro⟩

/-- Sessions that are compared give the same answers all along. -/
theorem Along.run {sources : String → Prop} {stale : Bool} {session₁ session₂ : Session}
    (h : Along sources stale session₁ session₂) {actions : List Action}
    (hactions : ∀ action ∈ actions, action.Comparable)
    (hsources : ∀ action ∈ actions, ∀ source, action.source? = some source → sources source)
    (hrefreshes : session₂.Refreshes stale (actions.map (Action.withCache false)))
    (hapart : ∀ key ∈ (session₂.after (actions.map (Action.withCache false))).engine.store.asked,
      ¬ sources key) :
    (session₁.run (actions.map (Action.withCache true))).map Answer.plain =
      (session₂.run (actions.map (Action.withCache false))).map Answer.plain := by
  induction actions generalizing stale session₁ session₂ with
  | nil => rfl
  | cons action rest ih =>
    obtain ⟨haction, hrest⟩ := List.forall_mem_cons.mp hactions
    obtain ⟨hsource, hsources⟩ := List.forall_mem_cons.mp hsources
    obtain ⟨hquiet, hrefreshes⟩ := hrefreshes
    have hsettled : session₂.engine.store.All fun _ template => template.Settled := by
      have hempty : session₂.engine.store.cache = [] := (h.keptStale session₂.engine.loader).empty
      intro key kept hget
      simp [Store.get?, hempty] at hget
    have hnext := asked_subset_after ⟨hsettled, List.Subset.refl _⟩ [action.withCache false]
    have hlater := asked_subset_after ⟨hnext.1, List.Subset.refl _⟩ (rest.map (Action.withCache false))
    obtain ⟨hanswer, hafter⟩ := h.step haction hsource hquiet fun key hkey => hapart key (hlater.2 hkey)
    have hstale : (action.withCache false).leavesStale stale = action.leavesStale stale := by
      cases action <;> rfl
    rw [hstale] at hrefreshes
    have hanswers := ih hafter hrest hsources hrefreshes hapart
    simp only [List.map_cons, Session.run]
    rw [hanswer, hanswers]

end Session

/-- A cache changes no answer. A session over a table or a folder on an engine that caches, and the same
session on one that does not, give the same outputs, templates and errors one after another: if after each
change of a file nothing is loaded before the cache is cleared or the engine set up anew, and if no source that
is compiled reads like a path that is asked for. -/
theorem Session.run_withCache {config : Config} {host : Host} {loader : Loader} {actions : List Action}
    (hstored : loader.isStored = true) (hactions : ∀ action ∈ actions, action.Comparable)
    (hrefreshes : (Session.ofEngine (.new { config with cache := false } host loader) .own).Refreshes
      false (actions.map (Action.withCache false)))
    (hapart : ∀ action ∈ actions, ∀ source, action.source? = some source →
      source ∉ ((Session.ofEngine (.new { config with cache := false } host loader) .own).after
        (actions.map (Action.withCache false))).engine.store.asked) :
    ((Session.ofEngine (.new { config with cache := true } host loader) .own).run
        (actions.map (Action.withCache true))).map Answer.plain =
      ((Session.ofEngine (.new { config with cache := false } host loader) .own).run
        (actions.map (Action.withCache false))).map Answer.plain := by
  have hstart : Along (fun key => ∃ action ∈ actions, action.source? = some key) false
      (Session.ofEngine (.new { config with cache := true } host loader) .own)
      (Session.ofEngine (.new { config with cache := false } host loader) .own) :=
    ⟨rfl, hstored, rfl, rfl, rfl, rfl, rfl, rfl, Environment.KeptFresh.of_empty rfl rfl, .nil⟩
  refine hstart.run hactions (fun action haction source hsource => ⟨action, haction, hsource⟩)
    hrefreshes ?_
  rintro key hkey ⟨action, haction, hsource⟩
  exact hapart action haction key hsource hkey

namespace Session

theorem textOf?_plain (answer : Answer) : textOf? answer.plain = textOf? answer := by
  cases answer <;> rfl

/-- A page over a layout. -/
def layeredLoader : Loader := .table [
  ("l", "<\x7b% block b %\x7d0\x7b% endblock %\x7d>"),
  ("p", "\x7b% extends 'l' %\x7d\x7b% block b %\x7d1\x7b% endblock %\x7d")]

/-- The page is kept, its layout changes while the page is still held, and the cache is cleared. -/
def refreshingActions : List Action := [
  .compileFile "t" "p",
  .renderSource "\x7b% include 'p' %\x7d" {},
  .renderFile "p" {},
  .put "l" "[\x7b% block b %\x7d0\x7b% endblock %\x7d]",
  .render "t" {} [],
  .clearCache,
  .renderFile "p" {},
  .render "t" {} []]

/-- The engine that caches shows the new layout after the cache was cleared. -/
theorem run_withCache_layered :
    ((ofEngine (.new { cache := true } {} layeredLoader) .own).run refreshingActions).filterMap textOf? =
      ["<1>", "<1>", "<1>", "[1]", "<1>"] := by
  have hplain : List.filterMap textOf? ∘ List.map Answer.plain = List.filterMap textOf? := by
    funext answers
    simp only [Function.comp_apply, List.filterMap_map]
    exact congrArg (List.filterMap · answers) (funext textOf?_plain)
  have hanswers := @run_withCache {} {} layeredLoader refreshingActions rfl
    (by simp [refreshingActions, Action.Comparable]) (by decide +kernel) (by
      simp only [refreshingActions, List.forall_mem_cons, Action.source?, reduceCtorEq, false_implies,
        implies_true, true_and, Option.some.injEq, forall_eq', List.not_mem_nil, and_true]
      decide +kernel)
  have htexts := congrArg (List.filterMap textOf?) hanswers
  change (List.filterMap textOf? ∘ List.map Answer.plain) _ =
    (List.filterMap textOf? ∘ List.map Answer.plain) _ at htexts
  rw [hplain] at htexts
  refine htexts.trans ?_
  decide +kernel

end Session

end Stencil
