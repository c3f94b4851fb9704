import Stencil.Engine.Session
import Stencil.Proofs.Engine.Sources
import Stencil.Proofs.Render.Covered

/-!
Guarantees over sessions. If all sources that a session works with are known then so are all templates
that it keeps or holds, and every output keeps the guarantee, but for templates that stand for sources
that did not compile: these render the error.
-/
namespace Stencil

namespace Engine

theorem keeps_compileSource_of_admits {env : Environment} {I : Store → Prop} {Q : Template → Prop}
    {source : String} {options : CompileOptions}
    (hadmits : Store.Admits I Q (options.filename.getD source))
    (h : Keeps I Q (env.compile (options.filename.getD source) source options.filename)) :
    Keeps I
      (fun compiled => Q compiled.template ∨
        options.allowErrors = true ∧ ∃ error, compiled.template.body = .failed error)
      (compileSource env source options) := by
  refine .of ?_
  rintro store _ ⟨rfl, hstore⟩
  have hkeeps := keeps_throughStore hadmits (options.cache.getD env.settings.cache) h
  unfold compileSource
  dsimp only
  cases hrun : LoadM.throughStore (options.cache.getD env.settings.cache)
      (options.filename.getD source)
      (env.compile (options.filename.getD source) source options.filename) store with
  | ok compiled after =>
    obtain ⟨hcompiled, hafter⟩ := Keeps.ok hkeeps hstore hrun
    exact ⟨⟨rfl, Or.inl hcompiled⟩, rfl, hafter⟩
  | error fault after =>
    have hafter := Keeps.error hkeeps hstore hrun
    cases fault with
    | tooDeep => exact ⟨rfl, rfl, hafter⟩
    | error error =>
      dsimp only
      split
      · rename_i hallow
        exact ⟨⟨rfl, Or.inr ⟨hallow, error, rfl⟩⟩, rfl, hadmits.stamp after hafter⟩
      · exact ⟨rfl, rfl, hafter⟩

theorem keeps_compileSource {env : Environment} {P : String → Template → Prop} {source : String}
    {options : CompileOptions}
    (h : Keeps (Store.All P) (P (options.filename.getD source))
      (env.compile (options.filename.getD source) source options.filename)) :
    Keeps (Store.All P)
      (fun compiled => P (options.filename.getD source) compiled.template ∨
        options.allowErrors = true ∧ ∃ error, compiled.template.body = .failed error)
      (compileSource env source options) :=
  keeps_compileSource_of_admits (Store.All.admits P _) h

section Run

variable {α : Type} {engine : Engine} {load : LoadM α}

/-- A run changes nothing of the engine but its store. -/
theorem run_settings : (engine.run load).2.settings = engine.settings := by
  unfold run
  split <;> rfl

theorem run_loader : (engine.run load).2.loader = engine.loader := by
  unfold run
  split <;> rfl

/-- What a run on an engine gives. -/
theorem run_eq_ok {result : α} :
    (engine.run load).1 = .ok result ↔ ∃ after, load engine.store = .ok result after := by
  unfold run
  cases load engine.store with
  | ok found after =>
    constructor
    · rintro ⟨⟩
      exact ⟨after, rfl⟩
    · rintro ⟨_, ⟨⟩⟩
      rfl
  | error fault after =>
    constructor
    · rintro ⟨⟩
    · rintro ⟨_, ⟨⟩⟩

theorem run_keeps {I : Store → Prop} {Q : α → Prop} {F : Fault → Fault → Prop}
    (h : Agree (EqualWith I) F (EqualWith Q) load load) (hI : I engine.store) :
    I (engine.run load).2.store ∧ ∀ a, (engine.run load).1 = .ok a → Q a := by
  unfold run
  cases hrun : load engine.store with
  | ok a store =>
    obtain ⟨hQ, hafter⟩ := Keeps.ok h hI hrun
    refine ⟨hafter, fun b hb => ?_⟩
    cases hb
    exact hQ
  | error fault store =>
    exact ⟨Keeps.error h hI hrun, fun b hb => nomatch hb⟩

end Run

end Engine

namespace Session

/-- The session after some actions. -/
def after (session : Session) (actions : List Action) : Session :=
  actions.foldl (fun session action => (session.step action).1) session

/-- The text that an answer brings. -/
def textOf? : Answer → Option String
  | .output text => some text
  | _ => none

theorem eq_output_of_textOf? {answer : Answer} {text : String} (h : textOf? answer = some text) :
    answer = .output text := by
  cases answer <;> simp_all [textOf?]

/-- The action renders a held template that stands for a source that did not compile. -/
def RendersFailure (session : Session) (action : Action) (text : String) : Prop :=
  ∃ handle context ancestors held error, action = .render handle context ancestors ∧
    Fields.get? session.handles handle = some held ∧ held.template.body = .failed error ∧
    text = errorMarker error

end Session

namespace Guarantee

variable {G : Guarantee} {T : Token → Prop} {env : Environment}

/-- A known template renders to a known text, and so does an error where it leaves a marker. -/
theorem Covers.renderTemplate {I : Store → Prop} (hcovers : G.Covers T)
    (hloads : G.LoadsKnown T I env) (hmarker : env.settings.debug = true ∨ ∀ text, G.text text)
    {template : Template} (htemplate : G.KnownTemplate T template) {context : Context}
    (hcontext : G.KnownContext context) (ancestors : List String) :
    Agree (EqualWith I) (Fault.Alike fun _ _ => True) (EqualWith G.text)
      (Engine.renderTemplate env template context ancestors)
      (Engine.renderTemplate env template context ancestors) := by
  have h := hcovers.alike (E := fun _ _ => True) hloads hmarker (fun _ => True.intro)
    Render.depthLimit
  refine .of ?_
  rintro store _ ⟨rfl, hstore⟩
  have hrun : EndAlike _ _ _ (template.execute _ env ancestors ⟨context, store⟩)
      (template.execute _ env ancestors ⟨context, store⟩) :=
    (hcovers.execute hloads h htemplate ancestors).endAlike (fun _ hX => hX.2)
      ⟨rfl, hcontext, rfl, hstore⟩
  unfold Engine.renderTemplate
  cases hexecute : template.execute (Render.upToDepth Render.depthLimit) env ancestors
      ⟨context, store⟩ with
  | ok text after =>
    rw [hexecute] at hrun
    obtain ⟨htext, -, -, hafter⟩ := hrun
    exact ⟨htext, hafter⟩
  | error fault after =>
    rw [hexecute] at hrun
    obtain ⟨-, -, -, hafter⟩ := hrun
    cases fault with
    | tooDeep => exact ⟨True.intro, hafter⟩
    | error error =>
      dsimp only
      split
      · exact ⟨True.intro, hafter⟩
      · rename_i hdebug
        exact ⟨⟨rfl, hmarker.resolve_left hdebug _⟩, hafter⟩

/-- A template that did not compile renders its error and leaves the store alone. -/
theorem keeps_renderFailure (env : Environment) {template : Template} {error : TemplateError}
    (hbody : template.body = .failed error) (context : Context) (ancestors : List String)
    (I : Store → Prop) :
    Keeps I (fun text => env.settings.debug = true → text = errorMarker error)
      (Engine.renderTemplate env template context ancestors) := by
  refine .of ?_
  rintro store _ ⟨rfl, hstore⟩
  unfold Engine.renderTemplate Template.execute
  rw [hbody]
  cases template.circularMessage? ancestors with
  | none => exact ⟨⟨rfl, fun _ => rfl⟩, rfl, hstore⟩
  | some message =>
    change EndAlike _ _ _ (if env.settings.debug = true then _ else _)
      (if env.settings.debug = true then _ else _)
    split
    · exact ⟨rfl, rfl, hstore⟩
    · rename_i hdebug
      exact ⟨⟨rfl, fun h => absurd h hdebug⟩, rfl, hstore⟩

/-- The source has known tokens only. -/
def KnownSource (tags : Tags) (policy : Option EscapeKind) (T : Token → Prop) (source : String) :
    Prop :=
  ∀ tokens, Token.ofSource tags policy source = .ok tokens → KnownTokens T tokens

/-- An engine in debug mode whose sources and kept templates are known. -/
structure KnownEngine (G : Guarantee) (tags : Tags) (policy : Option EscapeKind) (T : Token → Prop)
    (engine : Engine) : Prop where
  sameTags : engine.settings.tags = tags
  samePolicy : engine.settings.autoescape = policy
  debugs : engine.settings.debug = true
  sources : engine.loader.AllSources (KnownSource tags policy T)
  kept : G.KnownStore T engine.store

/-- A session with such an engine, whose held templates are known or render why there are none. -/
structure KnownSession (G : Guarantee) (tags : Tags) (policy : Option EscapeKind) (T : Token → Prop)
    (session : Session) : Prop where
  engine : G.KnownEngine tags policy T session.engine
  handles : session.handles.AllValues fun held =>
    G.KnownTemplate T held.template ∨ ∃ error, held.template.body = .failed error

/-- An action that brings known sources and known macros only. -/
def KnownAction (G : Guarantee) (tags : Tags) (policy : Option EscapeKind) (T : Token → Prop) :
    Action → Prop
  | .put _ source => KnownSource tags policy T source
  | .compile _ source _ => KnownSource tags policy T source
  | .render _ context _ => G.KnownContext context
  | .renderSource source context => KnownSource tags policy T source ∧ G.KnownContext context
  | .renderFile _ context => G.KnownContext context
  | .init config host =>
    Tags.ofHost host.tags = tags ∧ config.policy = policy ∧ config.debug = true
  | _ => True

section Session

variable {tags : Tags} {policy : Option EscapeKind} {engine : Engine} {session : Session}

theorem KnownEngine.knownLoader (h : G.KnownEngine tags policy T engine) :
    KnownLoader T engine.env := by
  intro path source tokens hsource htokens
  simp only [Engine.env] at htokens
  rw [h.sameTags, h.samePolicy] at htokens
  unfold Environment.source at hsource
  split at hsource
  · rename_i found hload
    cases hsource
    exact h.sources.load hload tokens htokens
  · cases hsource

theorem KnownEngine.run (h : G.KnownEngine tags policy T engine) {α : Type} {load : LoadM α}
    {Q : α → Prop} {F : Fault → Fault → Prop}
    (hload : Agree (EqualWith (G.KnownStore T)) F (EqualWith Q) load load) :
    G.KnownEngine tags policy T (engine.run load).2 ∧ ∀ a, (engine.run load).1 = .ok a → Q a := by
  obtain ⟨hstore, hresult⟩ := Engine.run_keeps hload h.kept
  refine ⟨⟨?_, ?_, ?_, ?_, hstore⟩, hresult⟩
  · rw [Engine.run_settings, h.sameTags]
  · rw [Engine.run_settings, h.samePolicy]
  · rw [Engine.run_settings, h.debugs]
  · rw [Engine.run_loader]
    exact h.sources

variable (hcovers : G.Covers T)

include hcovers

theorem Covers.compileSource (h : G.KnownEngine tags policy T engine) {source : String}
    (hsource : KnownSource tags policy T source) (options : CompileOptions) :
    Keeps (G.KnownStore T)
      (fun compiled => G.KnownTemplate T compiled.template ∨
        options.allowErrors = true ∧ ∃ error, compiled.template.body = .failed error)
      (Engine.compileSource engine.env source options) := by
  refine Engine.keeps_compileSource ((Environment.keeps_compile
    (hcovers.closed h.knownLoader) _ _ _).mono fun template _ hbuilt => ⟨hbuilt.1, ?_⟩)
  refine hcovers.knownBuilt (fun tokens htokens => hsource tokens ?_) hbuilt.2
  simpa only [Engine.env, h.sameTags, h.samePolicy] using htokens

theorem Covers.compileNamed (h : G.KnownEngine tags policy T engine) (name : String) :
    Keeps (G.KnownStore T) (fun compiled => G.KnownTemplate T compiled.template)
      (Engine.compileNamed engine.env name) :=
  (Environment.keeps_load (hcovers.closed h.knownLoader) name none).mono
    fun _ _ hab => ⟨hab.1, hab.2.elim fun _ h => h.2⟩

/-- A known source or file renders to a known text. -/
theorem Covers.loadAndRender (h : G.KnownEngine tags policy T engine) {load : LoadM Compiled}
    (hload : Keeps (G.KnownStore T) (fun compiled => G.KnownTemplate T compiled.template) load)
    {context : Context} (hcontext : G.KnownContext context) :
    Agree (EqualWith (G.KnownStore T)) (Fault.Alike fun _ _ => True) (EqualWith G.text)
      (load >>= fun compiled => Engine.renderTemplate engine.env compiled.template context [])
      (load >>= fun compiled => Engine.renderTemplate engine.env compiled.template context []) :=
  (agree_of_keeps (fun _ => True.intro) hload).bindWith fun _ htemplate =>
    hcovers.renderTemplate (hcovers.loadsKnown h.knownLoader) (Or.inl h.debugs) htemplate hcontext []

omit hcovers in
theorem KnownSession.hold (h : G.KnownSession tags policy T session) (handle : String)
    {load : LoadM Compiled}
    (hload : Keeps (G.KnownStore T) (fun compiled => G.KnownTemplate T compiled.template ∨
      ∃ error, compiled.template.body = .failed error) load) :
    G.KnownSession tags policy T (session.hold handle (session.engine.run load)).1 ∧
      ∀ text, (session.hold handle (session.engine.run load)).2 ≠ .output text := by
  obtain ⟨hengine, hresult⟩ := h.engine.run hload
  unfold Session.hold
  dsimp only
  split
  · rename_i compiled hcompiled
    exact ⟨⟨hengine, Fields.AllValues.put h.handles handle (hresult compiled hcompiled)⟩,
      fun _ htext => by cases htext⟩
  · rename_i fault _
    exact ⟨⟨hengine, h.handles⟩, fun _ htext => by cases fault <;> cases htext⟩

omit hcovers in
theorem KnownSession.rendered (h : G.KnownSession tags policy T session) {load : LoadM String}
    {Q : String → Prop} {F : Fault → Fault → Prop}
    (hload : Agree (EqualWith (G.KnownStore T)) F (EqualWith Q) load load) :
    G.KnownSession tags policy T (session.rendered (session.engine.run load)).1 ∧
      ∀ text, (session.rendered (session.engine.run load)).2 = .output text → Q text := by
  obtain ⟨hengine, hresult⟩ := h.engine.run hload
  refine ⟨⟨hengine, h.handles⟩, fun text htext => hresult text ?_⟩
  unfold Session.rendered at htext
  dsimp only at htext
  split at htext
  · rename_i result hok
    cases htext
    exact hok
  · rename_i fault _
    cases fault <;> cases htext

/-- An action keeps the session known. Its output is a known text, or the error of a source that did
not compile. -/
theorem Covers.act (h : G.KnownSession tags policy T session) {action : Action}
    (haction : G.KnownAction tags policy T action) :
    G.KnownSession tags policy T (session.act action).1 ∧
      ∀ text, (session.act action).2 = .output text →
        G.text text ∨ session.RendersFailure action text := by
  cases action with
  | put name source =>
    exact ⟨⟨⟨h.engine.sameTags, h.engine.samePolicy, h.engine.debugs,
      h.engine.sources.put name haction, h.engine.kept⟩, h.handles⟩,
      fun _ htext => by cases htext⟩
  | compile handle source options =>
    obtain ⟨hsession, hanswer⟩ := h.hold handle ((hcovers.compileSource h.engine haction options).mono
      fun _ _ hab => ⟨hab.1, hab.2.imp_right And.right⟩)
    exact ⟨hsession, fun text htext => absurd htext (hanswer text)⟩
  | compileFile handle name =>
    obtain ⟨hsession, hanswer⟩ := h.hold handle ((hcovers.compileNamed h.engine name).mono
      fun _ _ hab => ⟨hab.1, Or.inl hab.2⟩)
    exact ⟨hsession, fun text htext => absurd htext (hanswer text)⟩
  | render handle context ancestors =>
    unfold Session.act
    dsimp only
    split
    · exact ⟨h, fun _ htext => by cases htext⟩
    · rename_i held hheld
      split
      · rcases h.handles.get? hheld with hknown | ⟨error, hbody⟩
        · obtain ⟨hsession, hanswer⟩ := h.rendered (hcovers.renderTemplate
            (hcovers.loadsKnown h.engine.knownLoader) (Or.inl h.engine.debugs) hknown haction ancestors)
          exact ⟨hsession, fun text htext => Or.inl (hanswer text htext)⟩
        · obtain ⟨hsession, hanswer⟩ := h.rendered
            (keeps_renderFailure session.engine.env hbody context ancestors _)
          exact ⟨hsession, fun text htext => Or.inr ⟨handle, context, ancestors, held, error, rfl,
            hheld, hbody, hanswer text htext h.engine.debugs⟩⟩
      · exact ⟨h, fun _ htext => by cases htext⟩
  | renderSource source context =>
    obtain ⟨hsession, hanswer⟩ := h.rendered (hcovers.loadAndRender h.engine
      ((hcovers.compileSource h.engine haction.1 {}).mono
        fun _ _ hab => ⟨hab.1, hab.2.resolve_right fun hallow => by cases hallow.1⟩) haction.2)
    exact ⟨hsession, fun text htext => Or.inl (hanswer text htext)⟩
  | renderFile name context =>
    obtain ⟨hsession, hanswer⟩ := h.rendered
      (hcovers.loadAndRender h.engine (hcovers.compileNamed h.engine name) haction)
    exact ⟨hsession, fun text htext => Or.inl (hanswer text htext)⟩
  | init config host =>
    obtain ⟨htags, hpolicy, hdebug⟩ := haction
    exact ⟨⟨⟨htags, hpolicy, hdebug, h.engine.sources, Store.All.empty _⟩, h.handles⟩,
      fun _ htext => by cases htext⟩
  | clearCache =>
    exact ⟨⟨⟨h.engine.sameTags, h.engine.samePolicy, h.engine.debugs, h.engine.sources,
      Store.All.empty _⟩, h.handles⟩, fun _ htext => by cases htext⟩
  | keys => exact ⟨h, fun _ htext => by cases htext⟩
  | clone => exact ⟨h, fun _ htext => by cases htext⟩
  | drop => exact ⟨⟨h.engine, h.handles⟩, fun _ htext => by cases htext⟩

theorem Covers.step (h : G.KnownSession tags policy T session) {action : Action}
    (haction : G.KnownAction tags policy T action) :
    G.KnownSession tags policy T (session.step action).1 ∧
      ∀ text, (session.step action).2 = .output text →
        G.text text ∨ session.RendersFailure action text := by
  unfold Session.step
  split
  · exact ⟨h, fun _ htext => by cases htext⟩
  · exact hcovers.act h haction

theorem Covers.after (h : G.KnownSession tags policy T session) {actions : List Action}
    (hactions : ∀ action ∈ actions, G.KnownAction tags policy T action) :
    G.KnownSession tags policy T (session.after actions) := by
  induction actions generalizing session with
  | nil => exact h
  | cons action rest ih =>
    obtain ⟨haction, hrest⟩ := List.forall_mem_cons.mp hactions
    exact ih (hcovers.step h haction).1 hrest

end Session

/-- Whatever is rendered keeps of the store what loading keeps. -/
theorem agree_renderTemplate {env : Environment} {I : Store → Prop}
    (hloads : vacuous.LoadsKnown (fun _ => True) I env) (template : Template) (context : Context)
    (ancestors : List String) :
    Agree (EqualWith I) (Fault.Alike fun _ _ => True) (EqualWith fun _ => True)
      (Engine.renderTemplate env template context ancestors)
      (Engine.renderTemplate env template context ancestors) := by
  rcases template.settled_or_failed with hsettled | ⟨error, hbody⟩
  · exact vacuous_covers.renderTemplate hloads (Or.inr fun _ => True.intro)
      (knownTemplate_vacuous hsettled) (knownContext_vacuous context) ancestors
  · refine agree_of_keeps (fun _ => True.intro) ?_
    exact (keeps_renderFailure env hbody context ancestors I).mono
      fun _ _ hab => ⟨hab.1, True.intro⟩

end Guarantee

/-- An action that leaves the settings and the sources alone, and compiles certain sources only. -/
def Action.Reads (compilable : String → CompileOptions → Prop) : Action → Prop
  | .put .. => False
  | .init .. => False
  | .compile _ source options => compilable source options
  | .renderSource source _ => compilable source {}
  | _ => True

/-- A session whose engine has this environment and a store with the property. -/
structure Session.Serves (env : Environment) (I : Store → Prop) (session : Session) : Prop where
  env : session.engine.env = env
  store : I session.engine.store

namespace Session.Serves

variable {env : Environment} {I : Store → Prop} {compilable : String → CompileOptions → Prop}
  {session : Session}

theorem run {α : Type} (h : session.Serves env I) {load : LoadM α} {Q : α → Prop}
    {F : Fault → Fault → Prop} (hload : Agree (EqualWith I) F (EqualWith Q) load load) :
    (session.engine.run load).2.env = env ∧ I (session.engine.run load).2.store := by
  refine ⟨?_, (Engine.run_keeps hload h.store).1⟩
  rw [← h.env]
  simp only [Engine.env, Engine.run_settings, Engine.run_loader]

theorem hold (h : session.Serves env I) (handle : String) {load : LoadM Compiled}
    {Q : Compiled → Prop} (hload : Keeps I Q load) :
    (session.hold handle (session.engine.run load)).1.Serves env I := by
  obtain ⟨henv, hstore⟩ := h.run hload
  unfold Session.hold
  dsimp only
  split <;> exact ⟨henv, hstore⟩

theorem rendered (h : session.Serves env I) {load : LoadM String} {Q : String → Prop}
    {F : Fault → Fault → Prop} (hload : Agree (EqualWith I) F (EqualWith Q) load load) :
    (session.rendered (session.engine.run load)).1.Serves env I := by
  obtain ⟨henv, hstore⟩ := h.run hload
  exact ⟨henv, hstore⟩

variable (hclear : ∀ store, I store → I store.clear)
  (hloads : Guarantee.vacuous.LoadsKnown (fun _ => True) I env)
  (hcompile : ∀ source options, compilable source options →
    Keeps I (fun _ => True) (Engine.compileSource env source options))

include hloads

theorem loadAndRender (h : session.Serves env I) {load : LoadM Compiled} {Q : Compiled → Prop}
    (hload : Keeps I Q load) (context : Context) :
    (session.rendered (session.engine.run (load >>= fun compiled =>
      Engine.renderTemplate env compiled.template context []))).1.Serves env I :=
  h.rendered ((Guarantee.agree_of_keeps (E := fun _ _ => True) (fun _ => True.intro) hload).bindWith
    fun compiled _ => Guarantee.agree_renderTemplate hloads compiled.template context [])

include hcompile

theorem act (h : session.Serves env I) {action : Action} (haction : action.Reads compilable)
    (hclears : action = .clearCache → ∀ store, I store → I store.clear) :
    (session.act action).1.Serves env I := by
  have henv := h.env
  cases action with
  | put name source => exact haction.elim
  | init config host => exact haction.elim
  | compile handle source options =>
    exact h.hold handle (henv ▸ hcompile source options haction)
  | compileFile handle name => exact h.hold handle (henv ▸ hloads name none)
  | render handle context ancestors =>
    unfold Session.act
    dsimp only
    split
    · exact h
    · split
      · exact h.rendered (henv ▸ Guarantee.agree_renderTemplate hloads _ context ancestors)
      · exact h
  | renderSource source context =>
    have hrendered := h.loadAndRender hloads (hcompile source {} haction) context
    rw [← henv] at hrendered ⊢
    exact hrendered
  | renderFile name context =>
    have hrendered := h.loadAndRender hloads (hloads name none) context
    rw [← henv] at hrendered ⊢
    exact hrendered
  | clearCache => exact ⟨henv, hclears rfl _ h.store⟩
  | keys => exact h
  | clone => exact h
  | drop => exact ⟨henv, h.store⟩

include hclear in
theorem after (h : session.Serves env I) {actions : List Action}
    (hactions : ∀ action ∈ actions, action.Reads compilable) :
    (session.after actions).Serves env I := by
  induction actions generalizing session with
  | nil => exact h
  | cons action rest ih =>
    obtain ⟨haction, hrest⟩ := List.forall_mem_cons.mp hactions
    refine ih ?_ hrest
    dsimp only [Session.step]
    split
    · exact h
    · exact h.act hloads hcompile haction fun _ => hclear

end Session.Serves

/-- What every store keeps of itself, under whatever settings once it is cleared, holds after all
actions, those included that change the settings or the sources. -/
theorem Session.keeps_after {I : Settings → Store → Prop}
    (hclear : ∀ settings settings' store, I settings store → I settings' store.clear)
    (hloads : ∀ env : Environment, Guarantee.vacuous.LoadsKnown (fun _ => True) (I env.settings) env)
    (hcompile : ∀ (env : Environment) source options,
      Keeps (I env.settings) (fun _ => True) (Engine.compileSource env source options))
    {session : Session} (h : I session.engine.settings session.engine.store) (actions : List Action) :
    I (session.after actions).engine.settings (session.after actions).engine.store := by
  induction actions generalizing session with
  | nil => exact h
  | cons action rest ih =>
    refine ih ?_
    dsimp only [Session.step]
    split
    · exact h
    · have hserves : session.Serves session.engine.env (I session.engine.settings) := ⟨rfl, h⟩
      by_cases hreads : action.Reads fun _ _ => True
      · have hafter := hserves.act (hloads session.engine.env)
          (fun source options _ => hcompile session.engine.env source options) hreads fun _ => hclear _ _
        rw [show (session.act action).1.engine.settings = session.engine.settings from
          congrArg Environment.settings hafter.env]
        exact hafter.store
      · cases action with
        | put name source => exact h
        | init config host => exact hclear _ _ _ h
        | _ => exact absurd True.intro hreads

end Stencil
