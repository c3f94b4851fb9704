import Stencil.Proofs.Engine.Loads
import Stencil.Proofs.Render.Alike

/-!
Visits of other templates. A visit loads a template, works out its program and renders that; if these
agree on two sides then so does all rendering, however deep names lead into each other.
-/
namespace Stencil

namespace Template

/-- The layout of a template that waits for it, unless the layout is one of the chain. -/
def layout (jump : Jump) (env : Environment) (context : Context) (chain : List String)
    (template : Template) (name : Expr) (line : Nat) : EvalM Template := do
  let name ← layoutName jump env template name context
  let parent := (← env.load name template.origin).template
  if chain.contains parent.id then
    LoadM.fail (.located line (.circularExtends parent.id))
  return parent

section Program

variable {template : Template} (jump : Jump) (env : Environment) (context : Context) (bound : Nat)
  (chain : List String)

theorem program_ready {program : Program} (h : template.body = .ready program) :
    template.program jump env context bound chain = return program := by
  rw [Template.program.eq_def]
  dsimp only
  rw [h]

theorem program_failed {error : TemplateError} (h : template.body = .failed error) :
    template.program jump env context bound chain = LoadM.fail error := by
  rw [Template.program.eq_def]
  dsimp only
  rw [h]

theorem program_deferred {name : Expr} {line : Nat} {tokens : List Token}
    (h : template.body = .deferred name line tokens) :
    template.program jump env context bound chain =
      template.layout jump env context chain name line >>= fun parent =>
        match bound with
        | 0 => throw .tooDeep
        | bound + 1 =>
          parent.program jump env context bound (chain ++ [parent.id]) >>= fun layout =>
            LoadM.ofExcept (Program.extend env.scope tokens layout) := by
  rw [Template.program.eq_def]
  dsimp only
  rw [h]
  unfold Template.layout
  simp only [bind_assoc]
  congr 1
  funext given
  congr 1
  funext compiled
  cases bound <;> split <;> rfl

theorem grows_program (template : Template) :
    LoadM.Grows fun bound => template.program jump env context bound chain := by
  intro bound
  induction bound using Nat.strongRecOn generalizing chain template with
  | _ bound ih =>
    dsimp only
    cases hbody : template.body with
    | ready program =>
      rw [program_ready _ _ _ _ _ hbody, program_ready _ _ _ _ _ hbody]
      exact .refl _
    | failed error =>
      rw [program_failed _ _ _ _ _ hbody, program_failed _ _ _ _ _ hbody]
      exact .refl _
    | deferred name line tokens =>
      rw [program_deferred _ _ _ _ _ hbody, program_deferred _ _ _ _ _ hbody]
      refine (Deepens.refl _).bind fun parent => ?_
      cases bound with
      | zero => exact .tooDeep _
      | succ bound =>
        exact (ih bound (Nat.lt_succ_self bound) (chain ++ [parent.id]) parent).bind fun layout => .refl _

end Program

/-- Render the program of the template. -/
def perform (jump : Jump) (env : Environment) (ancestors : List String) (template : Template)
    (program : Program) : RenderM String :=
  jump ⟨env, program.blocks, ancestors ++ [template.id], template.origin, 0⟩ program.nodes

theorem wholeProgram_of_stored {env : Environment} (h : env.loader.isStored = true) (jump : Jump)
    (context : Context) (template : Template) :
    template.wholeProgram jump env context = (get >>= fun store =>
      template.program jump env context (env.loader.size + store.cache.length + 1) [template.id]) := if_pos h

/-- Whole programs agree in one environment if the programs do with any room. -/
theorem agree_wholeProgram {env : Environment} {jump₁ jump₂ : Jump} {context : Context} {I : Store → Prop}
    {E : TemplateError → TemplateError → Prop} {V : Program → Program → Prop} {template : Template}
    (h : ∀ bound, Agree (EqualWith I) (Fault.Alike E) V
      (template.program jump₁ env context bound [template.id])
      (template.program jump₂ env context bound [template.id])) :
    Agree (EqualWith I) (Fault.Alike E) V (template.wholeProgram jump₁ env context)
      (template.wholeProgram jump₂ env context) := by
  unfold wholeProgram
  split
  · have hget : Agree (EqualWith I) (Fault.Alike E) Equal (get : LoadM Store) get :=
      .of fun s _ hs => ⟨⟨hs.1, True.intro⟩, hs⟩
    exact hget.bindWith fun store _ => h _
  · exact (grows_program jump₂ env context [template.id] template).agree_unbounded h

theorem wholeProgram_ready {env : Environment} {template : Template} {program : Program}
    (h : template.body = .ready program) (jump : Jump) (context : Context) (store : Store) :
    template.wholeProgram jump env context store = .ok program store := by
  have hprogram : ∀ bound, template.program jump env context bound [template.id] store = .ok program store :=
    fun bound => by
      rw [program_ready _ _ _ _ _ h]
      rfl
  unfold wholeProgram
  split
  · exact hprogram _
  · rcases LoadM.unbounded_cases (fun bound => template.program jump env context bound [template.id]) store with
      ⟨room, hrun, -⟩ | ⟨-, hnever⟩
    · exact hrun.trans (hprogram room)
    · obtain ⟨_, hdeep⟩ := hnever 0
      cases hdeep.symm.trans (hprogram 0)

theorem circularMessage?_eq_none {template : Template} {ancestors : List String} :
    template.circularMessage? ancestors = none ↔ template.id ∉ ancestors := by
  unfold circularMessage?
  rw [ite_eq_right_iff, List.contains_iff_mem]
  exact forall_congr' fun _ => iff_of_false (Option.some_ne_none _) not_false

theorem execute_eq {template : Template} (hsettled : template.Settled) (jump : Jump)
    (env : Environment) (ancestors : List String) :
    template.execute jump env ancestors =
      match template.circularMessage? ancestors with
      | some message => RenderM.fail (.render message)
      | none =>
        (RenderM.evaluate fun context => template.wholeProgram jump env context) >>=
          template.perform jump env ancestors := by
  unfold execute
  split
  · rename_i message _ hmessage
    rw [hmessage]
  · rename_i error hmessage hbody
    exact absurd hbody (hsettled error)
  · rename_i hmessage _
    rw [hmessage]
    rfl

theorem execute_failed {template : Template} {error : TemplateError} (h : template.body = .failed error)
    {jump : Jump} {env : Environment} {ancestors : List String} :
    template.execute jump env ancestors =
      match template.circularMessage? ancestors with
      | some message => RenderM.fail (.render message)
      | none => return errorMarker error := by
  unfold execute
  rw [h]
  cases template.circularMessage? ancestors <;> rfl

theorem inside_execute {template : Template} (hsettled : template.Settled) {ancestors : List String}
    (hcircular : template.circularMessage? ancestors = none) (jump : Jump) (env : Environment)
    (scope : Context) :
    RenderM.inside scope (template.execute jump env ancestors) = (do
      let program ← template.wholeProgram jump env scope
      RenderM.inside scope (template.perform jump env ancestors program)) := by
  rw [execute_eq hsettled, hcircular]
  funext store
  simp only [RenderM.inside, RenderM.evaluate, bind, EStateM.bind]
  cases template.wholeProgram jump env scope store <;> rfl

end Template

/-- The template called `name` and its program, unless it is being rendered already. -/
def prepared (jump : Jump) (env : Environment) (ancestors : List String) (name : String)
    (from? : Option String) (context : Context) : EvalM (Template × Program) := do
  let template := (← env.load name from?).template
  match template.circularMessage? ancestors with
  | some message => LoadM.fail (.render message)
  | none => return (template, ← template.wholeProgram jump env context)

/-- Render what was prepared in a context of its own. -/
def performed (jump : Jump) (env : Environment) (ancestors : List String) (scope : Context)
    (ready : Template × Program) : EvalM (String × Context) :=
  RenderM.inside scope (ready.1.perform jump env ancestors ready.2)

/-- All templates that are loaded from the store are settled. -/
def Environment.Settles (env : Environment) (store : Store) : Prop :=
  ∀ name from? compiled after, env.load name from? store = .ok compiled after →
    compiled.template.Settled

section Visit

variable {jump : Jump} (frame : Frame) {store : Store} {α : Type}

/-- What is done with a template that is loaded: its program is worked out and rendered, unless it is
being rendered already. -/
theorem visit_eq (hsettles : frame.env.Settles store)
    (name : String) (scope : Context) (refuse : String → EvalM α)
    (hrefuse : ∀ message store, refuse message store = .error (.error (.render message)) store)
    (finish : String × Context → EvalM α) :
    (frame.env.load name frame.origin >>= fun compiled =>
      match compiled.template.circularMessage? frame.ancestors with
      | some message => refuse message
      | none => RenderM.inside scope
          (compiled.template.execute jump frame.env frame.ancestors) >>= finish) store =
    (prepared jump frame.env frame.ancestors name frame.origin scope >>= fun ready =>
      performed jump frame.env frame.ancestors scope ready >>= finish) store := by
  unfold prepared
  rw [bind_assoc]
  change EStateM.bind _ _ store = EStateM.bind _ _ store
  unfold EStateM.bind
  cases hload : frame.env.load name frame.origin store with
  | error fault after => rfl
  | ok compiled after =>
    simp only
    cases hmessage : compiled.template.circularMessage? frame.ancestors with
    | some message => exact hrefuse message after
    | none =>
      simp only
      rw [Template.inside_execute (hsettles _ _ _ _ hload) hmessage]
      simp only [bind_assoc, pure_bind]
      rfl

theorem included_eq (hdebug : frame.env.settings.debug = true)
    (hsettles : frame.env.Settles store) (name : String) (scope : Context) :
    Render.included jump frame name scope store =
      (prepared jump frame.env frame.ancestors name frame.origin scope >>= fun ready =>
        performed jump frame.env frame.ancestors scope ready >>= fun result =>
          return result.1) store := by
  refine (congrFun ?_ store).trans (visit_eq frame hsettles name scope
    (fun message => LoadM.fail (.render message)) (fun _ _ => rfl) fun result => return result.1)
  unfold Render.included Render.circular
  simp only [hdebug, if_true]
  rfl

theorem imported_eq (hdebug : frame.env.settings.debug = true)
    (hsettles : frame.env.Settles store) (name : String) :
    Render.imported jump frame name store =
      (prepared jump frame.env frame.ancestors name frame.origin .empty >>= fun ready =>
        performed jump frame.env frame.ancestors .empty ready >>= fun result =>
          return ("", result.2.callables)) store := by
  refine (congrFun ?_ store).trans (visit_eq frame hsettles name .empty
    (fun message => LoadM.fail (.render message) >>= fun text => return (text, []))
    (fun _ _ => rfl) fun result => return ("", result.2.callables))
  unfold Render.imported Render.circular
  simp only [hdebug, if_true]
  rfl

/-- A rendering is a run in a context of its own; unless the engine debugs, an error leaves its marker. -/
theorem renderTemplate_eq (env : Environment) (template : Template) (context : Context)
    (ancestors : List String) :
    Engine.renderTemplate env template context ancestors =
      RenderM.inside context
        (if env.settings.debug then
          template.execute (Render.upToDepth Render.depthLimit) env ancestors
        else (template.execute (Render.upToDepth Render.depthLimit) env ancestors).orElse fun error =>
          return errorMarker error) >>= fun result => return result.1 := by
  by_cases hdebug : env.settings.debug = true
  · rw [if_pos hdebug]
    funext store
    change _ = EStateM.bind _ _ store
    unfold Engine.renderTemplate EStateM.bind RenderM.inside
    simp only [hdebug, if_true]
    cases template.execute (Render.upToDepth Render.depthLimit) env ancestors ⟨context, store⟩ with
    | ok text after => rfl
    | error fault after => cases fault <;> rfl
  · rw [if_neg hdebug]
    funext store
    change _ = EStateM.bind _ _ store
    unfold Engine.renderTemplate EStateM.bind RenderM.inside RenderM.orElse
    simp only [hdebug, Bool.false_eq_true, if_false]
    cases template.execute (Render.upToDepth Render.depthLimit) env ancestors ⟨context, store⟩ with
    | ok text after => rfl
    | error fault after => cases fault <;> rfl

theorem evaluate_of_ok {context : Context} {store after : Store} {α : Type} {eval : Context → EvalM α} {a : α}
    (h : eval context store = .ok a after) :
    RenderM.evaluate eval ⟨context, store⟩ = .ok a ⟨context, after⟩ := by
  unfold RenderM.evaluate
  rw [h]

/-- A template whose program is known renders its nodes. -/
theorem renderTemplate_ready {env : Environment} {id : String} {origin parent : Option String}
    {program : Program} {ancestors : List String} {context : Context} {store : Store} {text : String}
    {after : RenderState} (hnew : id ∉ ancestors)
    (h : Render.nodes (Render.upToDepth (Render.depthLimit - 1))
      ⟨env, program.blocks, ancestors ++ [id], origin, 0⟩ program.nodes ⟨context, store⟩ = .ok text after) :
    Engine.renderTemplate env ⟨id, origin, parent, .ready program⟩ context ancestors store =
      .ok text after.store := by
  let template : Template := ⟨id, origin, parent, .ready program⟩
  have hcircular : template.circularMessage? ancestors = none :=
    Template.circularMessage?_eq_none.mpr hnew
  have hsettled : template.Settled := by
    intro error hfailed
    cases hfailed
  have hprogram : RenderM.evaluate (fun context => template.wholeProgram (Render.upToDepth Render.depthLimit)
      env context) ⟨context, store⟩ = .ok program ⟨context, store⟩ := by
    exact evaluate_of_ok (Template.wholeProgram_ready rfl _ context store)
  have hexecute : template.execute (Render.upToDepth Render.depthLimit) env ancestors ⟨context, store⟩ =
      .ok text after := by
    rw [Template.execute_eq hsettled, hcircular]
    dsimp only
    rw [run_bind_of_ok hprogram]
    exact h
  unfold Engine.renderTemplate
  rw [hexecute]

end Visit

namespace Guarantee

variable {G : Guarantee} {S : Comparison Store Store} {E : TemplateError → TemplateError → Prop}
  {env₁ env₂ : Environment} {jump₁ jump₂ : Jump}

def KnownProgram (G : Guarantee) (program : Program) : Prop :=
  G.KnownNodes program.nodes ∧ G.KnownBlocks program.blocks

/-- Templates with the same key and origin, and the same program. -/
def ReadyAlike (G : Guarantee) (ready₁ ready₂ : Template × Program) : Prop :=
  ready₁.1.id = ready₂.1.id ∧ ready₁.1.origin = ready₂.1.origin ∧
    EqualWith G.KnownProgram ready₁.2 ready₂.2

/-- Templates that are prepared agree, whatever their names and wherever they are asked for. -/
def PreparesAlike (G : Guarantee) (S : Comparison Store Store)
    (E : TemplateError → TemplateError → Prop) (env₁ env₂ : Environment) (jump₁ jump₂ : Jump) :
    Prop :=
  ∀ ancestors name from? context, G.KnownContext context →
    Agree S (Fault.Alike E) G.ReadyAlike (prepared jump₁ env₁ ancestors name from? context)
      (prepared jump₂ env₂ ancestors name from? context)

theorem Alike.performed (h : G.Alike S E env₁ env₂ jump₁ jump₂) (ancestors : List String)
    {scope : Context} (hscope : G.KnownContext scope) {ready₁ ready₂ : Template × Program}
    (hready : G.ReadyAlike ready₁ ready₂) :
    Agree S (Fault.Alike E)
      (fun a b => EqualWith G.text a.1 b.1 ∧ EqualWith G.KnownContext a.2 b.2)
      (performed jump₁ env₁ ancestors scope ready₁)
      (performed jump₂ env₂ ancestors scope ready₂) := by
  obtain ⟨template₁, program⟩ := ready₁
  obtain ⟨template₂, _⟩ := ready₂
  obtain ⟨hid, horigin, rfl, hnodes, hblocks⟩ := hready
  simp only at hid horigin
  simp only [Stencil.performed, Template.perform, ← hid, ← horigin]
  exact inside hscope (h.jumps
    ⟨env₁, program.blocks, ancestors ++ [template₁.id], template₁.origin, 0⟩ _ hblocks hnodes)

/-- If what is prepared agrees then so does what is done with it. -/
theorem Alike.visit {α : Type} {V : α → α → Prop} (h : G.Alike S E env₁ env₂ jump₁ jump₂)
    (hprepares : G.PreparesAlike S E env₁ env₂ jump₁ jump₂) (ancestors : List String)
    (name : String) (from? : Option String) {scope : Context} (hscope : G.KnownContext scope)
    (finish : String × Context → EvalM α)
    (hfinish : ∀ text after, G.text text → G.KnownContext after →
      Agree S (Fault.Alike E) V (finish (text, after)) (finish (text, after))) :
    Agree S (Fault.Alike E) V
      (prepared jump₁ env₁ ancestors name from? scope >>= fun ready =>
        Stencil.performed jump₁ env₁ ancestors scope ready >>= finish)
      (prepared jump₂ env₂ ancestors name from? scope >>= fun ready =>
        Stencil.performed jump₂ env₂ ancestors scope ready >>= finish) := by
  refine (hprepares ancestors name from? scope hscope).bind fun ready₁ ready₂ hready => ?_
  refine (h.performed ancestors hscope hready).bind ?_
  rintro ⟨text, after⟩ ⟨_, _⟩ ⟨⟨rfl, htext⟩, rfl, hafter⟩
  exact hfinish text after htext hafter

theorem Alike.visits {S : Store → Store → Prop} (h : G.Alike S E env₁ env₂ jump₁ jump₂)
    (hdebug : env₁.settings.debug = true)
    (hsettles : ∀ s t, S s t → env₁.Settles s ∧ env₂.Settles t)
    (hprepares : G.PreparesAlike S E env₁ env₂ jump₁ jump₂) :
    G.VisitsAlike S E env₁ env₂ jump₁ jump₂ := by
  have hdebug₂ : env₂.settings.debug = true := h.runtime.debug.symm.trans hdebug
  refine ⟨fun frame name scope hscope => .of fun s t hS => ?_,
    fun frame _ _ _ name => .of fun s t hS => ?_⟩
  · obtain ⟨hs, ht⟩ := hsettles s t hS
    rw [included_eq { frame with env := env₁ } hdebug hs,
      included_eq { frame with env := env₂ } hdebug₂ ht]
    exact (h.visit hprepares frame.ancestors name frame.origin hscope (fun result => return result.1)
      (fun text after htext _ => Agree.pure ⟨rfl, htext⟩)).run hS
  · obtain ⟨hs, ht⟩ := hsettles s t hS
    have hempty : G.KnownContext .empty := Fields.AllValues.nil _
    rw [imported_eq { frame with env := env₁ } hdebug hs,
      imported_eq { frame with env := env₂ } hdebug₂ ht]
    exact (h.visit hprepares frame.ancestors name frame.origin hempty
      (fun result => return ("", result.2.callables))
      (fun text after _ hafter => Agree.pure ⟨rfl, G.empty, hafter⟩)).run hS

/-- What a template renders agrees if its program does and what this renders. -/
theorem agree_execute {template : Template} {ancestors : List String} (hrefl : ∀ e, E e e)
    (hfailed : ∀ error, template.body = .failed error → G.text (errorMarker error))
    (hprogram : ∀ context, G.KnownContext context →
      Agree S (Fault.Alike E) (EqualWith G.KnownProgram) (template.wholeProgram jump₁ env₁ context)
        (template.wholeProgram jump₂ env₂ context))
    (hperform : template.id ∉ ancestors → ∀ program, G.KnownProgram program →
      Agree (G.Related S) (Fault.Alike E) (EqualWith G.text)
        (template.perform jump₁ env₁ ancestors program) (template.perform jump₂ env₂ ancestors program)) :
    Agree (G.Related S) (Fault.Alike E) (EqualWith G.text)
      (template.execute jump₁ env₁ ancestors) (template.execute jump₂ env₂ ancestors) := by
  rcases template.settled_or_failed with hsettled | ⟨error, hbody⟩
  · rw [Template.execute_eq hsettled, Template.execute_eq hsettled]
    cases hmessage : template.circularMessage? ancestors with
    | some message => exact Agree.throw (hrefl _)
    | none =>
      exact (evaluate hprogram).bindWith
        (hperform (Template.circularMessage?_eq_none.mp hmessage))
  · rw [Template.execute_failed hbody, Template.execute_failed hbody]
    split
    · exact Agree.throw (hrefl _)
    · exact Agree.pure ⟨rfl, hfailed error hbody⟩

/-- Visits agree where the same templates are loaded and what they render agrees, unless the guarantee
forbids the message that a circle leaves in its place. -/
theorem visitsAlikeAt_of_execute {frame : Frame} {P : Template → Prop} (hrefl : ∀ e, E e e)
    (hdebug : env₁.settings.debug = env₂.settings.debug)
    (hmessage : env₂.settings.debug = true ∨ ∀ text, G.text text)
    (hload : ∀ name, Agree S (Fault.Alike E)
      (fun compiled₁ compiled₂ => compiled₁.template = compiled₂.template ∧ P compiled₁.template)
      (env₁.load name frame.origin) (env₂.load name frame.origin))
    (hexecute : ∀ template, P template → Agree (G.Related S) (Fault.Alike E) (EqualWith G.text)
      (template.execute jump₁ env₁ frame.ancestors) (template.execute jump₂ env₂ frame.ancestors)) :
    G.VisitsAlikeAt S E env₁ env₂ jump₁ jump₂ frame := by
  have hcircular : ∀ message, Agree S (Fault.Alike E) (EqualWith G.text)
      (Render.circular { frame with env := env₁ } message)
      (Render.circular { frame with env := env₂ } message) := by
    intro message
    unfold Render.circular
    dsimp only
    rw [hdebug]
    split
    · exact Agree.throw (hrefl _)
    · rename_i hquiet
      exact Agree.pure ⟨rfl, hmessage.resolve_left hquiet message⟩
  refine ⟨fun name scope hscope => ?_, fun _ name => ?_⟩
  · refine (hload name).bind ?_
    rintro ⟨_, template⟩ ⟨_, _⟩ ⟨rfl, htemplate⟩
    dsimp only
    split
    · exact hcircular _
    · refine (inside hscope (hexecute template htemplate)).bind ?_
      rintro ⟨text, after⟩ ⟨_, _⟩ ⟨⟨rfl, htext⟩, -⟩
      exact Agree.pure ⟨rfl, htext⟩
  · have hempty : G.KnownContext .empty := Fields.AllValues.nil _
    refine (hload name).bind ?_
    rintro ⟨_, template⟩ ⟨_, _⟩ ⟨rfl, htemplate⟩
    dsimp only
    split
    · exact (hcircular _).bindWith fun text htext => Agree.pure ⟨rfl, htext, Fields.AllValues.nil _⟩
    · refine (inside hempty (hexecute template htemplate)).bind ?_
      rintro ⟨text, after⟩ ⟨_, _⟩ ⟨-, rfl, hafter⟩
      exact Agree.pure ⟨rfl, G.empty, hafter⟩

/-- If visits agree whenever renderers of names do, then renderings of every depth agree. The stores are
related in a way of their own for each two environments. -/
theorem alike_upToDepth {K : Environment → Environment → Prop}
    {R : Environment → Environment → Comparison Store Store} (hrefl : ∀ e, E e e)
    (hruntime : ∀ env₁ env₂, K env₁ env₂ → env₁.SameRuntime env₂)
    (hvisits : ∀ jump, (∀ env₁ env₂, K env₁ env₂ → G.Alike (R env₁ env₂) E env₁ env₂ jump jump) →
      ∀ env₁ env₂, K env₁ env₂ → G.VisitsAlike (R env₁ env₂) E env₁ env₂ jump jump)
    (depth : Nat) :
    ∀ env₁ env₂, K env₁ env₂ → G.Alike (R env₁ env₂) E env₁ env₂ (Render.upToDepth depth)
      (Render.upToDepth depth) := by
  induction depth with
  | zero =>
    intro env₁ env₂ hK
    exact ⟨hruntime env₁ env₂ hK, hrefl, fun frame nodes _ _ => Agree.throw True.intro⟩
  | succ depth ih =>
    intro env₁ env₂ hK
    refine ⟨hruntime env₁ env₂ hK, hrefl, fun frame nodes hblocks hnodes => ?_⟩
    exact AlikeAt.nodes ((ih env₁ env₂ hK).at hblocks) ((hvisits _ ih env₁ env₂ hK).at frame) nodes hnodes

end Guarantee

end Stencil
