import Mathlib.Logic.Relation
import Stencil.Proofs.Render.Covered

/-!
Renderers that look at the frames that are under way. While a template is rendered, a frame is entered for a
block, for a macro, for another template, or for a macro that the name of a layout calls. What is kept
whenever such a frame is entered holds in every run, so that a renderer that looks for it renders as one that
does not.
-/
namespace Stencil

/-- The store after a load by name, however that ends. -/
def Environment.LoadsTo (env : Environment) (before after : Store) : Prop :=
  ∃ name from?, (∃ compiled, env.load name from? before = .ok compiled after) ∨
    ∃ fault, env.load name from? before = .error fault after

/-- Stores that loads lead to. -/
def Environment.Led (env : Environment) (store after : Store) : Prop :=
  Relation.ReflTransGen env.LoadsTo store after

/-- Templates that a load can give, now or after other loads. -/
def Environment.Gives (env : Environment) (store : Store) (template : Template) : Prop :=
  ∃ before name from? compiled after, Relation.ReflTransGen env.LoadsTo store before ∧
    env.load name from? before = .ok compiled after ∧ compiled.template = template

theorem Environment.keeps_load_gives (env : Environment) (store : Store) (name : String)
    (from? : Option String) :
    Keeps (env.Led store) (fun compiled => env.Gives store compiled.template) (env.load name from?) := by
  refine Keeps.of_run (fun before compiled after hled hrun => ?_) fun before fault after hled hrun => ?_
  · exact ⟨⟨before, name, from?, compiled, after, hled, hrun, rfl⟩,
      hled.tail ⟨name, from?, Or.inl ⟨compiled, hrun⟩⟩⟩
  · exact hled.tail ⟨name, from?, Or.inr ⟨fault, hrun⟩⟩

/-- Runs from one state that agree end in the same way and in the same state. -/
theorem Guarantee.eq_of_agree {G : Guarantee} {I : Store → Prop} {α : Type} {P : α → Prop}
    {render₁ render₂ : RenderM α}
    (h : Agree (G.Related (EqualWith I)) (Fault.Alike Eq) (EqualWith P) render₁ render₂)
    {state : RenderState} (hcontext : G.KnownContext state.context) (hstore : I state.store) :
    render₁ state = render₂ state := by
  have hstate : ∀ {s t : RenderState}, (G.Related (EqualWith I)).related s t → s = t := by
    rintro ⟨context, store⟩ ⟨_, _⟩ ⟨rfl, -, rfl, -⟩
    rfl
  have hends := h.endAlike (fun _ hbeyond => hbeyond.2) (s := state) ⟨rfl, hcontext, rfl, hstore⟩
  cases hrun : render₁ state with
  | ok a s =>
    rw [hrun] at hends
    obtain ⟨b, t, hb, ⟨rfl, -⟩, hrelated⟩ := hends.of_ok
    rw [hb, hstate hrelated]
  | error e s =>
    rw [hrun] at hends
    obtain ⟨f, t, hf, hfault, hrelated⟩ := hends.of_error
    rw [hf, hstate hrelated]
    cases e <;> cases f
    · exact congrArg (fun error => EStateM.Result.error (Fault.error error) t) hfault
    · exact hfault.elim
    · exact hfault.elim
    · rfl

namespace Render

/-- The keys of the templates that are being rendered around the next frame. -/
def around (given : List String) : List Frame → List String
  | [] => given
  | frame :: _ => frame.ancestors

/-- A renderer that follows at most so many names into each other and looks at all frames that are under way
when it enters one. If they are not as they should be, another renderer takes over. -/
def watched (lawful : List Frame → Prop) [DecidablePred lawful] (alarm : Jump) :
    Nat → List Frame → Jump
  | 0, frames => fun frame list =>
    if lawful (frame :: frames) then throw .tooDeep else alarm frame list
  | depth + 1, frames => fun frame list =>
    if lawful (frame :: frames) then nodes (watched lawful alarm depth (frame :: frames)) frame list
    else alarm frame list

/-- Renderers that do the same in a frame, whatever they render there. -/
def SameAt (I : Store → Prop) (jump₁ jump₂ : Jump) (frame : Frame) : Prop :=
  ∀ list, Agree (Guarantee.vacuous.Related (EqualWith I)) (Fault.Alike Eq) Equal (jump₁ frame list)
    (jump₂ frame list)

/-- Renderers that do the same where a template is entered below these ancestors: in a frame of its own, and
where its layout is named by a macro. -/
structure SameBelow (env : Environment) (I : Store → Prop) (enters : Template → Prop)
    (ancestors : List String) (jump₁ jump₂ : Jump) : Prop where
  loads : ∀ name from?, Keeps I (fun compiled => enters compiled.template) (env.load name from?)
  naming : ∀ template, enters template → SameAt I jump₁ jump₂ ⟨env, [], [], template.origin, 1⟩
  template : ∀ template blocks, enters template → template.id ∉ ancestors →
    SameAt I jump₁ jump₂ ⟨env, blocks, ancestors ++ [template.id], template.origin, 0⟩

namespace SameBelow

variable {env : Environment} {I : Store → Prop} {enters : Template → Prop} {ancestors : List String}
  {jump₁ jump₂ : Jump} (h : SameBelow env I enters ancestors jump₁ jump₂)

include h

theorem alikeAt_naming {template : Template} (htemplate : enters template) :
    Guarantee.vacuous.AlikeAt (EqualWith I) Eq env env jump₁ jump₂ ⟨env, [], [], template.origin, 0⟩ where
  runtime := ⟨rfl, rfl, rfl, rfl⟩
  refl _ := rfl
  blocks _ _ _ hbody := by cases hbody
  macros _ body _ := h.naming template htemplate body

theorem layout (context : Context) (chain : List String) {template : Template} (htemplate : enters template)
    (name : Expr) (line : Nat) :
    Agree (EqualWith I) (Fault.Alike Eq) (EqualWith enters)
      (template.layout jump₁ env context chain name line)
      (template.layout jump₂ env context chain name line) := by
  unfold Template.layout
  refine ((h.alikeAt_naming htemplate).layoutName (Guarantee.knownContext_vacuous context) rfl rfl
    name).bindWith fun name _ => ?_
  refine ((h.loads name template.origin).alike fun _ => rfl).bindWith fun compiled hcompiled => ?_
  dsimp only
  split
  · exact Agree.bind (V := fun _ _ => False) (Agree.throw rfl) fun _ _ hfalse => hfalse.elim
  · exact Agree.pure ⟨rfl, hcompiled⟩

theorem program (context : Context) (bound : Nat) (chain : List String) {template : Template}
    (htemplate : enters template) :
    Agree (EqualWith I) (Fault.Alike Eq) Equal (template.program jump₁ env context bound chain)
      (template.program jump₂ env context bound chain) := by
  induction bound using Nat.strongRecOn generalizing chain template with
  | _ bound ih =>
    cases hbody : template.body with
    | ready program =>
      rw [Template.program_ready _ _ _ _ _ hbody, Template.program_ready _ _ _ _ _ hbody]
      exact Agree.pure (Equal.refl program)
    | failed error =>
      rw [Template.program_failed _ _ _ _ _ hbody, Template.program_failed _ _ _ _ _ hbody]
      exact Agree.throw rfl
    | deferred name line tokens =>
      rw [Template.program_deferred _ _ _ _ _ hbody, Template.program_deferred _ _ _ _ _ hbody]
      refine (h.layout context chain htemplate name line).bindWith fun parent hparent => ?_
      cases bound with
      | zero => exact Agree.throw True.intro
      | succ bound =>
        refine (ih bound (Nat.lt_succ_self bound) (chain ++ [parent.id]) hparent).bindWith fun layout _ => ?_
        exact ((agree_ofExcept (fun _ => rfl) _).mono fun _ _ hab =>
          ⟨hab.1, True.intro⟩).alike fun _ => rfl

theorem execute {template : Template} (htemplate : enters template) :
    Agree (Guarantee.vacuous.Related (EqualWith I)) (Fault.Alike Eq) Equal
      (template.execute jump₁ env ancestors) (template.execute jump₂ env ancestors) := by
  refine Guarantee.agree_execute (fun _ => rfl) (fun _ _ => True.intro) ?_ ?_
  · exact fun context _ => Template.agree_wholeProgram fun bound =>
      (h.program context bound _ htemplate).mono fun _ _ hab => ⟨hab.1, Guarantee.knownProgram_vacuous _⟩
  · exact fun hnew program _ => h.template template program.blocks htemplate hnew program.nodes

/-- What is included or imported in a frame with these ancestors. -/
theorem visits {frame : Frame} (hancestors : frame.ancestors = ancestors) :
    Guarantee.vacuous.VisitsAlikeAt (EqualWith I) Eq env env jump₁ jump₂ frame := by
  refine Guarantee.visitsAlikeAt_of_execute (P := enters) (fun _ => rfl) rfl (Or.inr fun _ => True.intro) ?_
    fun template htemplate => hancestors ▸ h.execute htemplate
  intro name
  exact ((h.loads name frame.origin).alike fun _ => rfl).mono
    fun _ _ hab => ⟨congrArg Compiled.template hab.1, hab.2⟩

end SameBelow

/-- What holds of the frames that are under way holds with every frame that is entered from them. -/
structure Kept (env : Environment) (loads : Template → Prop) (given : List String)
    (under : List Frame → Prop) : Prop where
  env_eq : ∀ {frame frames}, under (frame :: frames) → frame.env = env
  template : ∀ {frames} {template : Template} {blocks}, under frames →
    template.id ∉ around given frames → (frames ≠ [] → loads template) →
    under (⟨env, blocks, around given frames ++ [template.id], template.origin, 0⟩ :: frames)
  block : ∀ {frame frames}, under (frame :: frames) → under (frame :: frame :: frames)
  macroCall : ∀ {frame : Frame} {frames}, under (frame :: frames) → frame.macroDepth < Eval.macroLimit →
    under ({ frame with macroDepth := frame.macroDepth + 1 } :: frame :: frames)
  naming : ∀ {frames} {template : Template}, under frames → (frames ≠ [] → loads template) →
    under (⟨env, [], [], template.origin, 1⟩ :: frames)

namespace Kept

variable {env : Environment} {I : Store → Prop} {loads : Template → Prop} {given : List String}
  {under : List Frame → Prop}

/-- Renderers that do the same in every frame that is entered from those under way. -/
theorem sameBelow (h : Kept env loads given under)
    (hloads : ∀ name from?, Keeps I (fun compiled => loads compiled.template) (env.load name from?))
    {frames : List Frame} (hunder : under frames) {jump₁ jump₂ : Jump}
    (hsame : ∀ frame, under (frame :: frames) → SameAt I jump₁ jump₂ frame) :
    SameBelow env I (fun template => frames ≠ [] → loads template) (around given frames) jump₁ jump₂ where
  loads name from? := (hloads name from?).mono fun _ _ hab => ⟨hab.1, fun _ => hab.2⟩
  naming _ hloaded := hsame _ (h.naming hunder hloaded)
  template _ _ hloaded hnew := hsame _ (h.template hunder hnew hloaded)

variable {lawful : List Frame → Prop} [DecidablePred lawful]

/-- A watched renderer that finds what is kept renders as the one that it watches. -/
theorem sameAt_watched (h : Kept env loads given under)
    (hloads : ∀ name from?, Keeps I (fun compiled => loads compiled.template) (env.load name from?))
    (hlawful : ∀ frame frames, under (frame :: frames) → lawful (frame :: frames)) (alarm : Jump)
    (depth : Nat) {frames : List Frame} {frame : Frame} (hunder : under (frame :: frames)) :
    SameAt I (watched lawful alarm depth frames) (upToDepth depth) frame := by
  induction depth generalizing frames frame with
  | zero =>
    intro list
    unfold watched
    rw [if_pos (hlawful frame frames hunder)]
    exact Agree.throw True.intro
  | succ depth ih =>
    intro list
    unfold watched
    rw [if_pos (hlawful frame frames hunder)]
    obtain rfl := h.env_eq hunder
    have hvisits := @SameBelow.visits _ _ _ _ _ _ (h.sameBelow hloads hunder fun next hnext => ih hnext)
      frame rfl
    have halike : Guarantee.vacuous.AlikeAt (EqualWith I) Eq frame.env frame.env
        (watched lawful alarm depth (frame :: frames)) (upToDepth depth) frame :=
      ⟨⟨rfl, rfl, rfl, rfl⟩, fun _ => rfl, fun _ body _ _ => ih (h.block hunder) body,
        fun hroom body _ => ih (h.macroCall hunder hroom) body⟩
    exact halike.nodes hvisits list fun _ _ => True.intro

/-- A watch for what is kept makes no difference to what a template renders. -/
theorem execute_kept (h : Kept env loads given under)
    (hloads : ∀ name from?, Keeps I (fun compiled => loads compiled.template) (env.load name from?))
    (hlawful : ∀ frame frames, under (frame :: frames) → lawful (frame :: frames)) (hidle : under [])
    (alarm : Jump) (depth : Nat) (template : Template) (context : Context) {store : Store} (hstore : I store) :
    template.execute (watched lawful alarm depth []) env given ⟨context, store⟩ =
      template.execute (upToDepth depth) env given ⟨context, store⟩ := by
  have hsame := h.sameBelow hloads hidle fun frame hframe =>
    h.sameAt_watched hloads hlawful alarm depth hframe
  exact Guarantee.eq_of_agree (hsame.execute fun hne => absurd rfl hne)
    (Guarantee.knownContext_vacuous context) hstore

end Kept

end Render

end Stencil
