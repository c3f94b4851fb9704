import Stencil.Proofs.Engine.Sessions

/-!
Properties that last. What a template has as soon as it is compiled, if its layout has it, all templates have
that a session keeps or answers with, whatever the session did before.
-/
namespace Stencil

/-- Templates have the property when they are compiled, if their layouts do, and so do those that stand for
sources that did not compile. What names stand for may matter. -/
structure Template.Lasting (P : Scope → Template → Prop) : Prop where
  built : ∀ {env : Environment} {id source : String} {origin : Option String} {template : Template},
    env.Built (fun _ layout => layout.Settled ∧ P env.scope layout) id source origin template →
      P env.scope template
  failed : ∀ {scope : Scope} {template : Template} {error : TemplateError},
    template.body = .failed error → P scope template

/-- All templates that are kept have compiled and have the property. -/
def Store.Have (P : Template → Prop) (store : Store) : Prop :=
  store.All fun _ template => template.Settled ∧ P template

namespace Template.Lasting

variable {P : Scope → Template → Prop} (h : Lasting P)

include h

theorem closed (env : Environment) : env.Closed fun _ template => template.Settled ∧ P env.scope template :=
  fun _ _ _ _ hbuilt => ⟨hbuilt.settled, h.built hbuilt⟩

theorem keeps_load (env : Environment) (name : String) (from? : Option String) :
    Keeps (Store.Have (P env.scope)) (fun compiled => compiled.template.Settled ∧ P env.scope compiled.template)
      (env.load name from?) :=
  (Environment.keeps_load (h.closed env) name from?).mono fun _ _ hab =>
    ⟨hab.1, hab.2.elim fun _ hpath => hpath.2⟩

theorem loadsKnown (env : Environment) :
    Guarantee.vacuous.LoadsKnown (fun _ => True) (Store.Have (P env.scope)) env := fun name from? =>
  (h.keeps_load env name from?).mono fun _ _ hab => ⟨hab.1, Guarantee.knownTemplate_vacuous hab.2.1⟩

theorem keeps_compileSource (env : Environment) (source : String) (options : CompileOptions) :
    Keeps (Store.Have (P env.scope)) (fun compiled => P env.scope compiled.template)
      (Engine.compileSource env source options) := by
  have hcompile : Keeps (Store.Have (P env.scope)) (fun template => template.Settled ∧ P env.scope template)
      (env.compile (options.filename.getD source) source options.filename) :=
    (Environment.keeps_compile (h.closed env) _ source options.filename).mono
      fun _ _ hab => ⟨hab.1, hab.2.settled, h.built hab.2⟩
  refine (Engine.keeps_compileSource hcompile).mono fun compiled _ hab => ⟨hab.1, ?_⟩
  rcases hab.2 with ⟨-, hhas⟩ | ⟨-, error, hfailed⟩
  · exact hhas
  · exact h.failed hfailed

end Template.Lasting

namespace Session

variable {session : Session}

/-- What is answered as compiled was loaded. -/
theorem compiled_of_hold {I : Store → Prop} {P : Template → Prop} (hstore : I session.engine.store)
    {handle : String} {load : LoadM Compiled} {template : Template} {sameAs : List String}
    (hload : Keeps I (fun compiled => P compiled.template) load)
    (hanswer : (session.hold handle (session.engine.run load)).2 = .compiled template sameAs) : P template := by
  obtain ⟨-, hresult⟩ := Engine.run_keeps hload hstore
  unfold hold at hanswer
  dsimp only at hanswer
  split at hanswer
  · rename_i compiled hcompiled
    cases hanswer
    exact hresult compiled hcompiled
  · rename_i fault _
    cases fault <;> cases hanswer

theorem rendered_ne_compiled (result : Except Fault String × Engine) {template : Template}
    {sameAs : List String} : (session.rendered result).2 ≠ .compiled template sameAs := by
  obtain ⟨found, engine⟩ := result
  cases found with
  | ok text => exact nofun
  | error fault => cases fault <;> exact nofun

end Session

namespace Template.Lasting

variable {P : Scope → Template → Prop} (h : Lasting P) {session : Session}
  (hstore : session.engine.store.Have (P session.engine.env.scope))

include h hstore

theorem after (actions : List Action) :
    (session.after actions).engine.store.Have (P (session.after actions).engine.env.scope) :=
  Session.keeps_after (I := fun settings => Store.Have (P ⟨settings.filters, settings.tags, none⟩))
    (fun _ _ _ _ key kept hget => by simp [Store.get?, Store.clear] at hget) h.loadsKnown
    (fun env source options => (h.keeps_compileSource env source options).mono
      fun _ _ hab => ⟨hab.1, True.intro⟩) hstore actions

theorem of_step {action : Action} {template : Template} {sameAs : List String}
    (hanswer : (session.step action).2 = .compiled template sameAs) : P session.engine.env.scope template := by
  unfold Session.step at hanswer
  split at hanswer
  · cases hanswer
  · cases action with
    | compile handle source options =>
      exact Session.compiled_of_hold hstore (h.keeps_compileSource _ source options) hanswer
    | compileFile handle name =>
      refine Session.compiled_of_hold hstore ?_ hanswer
      exact (h.keeps_load session.engine.env name none).mono fun _ _ hab => ⟨hab.1, hab.2.2⟩
    | render handle context ancestors =>
      unfold Session.act at hanswer
      dsimp only at hanswer
      split at hanswer
      · cases hanswer
      · split at hanswer
        · exact absurd hanswer (Session.rendered_ne_compiled _)
        · cases hanswer
    | renderSource source context => exact absurd hanswer (Session.rendered_ne_compiled _)
    | renderFile name context => exact absurd hanswer (Session.rendered_ne_compiled _)
    | _ => cases hanswer

/-- After whatever a session did, the property holds of all templates that it keeps or answers with. -/
theorem of_session {actions : List Action} {later : Session} (hlater : later = session.after actions) :
    later.engine.store.Have (P later.engine.env.scope) ∧ ∀ action template sameAs,
      (later.step action).2 = .compiled template sameAs → P later.engine.env.scope template := by
  subst hlater
  have hafter := h.after hstore actions
  exact ⟨hafter, fun _ _ _ => h.of_step hafter⟩

end Template.Lasting

end Stencil
