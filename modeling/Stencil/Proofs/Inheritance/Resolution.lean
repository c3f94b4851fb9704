import Stencil.Proofs.Engine.Sessions
import Stencil.Proofs.Inheritance.Chain

/-!
What engines make of chains of layouts that are named in the sources. However a template is compiled, and
whatever the engine compiled or rendered before, its program is the one that the chain means.
-/
namespace Stencil

/-- The sources from this one up to one without a layout, each naming the next. -/
inductive Environment.Links (env : Environment) : String → Option String → Chain → Prop
  | last {source : String} {origin : Option String} {tokens : List Token}
      (htokens : Token.ofSource env.settings.tags env.settings.autoescape source = .ok tokens)
      (hlayout : Token.layout? env.scope tokens = .ok none) : Links env source origin [tokens]
  | link {source above name key : String} {origin : Option String} {tokens : List Token}
      {line : Nat} {older : Chain}
      (htokens : Token.ofSource env.settings.tags env.settings.autoescape source = .ok tokens)
      (hlayout : Token.layout? env.scope tokens = .ok (some (.named name, line)))
      (hkey : env.resolve name origin = .ok key) (habove : env.source key = .ok above)
      (holder : Links env above (some key) older) : Links env source origin (tokens :: older)

/-- The template was compiled along the chain. -/
def Template.Follows (env : Environment) (chain : Chain) (template : Template) : Prop :=
  ∃ program, template.body = .ready program ∧ Chain.Compiles env.scope chain program

/-- A template that is kept for a file was compiled along the chain of the file. -/
def Template.Faithful (env : Environment) (key : String) (template : Template) : Prop :=
  template.Settled ∧ ∀ source chain, env.source key = .ok source →
    env.Links source (some key) chain → template.Follows env chain

namespace Environment

variable {env : Environment}

/-- A source is compiled along its chain if layouts are. -/
theorem Built.follows {id source : String} {origin : Option String} {template : Template}
    {chain : Chain} (h : env.Built (Template.Faithful env) id source origin template)
    (hlinks : env.Links source origin chain) : template.Follows env chain := by
  cases hlinks with
  | last htokens hlayout =>
    obtain ⟨program, hprogram, rfl⟩ := h.of_alone htokens hlayout
    exact ⟨program, rfl, .alone hprogram⟩
  | link htokens hlayout hkey habove holder =>
    obtain ⟨key', layout, body, hkey', hparent, hbody, rfl⟩ := h.of_named htokens hlayout
    cases hkey.symm.trans hkey'
    obtain ⟨program, hready, hcompiles⟩ := hparent.2 _ _ habove holder
    rcases bodyOver_eq_ok hbody with ⟨below, result, hbelow, hextend, rfl⟩ |
      ⟨_, _, _, hdeferred, -, -⟩
    · cases hready.symm.trans hbelow
      exact ⟨result, rfl, .extended hcompiles hextend⟩
    · cases hready.symm.trans hdeferred

theorem faithful_closed : env.Closed (Template.Faithful env) := by
  intro path source template hsource hbuilt
  refine ⟨hbuilt.settled, fun source' chain hsource' hlinks => ?_⟩
  cases hsource.symm.trans hsource'
  exact hbuilt.follows hlinks

end Environment

namespace Chain.Compiles

end Chain.Compiles

/-- A source may be compiled under the key of a file if it is the source of that file. -/
def Environment.Compilable (env : Environment) (source : String) (options : CompileOptions) : Prop :=
  ∀ text, env.source (options.filename.getD source) = .ok text →
    options.filename = some (options.filename.getD source) ∧ text = source

/-- The engine compiles a file, or a source of which it keeps no template, to the template. -/
inductive Engine.Compiles (engine : Engine) : String → Option String → Template → Prop
  | file {name path source : String} {compiled : Compiled}
      (hpath : engine.env.resolve name none = .ok path)
      (hsource : engine.env.source path = .ok source)
      (hrun : (engine.compileFile name).1 = .ok compiled) :
      Compiles engine source (some path) compiled.template
  | source {source : String} {options : CompileOptions} {compiled : Compiled}
      (hnew : engine.store.get? (options.filename.getD source) = none)
      (hrun : (engine.compile source options).1 = .ok compiled)
      (hsettled : compiled.template.Settled) :
      Compiles engine source options.filename compiled.template

/-- Stores in which files are kept as they compile. -/
abbrev Environment.FaithfulStore (env : Environment) : Store → Prop :=
  Store.All (Template.Faithful env)

namespace Environment

variable {env : Environment}

theorem Compilable.keeps {source : String} {options : CompileOptions}
    (h : env.Compilable source options) :
    Keeps env.FaithfulStore (fun _ => True) (Engine.compileSource env source options) := by
  refine (Engine.keeps_compileSource (P := Template.Faithful env)
    ((keeps_compile faithful_closed (options.filename.getD source) source options.filename).mono
      fun template _ hbuilt => ⟨hbuilt.1, hbuilt.2.settled, fun text chain htext hlinks => ?_⟩)).mono
    fun _ _ hab => ⟨hab.1, True.intro⟩
  obtain ⟨hname, rfl⟩ := h text htext
  rw [← hname] at hlinks
  exact hbuilt.2.follows hlinks

end Environment

/-- With files kept as they compile, a template is compiled along its chain. -/
theorem Engine.Compiles.follows {engine : Engine} {source : String} {origin : Option String}
    {template : Template} {chain : Chain} (hstore : engine.env.FaithfulStore engine.store)
    (hlinks : engine.env.Links source origin chain) (h : engine.Compiles source origin template) :
    template.Follows engine.env chain := by
  cases h with
  | file hpath hsource hrun =>
    obtain ⟨path, hpath', hfaithful⟩ := (Engine.run_keeps
      (Environment.keeps_load Environment.faithful_closed _ none) hstore).2 _ hrun
    cases hpath.symm.trans hpath'
    exact hfaithful.2 _ _ hsource hlinks
  | @source source options compiled hnew hrun hsettled =>
    unfold Engine.compile Engine.run at hrun
    split at hrun
    · rename_i result store hcompile
      cases hrun
      unfold Engine.compileSource at hcompile
      dsimp only at hcompile
      split at hcompile
      · rename_i compiled' after hthrough
        cases hcompile
        refine (throughStore_eq_ok ((Environment.keeps_compile Environment.faithful_closed _ _ _).and
          (Environment.keeps_compile_absent _ _ _)) hstore hnew hthrough).1.follows hlinks
      · split at hcompile
        · cases hcompile
          exact absurd rfl (hsettled _)
        · cases hcompile
      · cases hcompile
    · cases hrun

section Sample

/-- The name of the layout of some tokens, if it is named on the first line, or that there is none. -/
def Layout.named? : Except TemplateError (Option (Layout × Nat)) → Option (Option String)
  | .ok none => some none
  | .ok (some (.named name, 1)) => some (some name)
  | _ => none

end Sample

end Stencil
