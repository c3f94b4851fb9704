import Mathlib.Data.List.Forall2
import Stencil.Proofs.Engine.Files
import Stencil.Proofs.Render.Watching

/-!
The places that names are looked up from. What includes or imports is rendered with the place of the
template that runs, whichever template it was written in, as every frame of a run has that place; a layout
is looked up from the template that extends it. So a template is rendered as it was written inside the
templates of its own directory, and in no other ones.
-/
namespace Stencil

namespace Environment

/-- Relative names are looked up in the same directory from both places. -/
def SamePlace (env : Environment) (place₁ place₂ : Option String) : Prop :=
  Location.normalise (Location.base env.settings.root place₁) =
    Location.normalise (Location.base env.settings.root place₂)

theorem SamePlace.load {env : Environment} {place₁ place₂ : Option String}
    (h : env.SamePlace place₁ place₂) (name : String) :
    env.load name place₁ = env.load name place₂ := by
  have hkey : env.resolve name place₁ = env.resolve name place₂ := by
    unfold Environment.resolve
    rw [Location.resolve_congr h name]
  unfold Environment.load
  rw [hkey]

end Environment

section Render

variable {jump : Jump} {place₁ place₂ : Option String}

/-- A renderer of names that does not tell the places apart. -/
def Jump.SamePlace (jump : Jump) (place₁ place₂ : Option String) : Prop :=
  ∀ (frame : Frame) nodes, frame.env.SamePlace place₁ place₂ →
    jump { frame with origin := place₁ } nodes = jump { frame with origin := place₂ } nodes

variable {frame : Frame}

theorem Eval.callMacro_samePlace (hjump : jump.SamePlace place₁ place₂)
    (hplace : frame.env.SamePlace place₁ place₂) (context : Context) (name : String) (parameters : List String)
    (body : List Node) (arguments : List Value) :
    Eval.callMacro jump { frame with origin := place₁ } context name parameters body arguments =
      Eval.callMacro jump { frame with origin := place₂ } context name parameters body arguments := by
  unfold Eval.callMacro
  have hbody := hjump { frame with macroDepth := frame.macroDepth + 1 } body hplace
  simp only at hbody ⊢
  rw [hbody]

theorem Eval.call_samePlace (hjump : jump.SamePlace place₁ place₂)
    (hplace : frame.env.SamePlace place₁ place₂) (context : Context) (name? : Option String)
    (lookup : EvalM Value) (arguments : EvalM (List Value)) :
    Eval.call jump { frame with origin := place₁ } context name? lookup arguments =
      Eval.call jump { frame with origin := place₂ } context name? lookup arguments := by
  unfold Eval.call
  simp only [Eval.callMacro_samePlace hjump hplace]

mutual

theorem Eval.expr_samePlace (hjump : jump.SamePlace place₁ place₂)
    (hplace : frame.env.SamePlace place₁ place₂) (context : Context) (e : Expr) :
    Eval.expr jump { frame with origin := place₁ } context e =
      Eval.expr jump { frame with origin := place₂ } context e := by
  match e with
  | .literal value => rfl
  | .path root steps => simp only [Eval.expr, Eval.keys_samePlace hjump hplace context steps]
  | .call root steps arguments =>
    simp only [Eval.expr, Eval.keys_samePlace hjump hplace context steps,
      Eval.exprs_samePlace hjump hplace context arguments, Eval.call_samePlace hjump hplace]
  | .array items => simp only [Eval.expr, Eval.exprs_samePlace hjump hplace context items]
  | .object fields => simp only [Eval.expr, Eval.members_samePlace hjump hplace context fields]
  | .filtered base filters =>
    simp only [Eval.expr, Eval.expr_samePlace hjump hplace context base,
      Eval.through_samePlace hjump hplace context filters]
  | .not operand => simp only [Eval.expr, Eval.expr_samePlace hjump hplace context operand]
  | .binary op left right =>
    simp only [Eval.expr, Eval.expr_samePlace hjump hplace context left,
      Eval.expr_samePlace hjump hplace context right]

theorem Eval.exprs_samePlace (hjump : jump.SamePlace place₁ place₂)
    (hplace : frame.env.SamePlace place₁ place₂) (context : Context) (items : List Expr) :
    Eval.exprs jump { frame with origin := place₁ } context items =
      Eval.exprs jump { frame with origin := place₂ } context items := by
  match items with
  | [] => rfl
  | e :: rest =>
    simp only [Eval.exprs, Eval.expr_samePlace hjump hplace context e, Eval.exprs_samePlace hjump hplace context rest]

theorem Eval.members_samePlace (hjump : jump.SamePlace place₁ place₂)
    (hplace : frame.env.SamePlace place₁ place₂) (context : Context) (fields : List (String × Expr)) :
    Eval.members jump { frame with origin := place₁ } context fields =
      Eval.members jump { frame with origin := place₂ } context fields := by
  match fields with
  | [] => rfl
  | (name, e) :: rest =>
    simp only [Eval.members, Eval.expr_samePlace hjump hplace context e,
      Eval.members_samePlace hjump hplace context rest]

theorem Eval.keys_samePlace (hjump : jump.SamePlace place₁ place₂)
    (hplace : frame.env.SamePlace place₁ place₂) (context : Context) (steps : List Step) :
    Eval.keys jump { frame with origin := place₁ } context steps =
      Eval.keys jump { frame with origin := place₂ } context steps := by
  match steps with
  | [] => rfl
  | .key key :: rest => simp only [Eval.keys, Eval.keys_samePlace hjump hplace context rest]
  | .index e :: rest =>
    simp only [Eval.keys, Eval.expr_samePlace hjump hplace context e, Eval.keys_samePlace hjump hplace context rest]

theorem Eval.through_samePlace (hjump : jump.SamePlace place₁ place₂)
    (hplace : frame.env.SamePlace place₁ place₂) (context : Context) (calls : List FilterCall) (value : Value) :
    Eval.through jump { frame with origin := place₁ } context calls value =
      Eval.through jump { frame with origin := place₂ } context calls value := by
  match calls with
  | [] => rfl
  | .mk name filter arguments :: rest =>
    simp only [Eval.through, Eval.exprs_samePlace hjump hplace context arguments]
    congr 1
    funext values
    exact Eval.through_samePlace hjump hplace context rest (filter value values)

end

section Nodes

variable (hjump : jump.SamePlace place₁ place₂) (hplace : frame.env.SamePlace place₁ place₂)

include hjump hplace

theorem Eval.output_samePlace (context : Context) (e : Expr) :
    Eval.output jump { frame with origin := place₁ } context e =
      Eval.output jump { frame with origin := place₂ } context e := by
  cases e with
  | call root steps arguments =>
    simp only [Eval.output, Eval.keys_samePlace hjump hplace, Eval.exprs_samePlace hjump hplace,
      Eval.call_samePlace hjump hplace]
  | _ => simp only [Eval.output, Eval.expr_samePlace hjump hplace]

theorem Render.inclusion_samePlace (template : Expr) (ignoreMissing : Bool) (scope : Option Expr)
    (only : Bool) :
    Render.inclusion jump { frame with origin := place₁ } template ignoreMissing scope only =
      Render.inclusion jump { frame with origin := place₂ } template ignoreMissing scope only := by
  unfold Render.inclusion Render.inclusionScope Render.included Render.circular
  simp only [Eval.expr_samePlace hjump hplace, hplace.load]

theorem Render.importation_samePlace (template : Expr) (space : String) :
    Render.importation jump { frame with origin := place₁ } template space =
      Render.importation jump { frame with origin := place₂ } template space := by
  unfold Render.importation Render.imported Render.circular
  simp only [Eval.expr_samePlace hjump hplace, hplace.load]

end Nodes

mutual

theorem Render.node_samePlace (hjump : jump.SamePlace place₁ place₂)
    (hplace : frame.env.SamePlace place₁ place₂) (n : Node) :
    Render.node jump { frame with origin := place₁ } n =
      Render.node jump { frame with origin := place₂ } n := by
  match n with
  | .text t => rfl
  | .output e filters escape =>
    simp only [Render.node, Render.output, Eval.output_samePlace hjump hplace,
      Eval.through_samePlace hjump hplace]
  | .choice branches otherwise =>
    simp only [Render.node, Render.nodes_samePlace hjump hplace otherwise,
      Render.choice_samePlace hjump hplace branches]
  | .loop key item source body empty =>
    simp only [Render.node, Eval.expr_samePlace hjump hplace, Render.nodes_samePlace hjump hplace body,
      Render.nodes_samePlace hjump hplace empty]
  | .assign name value => simp only [Render.node, Eval.expr_samePlace hjump hplace]
  | .filter call body =>
    simp only [Render.node, Render.filter, Render.nodes_samePlace hjump hplace body,
      Eval.through_samePlace hjump hplace]
  | .define name parameters body => rfl
  | .inclusion template ignoreMissing scope only =>
    simp only [Render.node, Render.inclusion_samePlace hjump hplace]
  | .importation template space => simp only [Render.node, Render.importation_samePlace hjump hplace]
  | .block name =>
    simp only [Render.node]
    cases Fields.get? frame.blocks name with
    | none => rfl
    | some body => exact hjump frame body hplace
  | .fragment body => simp only [Render.node, Render.nodes_samePlace hjump hplace body]
  | .group body => simp only [Render.node, Render.nodes_samePlace hjump hplace body]
  | .host name tag arguments body =>
    simp only [Render.node, Render.host, Eval.exprs_samePlace hjump hplace,
      Render.nodes_samePlace hjump hplace body]
  | .alternative condition line => rfl

theorem Render.nodes_samePlace (hjump : jump.SamePlace place₁ place₂)
    (hplace : frame.env.SamePlace place₁ place₂) (ns : List Node) :
    Render.nodes jump { frame with origin := place₁ } ns =
      Render.nodes jump { frame with origin := place₂ } ns := by
  match ns with
  | [] => rfl
  | first :: rest =>
    simp only [Render.nodes, Render.node_samePlace hjump hplace first, Render.nodes_samePlace hjump hplace rest]

theorem Render.choice_samePlace (hjump : jump.SamePlace place₁ place₂)
    (hplace : frame.env.SamePlace place₁ place₂) (branches : List (Expr × List Node))
    (otherwise : RenderM String) :
    Render.choice jump { frame with origin := place₁ } branches otherwise =
      Render.choice jump { frame with origin := place₂ } branches otherwise := by
  match branches with
  | [] => rfl
  | (condition, body) :: rest =>
    simp only [Render.choice, Eval.expr_samePlace hjump hplace, Render.nodes_samePlace hjump hplace body,
      Render.choice_samePlace hjump hplace rest otherwise]

end

end Render

/-- However deep names lead into each other, the places are not told apart. -/
theorem Render.upToDepth_samePlace (depth : Nat) (place₁ place₂ : Option String) :
    (Render.upToDepth depth).SamePlace place₁ place₂ := by
  induction depth with
  | zero => exact fun _ _ _ => rfl
  | succ depth ih => exact fun _ nodes hplace => Render.nodes_samePlace ih hplace nodes

namespace Render

/-- What a single tag includes. -/
def inclusionOf (name : String) : Node := .inclusion (.literal (.string name)) false none true

theorem nodes_inclusionOf (jump : Jump) (frame : Frame) (name : String) (state : RenderState) :
    nodes jump frame [inclusionOf name] state =
      RenderM.evaluate (fun _ => included jump frame name .empty) state := by
  have hnode : node jump frame (inclusionOf name) state =
      RenderM.evaluate (fun _ => included jump frame name .empty) state := rfl
  simp only [nodes]
  cases hrun : RenderM.evaluate (fun _ => included jump frame name .empty) state with
  | ok text after =>
    rw [run_bind_of_ok (hnode.trans hrun)]
    change EStateM.Result.ok (text ++ "") after = _
    rw [String.append_empty]
  | error fault after => exact run_bind_of_error (hnode.trans hrun)

end Render

theorem Token.ofSource_empty (tags : Tags) (escape : Option EscapeKind) :
    Token.ofSource tags escape "" = .ok [] := by
  have hsegments : Source.segments "" = ⟨[], none⟩ := by decide +kernel
  unfold Token.ofSource
  rw [hsegments]
  rfl

namespace Environment

/-- A file without a text compiles to a template without nodes. -/
theorem compiles_empty {env : Environment} {key : String} (h : env.source key = .ok "") :
    env.Compiles key ⟨key, some key, none, .ready ⟨[], []⟩⟩ :=
  compiles_closed key "" _ h (.alone (Token.ofSource_empty _ _) rfl rfl)

/-- An empty file is included under the names that lead to it, if there is no other file. -/
theorem included_empty {frame : Frame} {key : String} (hstored : frame.env.loader.isStored = true)
    (hsource : frame.env.source key = .ok "")
    (honly : ∀ other, Location.IsKey other → (∃ source, frame.env.source other = .ok source) →
      other = key)
    (hancestors : frame.ancestors = []) (depth : Nat) (name : String) :
    (∃ after, Render.included (Render.upToDepth (depth + 1)) frame name .empty {} = .ok "" after) ↔
      frame.env.resolve name frame.origin = .ok key := by
  have hempty : frame.env.KeepsFiles {} := Store.All.empty _
  have hcompiles := compiles_empty hsource
  constructor
  · rintro ⟨after, hrun⟩
    obtain ⟨compiled, between, hload, -⟩ := run_bind_eq_ok.mp hrun
    rcases load_cases (holdsAtMost_size hstored) hempty name frame.origin with
      ⟨other, _, _, hother, ⟨bound, hfile⟩, -, -⟩ | ⟨_, _, -, hfails, -⟩
    · cases bound with
      | zero => exact hfile.elim
      | succ bound => exact honly other (isKey_of_resolve hother) (hfile.imp fun _ => And.left) ▸ hother
    · cases hload.symm.trans hfails
  · intro hkey
    rcases load_cases (holdsAtMost_size hstored) hempty name frame.origin with
      ⟨other, compiled, between, hother, hfile, -, hload⟩ | ⟨_, _, -, -, hnone⟩
    · cases hkey.symm.trans hother
      refine ⟨between, run_bind_eq_ok.mpr ⟨compiled, between, hload, ?_⟩⟩
      have htemplate := hfile.choose_spec.unique hcompiles.choose_spec
      rw [htemplate, hancestors]
      have hprogram (context : Context) : Template.wholeProgram (Render.upToDepth (depth + 1)) frame.env
          context ⟨key, some key, none, .ready ⟨[], []⟩⟩ = pure ⟨[], []⟩ :=
        funext fun store => Template.wholeProgram_ready rfl _ context store
      simp only [Template.execute, hprogram]
      rfl
    · exact absurd ⟨_, hcompiles⟩ (hnone key hkey)

/-- With one empty file there is no other source. -/
theorem source_of_single {settings : Settings} {key other source : String}
    (hother : Location.IsKey other) :
    (⟨settings, .table [(key, "")]⟩ : Environment).source other = .ok source ↔
      other = key ∧ source = "" := by
  unfold Environment.source Loader.load
  simp only [hother.write_components, Fields.get?]
  by_cases hkey : key = other
  · simp [hkey, eq_comm]
  · simp [hkey, Ne.symm hkey]

end Environment

namespace Render

variable {env : Environment} {loads : Template → Prop} {given : List String} {templates : List Template}
  {frames : List Frame}

/-- The templates that run and their frames, the innermost first. A block or a macro is rendered in the
template that asks for it, whichever template it was written in. -/
inductive Running (env : Environment) (loads : Template → Prop) (given : List String) :
    List Template → List Frame → Prop
  | idle : Running env loads given [] []
  | template {templates : List Template} {frames : List Frame} {template : Template} {blocks : Blocks}
      (h : Running env loads given templates frames) (hnew : template.id ∉ around given frames)
      (hloads : frames ≠ [] → loads template) :
      Running env loads given (template :: templates)
        (⟨env, blocks, around given frames ++ [template.id], template.origin, 0⟩ :: frames)
  | block {templates : List Template} {frames : List Frame} {template : Template} {frame : Frame}
      (h : Running env loads given (template :: templates) (frame :: frames)) :
      Running env loads given (template :: template :: templates) (frame :: frame :: frames)
  | macroCall {templates : List Template} {frames : List Frame} {template : Template} {frame : Frame}
      (h : Running env loads given (template :: templates) (frame :: frames)) :
      Running env loads given (template :: template :: templates)
        ({ frame with macroDepth := frame.macroDepth + 1 } :: frame :: frames)
  /-- The layout of the template is named. -/
  | naming {templates : List Template} {frames : List Frame} {template : Template}
      (h : Running env loads given templates frames) (hloads : frames ≠ [] → loads template) :
      Running env loads given (template :: templates) (⟨env, [], [], template.origin, 1⟩ :: frames)

/-- Every frame has the place of the template that runs there. -/
theorem Running.origin_eq (h : Running env loads given templates frames) :
    List.Forall₂ (fun template frame => frame.env = env ∧ frame.origin = template.origin) templates
      frames := by
  induction h with
  | idle => exact .nil
  | template h _ _ ih => exact .cons ⟨rfl, rfl⟩ ih
  | block h ih =>
    obtain ⟨htop, -⟩ := List.forall₂_cons.mp ih
    exact .cons htop ih
  | macroCall h ih =>
    obtain ⟨htop, -⟩ := List.forall₂_cons.mp ih
    exact .cons htop ih
  | naming h _ ih => exact .cons ⟨rfl, rfl⟩ ih

/-- Some templates run in these frames, and each frame has the place of its own. -/
def InPlace (env : Environment) (loads : Template → Prop) (given : List String) (frames : List Frame) :
    Prop :=
  ∃ templates, Running env loads given templates frames ∧
    List.Forall₂ (fun template frame => frame.origin = template.origin) templates frames

theorem Running.exists_template {frame : Frame} (h : Running env loads given templates (frame :: frames)) :
    ∃ template rest, templates = template :: rest := by
  obtain ⟨template, rest, -, -, rfl⟩ := List.forall₂_cons_right_iff.mp h.origin_eq
  exact ⟨template, rest, rfl⟩

theorem kept_running (env : Environment) (loads : Template → Prop) (given : List String) :
    Kept env loads given fun frames => ∃ templates, Running env loads given templates frames where
  env_eq := by
    rintro frame frames ⟨templates, hrunning⟩
    obtain ⟨template, rest, rfl⟩ := hrunning.exists_template
    exact (List.forall₂_cons.mp hrunning.origin_eq).1.1
  template := by
    rintro frames template blocks ⟨templates, hrunning⟩ hnew hloads
    exact ⟨_, .template hrunning hnew hloads⟩
  block := by
    rintro frame frames ⟨templates, hrunning⟩
    obtain ⟨template, rest, rfl⟩ := hrunning.exists_template
    exact ⟨_, .block hrunning⟩
  macroCall := by
    rintro frame frames ⟨templates, hrunning⟩ -
    obtain ⟨template, rest, rfl⟩ := hrunning.exists_template
    exact ⟨_, .macroCall hrunning⟩
  naming := by
    rintro frames template ⟨templates, hrunning⟩ hloads
    exact ⟨_, .naming hrunning hloads⟩

end Render

open Render in
/-- In every run all frames have the place of the template that runs there: a watch for this finds nothing
wrong, whatever it would do then. So names are looked up from the template that runs. -/
theorem Template.execute_inPlace (template : Template) (env : Environment) (given : List String)
    (context : Context) (store : Store) (alarm : Jump) (depth : Nat)
    [DecidablePred (InPlace env (env.Gives store) given)] :
    template.execute (watched (InPlace env (env.Gives store) given) alarm depth []) env given
        ⟨context, store⟩ =
      template.execute (upToDepth depth) env given ⟨context, store⟩ := by
  refine (kept_running env (env.Gives store) given).execute_kept (env.keeps_load_gives store) ?_
    ⟨[], .idle⟩ alarm depth template context .refl
  rintro frame frames ⟨templates, hrunning⟩
  exact ⟨templates, hrunning, hrunning.origin_eq.imp fun _ _ hboth => hboth.2⟩

/-- Nodes are rendered alike from both places, whatever they are, in every frame and state and with all
sources that there may be. -/
def Settings.RendersAlike (settings : Settings) (place₁ place₂ : Option String) : Prop :=
  ∀ (loader : Loader) (depth : Nat) (frame : Frame) (nodes : List Node), frame.env = ⟨settings, loader⟩ →
    Render.nodes (Render.upToDepth depth) { frame with origin := place₁ } nodes =
      Render.nodes (Render.upToDepth depth) { frame with origin := place₂ } nodes

/-- Places in different directories are told apart by what one tag includes. -/
theorem Environment.rendersAlike_iff (env : Environment) (place₁ place₂ : Option String) :
    env.settings.RendersAlike place₁ place₂ ↔ env.SamePlace place₁ place₂ := by
  constructor
  · intro halike
    have hname : Location.components "x" = [.name ['x']] := by decide
    refine Location.base_eq_of_resolve (by decide) (by decide) hname ?_
    obtain ⟨key, hkey⟩ : ∃ key, Location.resolve env.settings.root place₁ "x" = .ok key := ⟨_, rfl⟩
    have hisKey : Location.IsKey key := Location.isKey_of_resolve hkey
    let single : Environment := ⟨env.settings, .table [(key, "")]⟩
    have hresolve : ∀ place, single.resolve "x" place = .ok key ↔
        Location.resolve env.settings.root place "x" = .ok key := by
      intro place
      unfold Environment.resolve
      cases Location.resolve single.settings.root place "x" <;> simp
    -- the tag includes the only file from the first place, and so from the second
    have hsource : single.source key = .ok "" := (source_of_single hisKey).mpr ⟨rfl, rfl⟩
    have honly : ∀ other, Location.IsKey other → (∃ source, single.source other = .ok source) →
        other = key := fun other hother h => h.elim fun _ hfound => ((source_of_single hother).mp hfound).1
    have hincluded : ∀ place,
        (∃ after, Render.included (Render.upToDepth 1) ⟨single, [], [], place, 0⟩ "x" .empty {} =
          .ok "" after) ↔ single.resolve "x" place = .ok key :=
      fun _ => included_empty rfl hsource honly rfl 0 "x"
    obtain ⟨after, hfirst⟩ := (hincluded place₁).mpr ((hresolve place₁).mpr hkey)
    have hrun := congrFun (halike single.loader 1 ⟨single, [], [], none, 0⟩ [Render.inclusionOf "x"] rfl)
      ⟨.empty, {}⟩
    simp only [Render.nodes_inclusionOf, RenderM.evaluate, hfirst] at hrun
    have hsecond : ∃ after, Render.included (Render.upToDepth 1) ⟨single, [], [], place₂, 0⟩ "x" .empty {} =
        .ok "" after := by
      cases hresult : Render.included (Render.upToDepth 1) ⟨single, [], [], place₂, 0⟩ "x" .empty {} with
      | ok text final =>
        simp only [hresult, EStateM.Result.ok.injEq] at hrun
        exact ⟨final, by rw [hrun.1]⟩
      | error fault final => simp [hresult] at hrun
    exact hkey.trans ((hresolve place₂).mp ((hincluded place₂).mp hsecond)).symm
  · exact fun hplace loader depth frame nodes hframe =>
      Render.nodes_samePlace (Render.upToDepth_samePlace depth place₁ place₂)
        (by rw [hframe]; exact hplace) nodes

/-- The layout of a template is looked up from the template's own place: when it is compiled, if its
source names the layout, and in every run of it, under whatever template, if it waits for one. -/
structure Template.ExtendsFrom (env : Environment) (template : Template) : Prop where
  named : ∃ source tokens,
    env.Built (fun _ _ => True) template.id source template.origin template ∧
    Token.ofSource env.settings.tags env.settings.autoescape source = .ok tokens ∧
    ∀ name line, Token.layout? env.scope tokens = .ok (some (.named name, line)) →
      ∃ key, env.resolve name template.origin = .ok key ∧ template.parent = some key
  deferred : ∀ layout line tokens, template.body = .deferred layout line tokens →
    ∀ jump context bound chain store program after,
      template.program jump env context bound chain store = .ok program after →
      ∃ name before parent between more below final,
        env.load name template.origin before = .ok parent between ∧
        parent.template.program jump env context more (chain ++ [parent.template.id]) between =
          .ok below final ∧
        Program.extend env.scope tokens below = .ok program

namespace Environment

/-- Templates that were compiled from some source with these settings. -/
def Sourced (settings : Settings) (key : String) (template : Template) : Prop :=
  ∃ source origin, ∀ loader, (⟨settings, loader⟩ : Environment).Built (fun _ _ => True) key source
    origin template

theorem Built.sourced {env : Environment} {P : String → Template → Prop} {id source : String}
    {origin : Option String} {template : Template} (h : env.Built P id source origin template) :
    Sourced env.settings id template := by
  refine ⟨source, origin, fun loader => ?_⟩
  cases h with
  | alone htokens hlayout hprogram => exact .alone htokens hlayout hprogram
  | computed htokens hlayout hcheck => exact .computed htokens hlayout hcheck
  | named htokens hlayout hkey hne hparent hbody =>
    exact .named htokens hlayout hkey hne True.intro hbody

theorem sourced_closed (env : Environment) : env.Closed (Sourced env.settings) :=
  fun _ _ _ _ hbuilt => hbuilt.sourced

theorem Sourced.settled {settings : Settings} {key : String} {template : Template}
    (h : Sourced settings key template) : template.Settled := by
  obtain ⟨source, origin, hbuilt⟩ := h
  exact (hbuilt (.table [])).settled

theorem sourced_loads (env : Environment) :
    Guarantee.vacuous.LoadsKnown (fun _ => True) (Store.All (Sourced env.settings)) env :=
  fun name from? => (keeps_load env.sourced_closed name from?).mono fun _ _ hab => by
    obtain ⟨heq, _, -, hsourced⟩ := hab
    exact ⟨heq, Guarantee.knownTemplate_vacuous hsourced.settled⟩

theorem sourced_compile (env : Environment) (source : String) (options : CompileOptions) :
    Keeps (Store.All (Sourced env.settings)) (fun _ => True) (Engine.compileSource env source options) :=
  (Engine.keeps_compileSource ((keeps_compile env.sourced_closed _ _ _).mono
    fun _ _ hab => ⟨hab.1, hab.2.sourced⟩)).mono fun _ _ hab => ⟨hab.1, True.intro⟩

theorem Sourced.extendsFrom {env : Environment} {key : String} {template : Template}
    (h : Sourced env.settings key template) : template.ExtendsFrom env where
  named := by
    obtain ⟨source, origin, hbuilt⟩ := h
    have hbuilt := hbuilt env.loader
    obtain ⟨tokens, htokens⟩ := hbuilt.exists_tokens
    refine ⟨source, tokens, ?_, htokens, fun name line hlayout => ?_⟩
    · rw [hbuilt.id_eq, hbuilt.origin_eq]
      exact hbuilt
    · obtain ⟨parent, layout, body, hparent, -, -, rfl⟩ := hbuilt.of_named htokens hlayout
      exact ⟨parent, hparent, rfl⟩
  deferred := by
    intro layout line tokens hbody jump context bound chain store program after hrun
    rw [Template.program_deferred _ _ _ _ _ hbody] at hrun
    obtain ⟨parent, found, hlayout, hrun⟩ := run_bind_eq_ok.mp hrun
    obtain ⟨name, before, -, hlayout⟩ := run_bind_eq_ok.mp hlayout
    obtain ⟨compiled, between, hload, hcircle⟩ := run_bind_eq_ok.mp hlayout
    have hparent : parent = compiled.template ∧ found = between := by
      dsimp only at hcircle
      split at hcircle
      · cases hcircle
      · cases hcircle
        exact ⟨rfl, rfl⟩
    obtain ⟨rfl, rfl⟩ := hparent
    cases bound with
    | zero => cases hrun
    | succ bound =>
      obtain ⟨below, final, hbelow, hextend⟩ := run_bind_eq_ok.mp hrun
      refine ⟨name, before, compiled, found, bound, below, final, hload, hbelow, ?_⟩
      cases hprogram : Program.extend env.scope tokens below with
      | ok result =>
        rw [hprogram] at hextend
        cases hextend
        rfl
      | error error =>
        rw [hprogram] at hextend
        cases hextend

end Environment

/-- The engine can load the template, by some name from some place. -/
def Engine.Loads (engine : Engine) (template : Template) : Prop :=
  ∃ name from? compiled after, engine.env.load name from? engine.store = .ok compiled after ∧
    compiled.template = template

/-- A template that a session loads has its own layout looked up from its own place, under whatever
template it runs. What it includes and imports is looked up from the template that runs, so that its nodes
do there what they were written to do if and only if both are in the same directory. -/
theorem Session.rendersAlike_iff_samePlace {engine : Engine} {ownership : Ownership}
    {before : List Action} (hempty : engine.store = {}) {written : Template}
    (hwritten : ((Session.ofEngine engine ownership).after before).engine.Loads written)
    (running : Template) :
    written.ExtendsFrom ((Session.ofEngine engine ownership).after before).engine.env ∧
    (((Session.ofEngine engine ownership).after before).engine.settings.RendersAlike running.origin
        written.origin ↔
      ((Session.ofEngine engine ownership).after before).engine.env.SamePlace running.origin
        written.origin) := by
  have hstart : Store.All (Environment.Sourced (Session.ofEngine engine ownership).engine.settings)
      (Session.ofEngine engine ownership).engine.store := by
    rw [Session.ofEngine, hempty]
    exact Store.All.empty _
  have hstore := Session.keeps_after (I := fun settings => Store.All (Environment.Sourced settings))
    (fun _ _ _ _ _ _ hget => by simp [Store.get?, Store.clear] at hget)
    Environment.sourced_loads Environment.sourced_compile hstart before
  obtain ⟨name, from?, compiled, after, hload, rfl⟩ := hwritten
  obtain ⟨⟨_, -, hsourced⟩, -⟩ := Keeps.ok (Environment.keeps_load
    (Environment.sourced_closed _) name from?) hstore hload
  exact ⟨hsourced.extendsFrom, Environment.rendersAlike_iff (Engine.env _) _ _⟩

section Sample

/-- A layout that includes its neighbour, and a page elsewhere over the layout. -/
def scatteredFiles : Fields String := [
  ("d/layout", "\x7b% include 'part' %\x7d"),
  ("d/part", "inner"),
  ("page", "\x7b% extends 'd/layout' %\x7d")]

def scatteredEngine : Engine := .new { debug := true } {} (.table scatteredFiles)

def scatteredSession : Session :=
  (Session.ofEngine scatteredEngine .own).after [.renderFile "page" {}]

theorem scattered_loads :
    ∃ written, scatteredSession.engine.Loads written ∧ written.origin = some "d/layout" := by
  obtain ⟨compiled, hcompiled⟩ :=
    exists_eq_ok (by decide +kernel : (scatteredSession.engine.compileFile "d/layout").1.isOk = true)
  have horigin : ((scatteredSession.engine.compileFile "d/layout").1.toOption.map
      (·.template.origin)) = some (some "d/layout") := by decide +kernel
  obtain ⟨after, hload⟩ := Engine.run_eq_ok.mp hcompiled
  rw [hcompiled] at horigin
  exact ⟨compiled.template, ⟨_, _, _, _, hload, rfl⟩, Option.some.inj horigin⟩

/-- The nodes of the layout do something else in the page, and the same in its neighbour. -/
theorem rendersAlike_scattered : ∃ written : Template,
    scatteredSession.engine.Loads written ∧ written.origin = some "d/layout" ∧
    written.ExtendsFrom scatteredSession.engine.env ∧
    ¬ scatteredSession.engine.settings.RendersAlike (some "page") written.origin ∧
    scatteredSession.engine.settings.RendersAlike (some "d/part") written.origin := by
  obtain ⟨written, hwritten, horigin⟩ := scattered_loads
  have hempty : scatteredEngine.store = {} := rfl
  have hpage := Session.rendersAlike_iff_samePlace hempty hwritten
    ⟨"page", some "page", none, .ready ⟨[], []⟩⟩
  have hpart := Session.rendersAlike_iff_samePlace hempty hwritten
    ⟨"d/part", some "d/part", none, .ready ⟨[], []⟩⟩
  refine ⟨written, hwritten, horigin, hpage.1, fun halike => ?_, hpart.2.mpr ?_⟩
  · have hplace := hpage.2.mp halike
    rw [horigin] at hplace
    exact absurd hplace (by unfold Environment.SamePlace; decide +kernel)
  · rw [horigin]
    unfold Environment.SamePlace
    decide +kernel

/-- The error that a rendering ends in. -/
def Engine.errorOf? : Except Fault String → Option TemplateError
  | .error (.error error) => some error
  | _ => none

theorem Engine.eq_error_of_errorOf? {result : Except Fault String} {error : TemplateError}
    (h : Engine.errorOf? result = some error) : result = .error (.error error) := by
  unfold Engine.errorOf? at h
  split at h <;> simp_all

/-- The name of the neighbour leads nowhere when the layout runs in the page. -/
theorem include_scattered :
    scatteredEngine.env.resolve "part" (some "d/layout") = .ok "d/part" ∧
    (scatteredEngine.renderFile "d/layout" {}).1 = .ok "inner" ∧
    (scatteredEngine.renderFile "page" {}).1 =
      .error (.error (.load "part" "Template not found: part")) := by
  refine ⟨rfl, ?_, Engine.eq_error_of_errorOf? (by decide +kernel)⟩
  exact (eq_ok_of_isOk (by decide +kernel) "").trans (congrArg Except.ok (by decide +kernel))

end Sample

end Stencil
