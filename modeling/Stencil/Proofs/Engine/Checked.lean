import Stencil.Proofs.Engine.Kept
import Stencil.Proofs.Engine.Lasting
import Stencil.Proofs.Inheritance.Checks

/-!
Templates that wait for their layouts. All of them were checked when they were compiled, so what a template
brings to its layout compiles over any of them: working out its program fails only where looking up its
layouts does, as long as filters and tags stay the same.
-/
namespace Stencil

namespace Program

variable {scope : Scope} {tokens : List Token}

/-- Where a check fails the template fails over every layout, with the same error. -/
theorem check_eq_error (layout : Program) (error : TemplateError) :
    check scope tokens = .error error ↔ extend scope tokens layout = .error error := by
  have hsame : ending (check scope tokens) = ending (extend scope tokens layout) :=
    (ending_extend tokens layout).symm
  cases hcheck : check scope tokens with
  | ok _ =>
    rw [hcheck] at hsame
    obtain ⟨program, hprogram⟩ := ending_eq_ok.mp hsame.symm
    rw [hprogram]
    exact ⟨nofun, nofun⟩
  | error other =>
    rw [hcheck] at hsame
    cases hextend : extend scope tokens layout with
    | ok program =>
      rw [hextend] at hsame
      cases hsame
    | error found =>
      rw [hextend] at hsame
      cases hsame
      constructor <;> rintro ⟨⟩ <;> rfl

/-- Templates one over the other, the lowest first, over a program that is known. -/
def stacked (scope : Scope) (top : Program) : List (List Token) → Except TemplateError Program
  | [] => .ok top
  | tokens :: waiting => stacked scope top waiting >>= extend scope tokens

/-- Templates that pass their checks compile one over the other. -/
theorem exists_stacked {waiting : List (List Token)} (h : ∀ tokens ∈ waiting, check scope tokens = .ok ())
    (top : Program) : ∃ program, stacked scope top waiting = .ok program := by
  induction waiting with
  | nil => exact ⟨top, rfl⟩
  | cons tokens waiting ih =>
    obtain ⟨htokens, hwaiting⟩ := List.forall_mem_cons.mp h
    obtain ⟨layout, hlayout⟩ := ih hwaiting
    obtain ⟨program, hprogram⟩ := (check_eq_ok layout).mp htokens
    exact ⟨program, bind_eq_ok.mpr ⟨layout, hlayout, hprogram⟩⟩

end Program

/-- What looking up the layouts of a template finds: the templates that wait for theirs, the lowest first,
and the program of the first one that does not. -/
structure LookedUp where
  waiting : List (List Token)
  top : Program

namespace Template

variable {jump : Jump} {env : Environment} {context : Context} {template : Template}

/-- A template that waits for its layout has passed its check. -/
def Checked (scope : Scope) (template : Template) : Prop :=
  ∀ layout line tokens, template.body = .deferred layout line tokens → Program.check scope tokens = .ok ()

/-- Look up the layouts of a template, and compile nothing over them. -/
def lookUp (jump : Jump) (env : Environment) (context : Context) :
    Nat → List String → Template → EvalM LookedUp
  | bound, chain, template =>
    match template.body with
    | .ready program => return ⟨[], program⟩
    | .failed error => LoadM.fail error
    | .deferred name line tokens => do
      let parent ← template.layout jump env context chain name line
      match bound with
      | 0 => throw .tooDeep
      | bound + 1 =>
        let found ← lookUp jump env context bound (chain ++ [parent.id]) parent
        return ⟨tokens :: found.waiting, found.top⟩

section LookUp

variable (jump : Jump) (env : Environment) (context : Context) (bound : Nat) (chain : List String)

theorem lookUp_ready {program : Program} (h : template.body = .ready program) :
    template.lookUp jump env context bound chain = return ⟨[], program⟩ := by
  rw [Template.lookUp.eq_def]
  dsimp only
  rw [h]

theorem lookUp_failed {error : TemplateError} (h : template.body = .failed error) :
    template.lookUp jump env context bound chain = LoadM.fail error := by
  rw [Template.lookUp.eq_def]
  dsimp only
  rw [h]

theorem lookUp_deferred {name : Expr} {line : Nat} {tokens : List Token}
    (h : template.body = .deferred name line tokens) :
    template.lookUp jump env context bound chain =
      template.layout jump env context chain name line >>= fun parent =>
        match bound with
        | 0 => throw .tooDeep
        | bound + 1 =>
          parent.lookUp jump env context bound (chain ++ [parent.id]) >>= fun found =>
            return ⟨tokens :: found.waiting, found.top⟩ := by
  rw [Template.lookUp.eq_def]
  dsimp only
  rw [h]

end LookUp

/-- The program is worked out by looking up all layouts first, and compiling over them afterwards. -/
theorem program_eq_lookUp (jump : Jump) (env : Environment) (context : Context) (bound : Nat)
    (chain : List String) (template : Template) :
    template.program jump env context bound chain =
      template.lookUp jump env context bound chain >>= fun found =>
        LoadM.ofExcept (found.top.stacked env.scope found.waiting) := by
  induction bound using Nat.strongRecOn generalizing chain template with
  | _ bound ih =>
    cases hbody : template.body with
    | ready program =>
      rw [program_ready _ _ _ _ _ hbody, lookUp_ready _ _ _ _ _ hbody]
      rfl
    | failed error =>
      rw [program_failed _ _ _ _ _ hbody, lookUp_failed _ _ _ _ _ hbody]
      rfl
    | deferred name line tokens =>
      rw [program_deferred _ _ _ _ _ hbody, lookUp_deferred _ _ _ _ _ hbody, bind_assoc]
      congr 1
      funext parent
      cases bound with
      | zero => rfl
      | succ bound =>
        dsimp only
        rw [ih bound (Nat.lt_succ_self bound), bind_assoc, bind_assoc]
        congr 1
        funext found
        rw [pure_bind]
        dsimp only [Program.stacked]
        cases found.top.stacked env.scope found.waiting <;> rfl

end Template

/-- All templates that are kept have compiled, and passed their checks if they wait for layouts. -/
def Store.Checked (scope : Scope) (store : Store) : Prop :=
  store.All fun _ template => template.Settled ∧ template.Checked scope

namespace Environment

variable {env : Environment} {P : String → Template → Prop} {id source : String} {origin : Option String}
  {template : Template}

/-- A template that waits for its layout was checked when it was compiled. -/
theorem Built.checked (h : env.Built P id source origin template) : template.Checked env.scope := by
  intro layout line tokens hbody
  cases h with
  | alone htokens hlayout hprogram => cases hbody
  | computed htokens hlayout hcheck =>
    cases hbody
    exact hcheck
  | named htokens hlayout hkey hne hparent hbodyOver =>
    rcases bodyOver_eq_ok hbodyOver with ⟨_, _, -, -, rfl⟩ | ⟨_, _, _, -, hcheck, rfl⟩
    · cases hbody
    · cases hbody
      exact hcheck

end Environment

theorem Template.checked_lasting : Lasting Checked where
  built hbuilt := hbuilt.checked
  failed hfailed layout line tokens hbody := by
    rw [hfailed] at hbody
    cases hbody

namespace Template

variable {env : Environment} {jump : Jump}

section Found

variable {P : Scope → Template → Prop} {W : List Token → Prop} {T : Program → Prop} (hlasting : Lasting P)
  (hwaits : ∀ template layout line tokens, P env.scope template → template.body = .deferred layout line tokens →
    W tokens)
  (hready : ∀ template program, P env.scope template → template.body = .ready program → T program)

include hlasting hwaits hready

/-- What a lasting property tells of templates is known of those that are found. -/
theorem keeps_lookUp (h : Guarantee.vacuous.Alike (EqualWith (Store.Have (P env.scope))) (fun _ _ => True)
      env env jump jump) (context : Context) (bound : Nat) (chain : List String) {template : Template}
    (htemplate : P env.scope template) :
    Agree (EqualWith (Store.Have (P env.scope))) (Fault.Alike fun _ _ => True)
      (EqualWith fun found => (∀ tokens ∈ found.waiting, W tokens) ∧ T found.top)
      (template.lookUp jump env context bound chain) (template.lookUp jump env context bound chain) := by
  induction bound using Nat.strongRecOn generalizing chain template with
  | _ bound ih =>
    cases hbody : template.body with
    | ready program =>
      rw [lookUp_ready _ _ _ _ _ hbody]
      exact Agree.pure ⟨rfl, List.forall_mem_nil _, hready template program htemplate hbody⟩
    | failed error =>
      rw [lookUp_failed _ _ _ _ _ hbody]
      exact Agree.throw True.intro
    | deferred name line tokens =>
      rw [lookUp_deferred _ _ _ _ _ hbody]
      have hparents : ∀ name from?, Keeps (Store.Have (P env.scope))
          (fun compiled => P env.scope compiled.template) (env.load name from?) := fun name from? =>
        (hlasting.keeps_load env name from?).mono fun _ _ hab => ⟨hab.1, hab.2.2⟩
      refine (h.layout hparents (Guarantee.knownContext_vacuous context) chain template name line).bindWith
        fun parent hparent => ?_
      cases bound with
      | zero => exact Agree.throw True.intro
      | succ bound =>
        refine (ih bound (Nat.lt_succ_self bound) (chain ++ [parent.id]) hparent).bindWith
          fun found hfound => ?_
        have htokens := hwaits template name line tokens htemplate hbody
        exact Agree.pure ⟨rfl, List.forall_mem_cons.mpr ⟨htokens, hfound.1⟩, hfound.2⟩

theorem found_of_lookUp {template : Template} (htemplate : P env.scope template) {store after : Store}
    (hstore : store.Have (P env.scope)) {depth bound : Nat} {context : Context} {chain : List String}
    {found : LookedUp}
    (hlook : template.lookUp (Render.upToDepth depth) env context bound chain store = .ok found after) :
    ((∀ tokens ∈ found.waiting, W tokens) ∧ T found.top) ∧ after.Have (P env.scope) := by
  have halike := Guarantee.vacuous_covers.alike (E := fun _ _ => True) (hlasting.loadsKnown env)
    (Or.inr fun _ => True.intro) (fun _ => True.intro) depth
  have hkeeps := keeps_lookUp hlasting hwaits hready halike context bound chain htemplate
  have hfound := Keeps.ok hkeeps hstore hlook
  exact hfound

end Found

/-- The program of a template is worked out as its layouts are looked up: it fails where they are not found,
with the same error, and otherwise all that waits for a layout compiles. -/
structure ProgramFound (env : Environment) (look : EStateM.Result Fault Store LookedUp)
    (run : EStateM.Result Fault Store Program) : Prop where
  fails : ∀ fault after, run = .error fault after ↔ look = .error fault after
  compiles : ∀ found after, look = .ok found after → after.Checked env.scope ∧
    ∃ program, found.top.stacked env.scope found.waiting = .ok program ∧ run = .ok program after

theorem programFound {template : Template} (htemplate : template.Checked env.scope) {store : Store}
    (hstore : store.Checked env.scope) (depth : Nat) (context : Context) (bound : Nat) (chain : List String) :
    ProgramFound env (template.lookUp (Render.upToDepth depth) env context bound chain store)
      (template.program (Render.upToDepth depth) env context bound chain store) := by
  rw [program_eq_lookUp]
  cases hlook : template.lookUp (Render.upToDepth depth) env context bound chain store with
  | error fault after =>
    rw [run_bind_of_error hlook]
    exact ⟨fun _ _ => by simp, nofun⟩
  | ok found after =>
    obtain ⟨⟨hfound, -⟩, hafter⟩ := found_of_lookUp (T := fun _ => True) checked_lasting
      (fun _ _ _ _ hchecked hbody => hchecked _ _ _ hbody) (fun _ _ _ _ => True.intro) htemplate hstore hlook
    obtain ⟨program, hprogram⟩ := Program.exists_stacked hfound found.top
    rw [run_bind_of_ok hlook, hprogram]
    refine ⟨fun _ _ => ⟨nofun, nofun⟩, ?_⟩
    rintro _ _ ⟨⟩
    exact ⟨hafter, program, hprogram, rfl⟩

end Template

namespace Session

variable {session : Session}

theorem checked_after (h : session.engine.store.Checked session.engine.env.scope) (actions : List Action) :
    (session.after actions).engine.store.Checked (session.after actions).engine.env.scope :=
  Template.checked_lasting.after h actions

theorem checked_of_step (h : session.engine.store.Checked session.engine.env.scope) {action : Action}
    {template : Template} {sameAs : List String}
    (hanswer : (session.step action).2 = .compiled template sameAs) :
    template.Checked session.engine.env.scope :=
  Template.checked_lasting.of_step h hanswer

/-- A template compiles over all layouts or over none, as its check foretells, and where it fails the error
is that of the check. So what a session compiles, whatever it did before, and what it keeps, has passed its
check if it waits for its layout; and when its program is worked out under the same filters and tags, nothing
fails but the look-up of the layouts, whichever these are. -/
theorem check_foretells :
    (∀ (scope : Scope) (tokens : List Token) (layout : Program),
      (Program.check scope tokens = .ok () ↔ ∃ program, Program.extend scope tokens layout = .ok program) ∧
      ∀ error, Program.check scope tokens = .error error ↔
        Program.extend scope tokens layout = .error error) ∧
    (∀ (config : Config) (host : Host) (loader : Loader) (ownership : Ownership) (actions : List Action)
        (session : Session), session = (ofEngine (.new config host loader) ownership).after actions →
      session.engine.store.Checked session.engine.env.scope ∧
      ∀ action template sameAs, (session.step action).2 = .compiled template sameAs →
        template.Checked session.engine.env.scope) ∧
    ∀ (env : Environment) (store : Store) (template : Template), store.Checked env.scope →
      template.Checked env.scope → ∀ depth context bound chain,
        Template.ProgramFound env (template.lookUp (Render.upToDepth depth) env context bound chain store)
          (template.program (Render.upToDepth depth) env context bound chain store) := by
  refine ⟨fun scope tokens layout => ⟨Program.check_eq_ok layout, Program.check_eq_error layout⟩, ?_, ?_⟩
  · intro config host loader ownership actions session hsession
    have hempty : (ofEngine (.new config host loader) ownership).engine.store.Checked
        (ofEngine (.new config host loader) ownership).engine.env.scope := Store.All.empty _
    have hstore : session.engine.store.Checked session.engine.env.scope :=
      hsession ▸ checked_after hempty actions
    exact ⟨hstore, fun action template sameAs => checked_of_step hstore⟩
  · intro env store template hstore htemplate depth context bound chain
    exact Template.programFound htemplate hstore depth context bound chain

section Sample

/-- A page over a layout that the context names. -/
def waitingPage : String :=
  "\x7b% extends name %\x7d\x7b% block b %\x7d\x7b% parent %\x7dx\x7b% endblock %\x7d"

def waitingSession : Session := ofEngine (.new {} {} frameLoader) .own

def framedContext : Context := { bindings := [("name", .string "frame")] }

/-- The layouts of a template, looked up in the sample. -/
def looksUp (template : Template) : EStateM.Result Fault Store LookedUp :=
  template.lookUp (Render.upToDepth Render.depthLimit) waitingSession.engine.env framedContext 1 []
    waitingSession.engine.store

/-- Whether the answer is a template of which the layouts are found. -/
def findsLayouts : Answer → Bool
  | .compiled template _ =>
    !template.isReady &&
      match looksUp template with
      | .ok .. => true
      | .error .. => false
  | _ => false

/-- The page waits for its layout, has passed its check, and compiles over the frame. -/
theorem check_foretells_waiting :
    ∃ template sameAs found program after,
      (waitingSession.step (.compile "h" waitingPage {})).2 = .compiled template sameAs ∧
      template.isReady = false ∧ looksUp template = .ok found after ∧
      found.top.stacked waitingSession.engine.env.scope found.waiting = .ok program ∧
      template.program (Render.upToDepth Render.depthLimit) waitingSession.engine.env framedContext 1 []
        waitingSession.engine.store = .ok program after := by
  obtain ⟨-, hcompiles, hprograms⟩ := check_foretells
  obtain ⟨hstore, hchecked⟩ := hcompiles {} {} frameLoader .own [] waitingSession rfl
  have hfinds : findsLayouts (waitingSession.step (.compile "h" waitingPage {})).2 = true := by
    decide +kernel
  cases hanswer : (waitingSession.step (.compile "h" waitingPage {})).2 with
  | compiled template sameAs =>
    rw [hanswer] at hfinds
    obtain ⟨hwaits, hlook⟩ := (Bool.and_eq_true _ _).mp hfinds
    have htemplate := hchecked _ template sameAs hanswer
    have hfound := hprograms _ _ template hstore htemplate Render.depthLimit framedContext 1 []
    split at hlook
    · rename_i found after hrun
      obtain ⟨-, program, hstacked, hprogram⟩ := hfound.compiles found after hrun
      exact ⟨template, sameAs, found, program, after, rfl, by simpa using hwaits, hrun, hstacked, hprogram⟩
    · cases hlook
  | _ =>
    rw [hanswer] at hfinds
    cases hfinds

end Sample

end Session

end Stencil
