import Stencil.Proofs.Engine.Checked
import Stencil.Proofs.Node.Branches

/-!
Templates without alternatives. In the program of whatever compiles, by itself or over a layout, at once or
as late as it is rendered, conditions and loops have taken out all alternatives.
-/
namespace Stencil

namespace Template

/-- No alternative is left in the program, nor will one be if the template waits for its layout. -/
def Resolved (template : Template) : Prop :=
  match template.body with
  | .ready program => program.Resolved
  | .deferred _ _ tokens => Token.DividedAll false tokens
  | .failed _ => True

variable {template : Template}

theorem Resolved.program (h : template.Resolved) {program : Program} (hbody : template.body = .ready program) :
    program.Resolved := by
  unfold Resolved at h
  rwa [hbody] at h

theorem Resolved.tokens (h : template.Resolved) {layout : Expr} {line : Nat} {tokens : List Token}
    (hbody : template.body = .deferred layout line tokens) : Token.DividedAll false tokens := by
  unfold Resolved at h
  rwa [hbody] at h

end Template

/-- A template that compiles over a layout without alternatives has none. -/
theorem Environment.Built.resolved {env : Environment} {P : String → Template → Prop} {id source : String}
    {origin : Option String} {template : Template} (hlayouts : ∀ key layout, P key layout → layout.Resolved)
    (h : env.Built P id source origin template) : template.Resolved := by
  cases h with
  | alone htokens _ hprogram => exact Program.resolved_of_ofTokens rfl (Token.ofSource_divided htokens) hprogram
  | computed htokens => exact Token.ofSource_divided htokens
  | named htokens _ _ _ hparent hbody =>
    have hdivided := Token.ofSource_divided htokens
    rcases bodyOver_eq_ok hbody with ⟨layout, program, hready, hextend, rfl⟩ | ⟨_, _, _, -, -, rfl⟩
    · exact Program.resolved_of_extend rfl hdivided ((hlayouts _ _ hparent).program hready) hextend
    · exact hdivided

theorem Template.resolved_lasting : Lasting fun _ => Resolved where
  built hbuilt := hbuilt.resolved fun _ _ hlayout => hlayout.2
  failed hfailed := by
    unfold Resolved
    rw [hfailed]
    exact True.intro

namespace Program

variable {scope : Scope} {waiting : List (List Token)} {top program : Program}

/-- What waits for a layout without alternatives compiles to no others. -/
theorem resolved_of_stacked (hscope : scope.parent = none) (htop : top.Resolved)
    (hwaiting : ∀ tokens ∈ waiting, Token.DividedAll false tokens)
    (h : stacked scope top waiting = .ok program) : program.Resolved := by
  induction waiting generalizing program with
  | nil =>
    cases h
    exact htop
  | cons tokens waiting ih =>
    obtain ⟨htokens, hwaiting⟩ := List.forall_mem_cons.mp hwaiting
    obtain ⟨layout, hlayout, hextend⟩ := bind_eq_ok.mp h
    exact resolved_of_extend hscope htokens (ih hwaiting hlayout) hextend

end Program

/-- A program that is worked out while it is rendered has no alternatives. -/
theorem Template.resolved_of_program {env : Environment} {store after : Store} {template : Template}
    {program : Program} (hstore : store.Have Resolved) (htemplate : template.Resolved) {depth bound : Nat}
    {context : Context} {chain : List String}
    (h : template.program (Render.upToDepth depth) env context bound chain store = .ok program after) :
    program.Resolved := by
  rw [program_eq_lookUp] at h
  obtain ⟨found, between, hlook, hstacked⟩ := run_bind_eq_ok.mp h
  obtain ⟨⟨hwaiting, htop⟩, -⟩ := found_of_lookUp resolved_lasting
    (fun _ _ _ _ hresolved hbody => hresolved.tokens hbody)
    (fun _ _ hresolved hbody => hresolved.program hbody) htemplate hstore hlook
  cases hprogram : found.top.stacked env.scope found.waiting with
  | error error =>
    rw [hprogram] at hstacked
    cases hstacked
  | ok result =>
    rw [hprogram] at hstacked
    cases hstacked
    exact Program.resolved_of_stacked rfl htop hwaiting hprogram

namespace Session

/-- The branches of every condition and every loop are all that is compiled inside it, in its order, with one
alternative between any two of them and none inside of one. So no alternative is left anywhere in the program
of a source that compiles, by itself or at the lower end of any chain of layouts; nor in what any session
keeps or answers with. And over what it keeps no source compiles to a program with alternatives, no file
does, and none is worked out when a template is rendered that waited for its layout. -/
theorem alternatives_resolved :
    (∀ (scope : Scope) (start finish : Bool) (tag : LogicTag) (children : List Token) (nodes : List Node),
      tag.kind = .condition ∨ tag.kind = .loop →
      compileToken scope start finish (.logic tag children) = .ok nodes →
      ∃ node inner first branches, nodes = [node] ∧
        compileTokens scope tag.strip.start tag.strip.finish children = .ok inner ∧
        Parted inner first branches ∧ node.HasBranches first (branches.map Branch.entry)) ∧
    (∀ (scope : Scope) (chain : Chain) (program : Program), scope.parent = none →
      (∀ tokens ∈ chain, ∃ tags policy source, Token.ofSource tags policy source = .ok tokens) →
      Chain.Compiles scope chain program → program.Resolved) ∧
    (∀ (config : Config) (host : Host) (loader : Loader) (ownership : Ownership) (actions : List Action)
        (session : Session), session = (ofEngine (.new config host loader) ownership).after actions →
      session.engine.store.Have Template.Resolved ∧ ∀ action template sameAs,
        (session.step action).2 = .compiled template sameAs → template.Resolved) ∧
    ∀ (env : Environment) (store : Store), store.Have Template.Resolved →
      (∀ source options compiled after, Engine.compileSource env source options store = .ok compiled after →
        compiled.template.Resolved) ∧
      (∀ name from? compiled after, env.load name from? store = .ok compiled after →
        compiled.template.Resolved) ∧
      ∀ template : Template, template.Resolved → ∀ depth context bound chain program after,
        template.program (Render.upToDepth depth) env context bound chain store = .ok program after →
          program.Resolved := by
  refine ⟨?_, ?_, ?_, ?_⟩
  · intro scope start finish tag children nodes hkind hnodes
    refine branches_of_compileToken ?_ hnodes
    simpa [Tag.hasBranches] using hkind
  · intro scope chain program hscope hchain hcompiles
    refine hcompiles.resolved hscope fun tokens htokens => ?_
    obtain ⟨tags, policy, source, hsource⟩ := hchain tokens htokens
    exact Token.ofSource_divided hsource
  · intro config host loader ownership actions session hsession
    have hempty : (ofEngine (.new config host loader) ownership).engine.store.Have Template.Resolved :=
      Store.All.empty _
    exact Template.resolved_lasting.of_session hempty hsession
  · intro env store hstore
    refine ⟨?_, ?_, ?_⟩
    · intro source options compiled after hcompiles
      exact (Keeps.ok (Template.resolved_lasting.keeps_compileSource env source options) hstore hcompiles).1
    · intro name from? compiled after hloads
      exact (Keeps.ok (Template.resolved_lasting.keeps_load env name from?) hstore hloads).1.2
    · intro template htemplate depth context bound chain program after hprogram
      exact Template.resolved_of_program hstore htemplate hprogram

section Sample

/-- A page over the frame, with a choice of three branches inside a loop of two. -/
def branchedPage : String :=
  "\x7b% extends \"frame\" %\x7d\x7b% block b %\x7d\x7b% for x in xs %\x7d\x7b% if x %\x7da" ++
    "\x7b% elseif y %\x7db\x7b% else %\x7dc\x7b% endif %\x7d\x7b% else %\x7dd\x7b% endfor %\x7d" ++
    "\x7b% endblock %\x7d"

def branchedSession : Session := ofEngine (.new {} {} frameLoader) .own

/-- The condition of a choice, and what stands inside it. -/
def sampleCondition : LogicTag :=
  { name := "if", kind := .condition, arguments := "x", words := ["x"], line := 1, parents := [], strip := {} }

def sampleChildren : List Token :=
  [.literal "a",
    .logic { sampleCondition with name := "else", kind := .alternative, arguments := "", words := [] } [],
    .literal "b"]

/-- A choice of three branches inside a loop of two. -/
def branchedBody : List Node :=
  [.loop none "x" (.path "xs" []) [.choice [(.path "x" [], [.text "a"]), (.path "y" [], [.text "b"])]
    [.text "c"]] [.text "d"]]

/-- Whether the page compiled, to such a body of its block. -/
def isBranched : Answer → Bool
  | .compiled ⟨_, _, _, .ready ⟨_, [("b", [.loop none "x" (.path "xs" []) [.choice
      [(.path "x" [], [.text "a"]), (.path "y" [], [.text "b"])] [.text "c"]] [.text "d"]])]⟩⟩ _ => true
  | _ => false

theorem exists_of_isBranched {answer : Answer} (h : isBranched answer = true) :
    ∃ template sameAs program, answer = .compiled template sameAs ∧ template.body = .ready program ∧
      program.blocks = [("b", branchedBody)] := by
  unfold isBranched at h
  split at h
  · exact ⟨_, _, _, rfl, rfl, rfl⟩
  · cases h

theorem alternatives_resolved_branched :
    (∃ template sameAs program,
      (branchedSession.step (.compile "h" branchedPage {})).2 = .compiled template sameAs ∧
      template.body = .ready program ∧ program.blocks = [("b", branchedBody)] ∧ program.Resolved) ∧
    compileToken branchedSession.engine.env.scope false false (.logic sampleCondition sampleChildren) =
        .ok [.choice [(.path "x" [], [.text "a"])] [.text "b"]] ∧
      compileTokens branchedSession.engine.env.scope false false sampleChildren =
        .ok [.text "a", .alternative none 1, .text "b"] ∧
      Parted [.text "a", .alternative none 1, .text "b"] [.text "a"] [⟨none, 1, [.text "b"]⟩] ∧
      (Node.choice [(.path "x" [], [.text "a"])] [.text "b"]).HasBranches [.text "a"]
        [(none, [.text "b"])] := by
  obtain ⟨hbranches, -, hsessions, -⟩ := alternatives_resolved
  constructor
  · obtain ⟨-, hcompiled⟩ := hsessions {} {} frameLoader .own [] branchedSession rfl
    obtain ⟨template, sameAs, program, hanswer, hbody, hblocks⟩ := exists_of_isBranched (by decide +kernel :
      isBranched (branchedSession.step (.compile "h" branchedPage {})).2 = true)
    exact ⟨template, sameAs, program, hanswer, hbody, hblocks, (hcompiled _ _ _ hanswer).program hbody⟩
  · have hchoice : compileToken branchedSession.engine.env.scope false false
        (.logic sampleCondition sampleChildren) =
          .ok [.choice [(.path "x" [], [.text "a"])] [.text "b"]] := by
      with_unfolding_all rfl
    have hchildren : compileTokens branchedSession.engine.env.scope false false sampleChildren =
        .ok [.text "a", .alternative none 1, .text "b"] := by
      with_unfolding_all rfl
    obtain ⟨node, inner, first, branches, hnode, hinner, hparted, hbranches⟩ :=
      hbranches _ _ _ _ _ _ (Or.inl rfl) hchoice
    cases hnode
    cases hchildren.symm.trans hinner
    cases parted_iff.mp hparted
    exact ⟨hchoice, hchildren, hparted, hbranches⟩

end Sample

end Session

end Stencil
