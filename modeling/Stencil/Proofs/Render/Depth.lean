import Stencil.Proofs.Render.Visits

/-!
How deep names are followed into each other. A renderer with more room does what one with less room does,
wherever that one has enough. All that renders is built from a few combinators that keep this, in frames that
may differ in their blocks, as expressions do not look at these.
-/
namespace Stencil

namespace Deepens

variable {σ α β : Type} {m m' m'' : EStateM Fault σ α}

theorem evaluate {eval eval' : Context → EvalM α}
    (h : ∀ context, Deepens (eval context) (eval' context)) :
    Deepens (RenderM.evaluate eval) (RenderM.evaluate eval') := by
  intro state
  unfold RenderM.evaluate
  rcases h state.context state.store with ⟨t, hdeep⟩ | hsame
  · rw [hdeep]
    exact Or.inl ⟨_, rfl⟩
  · rw [hsame]
    exact Or.inr rfl

theorem inside {render render' : RenderM α} (scope : Context) (h : Deepens render render') :
    Deepens (RenderM.inside scope render) (RenderM.inside scope render') := by
  intro store
  unfold RenderM.inside
  rcases h ⟨scope, store⟩ with ⟨t, hdeep⟩ | hsame
  · rw [hdeep]
    exact Or.inl ⟨_, rfl⟩
  · rw [hsame]
    exact Or.inr rfl

theorem thenChange {render render' : RenderM α} (h : Deepens render render') (change : Context → Context) :
    Deepens (render.thenChange change) (render'.thenChange change) := by
  intro state
  unfold RenderM.thenChange
  rcases h state with ⟨t, hdeep⟩ | hsame
  · rw [hdeep]
    exact Or.inl ⟨_, rfl⟩
  · rw [hsame]
    exact Or.inr rfl

/-- No error is made up for that comes of going too deep. -/
theorem orElse {render render' : RenderM α} (h : Deepens render render')
    (recover : TemplateError → RenderM α) : Deepens (render.orElse recover) (render'.orElse recover) := by
  intro state
  unfold RenderM.orElse
  rcases h state with ⟨t, hdeep⟩ | hsame
  · rw [hdeep]
    exact Or.inl ⟨_, rfl⟩
  · rw [hsame]
    exact Or.inr rfl

theorem binary (op : BinaryOp) {left left' right right' : EvalM Value} (hleft : Deepens left left')
    (hright : Deepens right right') : Deepens (Eval.binary op left right) (Eval.binary op left' right') := by
  unfold Eval.binary
  refine hleft.bind fun value => ?_
  cases op with
  | and | or =>
    dsimp only
    split
    · first | exact hright | exact .refl _
    · first | exact hright | exact .refl _
  | _ => exact hright.bindPure _

end Deepens

/-- Renderers of the macros that are called in one frame, the second one with other blocks. -/
def MacrosDeepen (jump jump' : Jump) (frame : Frame) (blocks : Blocks) : Prop :=
  ∀ body, Deepens (jump { frame with macroDepth := frame.macroDepth + 1 } body)
    (jump' { frame with blocks, macroDepth := frame.macroDepth + 1 } body)

namespace MacrosDeepen

variable {jump jump' : Jump} {frame : Frame} {blocks : Blocks} (context : Context)

theorem callMacro (h : MacrosDeepen jump jump' frame blocks) (name : String) (parameters : List String)
    (body : List Node) (arguments : List Value) :
    Deepens (Eval.callMacro jump frame context name parameters body arguments)
      (Eval.callMacro jump' { frame with blocks } context name parameters body arguments) := by
  unfold Eval.callMacro
  dsimp only
  split
  · exact .refl _
  · exact ((h body).inside _).bindPure _

theorem call (h : MacrosDeepen jump jump' frame blocks) (name? : Option String)
    {lookup lookup' : EvalM Value} {arguments arguments' : EvalM (List Value)} (hlookup : Deepens lookup lookup')
    (harguments : Deepens arguments arguments') :
    Deepens (Eval.call jump frame context name? lookup arguments)
      (Eval.call jump' { frame with blocks } context name? lookup' arguments') := by
  have hnative (name : String) (function : NativeFunction) :
      Deepens (do return (⟨← Eval.native name function (← arguments), false⟩ : Eval.Called))
        (do return ⟨← Eval.native name function (← arguments'), false⟩) :=
    harguments.bind fun values => .refl _
  unfold Eval.call
  cases name? with
  | none => exact hlookup.bindPure _
  | some name =>
    dsimp only
    cases Fields.get? context.callables name with
    | some callable =>
      cases callable with
      | macroBody macroName parameters body =>
        exact harguments.bind fun values => (h.callMacro context macroName parameters body values).bindPure _
      | native function => exact hnative name function
    | none =>
      dsimp only
      cases Fields.get? frame.env.settings.functions name with
      | some function => exact hnative name function
      | none => exact hlookup.bindPure _

mutual

theorem expr (h : MacrosDeepen jump jump' frame blocks) (e : Expr) :
    Deepens (Eval.expr jump frame context e) (Eval.expr jump' { frame with blocks } context e) := by
  match e with
  | .literal value => exact .refl _
  | .path root steps => exact chain h root steps
  | .call root steps arguments =>
    simp only [Eval.expr]
    exact (h.call context _ (chain h root steps) (exprs h arguments)).bindPure _
  | .array items =>
    simp only [Eval.expr]
    exact (exprs h items).bindPure _
  | .object fields =>
    simp only [Eval.expr]
    exact (members h fields).bindPure _
  | .filtered base filters =>
    simp only [Eval.expr]
    exact (expr h base).bind fun value => through h filters value
  | .not operand =>
    simp only [Eval.expr]
    exact (expr h operand).bindPure _
  | .binary op left right =>
    simp only [Eval.expr]
    exact (expr h left).binary op (expr h right)

theorem exprs (h : MacrosDeepen jump jump' frame blocks) (items : List Expr) :
    Deepens (Eval.exprs jump frame context items) (Eval.exprs jump' { frame with blocks } context items) := by
  match items with
  | [] => exact .refl _
  | e :: rest =>
    simp only [Eval.exprs]
    exact (expr h e).bind fun value => (exprs h rest).bindPure _

theorem members (h : MacrosDeepen jump jump' frame blocks) (fields : List (String × Expr)) :
    Deepens (Eval.members jump frame context fields) (Eval.members jump' { frame with blocks } context fields) := by
  match fields with
  | [] => exact .refl _
  | (name, e) :: rest =>
    simp only [Eval.members]
    exact (expr h e).bind fun value => (members h rest).bindPure _

theorem keys (h : MacrosDeepen jump jump' frame blocks) (steps : List Step) :
    Deepens (Eval.keys jump frame context steps) (Eval.keys jump' { frame with blocks } context steps) := by
  match steps with
  | [] => exact .refl _
  | .key key :: rest =>
    simp only [Eval.keys]
    exact (keys h rest).bindPure _
  | .index e :: rest =>
    simp only [Eval.keys]
    exact (expr h e).bind fun value => (keys h rest).bindPure _

theorem chain (h : MacrosDeepen jump jump' frame blocks) (root : String) (steps : List Step) : Deepens
    (do
      let keys ← Eval.keys jump frame context steps
      return Eval.find frame.env.settings.globals context root keys)
    (do
      let keys ← Eval.keys jump' { frame with blocks } context steps
      return Eval.find frame.env.settings.globals context root keys) :=
  (keys h steps).bindPure _

theorem through (h : MacrosDeepen jump jump' frame blocks) (calls : List FilterCall) (value : Value) :
    Deepens (Eval.through jump frame context calls value)
      (Eval.through jump' { frame with blocks } context calls value) := by
  match calls with
  | [] => exact .refl _
  | .mk name filter arguments :: rest =>
    simp only [Eval.through]
    exact (exprs h arguments).bind fun values => through h rest (filter value values)

end

theorem printed (h : MacrosDeepen jump jump' frame blocks) (e : Expr) :
    Deepens (Eval.output jump frame context e) (Eval.output jump' { frame with blocks } context e) := by
  cases e with
  | call root steps arguments =>
    exact h.call context _ (h.chain context root steps) (h.exprs context arguments)
  | _ => exact (h.expr context _).bindPure _

end MacrosDeepen

/-- Renderers of the names in one frame, the second one with other blocks. -/
structure DeepensAt (jump jump' : Jump) (frame : Frame) (blocks : Blocks) : Prop where
  macros : MacrosDeepen jump jump' frame blocks
  included : ∀ name scope, Deepens (Render.included jump frame name scope)
    (Render.included jump' { frame with blocks } name scope)
  imported : ∀ name, Deepens (Render.imported jump frame name)
    (Render.imported jump' { frame with blocks } name)

namespace DeepensAt

variable {jump jump' : Jump} {frame : Frame} {blocks : Blocks}

section Nodes

theorem turns {body body' : RenderM String} (hbody : Deepens body body') (key : Option String) (item : String)
    (length : Nat) (index : Nat) (all : List (Value × Value)) :
    Deepens (Render.turns key item length body index all) (Render.turns key item length body' index all) := by
  induction all generalizing index with
  | nil => exact .refl _
  | cons entry rest ih =>
    simp only [Render.turns]
    exact (Deepens.refl _).bind fun _ => hbody.bind fun text => (ih (index + 1)).bindPure _

theorem loop {source source' : Context → EvalM Value} {body body' empty empty' : RenderM String}
    (hsource : ∀ context, Deepens (source context) (source' context)) (hbody : Deepens body body')
    (hempty : Deepens empty empty') (key : Option String) (item : String) :
    Deepens (Render.loop key item source body empty) (Render.loop key item source' body' empty') := by
  unfold Render.loop
  refine (Deepens.evaluate hsource).bind fun value => ?_
  cases Render.entries value with
  | nil => exact hempty
  | cons entry rest =>
    exact (Deepens.refl _).bind fun before => (turns hbody key item _ 0 (entry :: rest)).thenChange _

variable (h : DeepensAt jump jump' frame blocks)

include h

theorem output (e : Expr) (filters : List FilterCall) (escape : Option EscapeKind) :
    Deepens (Render.output jump frame e filters escape)
      (Render.output jump' { frame with blocks } e filters escape) := by
  unfold Render.output
  refine (Deepens.evaluate fun context => h.macros.printed context e).bind fun called => ?_
  refine (Deepens.evaluate fun context => ?_).bind fun value => .refl _
  exact h.macros.through context filters called.value

theorem filter (call : Option FilterCall) {body body' : RenderM String} (hbody : Deepens body body') :
    Deepens (Render.filter jump frame call body) (Render.filter jump' { frame with blocks } call body') := by
  unfold Render.filter
  refine hbody.bind fun text => ?_
  cases call with
  | none => exact .refl _
  | some call =>
    refine (Deepens.evaluate fun context => ?_).bindPure _
    exact h.macros.through context [call] (.string text)

theorem host (name : String) (tag : HostTag) (arguments : List Expr) {body body' : RenderM String}
    (hbody : Deepens body body') :
    Deepens (Render.host jump frame name tag arguments body)
      (Render.host jump' { frame with blocks } name tag arguments body') := by
  rw [Guarantee.host_eq, Guarantee.host_eq]
  refine (Deepens.evaluate fun context => h.macros.exprs context arguments).bind fun values => ?_
  refine Deepens.bind ?_ fun rendered => .refl _
  split
  · exact hbody.map some
  · exact .refl _

theorem inclusionScope (scope : Option Expr) (only : Bool) (context : Context) :
    Deepens (Render.inclusionScope jump frame scope only context)
      (Render.inclusionScope jump' { frame with blocks } scope only context) := by
  unfold Render.inclusionScope
  cases scope with
  | none => exact .refl _
  | some e => exact (h.macros.expr context e).bind fun value => .refl _

theorem inclusion (template : Expr) (ignoreMissing : Bool) (scope : Option Expr) (only : Bool) :
    Deepens (Render.inclusion jump frame template ignoreMissing scope only)
      (Render.inclusion jump' { frame with blocks } template ignoreMissing scope only) := by
  unfold Render.inclusion
  refine (Deepens.evaluate fun context => h.macros.expr context template).bind fun name => ?_
  refine (Deepens.evaluate fun context => h.inclusionScope scope only context).bind fun start => ?_
  have hrendered : Deepens (RenderM.evaluate fun _ => Render.included jump frame name.display start)
      (RenderM.evaluate fun _ => Render.included jump' { frame with blocks } name.display start) :=
    .evaluate fun _ => h.included name.display start
  dsimp only
  split
  · exact hrendered.orElse _
  · exact hrendered

theorem importation (template : Expr) (space : String) :
    Deepens (Render.importation jump frame template space)
      (Render.importation jump' { frame with blocks } template space) := by
  unfold Render.importation
  refine (Deepens.evaluate fun context => h.macros.expr context template).bind fun name => ?_
  exact (Deepens.evaluate fun _ => h.imported name.display).bind fun imports => .refl _

end Nodes

/-- Blocks that are rendered alike. -/
def BlocksDeepen (jump jump' : Jump) (frame : Frame) (blocks : Blocks) (known : String → Prop) : Prop :=
  ∀ name, known name →
    Deepens (Render.node jump frame (.block name)) (Render.node jump' { frame with blocks } (.block name))

variable {known : String → Prop}

mutual

/-- Of the blocks only those matter that the nodes h hknown ask for. -/
theorem node (h : DeepensAt jump jump' frame blocks)
    (hknown : BlocksDeepen jump jump' frame blocks known) (n : Node)
    (hblocks : ∀ name, .block name ∈ Node.parts n → known name) :
    Deepens (Render.node jump frame n) (Render.node jump' { frame with blocks } n) := by
  match n with
  | .text text => exact .refl _
  | .output e filters escape => exact h.output e filters escape
  | .choice branches otherwise =>
    simp only [Node.parts, List.mem_cons, List.mem_append, or_imp, forall_and] at hblocks
    exact choice h hknown branches hblocks.2.1 (nodes h hknown otherwise hblocks.2.2)
  | .loop key item source body empty =>
    simp only [Node.parts, List.mem_cons, List.mem_append, or_imp, forall_and] at hblocks
    have hsource (context : Context) := h.macros.expr context source
    exact loop hsource (nodes h hknown body hblocks.2.1) (nodes h hknown empty hblocks.2.2) key item
  | .assign name value =>
    exact (Deepens.evaluate fun context => h.macros.expr context value).bind fun result => .refl _
  | .filter call body =>
    simp only [Node.parts, List.mem_cons, or_imp, forall_and] at hblocks
    exact h.filter call (nodes h hknown body hblocks.2)
  | .define name parameters body => exact .refl _
  | .inclusion template ignoreMissing scope only => exact h.inclusion template ignoreMissing scope only
  | .importation template space => exact h.importation template space
  | .block name => exact hknown name (hblocks name (Node.mem_parts_self _))
  | .fragment body =>
    simp only [Node.parts, List.mem_cons, or_imp, forall_and] at hblocks
    exact nodes h hknown body hblocks.2
  | .group body =>
    simp only [Node.parts, List.mem_cons, or_imp, forall_and] at hblocks
    exact nodes h hknown body hblocks.2
  | .host name tag arguments body =>
    simp only [Node.parts, List.mem_cons, or_imp, forall_and] at hblocks
    exact h.host name tag arguments (nodes h hknown body hblocks.2)
  | .alternative condition line => exact .refl _

theorem nodes (h : DeepensAt jump jump' frame blocks)
    (hknown : BlocksDeepen jump jump' frame blocks known) (list : List Node)
    (hblocks : ∀ name, .block name ∈ Node.partsOf list → known name) :
    Deepens (Render.nodes jump frame list) (Render.nodes jump' { frame with blocks } list) := by
  match list with
  | [] => exact .refl _
  | first :: rest =>
    simp only [Node.partsOf_cons, List.mem_append, or_imp, forall_and] at hblocks
    simp only [Render.nodes]
    exact (node h hknown first hblocks.1).bind fun text => (nodes h hknown rest hblocks.2).bindPure _

theorem choice (h : DeepensAt jump jump' frame blocks)
    (hknown : BlocksDeepen jump jump' frame blocks known) (branches : List (Expr × List Node))
    (hblocks : ∀ name, .block name ∈ Node.partsOfBranches branches → known name)
    {otherwise otherwise' : RenderM String} (hotherwise : Deepens otherwise otherwise') :
    Deepens (Render.choice jump frame branches otherwise)
      (Render.choice jump' { frame with blocks } branches otherwise') := by
  match branches with
  | [] => exact hotherwise
  | (condition, body) :: rest =>
    simp only [Node.partsOfBranches, List.mem_append, or_imp, forall_and] at hblocks
    simp only [Render.choice]
    refine (Deepens.evaluate fun context => h.macros.expr context condition).bind fun value => ?_
    split
    · exact nodes h hknown body hblocks.1
    · exact choice h hknown rest hblocks.2 hotherwise

end

end DeepensAt

/-- The second renderer has more room than the first one, in all frames. -/
def DeepensAll (jump jump' : Jump) : Prop := ∀ frame list, Deepens (jump frame list) (jump' frame list)

namespace DeepensAll

variable {jump jump' : Jump} (h : DeepensAll jump jump') (env : Environment)

include h

theorem layout (context : Context) (chain : List String) (template : Template) (name : Expr) (line : Nat) :
    Deepens (template.layout jump env context chain name line)
      (template.layout jump' env context chain name line) := by
  have hmacros : MacrosDeepen jump jump' ⟨env, [], [], template.origin, 0⟩ [] := fun body => h _ body
  have hname : Deepens (template.layoutName jump env name context)
      (template.layoutName jump' env name context) := by
    unfold Template.layoutName
    exact (hmacros.expr context name).bind fun value => .refl _
  exact hname.bind fun name => .refl _

theorem program (context : Context) (bound : Nat) (chain : List String) (template : Template) :
    Deepens (template.program jump env context bound chain)
      (template.program jump' env context bound chain) := by
  induction bound using Nat.strongRecOn generalizing chain template with
  | _ bound ih =>
    cases hbody : template.body with
    | ready program =>
      rw [Template.program_ready _ _ _ _ _ hbody, Template.program_ready _ _ _ _ _ hbody]
      exact .refl _
    | failed error =>
      rw [Template.program_failed _ _ _ _ _ hbody, Template.program_failed _ _ _ _ _ hbody]
      exact .refl _
    | deferred name line tokens =>
      rw [Template.program_deferred _ _ _ _ _ hbody, Template.program_deferred _ _ _ _ _ hbody]
      refine (h.layout env context chain template name line).bind fun parent => ?_
      cases bound with
      | zero => exact .refl _
      | succ bound =>
        exact (ih bound (Nat.lt_succ_self bound) (chain ++ [parent.id]) parent).bind fun layout => .refl _

theorem wholeProgram (context : Context) (template : Template) :
    Deepens (template.wholeProgram jump env context) (template.wholeProgram jump' env context) := by
  unfold Template.wholeProgram
  split
  · exact (Deepens.refl get).bind fun store => h.program env context _ _ template
  · exact (Template.grows_program jump' env context [template.id] template).deepens_unbounded fun bound =>
      h.program env context bound [template.id] template

theorem execute (ancestors : List String) (template : Template) :
    Deepens (template.execute jump env ancestors) (template.execute jump' env ancestors) := by
  rcases template.settled_or_failed with hsettled | ⟨error, hbody⟩
  · rw [Template.execute_eq hsettled, Template.execute_eq hsettled]
    cases template.circularMessage? ancestors with
    | some message => exact .refl _
    | none =>
      exact (Deepens.evaluate fun context => h.wholeProgram env context template).bind fun program =>
        h _ program.nodes
  · rw [Template.execute_failed hbody, Template.execute_failed hbody]
    exact .refl _

theorem included (frame : Frame) (name : String) (scope : Context) :
    Deepens (Render.included jump frame name scope) (Render.included jump' frame name scope) := by
  refine (Deepens.refl (frame.env.load name frame.origin)).bind fun compiled => ?_
  dsimp only
  split
  · exact .refl _
  · exact ((h.execute frame.env frame.ancestors compiled.template).inside scope).bindPure _

theorem imported (frame : Frame) (name : String) :
    Deepens (Render.imported jump frame name) (Render.imported jump' frame name) := by
  refine (Deepens.refl (frame.env.load name frame.origin)).bind fun compiled => ?_
  dsimp only
  split
  · exact .refl _
  · exact ((h.execute frame.env frame.ancestors compiled.template).inside .empty).bindPure _

omit env

theorem inFrame (frame : Frame) : DeepensAt jump jump' frame frame.blocks :=
  ⟨fun body => h _ body, h.included frame, h.imported frame⟩

theorem nodes (frame : Frame) (list : List Node) :
    Deepens (Render.nodes jump frame list) (Render.nodes jump' frame list) := by
  refine (h.inFrame frame).nodes (fun name (_ : True) => ?_) list fun _ _ => True.intro
  simp only [Render.node]
  cases Fields.get? frame.blocks name with
  | none => exact .refl _
  | some body => exact h frame body

end DeepensAll

theorem deepensAll_upToDepth_succ (depth : Nat) :
    DeepensAll (Render.upToDepth depth) (Render.upToDepth (depth + 1)) := by
  induction depth with
  | zero => exact fun frame list => .tooDeep _
  | succ depth ih => exact fun frame list => ih.nodes frame list

/-- With more room a rendering ends as it did, unless it ended for want of room. -/
theorem deepensAll_upToDepth {depth more : Nat} (h : depth ≤ more) :
    DeepensAll (Render.upToDepth depth) (Render.upToDepth more) := by
  induction h with
  | refl => exact fun frame list => .refl _
  | step _ ih => exact fun frame list => (ih frame list).trans (deepensAll_upToDepth_succ _ frame list)

/-- With enough room the rendering ends so. -/
def ComesTo (render : Nat → RenderM String) (state : RenderState)
    (result : EStateM.Result Fault RenderState String) : Prop :=
  ∃ depth, render depth state = result ∧ ¬ EndsTooDeep result

/-- More room makes no difference to a result. -/
theorem ComesTo.unique {render : Nat → RenderM String}
    (hrender : ∀ depth more, depth ≤ more → Deepens (render depth) (render more)) {state : RenderState}
    {result other : EStateM.Result Fault RenderState String} (h : ComesTo render state result)
    (hother : ComesTo render state other) : other = result := by
  obtain ⟨depth, rfl, hends⟩ := h
  obtain ⟨more, rfl, hends'⟩ := hother
  rcases Nat.le_total depth more with hle | hle
  · exact (hrender depth more hle state).resolve_left hends
  · exact ((hrender more depth hle state).resolve_left hends').symm

theorem ComesTo.of_deepens {render render' : Nat → RenderM String}
    (hrender : ∀ depth, ∃ more, Deepens (render depth) (render' more)) {state : RenderState}
    {result : EStateM.Result Fault RenderState String} (h : ComesTo render state result) :
    ComesTo render' state result := by
  obtain ⟨depth, rfl, hends⟩ := h
  obtain ⟨more, hdeepens⟩ := hrender depth
  exact ⟨more, (hdeepens state).resolve_left hends, hends⟩

end Stencil
