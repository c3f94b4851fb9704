import Stencil.Proofs.Render.Guarantee

/-!
Renderings in two environments that differ in their loaders and caches only. If renderers of names agree,
and what is included or imported agrees, then expressions and nodes agree.
-/
namespace Stencil

/-- The same settings as far as a rendering looks at them. -/
structure Environment.SameRuntime (env₁ env₂ : Environment) : Prop where
  globals : env₁.settings.globals = env₂.settings.globals
  functions : env₁.settings.functions = env₂.settings.functions
  extensions : env₁.settings.extensions = env₂.settings.extensions
  debug : env₁.settings.debug = env₂.settings.debug

namespace Guarantee

section Combinators

variable {G : Guarantee} {S : Comparison Store Store} {F : Fault → Fault → Prop} {α β : Type}
  {V : α → β → Prop}

theorem evaluate {eval₁ : Context → EvalM α} {eval₂ : Context → EvalM β}
    (h : ∀ context, G.KnownContext context → Agree S F V (eval₁ context) (eval₂ context)) :
    Agree (G.Related S) F V (RenderM.evaluate eval₁) (RenderM.evaluate eval₂) := by
  have hbeyond : ∀ t, G.KnownContext t.context → EndBeyond S.beyond V (eval₂ t.context t.store) →
      EndBeyond (G.Related S).beyond V (RenderM.evaluate eval₂ t) := by
    intro t hcontext ht
    unfold RenderM.evaluate
    cases hrun : eval₂ t.context t.store with
    | ok b t₁ =>
      rw [hrun] at ht
      exact ⟨⟨hcontext, ht.1⟩, ht.2⟩
    | error f t₁ =>
      rw [hrun] at ht
      exact ⟨hcontext, ht⟩
  refine ⟨?_, fun t ⟨hcontext, hX⟩ => hbeyond t hcontext ((h _ hcontext).stays _ hX)⟩
  rintro ⟨context, s⟩ ⟨_, t⟩ ⟨rfl, hcontext, hS⟩
  rcases (h context hcontext).ends s t hS with hrun | hrun
  · refine Or.inl ?_
    unfold RenderM.evaluate
    simp only
    cases hs : eval₁ context s with
    | ok a s₁ =>
      rw [hs] at hrun
      obtain ⟨b, t₁, ht, hV, hS₁⟩ := hrun.of_ok
      rw [ht]
      exact ⟨hV, rfl, hcontext, hS₁⟩
    | error e s₁ =>
      rw [hs] at hrun
      obtain ⟨f, t₁, ht, hF, hS₁⟩ := hrun.of_error
      rw [ht]
      exact ⟨hF, rfl, hcontext, hS₁⟩
  · exact Or.inr (hbeyond ⟨context, t⟩ hcontext hrun)

/-- What becomes of the context is part of the result. -/
theorem inside {render₁ : RenderM α} {render₂ : RenderM β} {scope : Context}
    (hscope : G.KnownContext scope) (h : Agree (G.Related S) F V render₁ render₂) :
    Agree S F (fun a b => V a.1 b.1 ∧ a.2 = b.2 ∧ G.KnownContext a.2)
      (RenderM.inside scope render₁) (RenderM.inside scope render₂) := by
  have hbeyond : ∀ t, EndBeyond (G.Related S).beyond V (render₂ ⟨scope, t⟩) →
      EndBeyond S.beyond
        (fun (a : α × Context) (b : β × Context) => V a.1 b.1 ∧ a.2 = b.2 ∧ G.KnownContext a.2)
        (RenderM.inside scope render₂ t) := by
    intro t ht
    unfold RenderM.inside
    cases hrun : render₂ ⟨scope, t⟩ with
    | ok b t₁ =>
      rw [hrun] at ht
      obtain ⟨⟨hcontext, hX⟩, a, hV⟩ := ht
      exact ⟨hX, (a, t₁.context), hV, rfl, hcontext⟩
    | error f t₁ =>
      rw [hrun] at ht
      exact ht.2
  refine ⟨fun s t hS => ?_, fun t hX => hbeyond t (h.stays ⟨scope, t⟩ ⟨hscope, hX⟩)⟩
  rcases h.ends ⟨scope, s⟩ ⟨scope, t⟩ ⟨rfl, hscope, hS⟩ with hrun | hrun
  · refine Or.inl ?_
    unfold RenderM.inside
    cases hs : render₁ ⟨scope, s⟩ with
    | ok a s₁ =>
      rw [hs] at hrun
      obtain ⟨b, t₁, ht, hV, hctx, hplain, hS₁⟩ := hrun.of_ok
      rw [ht]
      exact ⟨⟨hV, hctx, hplain⟩, hS₁⟩
    | error e s₁ =>
      rw [hs] at hrun
      obtain ⟨f, t₁, ht, hF, -, -, hS₁⟩ := hrun.of_error
      rw [ht]
      exact ⟨hF, hS₁⟩
  · exact Or.inr (hbeyond t hrun)

theorem thenChange {render₁ : RenderM α} {render₂ : RenderM β} {change : Context → Context}
    (hchange : ∀ context, G.KnownContext context → G.KnownContext (change context))
    (h : Agree (G.Related S) F V render₁ render₂) :
    Agree (G.Related S) F V (RenderM.thenChange render₁ change)
      (RenderM.thenChange render₂ change) := by
  have hbeyond : ∀ t, EndBeyond (G.Related S).beyond V (render₂ t) →
      EndBeyond (G.Related S).beyond V (RenderM.thenChange render₂ change t) := by
    intro t ht
    unfold RenderM.thenChange
    cases hrun : render₂ t with
    | ok b t₁ =>
      rw [hrun] at ht
      exact ⟨⟨hchange _ ht.1.1, ht.1.2⟩, ht.2⟩
    | error f t₁ =>
      rw [hrun] at ht
      exact ⟨hchange _ ht.1, ht.2⟩
  refine ⟨fun s t hR => ?_, fun t hX => hbeyond t (h.stays t hX)⟩
  rcases h.ends s t hR with hrun | hrun
  · refine Or.inl ?_
    unfold RenderM.thenChange
    cases hs : render₁ s with
    | ok a s₁ =>
      rw [hs] at hrun
      obtain ⟨b, t₁, ht, hV, hctx, hplain, hS₁⟩ := hrun.of_ok
      rw [ht]
      exact ⟨hV, congrArg change hctx, hchange _ hplain, hS₁⟩
    | error e s₁ =>
      rw [hs] at hrun
      obtain ⟨f, t₁, ht, hF, hctx, hplain, hS₁⟩ := hrun.of_error
      rw [ht]
      exact ⟨hF, congrArg change hctx, hchange _ hplain, hS₁⟩
  · exact Or.inr (hbeyond t hrun)

theorem changeContext {change : Context → Context}
    (hchange : ∀ context, G.KnownContext context → G.KnownContext (change context)) :
    Agree (G.Related S) F Equal (RenderM.changeContext change) (RenderM.changeContext change) :=
  ⟨fun _ _ ⟨hctx, hplain, hS⟩ =>
      Or.inl ⟨Equal.refl _, congrArg change hctx, hchange _ hplain, hS⟩,
    fun _ ⟨hplain, hX⟩ => ⟨⟨hchange _ hplain, hX⟩, _, Equal.refl _⟩⟩

theorem context : Agree (G.Related S) F (EqualWith G.KnownContext) RenderM.context RenderM.context :=
  ⟨fun _ _ ⟨hctx, hplain, hS⟩ => Or.inl ⟨⟨hctx, hplain⟩, hctx, hplain, hS⟩,
    fun _ ⟨hplain, hX⟩ => ⟨⟨hplain, hX⟩, _, rfl, hplain⟩⟩

/-- Errors are recovered from on both sides or on neither. -/
theorem orElse {E : TemplateError → TemplateError → Prop} (hE : ∀ e, E e e) {render₁ : RenderM α}
    {render₂ : RenderM β} {recover₁ : TemplateError → RenderM α} {recover₂ : TemplateError → RenderM β}
    (h : Agree (G.Related S) (Fault.Alike E) V render₁ render₂)
    (hrecover : ∀ e f, E e f → Agree (G.Related S) (Fault.Alike E) V (recover₁ e) (recover₂ f)) :
    Agree (G.Related S) (Fault.Alike E) V (RenderM.orElse render₁ recover₁)
      (RenderM.orElse render₂ recover₂) := by
  have hbeyond : ∀ t, EndBeyond (G.Related S).beyond V (render₂ t) →
      EndBeyond (G.Related S).beyond V (RenderM.orElse render₂ recover₂ t) := by
    intro t ht
    unfold RenderM.orElse
    cases hrun : render₂ t with
    | ok b t₁ =>
      rw [hrun] at ht
      exact ht
    | error f t₁ =>
      rw [hrun] at ht
      cases f with
      | error f => exact (hrecover f f (hE f)).stays t₁ ht
      | tooDeep => exact ht
  refine ⟨fun s t hR => ?_, fun t hX => hbeyond t (h.stays t hX)⟩
  rcases h.ends s t hR with hrun | hrun
  · unfold RenderM.orElse
    cases hs : render₁ s with
    | ok a s₁ =>
      rw [hs] at hrun
      obtain ⟨b, t₁, ht, hV, hR₁⟩ := hrun.of_ok
      rw [ht]
      exact Or.inl ⟨hV, hR₁⟩
    | error e s₁ =>
      rw [hs] at hrun
      obtain ⟨f, t₁, ht, hF, hR₁⟩ := hrun.of_error
      rw [ht]
      cases e with
      | error e =>
        cases f with
        | error f => exact (hrecover e f hF).ends s₁ t₁ hR₁
        | tooDeep => exact hF.elim
      | tooDeep =>
        cases f with
        | error f => exact hF.elim
        | tooDeep => exact Or.inl ⟨hF, hR₁⟩
  · exact Or.inr (hbeyond t hrun)

end Combinators

/-- Renderers of names that agree, in environments that are alike for a rendering. -/
structure Alike (G : Guarantee) (S : Comparison Store Store)
    (E : TemplateError → TemplateError → Prop) (env₁ env₂ : Environment) (jump₁ jump₂ : Jump) :
    Prop where
  runtime : env₁.SameRuntime env₂
  refl : ∀ e, E e e
  jumps : ∀ (frame : Frame) nodes, G.KnownBlocks frame.blocks → G.KnownNodes nodes →
    Agree (G.Related S) (Fault.Alike E) (EqualWith G.text)
      (jump₁ { frame with env := env₁ } nodes) (jump₂ { frame with env := env₂ } nodes)

/-- Renderers that agree in one frame: on the blocks that known nodes ask for, and on macros if one may be
called. -/
structure AlikeAt (G : Guarantee) (S : Comparison Store Store)
    (E : TemplateError → TemplateError → Prop) (env₁ env₂ : Environment) (jump₁ jump₂ : Jump)
    (frame : Frame) : Prop where
  runtime : env₁.SameRuntime env₂
  refl : ∀ e, E e e
  blocks : ∀ name body, G.node (.block name) → Fields.get? frame.blocks name = some body →
    Agree (G.Related S) (Fault.Alike E) (EqualWith G.text)
      (jump₁ { frame with env := env₁ } body) (jump₂ { frame with env := env₂ } body)
  macros : frame.macroDepth < Eval.macroLimit → ∀ body, G.body body →
    Agree (G.Related S) (Fault.Alike E) (EqualWith G.text)
      (jump₁ { frame with env := env₁, macroDepth := frame.macroDepth + 1 } body)
      (jump₂ { frame with env := env₂, macroDepth := frame.macroDepth + 1 } body)

theorem Alike.at {G : Guarantee} {S : Comparison Store Store} {E : TemplateError → TemplateError → Prop}
    {env₁ env₂ : Environment} {jump₁ jump₂ : Jump} (h : G.Alike S E env₁ env₂ jump₁ jump₂)
    {frame : Frame} (hblocks : G.KnownBlocks frame.blocks) :
    G.AlikeAt S E env₁ env₂ jump₁ jump₂ frame where
  runtime := h.runtime
  refl := h.refl
  blocks _ body _ hbody := h.jumps frame body hblocks (hblocks.get? hbody)
  macros _ body hbody :=
    h.jumps { frame with macroDepth := frame.macroDepth + 1 } body hblocks (G.within hbody)

section Eval

variable {G : Guarantee} {S : Comparison Store Store} {E : TemplateError → TemplateError → Prop}
  {env₁ env₂ : Environment} {jump₁ jump₂ : Jump}

theorem agree_renderFault (hrefl : ∀ e, E e e) {α : Type} {V : α → α → Prop} (message : String) :
    Agree S (Fault.Alike E) V (Eval.renderFault message) (Eval.renderFault message) :=
  Agree.throw (hrefl _)

theorem agree_native (hrefl : ∀ e, E e e) (name : String) (function : NativeFunction)
    (arguments : List Value) :
    Agree S (Fault.Alike E) Equal (Eval.native name function arguments)
      (Eval.native name function arguments) := by
  unfold Eval.native
  split
  · exact Agree.pure (Equal.refl _)
  · exact agree_renderFault hrefl _

theorem knownContext_put {context : Context} (h : G.KnownContext context) (name : String)
    (value : Value) : G.KnownContext (context.put name value) := h

theorem knownContext_bind {context : Context} (h : G.KnownContext context) (names : List String)
    (values : List Value) : G.KnownContext (Eval.bind context names values) := by
  induction names generalizing context values with
  | nil => exact h
  | cons name names ih => exact ih (knownContext_put h name _) values.tail

theorem AlikeAt.callMacro {frame : Frame} (h : G.AlikeAt S E env₁ env₂ jump₁ jump₂ frame)
    {context : Context} (hcontext : G.KnownContext context) (name : String)
    (parameters : List String) {body : List Node} (hbody : G.body body)
    (arguments : List Value) :
    Agree S (Fault.Alike E) (EqualWith G.text)
      (Eval.callMacro jump₁ { frame with env := env₁ } context name parameters body arguments)
      (Eval.callMacro jump₂ { frame with env := env₂ } context name parameters body arguments) := by
  unfold Eval.callMacro
  dsimp only
  split
  · exact Agree.bind (V := fun _ _ => False) (agree_renderFault h.refl _) fun _ _ hfalse => hfalse.elim
  · rename_i hroom
    refine Agree.bind (inside (knownContext_bind hcontext parameters arguments)
      (h.macros (Nat.lt_of_not_le hroom) body hbody)) ?_
    rintro ⟨text, after⟩ ⟨_, _⟩ ⟨⟨rfl, htext⟩, -, -⟩
    exact Agree.pure ⟨rfl, htext⟩

/-- The output of a macro is a text of which something is known. -/
def KnownCalled (G : Guarantee) (called : Eval.Called) : Prop :=
  called.isMarkup → ∃ text, called.value = .string text ∧ G.text text

theorem knownCalled_value (value : Value) : G.KnownCalled ⟨value, false⟩ :=
  fun hmarkup => by simp at hmarkup

theorem AlikeAt.call {frame : Frame} (h : G.AlikeAt S E env₁ env₂ jump₁ jump₂ frame)
    {context : Context} (hcontext : G.KnownContext context) (name? : Option String)
    {lookup₁ lookup₂ : EvalM Value}
    {arguments₁ arguments₂ : EvalM (List Value)}
    (hlookup : Agree S (Fault.Alike E) Equal lookup₁ lookup₂)
    (harguments : Agree S (Fault.Alike E) Equal arguments₁ arguments₂) :
    Agree S (Fault.Alike E) (EqualWith G.KnownCalled)
      (Eval.call jump₁ { frame with env := env₁ } context name? lookup₁ arguments₁)
      (Eval.call jump₂ { frame with env := env₂ } context name? lookup₂ arguments₂) := by
  have hplain : Agree S (Fault.Alike E) (EqualWith G.KnownCalled)
      (do return ⟨← lookup₁, false⟩) (do return ⟨← lookup₂, false⟩) :=
    hlookup.bindWith fun value _ => Agree.pure ⟨rfl, knownCalled_value value⟩
  have hnative : ∀ name function, Agree S (Fault.Alike E) (EqualWith G.KnownCalled)
      (do return ⟨← Eval.native name function (← arguments₁), false⟩)
      (do return ⟨← Eval.native name function (← arguments₂), false⟩) := fun name function =>
    harguments.bindWith fun values _ => (agree_native h.refl name function values).bindWith
      fun value _ => Agree.pure ⟨rfl, knownCalled_value value⟩
  unfold Eval.call
  cases name? with
  | none => exact hplain
  | some name =>
    simp only
    cases hget : Fields.get? context.callables name with
    | none =>
      simp only [← h.runtime.functions]
      cases Fields.get? env₁.settings.functions name with
      | none => exact hplain
      | some function => exact hnative name function
    | some callable =>
      have hknown : G.KnownCallable callable := Fields.AllValues.get? hcontext hget
      cases callable with
      | native function => exact hnative name function
      | macroBody macroName parameters body =>
        refine harguments.bindWith fun values _ => ?_
        refine (h.callMacro hcontext macroName parameters hknown values).bindWith
          fun text htext => ?_
        exact Agree.pure ⟨rfl, fun _ => ⟨text, rfl, htext⟩⟩

theorem agree_binary {F : Fault → Fault → Prop} (op : BinaryOp)
    {left₁ left₂ right₁ right₂ : EvalM Value} (hleft : Agree S F Equal left₁ left₂)
    (hright : Agree S F Equal right₁ right₂) :
    Agree S F Equal (Eval.binary op left₁ right₁) (Eval.binary op left₂ right₂) := by
  unfold Eval.binary
  refine hleft.bindWith fun value _ => ?_
  have hcompare : Agree S F Equal
      (do return Value.bool (Eval.comparison op value (← right₁)))
      (do return Value.bool (Eval.comparison op value (← right₂))) :=
    hright.bindWith fun other _ => Agree.pure (Equal.refl _)
  cases op with
  | and =>
    simp only
    split
    · exact hright
    · exact Agree.pure (Equal.refl _)
  | or =>
    simp only
    split
    · exact Agree.pure (Equal.refl _)
    · exact hright
  | _ => exact hcompare

section Expr

variable {frame : Frame} {context : Context}

theorem AlikeAt.find (h : G.AlikeAt S E env₁ env₂ jump₁ jump₂ frame) (root : String)
    (keys : List Value) :
    Eval.find env₁.settings.globals context root keys =
      Eval.find env₂.settings.globals context root keys := by
  rw [h.runtime.globals]

mutual

theorem AlikeAt.expr (h : G.AlikeAt S E env₁ env₂ jump₁ jump₂ frame)
    (hcontext : G.KnownContext context) (e : Expr) : Agree S (Fault.Alike E) Equal
    (Eval.expr jump₁ { frame with env := env₁ } context e)
    (Eval.expr jump₂ { frame with env := env₂ } context e) := by
  match e with
  | .literal value => exact Agree.pure (Equal.refl _)
  | .path root steps => exact AlikeAt.chain h hcontext root steps
  | .call root steps arguments =>
    simp only [Eval.expr]
    refine (h.call hcontext _ (AlikeAt.chain h hcontext root steps)
      (AlikeAt.exprs h hcontext arguments)).bindWith fun called _ => ?_
    exact Agree.pure (Equal.refl _)
  | .array items =>
    simp only [Eval.expr]
    exact (AlikeAt.exprs h hcontext items).bindWith fun values _ => Agree.pure (Equal.refl _)
  | .object fields =>
    simp only [Eval.expr]
    exact (AlikeAt.members h hcontext fields).bindWith fun values _ => Agree.pure (Equal.refl _)
  | .filtered base filters =>
    simp only [Eval.expr]
    exact (AlikeAt.expr h hcontext base).bindWith fun value _ => AlikeAt.through h hcontext filters value
  | .not operand =>
    simp only [Eval.expr]
    exact (AlikeAt.expr h hcontext operand).bindWith fun value _ => Agree.pure (Equal.refl _)
  | .binary op left right =>
    simp only [Eval.expr]
    exact agree_binary op (AlikeAt.expr h hcontext left) (AlikeAt.expr h hcontext right)

theorem AlikeAt.exprs (h : G.AlikeAt S E env₁ env₂ jump₁ jump₂ frame)
    (hcontext : G.KnownContext context) (items : List Expr) : Agree S (Fault.Alike E) Equal
    (Eval.exprs jump₁ { frame with env := env₁ } context items)
    (Eval.exprs jump₂ { frame with env := env₂ } context items) := by
  match items with
  | [] => exact Agree.pure (Equal.refl _)
  | e :: rest =>
    simp only [Eval.exprs]
    exact (AlikeAt.expr h hcontext e).bindWith fun value _ =>
      (AlikeAt.exprs h hcontext rest).bindWith fun values _ => Agree.pure (Equal.refl _)

theorem AlikeAt.members (h : G.AlikeAt S E env₁ env₂ jump₁ jump₂ frame)
    (hcontext : G.KnownContext context) (fields : List (String × Expr)) : Agree S (Fault.Alike E) Equal
    (Eval.members jump₁ { frame with env := env₁ } context fields)
    (Eval.members jump₂ { frame with env := env₂ } context fields) := by
  match fields with
  | [] => exact Agree.pure (Equal.refl _)
  | (name, e) :: rest =>
    simp only [Eval.members]
    exact (AlikeAt.expr h hcontext e).bindWith fun value _ =>
      (AlikeAt.members h hcontext rest).bindWith fun values _ => Agree.pure (Equal.refl _)

theorem AlikeAt.keys (h : G.AlikeAt S E env₁ env₂ jump₁ jump₂ frame)
    (hcontext : G.KnownContext context) (steps : List Step) : Agree S (Fault.Alike E) Equal
    (Eval.keys jump₁ { frame with env := env₁ } context steps)
    (Eval.keys jump₂ { frame with env := env₂ } context steps) := by
  match steps with
  | [] => exact Agree.pure (Equal.refl _)
  | .key key :: rest =>
    simp only [Eval.keys]
    exact (AlikeAt.keys h hcontext rest).bindWith fun keys _ => Agree.pure (Equal.refl _)
  | .index e :: rest =>
    simp only [Eval.keys]
    exact (AlikeAt.expr h hcontext e).bindWith fun value _ =>
      (AlikeAt.keys h hcontext rest).bindWith fun keys _ => Agree.pure (Equal.refl _)

theorem AlikeAt.chain (h : G.AlikeAt S E env₁ env₂ jump₁ jump₂ frame)
    (hcontext : G.KnownContext context) (root : String) (steps : List Step) : Agree S (Fault.Alike E) Equal
    (do
      let keys ← Eval.keys jump₁ { frame with env := env₁ } context steps
      return Eval.find env₁.settings.globals context root keys)
    (do
      let keys ← Eval.keys jump₂ { frame with env := env₂ } context steps
      return Eval.find env₂.settings.globals context root keys) :=
  (AlikeAt.keys h hcontext steps).bindWith fun keys _ => Agree.pure ⟨h.find root keys, True.intro⟩

theorem AlikeAt.through (h : G.AlikeAt S E env₁ env₂ jump₁ jump₂ frame)
    (hcontext : G.KnownContext context) (calls : List FilterCall) (value : Value) :
    Agree S (Fault.Alike E) Equal
      (Eval.through jump₁ { frame with env := env₁ } context calls value)
      (Eval.through jump₂ { frame with env := env₂ } context calls value) := by
  match calls with
  | [] => exact Agree.pure (Equal.refl _)
  | .mk name filter arguments :: rest =>
    simp only [Eval.through]
    exact (AlikeAt.exprs h hcontext arguments).bindWith fun values _ =>
      AlikeAt.through h hcontext rest (filter value values)

end

theorem AlikeAt.printed (h : G.AlikeAt S E env₁ env₂ jump₁ jump₂ frame)
    (hcontext : G.KnownContext context) (e : Expr) : Agree S (Fault.Alike E) (EqualWith G.KnownCalled)
    (Eval.output jump₁ { frame with env := env₁ } context e)
    (Eval.output jump₂ { frame with env := env₂ } context e) := by
  cases e with
  | call root steps arguments =>
    exact h.call hcontext _ (AlikeAt.chain h hcontext root steps)
      (AlikeAt.exprs h hcontext arguments)
  | _ =>
    exact (AlikeAt.expr h hcontext _).bindWith fun value _ =>
      Agree.pure ⟨rfl, knownCalled_value value⟩

end Expr

end Eval

/-- What is included or imported agrees, in frames of any templates. -/
structure VisitsAlike (G : Guarantee) (S : Comparison Store Store)
    (E : TemplateError → TemplateError → Prop) (env₁ env₂ : Environment) (jump₁ jump₂ : Jump) :
    Prop where
  included : ∀ (frame : Frame) name scope, G.KnownContext scope →
    Agree S (Fault.Alike E) (EqualWith G.text)
      (Render.included jump₁ { frame with env := env₁ } name scope)
      (Render.included jump₂ { frame with env := env₂ } name scope)
  imported : ∀ (frame : Frame) {template space}, G.node (.importation template space) → ∀ name,
    Agree S (Fault.Alike E)
      (EqualWith fun result => G.text result.1 ∧ result.2.AllValues G.KnownCallable)
      (Render.imported jump₁ { frame with env := env₁ } name)
      (Render.imported jump₂ { frame with env := env₂ } name)

/-- What is included or imported in one frame agrees. -/
structure VisitsAlikeAt (G : Guarantee) (S : Comparison Store Store)
    (E : TemplateError → TemplateError → Prop) (env₁ env₂ : Environment) (jump₁ jump₂ : Jump)
    (frame : Frame) : Prop where
  included : ∀ name scope, G.KnownContext scope →
    Agree S (Fault.Alike E) (EqualWith G.text)
      (Render.included jump₁ { frame with env := env₁ } name scope)
      (Render.included jump₂ { frame with env := env₂ } name scope)
  imported : ∀ {template space}, G.node (.importation template space) → ∀ name,
    Agree S (Fault.Alike E)
      (EqualWith fun result => G.text result.1 ∧ result.2.AllValues G.KnownCallable)
      (Render.imported jump₁ { frame with env := env₁ } name)
      (Render.imported jump₂ { frame with env := env₂ } name)

theorem VisitsAlike.of_at {G : Guarantee} {S : Comparison Store Store}
    {E : TemplateError → TemplateError → Prop} {env₁ env₂ : Environment} {jump₁ jump₂ : Jump}
    (h : ∀ frame, G.VisitsAlikeAt S E env₁ env₂ jump₁ jump₂ frame) :
    G.VisitsAlike S E env₁ env₂ jump₁ jump₂ :=
  ⟨fun frame => (h frame).included, fun frame => (h frame).imported⟩

theorem VisitsAlike.at {G : Guarantee} {S : Comparison Store Store}
    {E : TemplateError → TemplateError → Prop} {env₁ env₂ : Environment} {jump₁ jump₂ : Jump}
    (h : G.VisitsAlike S E env₁ env₂ jump₁ jump₂) (frame : Frame) :
    G.VisitsAlikeAt S E env₁ env₂ jump₁ jump₂ frame :=
  ⟨h.included frame, h.imported frame⟩

section Contexts

variable {G : Guarantee} {context : Context}

theorem knownContext_define (h : G.KnownContext context) (name : String) (callable : Callable)
    (hcallable : G.KnownCallable callable) : G.KnownContext (context.define name callable) :=
  Fields.AllValues.put h name hcallable

theorem knownContext_defineAll (h : G.KnownContext context) (space : String)
    {callables : Fields Callable} (hcallables : callables.AllValues G.KnownCallable) :
    G.KnownContext (context.defineAll space callables) := by
  unfold Context.defineAll
  induction callables generalizing context with
  | nil => exact h
  | cons entry rest ih =>
    have hentry := List.forall_mem_cons.mp hcallables
    exact ih (knownContext_define h _ _ hentry.1) hentry.2

theorem knownContext_bindTurn (h : G.KnownContext context) (keyName : Option String)
    (itemName : String) (index length : Nat) (key item : Value) :
    G.KnownContext (Render.bindTurn keyName itemName index length key item context) := by
  cases keyName <;> exact h

theorem knownContext_restoreLoop {after : Context} (h : G.KnownContext after)
    (keyName : Option String) (itemName : String) (before : Context) :
    G.KnownContext (Render.restoreLoop keyName itemName before after) := by
  cases keyName <;> exact h

end Contexts

/-- A host tag whose arguments and body are known. -/
def callHost (env : Environment) (name : String) (tag : HostTag) (arguments : List Value)
    (body : Option String) : RenderM String := do
  let context ← RenderM.context
  let call : TagCall := {
    arguments, body, bindings := context.bindings
    callables := Fields.names context.callables
    extensions := env.settings.extensions }
  match tag.render call with
  | .ok text => return text
  | .error message => RenderM.fail (.render s!"tag \"{name}\" failed: {message}")

theorem host_eq (jump : Jump) (frame : Frame) (name : String) (tag : HostTag)
    (arguments : List Expr) (body : RenderM String) :
    Render.host jump frame name tag arguments body = (do
      let arguments ← RenderM.evaluate fun context => Eval.exprs jump frame context arguments
      (if tag.ends then some <$> body else pure none) >>=
        callHost frame.env name tag arguments) := by
  unfold Render.host
  congr 1
  funext values
  cases tag.ends <;> rfl

section Nodes

variable {G : Guarantee} {S : Comparison Store Store} {E : TemplateError → TemplateError → Prop}
  {env₁ env₂ : Environment} {jump₁ jump₂ : Jump}

theorem knownNodes_cons {node : Node} {rest : List Node} :
    G.KnownNodes (node :: rest) ↔ (∀ part ∈ Node.parts node, G.node part) ∧ G.KnownNodes rest := by
  simp only [KnownNodes, Node.partsOf_cons, List.mem_append, or_imp, forall_and]

theorem agree_turns {keyName : Option String} {itemName : String} {length : Nat}
    {body₁ body₂ : RenderM String} {F : Fault → Fault → Prop}
    (hbody : Agree (G.Related S) F (EqualWith G.text) body₁ body₂)
    (entries : List (Value × Value)) (index : Nat) :
    Agree (G.Related S) F (EqualWith G.text)
      (Render.turns keyName itemName length body₁ index entries)
      (Render.turns keyName itemName length body₂ index entries) := by
  induction entries generalizing index with
  | nil => exact Agree.pure ⟨rfl, G.empty⟩
  | cons entry rest ih =>
    simp only [Render.turns]
    refine (changeContext fun context hcontext =>
      knownContext_bindTurn hcontext keyName itemName index length entry.1 entry.2).bindWith
      fun _ _ => ?_
    refine hbody.bindWith fun text htext => ?_
    exact (ih (index + 1)).bindWith fun texts htexts => Agree.pure ⟨rfl, G.append htext htexts⟩

theorem agree_loop {keyName : Option String} {itemName : String}
    {source₁ source₂ : Context → EvalM Value} {body₁ body₂ empty₁ empty₂ : RenderM String}
    {F : Fault → Fault → Prop}
    (hsource : ∀ context, G.KnownContext context →
      Agree S F Equal (source₁ context) (source₂ context))
    (hbody : Agree (G.Related S) F (EqualWith G.text) body₁ body₂)
    (hempty : Agree (G.Related S) F (EqualWith G.text) empty₁ empty₂) :
    Agree (G.Related S) F (EqualWith G.text) (Render.loop keyName itemName source₁ body₁ empty₁)
      (Render.loop keyName itemName source₂ body₂ empty₂) := by
  unfold Render.loop
  refine (evaluate hsource).bindWith fun value _ => ?_
  cases Render.entries value with
  | nil => exact hempty
  | cons entry rest =>
    refine Guarantee.context.bindWith fun before hbefore => ?_
    exact thenChange (fun after hafter => knownContext_restoreLoop hafter keyName itemName before)
      (agree_turns hbody (entry :: rest) 0)

variable {frame : Frame} (h : G.AlikeAt S E env₁ env₂ jump₁ jump₂ frame)
  (hvisits : G.VisitsAlikeAt S E env₁ env₂ jump₁ jump₂ frame)

include h

theorem AlikeAt.evaluateExpr (e : Expr) : Agree (G.Related S) (Fault.Alike E) Equal
    (RenderM.evaluate fun context => Eval.expr jump₁ { frame with env := env₁ } context e)
    (RenderM.evaluate fun context => Eval.expr jump₂ { frame with env := env₂ } context e) :=
  evaluate fun _ hcontext => h.expr hcontext e

theorem AlikeAt.output {e : Expr} {filters : List FilterCall} {escape : Option EscapeKind}
    (hnode : G.node (.output e filters escape)) :
    Agree (G.Related S) (Fault.Alike E) (EqualWith G.text)
      (Render.output jump₁ { frame with env := env₁ } e filters escape)
      (Render.output jump₂ { frame with env := env₂ } e filters escape) := by
  unfold Render.output
  refine (evaluate fun context hcontext => h.printed hcontext e).bindWith
    fun called hcalled => ?_
  have hfilters : Agree (G.Related S) (Fault.Alike E)
      (EqualWith fun value => filters = [] → value = called.value)
      (RenderM.evaluate fun context =>
        Eval.through jump₁ { frame with env := env₁ } context filters called.value)
      (RenderM.evaluate fun context =>
        Eval.through jump₂ { frame with env := env₂ } context filters called.value) := by
    cases filters with
    | nil => exact evaluate fun context _ => Agree.pure ⟨rfl, fun _ => rfl⟩
    | cons call rest =>
      exact (evaluate fun context hcontext => h.through hcontext _ _).mono
        fun a b hab => ⟨hab.1, fun hnil => by simp at hnil⟩
  refine hfilters.bindWith fun value hvalue => ?_
  cases escape with
  | none => exact Agree.pure ⟨rfl, G.output hnode value⟩
  | some kind =>
    simp only
    split
    · rename_i hmarkup
      simp only [Bool.and_eq_true, List.isEmpty_iff] at hmarkup
      obtain ⟨text, htext, hknown⟩ := hcalled hmarkup.1
      refine Agree.pure ⟨rfl, ?_⟩
      rw [hvalue hmarkup.2, htext]
      exact hknown
    · exact Agree.pure ⟨rfl, G.escaped hnode value⟩

theorem AlikeAt.filter {call : Option FilterCall} {body : List Node} {body₁ body₂ : RenderM String}
    (hnode : G.node (.filter call body))
    (hbody : Agree (G.Related S) (Fault.Alike E) (EqualWith G.text) body₁ body₂) :
    Agree (G.Related S) (Fault.Alike E) (EqualWith G.text)
      (Render.filter jump₁ { frame with env := env₁ } call body₁)
      (Render.filter jump₂ { frame with env := env₂ } call body₂) := by
  unfold Render.filter
  refine hbody.bindWith fun text htext => ?_
  cases call with
  | none => exact Agree.pure ⟨rfl, htext⟩
  | some call =>
    refine (evaluate fun context hcontext => h.through hcontext [call] _).bindWith
      fun value _ => ?_
    exact Agree.pure ⟨rfl, G.filtered hnode value⟩

theorem AlikeAt.callHost {name : String} {tag : HostTag} {arguments : List Expr} {body : List Node}
    (hnode : G.node (.host name tag arguments body)) (values : List Value)
    (rendered : Option String) : Agree (G.Related S) (Fault.Alike E) (EqualWith G.text)
      (callHost env₁ name tag values rendered) (callHost env₂ name tag values rendered) := by
  unfold Guarantee.callHost
  refine Guarantee.context.bindWith fun context _ => ?_
  rw [h.runtime.extensions]
  dsimp only
  split
  · exact Agree.pure ⟨rfl, G.hosted hnode _⟩
  · exact Agree.throw (h.refl _)

theorem AlikeAt.host {name : String} {tag : HostTag} {arguments : List Expr} {body : List Node}
    {body₁ body₂ : RenderM String} (hnode : G.node (.host name tag arguments body))
    (hbody : Agree (G.Related S) (Fault.Alike E) (EqualWith G.text) body₁ body₂) :
    Agree (G.Related S) (Fault.Alike E) (EqualWith G.text)
      (Render.host jump₁ { frame with env := env₁ } name tag arguments body₁)
      (Render.host jump₂ { frame with env := env₂ } name tag arguments body₂) := by
  rw [host_eq, host_eq]
  refine (evaluate fun context hcontext => h.exprs hcontext arguments).bindWith
    fun values _ => ?_
  refine Agree.bindWith (P := fun _ => True) ?_ fun rendered _ =>
    h.callHost hnode values rendered
  split
  · exact hbody.map fun a b hab => ⟨congrArg some hab.1, True.intro⟩
  · exact Agree.pure (Equal.refl _)

theorem AlikeAt.inclusionScope {context : Context} (hcontext : G.KnownContext context)
    (scope : Option Expr) (only : Bool) :
    Agree S (Fault.Alike E) (EqualWith G.KnownContext)
      (Render.inclusionScope jump₁ { frame with env := env₁ } scope only context)
      (Render.inclusionScope jump₂ { frame with env := env₂ } scope only context) := by
  have hstart : G.KnownContext (if only then Context.empty else context) := by
    split
    · exact Fields.AllValues.nil _
    · exact hcontext
  unfold Render.inclusionScope
  cases scope with
  | none => exact Agree.pure ⟨rfl, hstart⟩
  | some e =>
    refine (h.expr hcontext e).bindWith fun value _ => ?_
    cases value <;> exact Agree.pure ⟨rfl, hstart⟩

include hvisits

theorem AlikeAt.inclusion (template : Expr) (ignoreMissing : Bool) (scope : Option Expr)
    (only : Bool) : Agree (G.Related S) (Fault.Alike E) (EqualWith G.text)
      (Render.inclusion jump₁ { frame with env := env₁ } template ignoreMissing scope only)
      (Render.inclusion jump₂ { frame with env := env₂ } template ignoreMissing scope only) := by
  unfold Render.inclusion
  refine (h.evaluateExpr template).bindWith fun name _ => ?_
  refine (evaluate fun context hcontext =>
    h.inclusionScope hcontext scope only).bindWith fun start hstart => ?_
  have hrendered := evaluate (G := G) fun _ _ =>
    hvisits.included name.display start hstart
  dsimp only
  split
  · exact orElse h.refl hrendered fun _ _ _ => Agree.pure ⟨rfl, G.empty⟩
  · exact hrendered

theorem AlikeAt.importation {template : Expr} {space : String}
    (hnode : G.node (.importation template space)) :
    Agree (G.Related S) (Fault.Alike E) (EqualWith G.text)
      (Render.importation jump₁ { frame with env := env₁ } template space)
      (Render.importation jump₂ { frame with env := env₂ } template space) := by
  unfold Render.importation
  refine (h.evaluateExpr template).bindWith fun name _ => ?_
  refine (evaluate fun _ _ => hvisits.imported hnode name.display).bindWith
    fun result hresult => ?_
  refine (changeContext fun context hcontext =>
    knownContext_defineAll hcontext space hresult.2).bindWith fun _ _ => ?_
  exact Agree.pure ⟨rfl, hresult.1⟩

end Nodes

section Induction

variable {G : Guarantee} {S : Comparison Store Store} {E : TemplateError → TemplateError → Prop}
  {env₁ env₂ : Environment} {jump₁ jump₂ : Jump} {frame : Frame}

mutual

theorem AlikeAt.node (h : G.AlikeAt S E env₁ env₂ jump₁ jump₂ frame)
    (hvisits : G.VisitsAlikeAt S E env₁ env₂ jump₁ jump₂ frame) (n : Node)
    (hn : ∀ part ∈ Node.parts n, G.node part) :
    Agree (G.Related S) (Fault.Alike E) (EqualWith G.text)
      (Render.node jump₁ { frame with env := env₁ } n)
      (Render.node jump₂ { frame with env := env₂ } n) := by
  have hself := hn n (Node.mem_parts_self n)
  match n with
  | .text t => exact Agree.pure ⟨rfl, G.literal hself⟩
  | .output e filters escape => exact h.output hself
  | .choice branches otherwise =>
    simp only [Node.parts, List.mem_cons, List.mem_append, or_imp, forall_and] at hn
    exact AlikeAt.choice h hvisits branches hn.2.1 (AlikeAt.nodes h hvisits otherwise hn.2.2)
  | .loop key item source body empty =>
    simp only [Node.parts, List.mem_cons, List.mem_append, or_imp, forall_and] at hn
    exact agree_loop (fun context hcontext => h.expr hcontext source)
      (AlikeAt.nodes h hvisits body hn.2.1) (AlikeAt.nodes h hvisits empty hn.2.2)
  | .assign name value =>
    refine (h.evaluateExpr value).bindWith fun result _ => ?_
    exact (changeContext fun context hcontext => knownContext_put hcontext name result).bindWith
      fun _ _ => Agree.pure ⟨rfl, G.empty⟩
  | .filter call body =>
    simp only [Node.parts, List.mem_cons, or_imp, forall_and] at hn
    exact h.filter hself (AlikeAt.nodes h hvisits body hn.2)
  | .define name parameters body =>
    simp only [Node.parts, List.mem_cons, or_imp, forall_and] at hn
    have hbody : G.KnownCallable (.macroBody name parameters body) := G.defined hself hn.2
    exact (changeContext fun context hcontext => knownContext_define hcontext name _ hbody).bindWith
      fun _ _ => Agree.pure ⟨rfl, G.empty⟩
  | .inclusion template ignoreMissing scope only =>
    exact h.inclusion hvisits template ignoreMissing scope only
  | .importation template space => exact h.importation hvisits hself
  | .block name =>
    simp only [Render.node]
    cases hget : Fields.get? frame.blocks name with
    | none => exact Agree.pure ⟨rfl, G.empty⟩
    | some body => exact h.blocks name body hself hget
  | .fragment body =>
    simp only [Node.parts, List.mem_cons, or_imp, forall_and] at hn
    exact AlikeAt.nodes h hvisits body hn.2
  | .group body =>
    simp only [Node.parts, List.mem_cons, or_imp, forall_and] at hn
    exact AlikeAt.nodes h hvisits body hn.2
  | .host name tag arguments body =>
    simp only [Node.parts, List.mem_cons, or_imp, forall_and] at hn
    exact h.host hself (AlikeAt.nodes h hvisits body hn.2)
  | .alternative condition line => exact Agree.pure ⟨rfl, G.empty⟩

theorem AlikeAt.nodes (h : G.AlikeAt S E env₁ env₂ jump₁ jump₂ frame)
    (hvisits : G.VisitsAlikeAt S E env₁ env₂ jump₁ jump₂ frame) (ns : List Node)
    (hns : G.KnownNodes ns) :
    Agree (G.Related S) (Fault.Alike E) (EqualWith G.text)
      (Render.nodes jump₁ { frame with env := env₁ } ns)
      (Render.nodes jump₂ { frame with env := env₂ } ns) := by
  match ns with
  | [] => exact Agree.pure ⟨rfl, G.empty⟩
  | first :: rest =>
    obtain ⟨hfirst, hrest⟩ := knownNodes_cons.mp hns
    simp only [Render.nodes]
    exact (AlikeAt.node h hvisits first hfirst).bindWith fun text htext =>
      (AlikeAt.nodes h hvisits rest hrest).bindWith fun texts htexts =>
        Agree.pure ⟨rfl, G.append htext htexts⟩

theorem AlikeAt.choice (h : G.AlikeAt S E env₁ env₂ jump₁ jump₂ frame)
    (hvisits : G.VisitsAlikeAt S E env₁ env₂ jump₁ jump₂ frame) (branches : List (Expr × List Node))
    (hbranches : ∀ part ∈ Node.partsOfBranches branches, G.node part)
    {otherwise₁ otherwise₂ : RenderM String}
    (hotherwise : Agree (G.Related S) (Fault.Alike E) (EqualWith G.text) otherwise₁ otherwise₂) :
    Agree (G.Related S) (Fault.Alike E) (EqualWith G.text)
      (Render.choice jump₁ { frame with env := env₁ } branches otherwise₁)
      (Render.choice jump₂ { frame with env := env₂ } branches otherwise₂) := by
  match branches with
  | [] => exact hotherwise
  | (condition, body) :: rest =>
    simp only [Node.partsOfBranches, List.mem_append, or_imp, forall_and] at hbranches
    simp only [Render.choice]
    refine (h.evaluateExpr condition).bindWith fun value _ => ?_
    split
    · exact AlikeAt.nodes h hvisits body hbranches.1
    · exact AlikeAt.choice h hvisits rest hbranches.2 hotherwise

end

end Induction

end Guarantee

end Stencil
