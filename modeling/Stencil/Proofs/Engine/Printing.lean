import Stencil.Proofs.Engine.Loads
import Stencil.Proofs.Render.Visits
import Stencil.Proofs.Token.OutputTag

/-!
What output tags print. A tag prints the value of its expression, whoever evaluates it: with the expression
in a template of its own, the template compiles and its output is the value as a text. This needs that the
tag reads the expression as the grammar does; an operator behind a filter is lost.
-/
namespace Stencil

section Output

variable {jump : Jump} {frame : Frame} {context : Context} {store after : Store} {value : Value}

/-- An output tag evaluates its expression as others do, and takes note whether a macro gave the value. -/
theorem output_of_expr {expr : Expr} (h : Eval.expr jump frame context expr store = .ok value after) :
    ∃ called, Eval.output jump frame context expr store = .ok called after ∧ called.value = value := by
  cases expr with
  | call root steps arguments =>
    rw [Eval.expr] at h
    obtain ⟨called, between, hcalled, hvalue⟩ := run_bind_eq_ok.mp h
    cases hvalue
    exact ⟨called, hcalled, rfl⟩
  | _ =>
    refine ⟨⟨value, false⟩, ?_, rfl⟩
    exact run_bind_eq_ok.mpr ⟨value, after, h, rfl⟩

/-- The value of an expression with filters is that of the expression through the filters. -/
theorem through_of_expr {base : Expr} {calls : List FilterCall}
    (h : Eval.expr jump frame context (base.through calls) store = .ok value after) :
    ∃ between middle, Eval.expr jump frame context base store = .ok between middle ∧
      Eval.through jump frame context calls between middle = .ok value after := by
  cases calls with
  | nil => exact ⟨value, after, h, by rw [Eval.through]; rfl⟩
  | cons call calls =>
    change Eval.expr jump frame context (.filtered base (call :: calls)) store = _ at h
    rw [Eval.expr] at h
    exact run_bind_eq_ok.mp h

/-- Without escaping a tag prints the value of its expression. -/
theorem output_prints {base : Expr} {calls : List FilterCall}
    (h : Eval.expr jump frame context (base.through calls) store = .ok value after) :
    Render.output jump frame base calls none ⟨context, store⟩ = .ok value.display ⟨context, after⟩ := by
  obtain ⟨between, middle, hbase, hcalls⟩ := through_of_expr h
  obtain ⟨called, hcalled, rfl⟩ := output_of_expr hbase
  have hfirst := @evaluate_of_ok context store middle _
    (fun context => Eval.output jump frame context base) called hcalled
  have hsecond := @evaluate_of_ok context middle after _
    (fun context => Eval.through jump frame context calls called.value) value hcalls
  unfold Render.output
  rw [run_bind_of_ok hfirst, run_bind_of_ok hsecond]
  rfl

theorem nodes_prints {base : Expr} {calls : List FilterCall}
    (h : Eval.expr jump frame context (base.through calls) store = .ok value after) :
    Render.nodes jump frame [.output base calls none] ⟨context, store⟩ =
      .ok value.display ⟨context, after⟩ := by
  have hnode : Render.node jump frame (.output base calls none) ⟨context, store⟩ =
      .ok value.display ⟨context, after⟩ := by
    rw [Render.node]
    exact output_prints h
  have hnone : Render.nodes jump frame [] ⟨context, after⟩ = .ok "" ⟨context, after⟩ := by
    rw [Render.nodes]
    rfl
  rw [Render.nodes, run_bind_of_ok hnode, run_bind_of_ok hnone]
  exact congrArg (EStateM.Result.ok · _) String.append_empty

end Output

section Template

variable {env : Environment} {text : String} {expr : Expr}

/-- A template that is one output tag. -/
def printer (id : String) (origin : Option String) (base : Expr) (calls : List FilterCall)
    (escape : Option EscapeKind) : Template :=
  ⟨id, origin, none, .ready ⟨[.output base calls escape], []⟩⟩

/-- Tokens that are one output tag are a program of one node. -/
theorem program_ofTokens_output {scope : Scope} {tag : OutputTag} {node : Node}
    (h : scope.output tag = .ok node) : Program.ofTokens scope [.output tag] = .ok ⟨[node], []⟩ := by
  have htoken : compileToken scope false (stripsEnd false []) (.output tag) = .ok [node] := by
    rw [compileToken]
    exact bind_eq_ok.mpr ⟨node, h, rfl⟩
  have hnodes : compileTokens scope false false [.output tag] = .ok [node] := by
    rw [compileTokens]
    refine bind_eq_ok.mpr ⟨[node], htoken, ?_⟩
    exact bind_eq_ok.mpr ⟨[], by rw [compileTokens], rfl⟩
  have hblocks : compileBlocks scope [] [.output tag] [] = .ok [] := by
    rw [compileBlocks, compileBlock]
    · refine bind_eq_ok.mpr ⟨[], rfl, ?_⟩
      rw [compileBlocks]
    · intro tag children heq
      cases heq
  refine bind_eq_ok.mpr ⟨[node], hnodes, ?_⟩
  exact bind_eq_ok.mpr ⟨[], hblocks, rfl⟩

/-- A source of one output tag compiles to the template that prints what the tag stands for. -/
theorem compile_of_outputTag {tag : OutputTag} {base : Expr} {calls : List FilterCall}
    {escape : Option EscapeKind} (hopen : StaysOpen text)
    (htag : TokenTree.outputTag env.settings.autoescape (' ' :: text.toList ++ [' ']) 1 = .ok tag)
    (hnode : env.scope.output tag = .ok (.output base calls escape))
    (id : String) (origin : Option String) (store : Store) :
    env.compile id (outputSource text) origin store =
      .ok (printer id origin base calls escape) store := by
  have htokens := ofSource_outputSource hopen env.settings.tags htag
  have hlayout : Token.layout? env.scope [.output tag] = .ok none := rfl
  unfold Environment.compile
  rw [Environment.build_alone htokens hlayout (program_ofTokens_output hnode)]
  rfl

/-- A source that is one output tag compiles to a template that prints the expression. -/
theorem compile_outputSource (hread : Expr.ofText env.settings.filters text.toList = .ok expr)
    (hopen : StaysOpen text) (hbinds : Expr.BindsWhole env.settings.filters text.toList)
    (hplain : env.settings.autoescape = none) :
    ∃ base calls, expr = base.through calls ∧ ∀ id origin store,
      env.compile id (outputSource text) origin store =
        .ok (printer id origin base calls none) store := by
  have htag := (readByTag_of_ofText hread hbinds).of_trim (trim_spaced hread)
  obtain ⟨tag, base, calls, htag, hescape, hexpr, houtput⟩ := htag env.settings.autoescape 1
  have hescape' : tag.escape = none := by
    rw [hescape, hplain]
    split <;> rfl
  refine ⟨base, calls, hexpr, ?_⟩
  intro id origin store
  have hnode : env.scope.output tag = .ok (.output base calls none) := hescape' ▸ houtput env.scope rfl
  exact compile_of_outputTag hopen htag hnode id origin store

/-- The printing template prints what its expression evaluates to. -/
theorem renderTemplate_printer {id : String} {origin : Option String} {base : Expr} {calls : List FilterCall}
    {ancestors : List String} {context : Context} {store after : Store} {value : Value}
    (hnew : id ∉ ancestors)
    (h : Eval.expr (Render.upToDepth (Render.depthLimit - 1)) ⟨env, [], ancestors ++ [id], origin, 0⟩ context
      (base.through calls) store = .ok value after) :
    Engine.renderTemplate env (printer id origin base calls none) context ancestors store =
      .ok value.display after := by
  exact @renderTemplate_ready env id origin none ⟨[.output base calls none], []⟩ ancestors context store
    value.display ⟨context, after⟩ hnew (nodes_prints h)

/-- If the tag does not cut the expression, or its filters apply to all before them, a template that is
the tag alone compiles, and without escaping it prints the value of the expression in every context: under
every key and from every place, whatever templates are kept and whichever are being rendered around it. In
all other cases a tag that has filters is not that expression. -/
theorem compile_prints (hread : Expr.ofText env.settings.filters text.toList = .ok expr)
    (hopen : StaysOpen text) (hplain : env.settings.autoescape = none) :
    (Expr.BindsWhole env.settings.filters text.toList → ∀ id origin store, ∃ template,
      env.compile id (outputSource text) origin store = .ok template store ∧
      ∀ ancestors context started value after, id ∉ ancestors →
        Eval.expr (Render.upToDepth (Render.depthLimit - 1)) ⟨env, [], ancestors ++ [id], origin, 0⟩ context
          expr started = .ok value after →
        Engine.renderTemplate env template context ancestors started = .ok value.display after) ∧
    ∀ id origin store base call calls after,
      env.compile id (outputSource text) origin store =
        .ok (printer id origin base (call :: calls) none) after →
      (expr = .filtered base (call :: calls) ↔ Expr.BindsWhole env.settings.filters text.toList) := by
  constructor
  · intro hbinds id origin store
    obtain ⟨base, calls, rfl, hcompile⟩ := compile_outputSource hread hopen hbinds hplain
    refine ⟨printer id origin base calls none, hcompile id origin store, ?_⟩
    intro ancestors context started value after hnew hvalue
    exact renderTemplate_printer hnew hvalue
  · intro id origin store base call calls after hcompiled
    constructor
    · rintro rfl
      exact Or.inr ⟨_, Expr.chainOfText_of_ofText hread⟩
    · intro hbinds
      obtain ⟨base', calls', rfl, hcompile⟩ := compile_outputSource hread hopen hbinds hplain
      cases (hcompile id origin store).symm.trans hcompiled
      rfl

end Template

section Sample

/-- An engine that does not escape. -/
def plainEngine : Engine := .new { autoescape := .enabled false } {} (.table [])

/-- The value of an expression by itself, as a text. -/
def plainText? (context : Context) (id : String) (expr : Expr) : Option String :=
  match Eval.expr (Render.upToDepth (Render.depthLimit - 1)) ⟨plainEngine.env, [], [id], none, 0⟩ context expr {}
    with
  | .ok value _ => some value.display
  | .error _ _ => none

theorem exists_value {context : Context} {id text : String} {expr : Expr}
    (h : plainText? context id expr = some text) :
    ∃ value after, Eval.expr (Render.upToDepth (Render.depthLimit - 1))
      ⟨plainEngine.env, [], [id], none, 0⟩ context expr {} = .ok value after ∧ value.display = text := by
  unfold plainText? at h
  split at h
  · rename_i value after hvalue
    exact ⟨value, after, hvalue, Option.some.inj h⟩
  · cases h

/-- A chain whose primary is in brackets, with pipes and brackets inside its quotes. -/
def joinedText : String := "(a or [b|lower, \"|)\"])|join(\" | \")|upper"

theorem compile_prints_joined :
    ∃ template, plainEngine.env.compile "t" (outputSource joinedText) none {} = .ok template {} ∧
      ∃ after, Engine.renderTemplate plainEngine.env template { bindings := [("b", .string "Q")] } [] {} =
        .ok "Q | |)" after := by
  have hread := eq_ok_of_isOk (by decide +kernel :
    (Expr.ofText plainEngine.env.settings.filters joinedText.toList).isOk = true) default
  have hchain := exists_eq_ok (by decide +kernel :
    (Expr.chainOfText plainEngine.env.settings.filters joinedText.toList).isOk = true)
  obtain ⟨value, after, hvalue, hdisplay⟩ := exists_value (by decide +kernel :
    plainText? { bindings := [("b", .string "Q")] } "t"
      ((Expr.ofText plainEngine.env.settings.filters joinedText.toList).toOption.getD default) =
        some "Q | |)")
  obtain ⟨hprints, -⟩ := compile_prints hread (by decide +kernel) rfl
  obtain ⟨template, hcompile, hprints⟩ := hprints (Or.inr hchain) "t" none {}
  refine ⟨template, hcompile, after, ?_⟩
  rw [← hdisplay]
  exact hprints [] _ {} value after (by simp) hvalue

/-- An operator behind a filter is taken for a part of the filter's name: the comparison is true, but the
tag prints its first operand. -/
theorem comparison_behind_filter_lost :
    ∃ expr, Expr.ofText plainEngine.settings.filters "a|upper == \"X\"".toList = .ok expr ∧
      plainText? { bindings := [("a", .string "x")] } (outputSource "a|upper == \"X\"") expr = some "true" ∧
      (plainEngine.render (outputSource "a|upper == \"X\"") { bindings := [("a", .string "x")] }).1 =
        .ok "x" := by
  have hread := eq_ok_of_isOk (by decide +kernel :
    (Expr.ofText plainEngine.settings.filters "a|upper == \"X\"".toList).isOk = true) default
  have hrender := eq_ok_of_isOk (by decide +kernel :
    (plainEngine.render (outputSource "a|upper == \"X\"") { bindings := [("a", .string "x")] }).1.isOk = true) ""
  refine ⟨_, hread, by decide +kernel, hrender.trans ?_⟩
  exact congrArg Except.ok (by decide +kernel)

end Sample

end Stencil
