import Stencil.Proofs.Render.Alike
import Stencil.Proofs.Result

/-!
What a rendering leaves in the context. A name has another meaning after it only if the rendering came to a
tag that gives it one; a loop gives its own names back. The nodes that a rendering comes to are those of its
lists and of the lists inside them that it goes into, blocks included, but no bodies of macros and no other
templates.
-/
namespace Stencil

namespace RenderM

variable {α β : Type} {state : RenderState}

/-- The context at the end of a rendering, however it ends. -/
def contextAfter (render : RenderM α) (state : RenderState) : Context :=
  match render state with
  | .ok _ after => after.context
  | .error _ after => after.context

theorem contextAfter_of_ok {render : RenderM α} {a : α} {after : RenderState}
    (h : render state = .ok a after) : render.contextAfter state = after.context := by
  unfold contextAfter
  rw [h]

theorem contextAfter_of_error {render : RenderM α} {fault : Fault} {after : RenderState}
    (h : render state = .error fault after) : render.contextAfter state = after.context := by
  unfold contextAfter
  rw [h]

/-- Macros included, an evaluation leaves the context alone. -/
@[simp] theorem contextAfter_evaluate (eval : Context → EvalM α) (state : RenderState) :
    (evaluate eval).contextAfter state = state.context := by
  unfold contextAfter evaluate
  cases eval state.context state.store <;> rfl

theorem evaluate_eq_ok {eval : Context → EvalM α} {a : α} {after : RenderState}
    (h : evaluate eval state = .ok a after) : ∃ store, eval state.context state.store = .ok a store := by
  unfold evaluate at h
  cases hrun : eval state.context state.store with
  | ok result store =>
    rw [hrun] at h
    cases h
    exact ⟨store, rfl⟩
  | error fault store =>
    rw [hrun] at h
    cases h

theorem context_of_evaluate {eval : Context → EvalM α} {a : α} {after : RenderState}
    (h : evaluate eval state = .ok a after) : after.context = state.context :=
  (contextAfter_of_ok h).symm.trans (contextAfter_evaluate eval state)

theorem contextAfter_bind_of_ok {render : RenderM α} {next : α → RenderM β} {a : α}
    {between : RenderState} (h : render state = .ok a between) :
    (render >>= next).contextAfter state = (next a).contextAfter between := by
  unfold contextAfter
  rw [run_bind_of_ok h]

theorem contextAfter_bind_of_error {render : RenderM α} {next : α → RenderM β} {fault : Fault}
    {between : RenderState} (h : render state = .error fault between) :
    (render >>= next).contextAfter state = between.context :=
  contextAfter_of_error (run_bind_of_error h)

theorem contextAfter_thenChange (render : RenderM α) (change : Context → Context) :
    (render.thenChange change).contextAfter state = change (render.contextAfter state) := by
  unfold contextAfter thenChange
  cases render state <;> rfl

end RenderM

/-- A name with what it stands for, as a variable or as a callable. -/
inductive Slot where
  | binding (name : String)
  | callable (name : String)

namespace Slot

/-- The name stands for the same in both contexts, or for nothing in both. -/
def SameIn (before after : Context) : Slot → Prop
  | binding name => after.get? name = before.get? name
  | callable name => Fields.get? after.callables name = Fields.get? before.callables name

variable {slot : Slot} {before between after : Context}

theorem SameIn.refl (slot : Slot) (context : Context) : slot.SameIn context context := by
  cases slot <;> rfl

theorem SameIn.trans (h : slot.SameIn before between) (h' : slot.SameIn between after) :
    slot.SameIn before after := by
  cases slot with
  | binding name => exact Eq.trans h' h
  | callable name => exact Eq.trans h' h

theorem SameIn.put {name : String} (hname : slot ≠ .binding name) (context : Context) (value : Value) :
    slot.SameIn context (context.put name value) := by
  cases slot with
  | binding other => exact Fields.get?_put_of_ne _ value fun hsame => hname (hsame ▸ rfl)
  | callable other => rfl

theorem SameIn.define {name : String} (hname : slot ≠ .callable name) (context : Context)
    (callable : Callable) : slot.SameIn context (context.define name callable) := by
  cases slot with
  | binding other => rfl
  | callable other => exact Fields.get?_put_of_ne _ callable fun hsame => hname (hsame ▸ rfl)

theorem SameIn.defineAll {space : String} {callables : Fields Callable}
    (hnames : ∀ name ∈ Fields.names callables, slot ≠ .callable (space ++ "_" ++ name))
    (context : Context) : slot.SameIn context (context.defineAll space callables) := by
  unfold Context.defineAll
  induction callables generalizing context with
  | nil => exact .refl slot context
  | cons entry rest ih =>
    obtain ⟨hentry, hrest⟩ := List.forall_mem_cons.mp hnames
    exact (SameIn.define hentry context entry.2).trans (ih hrest _)

theorem SameIn.restore {name : String} (hname : slot ≠ .binding name) (context : Context)
    (saved : Option Value) : slot.SameIn context (context.restore name saved) := by
  cases slot with
  | binding other => exact Fields.get?_restore_of_ne _ saved fun hsame => hname (hsame ▸ rfl)
  | callable other => rfl

/-- The rendering leaves the meaning of the name as it was. -/
def Stays {α : Type} (slot : Slot) (render : RenderM α) (state : RenderState) : Prop :=
  slot.SameIn state.context (render.contextAfter state)

section Stays

variable {α β : Type} {state : RenderState}

theorem Stays.pure (slot : Slot) (a : α) (state : RenderState) : slot.Stays (pure a) state :=
  .refl slot _

theorem Stays.evaluate (slot : Slot) (eval : Context → EvalM α) (state : RenderState) :
    slot.Stays (RenderM.evaluate eval) state := by
  unfold Stays
  rw [RenderM.contextAfter_evaluate]
  exact .refl slot _

theorem Stays.bind {render : RenderM α} {next : α → RenderM β} (h : slot.Stays render state)
    (hnext : ∀ a between, render state = .ok a between → slot.Stays (next a) between) :
    slot.Stays (render >>= next) state := by
  unfold Stays at h ⊢
  cases hrun : render state with
  | ok a between =>
    rw [RenderM.contextAfter_of_ok hrun] at h
    rw [RenderM.contextAfter_bind_of_ok hrun]
    exact h.trans (hnext a between hrun)
  | error fault between =>
    rw [RenderM.contextAfter_of_error hrun] at h
    rwa [RenderM.contextAfter_bind_of_error hrun]

/-- A text that is made of the result does not matter. -/
theorem Stays.bindPure {render : RenderM α} {f : α → β} (h : slot.Stays render state) :
    slot.Stays (render >>= fun a => Pure.pure (f a)) state :=
  h.bind fun a between _ => .pure slot (f a) between

theorem Stays.evaluateThen {eval : Context → EvalM α} {next : α → RenderM β}
    (hnext : ∀ a between, RenderM.evaluate eval state = .ok a between → slot.Stays (next a) between) :
    slot.Stays (RenderM.evaluate eval >>= next) state :=
  (Stays.evaluate slot eval state).bind hnext

theorem Stays.orElse {render : RenderM α} {recover : TemplateError → RenderM α}
    (h : slot.Stays render state) (hrecover : ∀ error after, slot.Stays (recover error) after) :
    slot.Stays (render.orElse recover) state := by
  cases hrun : render state with
  | ok a after =>
    rw [Stays, RenderM.contextAfter_of_ok hrun] at h
    have hok : render.orElse recover state = .ok a after := by
      unfold RenderM.orElse
      rw [hrun]
    rwa [Stays, RenderM.contextAfter_of_ok hok]
  | error fault after =>
    rw [Stays, RenderM.contextAfter_of_error hrun] at h
    cases fault with
    | error error =>
      have hend : (render.orElse recover).contextAfter state = (recover error).contextAfter after := by
        unfold RenderM.contextAfter RenderM.orElse
        rw [hrun]
      rw [Stays, hend]
      exact h.trans (hrecover error after)
    | tooDeep =>
      have herror : render.orElse recover state = .error .tooDeep after := by
        unfold RenderM.orElse
        rw [hrun]
      rwa [Stays, RenderM.contextAfter_of_error herror]

theorem Stays.changeContext {change : Context → Context}
    (h : slot.SameIn state.context (change state.context)) :
    slot.Stays (RenderM.changeContext change) state := h

end Stays

end Slot

namespace Render

/-- The value of an expression at the current place. -/
abbrev evaluated (jump : Jump) (frame : Frame) (e : Expr) : RenderM Value :=
  RenderM.evaluate fun context => Eval.expr jump frame context e

/-- A choice in the first state comes to this body in the second one. -/
inductive Chooses (jump : Jump) (frame : Frame) (otherwise : List Node) :
    List (Expr × List Node) → RenderState → List Node → RenderState → Prop
  | otherwise (state : RenderState) : Chooses jump frame otherwise [] state otherwise state
  | taken {condition : Expr} {body : List Node} {rest : List (Expr × List Node)} {value : Value}
      {state between : RenderState}
      (hvalue : evaluated jump frame condition state = .ok value between)
      (htrue : value.isTruthy = true) :
      Chooses jump frame otherwise ((condition, body) :: rest) state body between
  | passed {condition : Expr} {other body : List Node} {rest : List (Expr × List Node)} {value : Value}
      {state between start : RenderState}
      (hvalue : evaluated jump frame condition state = .ok value between)
      (hfalse : value.isTruthy = false) (hrest : Chooses jump frame otherwise rest between body start) :
      Chooses jump frame otherwise ((condition, other) :: rest) state body start

/-- The turns from the first state on, the first of which has the index; one of them starts in the second
state. -/
inductive Turns (key : Option String) (item : String) (length : Nat) (body : RenderM String) :
    Nat → List (Value × Value) → RenderState → RenderState → Prop
  | first (index : Nat) (entry : Value × Value) (rest : List (Value × Value)) (state : RenderState) :
      Turns key item length body index (entry :: rest) state
        { state with context := bindTurn key item index length entry.1 entry.2 state.context }
  | next {index : Nat} {entry : Value × Value} {rest : List (Value × Value)}
      {state between start : RenderState} {text : String}
      (hturn : body { state with context := bindTurn key item index length entry.1 entry.2 state.context } =
        .ok text between)
      (hrest : Turns key item length body (index + 1) rest between start) :
      Turns key item length body index (entry :: rest) state start

/-- A node that is rendered from the first state renders a list in it from the second one. The numbers tell
how many names may still be followed into each other. -/
inductive Opens (frame : Frame) :
    Nat → Node → RenderState → Nat → List Node → RenderState → Prop
  | choice {depth : Nat} {branches : List (Expr × List Node)} {otherwise body : List Node}
      {state start : RenderState}
      (hchooses : Chooses (upToDepth depth) frame otherwise branches state body start) :
      Opens frame depth (.choice branches otherwise) state depth body start
  | turn {depth : Nat} {key : Option String} {item : String} {source : Expr} {body empty : List Node}
      {value : Value} {state between start : RenderState}
      (hsource : evaluated (upToDepth depth) frame source state = .ok value between)
      (hturn : Turns key item (entries value).length (nodes (upToDepth depth) frame body) 0
        (entries value) between start) :
      Opens frame depth (.loop key item source body empty) state depth body start
  | empty {depth : Nat} {key : Option String} {item : String} {source : Expr} {body empty : List Node}
      {value : Value} {state between : RenderState}
      (hsource : evaluated (upToDepth depth) frame source state = .ok value between)
      (hempty : entries value = []) :
      Opens frame depth (.loop key item source body empty) state depth empty between
  | filter (depth : Nat) (call : Option FilterCall) (body : List Node) (state : RenderState) :
      Opens frame depth (.filter call body) state depth body state
  | fragment (depth : Nat) (body : List Node) (state : RenderState) :
      Opens frame depth (.fragment body) state depth body state
  | group (depth : Nat) (body : List Node) (state : RenderState) :
      Opens frame depth (.group body) state depth body state
  | host {depth : Nat} {name : String} {tag : HostTag} {arguments : List Expr} {body : List Node}
      {values : List Value} {state between : RenderState}
      (harguments : RenderM.evaluate (fun context =>
        Eval.exprs (upToDepth depth) frame context arguments) state = .ok values between)
      (hends : tag.ends = true) :
      Opens frame depth (.host name tag arguments body) state depth body between
  | block {depth : Nat} {name : String} {body : List Node} {state : RenderState}
      (hbody : Fields.get? frame.blocks name = some body) :
      Opens frame (depth + 1) (.block name) state depth body state

/-- The rendering of a list from the first state comes to a node in the second one. -/
inductive Reaches (frame : Frame) :
    Nat → List Node → RenderState → Nat → Node → RenderState → Prop
  | here (depth : Nat) (first : Node) (rest : List Node) (state : RenderState) :
      Reaches frame depth (first :: rest) state depth first state
  | later {depth level : Nat} {first part : Node} {rest : List Node} {text : String}
      {state between there : RenderState}
      (hfirst : node (upToDepth depth) frame first state = .ok text between)
      (hrest : Reaches frame depth rest between level part there) :
      Reaches frame depth (first :: rest) state level part there
  | inside {depth inner level : Nat} {first part : Node} {body rest : List Node}
      {state start there : RenderState} (hopens : Opens frame depth first state inner body start)
      (hbody : Reaches frame inner body start level part there) :
      Reaches frame depth (first :: rest) state level part there

/-- The node gives the name a new meaning when it is rendered from the state: to assign the variable, to
define the macro, or to import a callable that the other template left. -/
def Gives (frame : Frame) (depth : Nat) (state : RenderState) : Node → Slot → Prop
  | .assign name _, slot => slot = .binding name
  | .define name _ _, slot => slot = .callable name
  | .importation template space, slot =>
      ∃ value between text callables after,
        evaluated (upToDepth depth) frame template state = .ok value between ∧
          imported (upToDepth depth) frame value.display between.store = .ok (text, callables) after ∧
            ∃ name ∈ Fields.names callables, slot = .callable (space ++ "_" ++ name)
  | _, _ => False

/-- Nothing that the rendering comes to gives the name a new meaning. -/
def Spares (frame : Frame) (slot : Slot) (depth : Nat) (list : List Node) (state : RenderState) : Prop :=
  ∀ level part there, Reaches frame depth list state level part there →
    ¬ Gives frame level there part slot

section Spares

variable {frame : Frame} {slot : Slot} {depth : Nat} {head : Node} {rest : List Node}
  {state : RenderState}

theorem Spares.first (h : Spares frame slot depth (head :: rest) state) :
    ¬ Gives frame depth state head slot :=
  h depth head state (.here depth head rest state)

theorem Spares.alone (h : Spares frame slot depth (head :: rest) state) :
    Spares frame slot depth [head] state := by
  intro level part there hreach
  refine h level part there ?_
  cases hreach with
  | here => exact .here depth head rest state
  | later _ hnone => cases hnone
  | inside hopens hbody => exact .inside hopens hbody

theorem Spares.later {text : String} {between : RenderState}
    (h : Spares frame slot depth (head :: rest) state)
    (hfirst : node (upToDepth depth) frame head state = .ok text between) :
    Spares frame slot depth rest between :=
  fun level part there hreach => h level part there (.later hfirst hreach)

theorem Spares.inside {inner : Nat} {body : List Node} {start : RenderState}
    (h : Spares frame slot depth (head :: rest) state)
    (hopens : Opens frame depth head state inner body start) : Spares frame slot inner body start :=
  fun level part there hreach => h level part there (.inside hopens hreach)

end Spares

section Stays

variable {frame : Frame} {slot : Slot} {depth : Nat} {state : RenderState}

theorem sameIn_bindTurn {key : Option String} {item : String} (hkey : ∀ name ∈ key, slot ≠ .binding name)
    (hitem : slot ≠ .binding item) (hloop : slot ≠ .binding loopVariable) (index length : Nat)
    (entry : Value × Value) (context : Context) :
    slot.SameIn context (bindTurn key item index length entry.1 entry.2 context) := by
  unfold bindTurn
  cases key with
  | none => exact (Slot.SameIn.put hitem context _).trans (.put hloop _ _)
  | some name =>
    exact ((Slot.SameIn.put (hkey name rfl) context _).trans (.put hitem _ _)).trans (.put hloop _ _)

theorem sameIn_restoreLoop {key : Option String} {item : String}
    (hkey : ∀ name ∈ key, slot ≠ .binding name) (hitem : slot ≠ .binding item)
    (hloop : slot ≠ .binding loopVariable) (before after : Context) :
    slot.SameIn after (restoreLoop key item before after) := by
  unfold restoreLoop
  cases key with
  | none => exact (Slot.SameIn.restore hitem after _).trans (.restore hloop _ _)
  | some name =>
    exact ((Slot.SameIn.restore hitem after _).trans (.restore (hkey name rfl) _ _)).trans
      (.restore hloop _ _)

/-- The names of a loop. -/
def IsLoopName (key : Option String) (item name : String) : Prop :=
  key = some name ∨ name = item ∨ name = loopVariable

/-- The names of a loop stand again for what they stood for before it. -/
theorem get?_restoreLoop {key : Option String} {item name : String} (h : IsLoopName key item name)
    (before after : Context) : (restoreLoop key item before after).get? name = before.get? name := by
  have hother {context : Context} {other : String} (hne : name ≠ other) :
      (context.restore other (before.get? other)).get? name = context.get? name :=
    Fields.get?_restore_of_ne _ _ hne
  have hself (context : Context) :
      (context.restore name (before.get? name)).get? name = before.get? name :=
    Fields.get?_restore_self _ _ _
  unfold restoreLoop
  dsimp only
  by_cases hloop : name = loopVariable
  · rw [← hloop, hself]
  · rw [hother hloop]
    have hitem (hname : name = item) :
        (after.restore item (before.get? item)).get? name = before.get? name := by
      rw [← hname, hself]
    cases key with
    | none => exact hitem ((h.resolve_left nofun).resolve_right hloop)
    | some other =>
      by_cases hkey : name = other
      · rw [← hkey, hself]
      · rw [hother hkey]
        refine hitem ((h.resolve_left fun hsame => ?_).resolve_right hloop)
        exact hkey (Option.some.inj hsame).symm

theorem stays_turns {key : Option String} {item : String} (hkey : ∀ name ∈ key, slot ≠ .binding name)
    (hitem : slot ≠ .binding item) (hloop : slot ≠ .binding loopVariable) {length : Nat}
    {body : RenderM String} {index : Nat} {all : List (Value × Value)}
    (hbody : ∀ start, Turns key item length body index all state start → slot.Stays body start) :
    slot.Stays (turns key item length body index all) state := by
  induction all generalizing index state with
  | nil => exact .pure slot "" state
  | cons entry rest ih =>
    rw [turns]
    refine (Slot.Stays.changeContext
      (sameIn_bindTurn hkey hitem hloop index length entry state.context)).bind ?_
    rintro _ _ ⟨⟩
    refine (hbody _ (.first index entry rest state)).bind fun text between htext => ?_
    exact (ih fun start hturns => hbody start (.next htext hturns)).bindPure

/-- A loop leaves its own names as they were, unless there are no entries. -/
theorem get?_loop {key : Option String} {item name : String} (h : IsLoopName key item name)
    (source : Context → EvalM Value) (body empty : RenderM String) :
    ((loop key item source body empty).contextAfter state).get? name = state.context.get? name ∨
      ∃ value between, RenderM.evaluate source state = .ok value between ∧ entries value = [] := by
  unfold loop
  cases hsource : RenderM.evaluate source state with
  | error fault between =>
    rw [RenderM.contextAfter_bind_of_error hsource,
      ← RenderM.contextAfter_of_error hsource, RenderM.contextAfter_evaluate]
    exact Or.inl rfl
  | ok value between =>
    rw [RenderM.contextAfter_bind_of_ok hsource]
    cases hentries : entries value with
    | nil => exact Or.inr ⟨value, between, rfl, hentries⟩
    | cons entry rest =>
      refine Or.inl ?_
      dsimp only
      rw [RenderM.contextAfter_bind_of_ok (rfl : RenderM.context between = .ok between.context between),
        RenderM.contextAfter_thenChange, get?_restoreLoop h, RenderM.context_of_evaluate hsource]

theorem stays_loop {key : Option String} {item : String} {source : Context → EvalM Value}
    {body empty : RenderM String}
    (hbody : ∀ value between start, RenderM.evaluate source state = .ok value between →
      Turns key item (entries value).length body 0 (entries value) between start → slot.Stays body start)
    (hempty : ∀ value between, RenderM.evaluate source state = .ok value between → entries value = [] →
      slot.Stays empty between) : slot.Stays (loop key item source body empty) state := by
  by_cases hown : ∃ name, slot = .binding name ∧ IsLoopName key item name
  · obtain ⟨name, rfl, hname⟩ := hown
    rcases get?_loop hname source body empty with hsame | ⟨value, between, hsource, hentries⟩
    · exact hsame
    · unfold loop
      refine Slot.Stays.evaluateThen fun value' between' hsource' => ?_
      cases hsource.symm.trans hsource'
      rw [hentries]
      exact hempty value between hsource hentries
  · have hkey : ∀ name ∈ key, slot ≠ .binding name := fun name hmem hslot =>
      hown ⟨name, hslot, Or.inl hmem⟩
    have hitem : slot ≠ .binding item := fun hslot => hown ⟨item, hslot, Or.inr (Or.inl rfl)⟩
    have hloop : slot ≠ .binding loopVariable := fun hslot =>
      hown ⟨loopVariable, hslot, Or.inr (Or.inr rfl)⟩
    unfold loop
    refine Slot.Stays.evaluateThen fun value between hsource => ?_
    cases hentries : entries value with
    | nil => exact hempty value between hsource hentries
    | cons entry rest =>
      refine Slot.Stays.bind (.refl slot _) ?_
      rintro _ _ ⟨⟩
      unfold Slot.Stays
      rw [RenderM.contextAfter_thenChange]
      refine Slot.SameIn.trans (stays_turns hkey hitem hloop fun start hturns => ?_)
        (sameIn_restoreLoop hkey hitem hloop _ _)
      exact hbody value between start hsource (hentries ▸ hturns)

theorem stays_inclusion {jump : Jump} {template : Expr} {ignoreMissing : Bool} {scope : Option Expr}
    {only : Bool} : slot.Stays (inclusion jump frame template ignoreMissing scope only) state := by
  unfold inclusion
  refine Slot.Stays.evaluateThen fun name _ _ => Slot.Stays.evaluateThen fun start between _ => ?_
  dsimp only
  split
  · exact (Slot.Stays.evaluate slot _ between).orElse fun _ after => .pure slot "" after
  · exact .evaluate slot _ between

theorem stays_importation {template : Expr} {space : String}
    (h : ¬ Gives frame depth state (.importation template space) slot) :
    slot.Stays (importation (upToDepth depth) frame template space) state := by
  unfold importation
  refine Slot.Stays.evaluateThen fun value between hvalue => ?_
  refine Slot.Stays.evaluateThen fun imports after himports => ?_
  obtain ⟨text, callables⟩ := imports
  obtain ⟨final, himported⟩ := RenderM.evaluate_eq_ok himports
  refine (Slot.Stays.changeContext (Slot.SameIn.defineAll (fun name hname hslot => h ?_) _)).bindPure
  exact ⟨value, between, text, callables, final, hvalue, himported, name, hname, hslot⟩

theorem stays_output {jump : Jump} {e : Expr} {filters : List FilterCall} {escape : Option EscapeKind} :
    slot.Stays (output jump frame e filters escape) state := by
  unfold output
  refine Slot.Stays.evaluateThen fun called _ _ => Slot.Stays.evaluateThen fun value between _ => ?_
  cases escape <;> exact .pure slot _ between

theorem stays_filter {call : Option FilterCall} {jump : Jump} {body : RenderM String}
    (hbody : slot.Stays body state) : slot.Stays (filter jump frame call body) state := by
  unfold filter
  refine hbody.bind fun text between _ => ?_
  cases call with
  | none => exact .pure slot text between
  | some call => exact (Slot.Stays.evaluate slot _ between).bindPure

theorem stays_host {jump : Jump} {name : String} {tag : HostTag} {arguments : List Expr}
    {body : RenderM String}
    (hbody : ∀ values between, RenderM.evaluate (fun context => Eval.exprs jump frame context arguments)
      state = .ok values between → tag.ends = true → slot.Stays body between) :
    slot.Stays (host jump frame name tag arguments body) state := by
  have hcall (values : List Value) (text : Option String) (state : RenderState) :
      slot.Stays (Guarantee.callHost frame.env name tag values text) state := by
    unfold Guarantee.callHost
    refine Slot.Stays.bind (.refl slot _) ?_
    rintro _ _ ⟨⟩
    dsimp only
    split <;> exact .refl slot _
  rw [Guarantee.host_eq]
  refine Slot.Stays.evaluateThen fun values between hvalues => ?_
  refine Slot.Stays.bind ?_ fun text after _ => hcall values text after
  split
  · rename_i hends
    rw [map_eq_pure_bind]
    exact (hbody values between hvalues hends).bindPure
  · exact .pure slot none between

end Stays

/-- In this frame the blocks that spare a name leave it as it is. -/
def BlocksStay (frame : Frame) (slot : Slot) (depth : Nat) : Prop :=
  ∀ name body state, Fields.get? frame.blocks name = some body →
    Spares frame slot depth [.block name] state → slot.Stays (upToDepth depth frame body) state

section Induction

variable {frame : Frame} {slot : Slot} {depth : Nat}

mutual

theorem stays_node (hblocks : BlocksStay frame slot depth) (n : Node) (state : RenderState)
    (h : Spares frame slot depth [n] state) : slot.Stays (node (upToDepth depth) frame n) state := by
  match n with
  | .text text => exact .pure slot text state
  | .output e filters escape => exact stays_output
  | .choice branches otherwise =>
    exact stays_choice hblocks branches otherwise state (fun body start hchooses => h.inside (.choice hchooses))
      fun start hspares => stays_nodes hblocks otherwise start hspares
  | .loop key item source body empty =>
    refine stays_loop (fun value between start hsource hturns => ?_) fun value between hsource hempty => ?_
    · exact stays_nodes hblocks body start (h.inside (.turn hsource hturns))
    · exact stays_nodes hblocks empty between (h.inside (.empty hsource hempty))
  | .assign name value =>
    refine Slot.Stays.evaluateThen fun result between _ => ?_
    exact (Slot.Stays.changeContext (.put h.first between.context result)).bindPure
  | .filter call body =>
    exact stays_filter (stays_nodes hblocks body state (h.inside (.filter depth call body state)))
  | .define name parameters body =>
    exact (Slot.Stays.changeContext (.define h.first state.context _)).bindPure
  | .inclusion template ignoreMissing scope only => exact stays_inclusion
  | .importation template space => exact stays_importation h.first
  | .block name =>
    rw [node]
    cases hbody : Fields.get? frame.blocks name with
    | none => exact .pure slot "" state
    | some body => exact hblocks name body state hbody h
  | .fragment body => exact stays_nodes hblocks body state (h.inside (.fragment depth body state))
  | .group body => exact stays_nodes hblocks body state (h.inside (.group depth body state))
  | .host name tag arguments body =>
    exact stays_host fun values between hvalues hends =>
      stays_nodes hblocks body between (h.inside (.host hvalues hends))
  | .alternative condition line => exact .pure slot "" state

theorem stays_nodes (hblocks : BlocksStay frame slot depth) (list : List Node) (state : RenderState)
    (h : Spares frame slot depth list state) : slot.Stays (nodes (upToDepth depth) frame list) state := by
  match list with
  | [] => exact .pure slot "" state
  | first :: rest =>
    rw [nodes]
    refine (stays_node hblocks first state h.alone).bind fun text between hfirst => ?_
    exact (stays_nodes hblocks rest between (h.later hfirst)).bindPure

theorem stays_choice (hblocks : BlocksStay frame slot depth) (branches : List (Expr × List Node))
    (otherwise : List Node) (state : RenderState)
    (h : ∀ body start, Chooses (upToDepth depth) frame otherwise branches state body start →
      Spares frame slot depth body start)
    (hotherwise : ∀ start, Spares frame slot depth otherwise start →
      slot.Stays (nodes (upToDepth depth) frame otherwise) start) :
    slot.Stays (choice (upToDepth depth) frame branches (nodes (upToDepth depth) frame otherwise)) state := by
  match branches with
  | [] => exact hotherwise state (h otherwise state (.otherwise state))
  | (condition, body) :: rest =>
    rw [choice]
    refine Slot.Stays.evaluateThen fun value between hvalue => ?_
    split
    · rename_i htrue
      exact stays_nodes hblocks body between (h body between (.taken hvalue htrue))
    · rename_i hfalse
      refine stays_choice hblocks rest otherwise between (fun other start hchooses => ?_) hotherwise
      exact h other start (.passed hvalue (Bool.not_eq_true _ ▸ hfalse) hchooses)

end

end Induction

/-- What nothing gives a new meaning stays as it was. -/
theorem stays_of_spares {frame : Frame} {slot : Slot} {depth : Nat} {list : List Node} {state : RenderState}
    (h : Spares frame slot depth list state) : slot.Stays (nodes (upToDepth depth) frame list) state := by
  induction depth generalizing list state with
  | zero =>
    refine stays_nodes (fun name body state hbody hspares => ?_) list state h
    exact .refl slot state.context
  | succ depth ih =>
    refine stays_nodes (fun name body state hbody hspares => ?_) list state h
    exact ih (hspares.inside (.block hbody))

/-- However a rendering ends, a name stands for what it stood for before, unless the rendering came to a
node that gives it a new meaning: one that assigns the variable, defines the macro or imports a callable
under that name. Macros, what is included, filters and tags of the host are none of these, and neither are
loops, whose own names stand again for what they stood for, even if the body assigned them or failed; only
without entries another body is rendered in place of the loop. -/
theorem nodes_leave (depth : Nat) (frame : Frame) (list : List Node) (state : RenderState) :
    (∀ slot : Slot, slot.SameIn state.context ((nodes (upToDepth depth) frame list).contextAfter state) ∨
      ∃ level part there, Reaches frame depth list state level part there ∧
        Gives frame level there part slot) ∧
    ∀ key item source body empty name, IsLoopName key item name →
      ((node (upToDepth depth) frame (.loop key item source body empty)).contextAfter state).get? name =
        state.context.get? name ∨
      ∃ value between, evaluated (upToDepth depth) frame source state = .ok value between ∧
        entries value = [] := by
  refine ⟨fun slot => ?_, fun key item source body empty name hname => get?_loop hname _ _ _⟩
  by_cases hgiven : ∃ level part there, Reaches frame depth list state level part there ∧
      Gives frame level there part slot
  · exact Or.inr hgiven
  · refine Or.inl (stays_of_spares fun level part there hreaches hgives => ?_)
    exact hgiven ⟨level, part, there, hreaches, hgives⟩

/-- A loop whose body assigns the item and then fails. -/
example (env : Environment) :
    let body : List Node := [.assign "x" (.literal .null), .host "fail" ⟨false, fun _ => .error ""⟩ [] []]
    let state : RenderState := ⟨{ bindings := [("x", .bool true)] }, {}⟩
    ((node (upToDepth 1) ⟨env, [], [], none, 0⟩
      (.loop none "x" (.literal (.array [.null])) body [])).contextAfter state).get? "x" =
        some (.bool true) := by
  rfl

end Render

end Stencil
