import Stencil.Proofs.Render.Bindings
import Stencil.Proofs.Render.Lookup

/-!
What the body of a loop gets to see. It runs for one entry after another, each time in a context that shows
it this entry and its place, whatever the runs before have made of the names. It is only run further while it
does not fail.
-/
namespace Stencil

namespace Value

/-- What a loop finds at a place: an item of an array under its index, or a member of an object under its
name. -/
inductive EntryAt : Value → Nat → Value → Value → Prop
  | item {items : List Value} {place : Nat} {item : Value} (hitem : items[place]? = some item) :
      EntryAt (.array items) place (.ofNat place) item
  | member {fields : Fields Value} {place : Nat} {name : String} {value : Value}
      (hmember : fields[place]? = some (name, value)) :
      EntryAt (.object fields) place (.string name) value

/-- Only arrays and objects have entries. -/
def entryCount : Value → Nat
  | .array items => items.length
  | .object fields => fields.length
  | _ => 0

theorem length_entries (value : Value) : (Render.entries value).length = value.entryCount := by
  cases value <;> simp [Render.entries, entryCount]

theorem entryAt_of_getElem? {value : Value} {place : Nat} {entry : Value × Value}
    (h : (Render.entries value)[place]? = some entry) : EntryAt value place entry.1 entry.2 := by
  cases value with
  | array items =>
    rw [Render.entries, List.getElem?_map, List.getElem?_zipIdx] at h
    obtain ⟨pair, hpair, rfl⟩ := Option.map_eq_some_iff.mp h
    obtain ⟨item, hitem, rfl⟩ := Option.map_eq_some_iff.mp hpair
    rw [Nat.zero_add]
    exact .item hitem
  | object fields =>
    rw [Render.entries, List.getElem?_map] at h
    obtain ⟨pair, hpair, rfl⟩ := Option.map_eq_some_iff.mp h
    exact .member hpair
  | _ => cases h

end Value

namespace Render

/-- What the loop variable tells a body about its turn, of so many. -/
structure TellsTurn (record : Fields Value) (place length : Nat) (key : Value) : Prop where
  index : Fields.get? record "index" = some (.ofNat (place + 1))
  index0 : Fields.get? record "index0" = some (.ofNat place)
  revindex : Fields.get? record "revindex" = some (.ofNat (length - place))
  revindex0 : Fields.get? record "revindex0" = some (.ofNat (length - place - 1))
  first : ∃ first, Fields.get? record "first" = some (.bool first) ∧ (first = true ↔ place = 0)
  last : ∃ last, Fields.get? record "last" = some (.bool last) ∧ (last = true ↔ place = length - 1)
  key : Fields.get? record "key" = some key
  length : Fields.get? record "length" = some (.ofNat length)

/-- The names of a loop stand for the entry at a place of the value. -/
def SeesTurn (key : Option String) (item : String) (value : Value) (place : Nat) (context : Context) : Prop :=
  ∃ entryKey entry record, value.EntryAt place entryKey entry ∧
    context.get? item = some entry ∧ (∀ name ∈ key, context.get? name = some entryKey) ∧
    context.get? loopVariable = some (.object record) ∧
    TellsTurn record place value.entryCount entryKey

/-- Only names of the loop have another meaning in the second context. -/
def SameButLoopNames (key : Option String) (item : String) (before after : Context) : Prop :=
  ∀ slot : Slot, (∀ name, slot = .binding name → ¬ IsLoopName key item name) → slot.SameIn before after

/-- How a rendering ends, and in which state. -/
def Ends (render : RenderM String) (start : RenderState) : Except Fault String → RenderState → Prop
  | .ok text, after => render start = .ok text after
  | .error fault, after => render start = .error fault after

/-- Runs of a body, each of which starts where the one before it ended, but for the names of the loop. One
that fails is the last one. -/
inductive Runs (key : Option String) (item : String) (body : RenderM String) :
    RenderState → List RenderState → Except Fault String → RenderState → Prop
  | done (state : RenderState) : Runs key item body state [] (.ok "") state
  | failed {state start after : RenderState} {fault : Fault} (hstore : start.store = state.store)
      (hcontext : SameButLoopNames key item state.context start.context)
      (hbody : Ends body start (.error fault) after) : Runs key item body state [start] (.error fault) after
  | next {state start between after : RenderState} {starts : List RenderState} {text : String}
      {outcome : Except Fault String} (hstore : start.store = state.store)
      (hcontext : SameButLoopNames key item state.context start.context)
      (hbody : Ends body start (.ok text) between) (hrest : Runs key item body between starts outcome after) :
      Runs key item body state (start :: starts) (outcome.map (text ++ ·)) after

/-- The runs of a body for the entries of a value, from the first one on: for all of them, unless one run
fails. -/
structure RunsInTurn (key : Option String) (item : String) (body : RenderM String) (value : Value)
    (before : RenderState) (starts : List RenderState) (outcome : Except Fault String)
    (after : RenderState) : Prop where
  runs : Runs key item body before starts outcome after
  some : starts ≠ []
  atMost : starts.length ≤ value.entryCount
  all : ∀ text, outcome = .ok text → starts.length = value.entryCount
  sees : ∀ place start, starts[place]? = Option.some start → SeesTurn key item value place start.context

/-- The names of the loop stand for what they stood for before it; all else is as the runs have left it. -/
structure GivesBack (key : Option String) (item : String) (before after final : RenderState) : Prop where
  store : final.store = after.store
  others : SameButLoopNames key item after.context final.context
  own : ∀ name, IsLoopName key item name → final.context.get? name = before.context.get? name

variable {key : Option String} {item : String}

theorem tellsTurn_loopRecord {place length : Nat} (h : place < length) (entryKey : Value) :
    ∃ record, loopRecord place length entryKey = .object record ∧
      TellsTurn record place length entryKey := by
  refine ⟨_, rfl, rfl, rfl, rfl, rfl, ⟨_, rfl, ?_⟩, ⟨_, rfl, ?_⟩, rfl, rfl⟩
  · exact beq_iff_eq
  · rw [beq_iff_eq]
    omega

/-- Names that differ do not stand in each other's way. -/
theorem seesTurn_bindTurn (hitem : item ≠ loopVariable)
    (hkey : ∀ name ∈ key, name ≠ item ∧ name ≠ loopVariable)
    {value : Value} {place : Nat} {entry : Value × Value} (h : (entries value)[place]? = some entry)
    (context : Context) :
    SeesTurn key item value place (bindTurn key item place value.entryCount entry.1 entry.2 context) := by
  have hplace : place < value.entryCount := by
    rw [← value.length_entries]
    exact (List.getElem?_eq_some_iff.mp h).1
  obtain ⟨record, hrecord, htells⟩ := tellsTurn_loopRecord hplace entry.1
  refine ⟨entry.1, entry.2, record, Value.entryAt_of_getElem? h, ?_, fun name hname => ?_, ?_, htells⟩
  · exact (Fields.get?_put_of_ne _ _ hitem).trans (Fields.get?_put_self _ _ _)
  · obtain ⟨hnotItem, hnotLoop⟩ := hkey name hname
    cases hname
    exact (Fields.get?_put_of_ne _ _ hnotLoop).trans
      ((Fields.get?_put_of_ne _ _ hnotItem).trans (Fields.get?_put_self _ _ _))
  · exact (Fields.get?_put_self _ _ _).trans (congrArg some hrecord)

theorem SeesTurn.congr {value : Value} {place : Nat} {before after : Context}
    (h : SeesTurn key item value place before)
    (hsame : ∀ name, IsLoopName key item name → after.get? name = before.get? name) :
    SeesTurn key item value place after := by
  obtain ⟨entryKey, entry, record, hentry, hitem, hkey, hloop, htells⟩ := h
  refine ⟨entryKey, entry, record, hentry, ?_, fun name hname => ?_, ?_, htells⟩
  · exact (hsame item (Or.inr (Or.inl rfl))).trans hitem
  · exact (hsame name (Or.inl hname)).trans (hkey name hname)
  · exact (hsame loopVariable (Or.inr (Or.inr rfl))).trans hloop

theorem sameButLoopNames_bindTurn (place length : Nat) (entry : Value × Value) (context : Context) :
    SameButLoopNames key item context (bindTurn key item place length entry.1 entry.2 context) := by
  intro slot hslot
  exact sameIn_bindTurn (fun name hname hsame => hslot name hsame (Or.inl hname))
    (fun hsame => hslot item hsame (Or.inr (Or.inl rfl)))
    (fun hsame => hslot loopVariable hsame (Or.inr (Or.inr rfl))) place length entry context

theorem sameButLoopNames_restoreLoop (before after : Context) :
    SameButLoopNames key item after (restoreLoop key item before after) := by
  intro slot hslot
  exact sameIn_restoreLoop (fun name hname hsame => hslot name hsame (Or.inl hname))
    (fun hsame => hslot item hsame (Or.inr (Or.inl rfl)))
    (fun hsame => hslot loopVariable hsame (Or.inr (Or.inr rfl))) before after

section Turn

variable {body : RenderM String} {length place : Nat} {entry : Value × Value} {rest : List (Value × Value)}
  {state : RenderState}

/-- The state in which a body starts its turn. -/
def turnStart (key : Option String) (item : String) (place length : Nat) (entry : Value × Value)
    (state : RenderState) : RenderState :=
  { state with context := bindTurn key item place length entry.1 entry.2 state.context }

theorem turns_of_error {fault : Fault} {after : RenderState}
    (h : body (turnStart key item place length entry state) = .error fault after) :
    turns key item length body place (entry :: rest) state = .error fault after := by
  have hbody : (do
      let text ← body
      return text ++ (← turns key item length body (place + 1) rest) : RenderM String)
        (turnStart key item place length entry state) = .error fault after := run_bind_of_error h
  rw [turns]
  exact (run_bind_of_ok rfl).trans hbody

theorem ends_turns_of_ok {text : String} {between after : RenderState} {outcome : Except Fault String}
    (h : body (turnStart key item place length entry state) = .ok text between)
    (hrest : Ends (turns key item length body (place + 1) rest) between outcome after) :
    Ends (turns key item length body place (entry :: rest)) state (outcome.map (text ++ ·)) after := by
  have hturn : turns key item length body place (entry :: rest) state =
      (do return text ++ (← turns key item length body (place + 1) rest) : RenderM String) between := by
    rw [turns]
    exact run_bind_of_ok h
  cases outcome with
  | ok later => exact hturn.trans (run_bind_of_ok hrest)
  | error fault => exact hturn.trans (run_bind_of_error hrest)

/-- Turn after turn, until one fails or all entries have had theirs. -/
theorem runs_turns (key : Option String) (item : String) (length : Nat) (body : RenderM String) (place : Nat)
    (all : List (Value × Value)) (state : RenderState) :
    ∃ starts outcome after, Runs key item body state starts outcome after ∧
      Ends (turns key item length body place all) state outcome after ∧
      (all ≠ [] → starts ≠ []) ∧ starts.length ≤ all.length ∧
      (∀ text, outcome = .ok text → starts.length = all.length) ∧
      ∀ turn start, starts[turn]? = some start → ∃ entry context, all[turn]? = some entry ∧
        start.context = bindTurn key item (place + turn) length entry.1 entry.2 context := by
  induction all generalizing place state with
  | nil => exact ⟨[], .ok "", state, .done state, rfl, absurd rfl, Nat.le_refl 0, fun _ _ => rfl, nofun⟩
  | cons entry rest ih =>
    have hcontext : SameButLoopNames key item state.context
        (turnStart key item place length entry state).context :=
      sameButLoopNames_bindTurn place length entry state.context
    cases hbody : body (turnStart key item place length entry state) with
    | error fault after =>
      refine ⟨[turnStart key item place length entry state], .error fault, after, .failed rfl hcontext hbody,
        turns_of_error hbody, fun _ => nofun, Nat.le_add_left 1 _, nofun, ?_⟩
      intro turn start hstart
      cases turn with
      | zero =>
        cases hstart
        exact ⟨entry, state.context, rfl, rfl⟩
      | succ turn => cases hstart
    | ok text between =>
      obtain ⟨starts, outcome, after, hruns, hends, -, hlength, hall, hsees⟩ := ih (place + 1) between
      refine ⟨turnStart key item place length entry state :: starts, outcome.map (text ++ ·), after,
        .next rfl hcontext hbody hruns, ends_turns_of_ok hbody hends, fun _ => nofun, Nat.succ_le_succ hlength,
        fun whole hwhole => ?_, fun turn start hstart => ?_⟩
      · cases outcome with
        | ok later => exact congrArg Nat.succ (hall later rfl)
        | error fault => cases hwhole
      · cases turn with
        | zero =>
          cases hstart
          exact ⟨entry, state.context, rfl, rfl⟩
        | succ turn =>
          obtain ⟨own, context, hown, hstart⟩ := hsees turn start hstart
          refine ⟨own, context, hown, ?_⟩
          rw [hstart, Nat.add_right_comm, Nat.add_assoc]

end Turn

section Loop

variable {depth : Nat} {frame : Frame} {source : Expr} {body empty : List Node} {state between : RenderState}
  {value : Value}

/-- Without entries the other part is rendered in place of the loop. -/
theorem loop_of_no_entries (hsource : evaluated (upToDepth depth) frame source state = .ok value between)
    (hempty : value.entryCount = 0) :
    node (upToDepth depth) frame (.loop key item source body empty) state =
      nodes (upToDepth depth) frame empty between := by
  have hentries : entries value = [] := List.length_eq_zero_iff.mp (value.length_entries.trans hempty)
  rw [node, loop, run_bind_of_ok hsource, hentries]

theorem loop_of_entries (hsource : evaluated (upToDepth depth) frame source state = .ok value between)
    (hentries : value.entryCount ≠ 0) :
    node (upToDepth depth) frame (.loop key item source body empty) state =
      RenderM.thenChange
        (turns key item value.entryCount (nodes (upToDepth depth) frame body) 0 (entries value))
        (restoreLoop key item between.context) between := by
  rw [node, loop, run_bind_of_ok hsource, ← value.length_entries]
  cases hall : entries value with
  | nil =>
    rw [← value.length_entries, hall] at hentries
    exact absurd rfl hentries
  | cons entry rest => exact run_bind_of_ok (rfl : RenderM.context between = .ok between.context between)

theorem runsInTurn_of_entries (hitem : item ≠ loopVariable)
    (hkey : ∀ name ∈ key, name ≠ item ∧ name ≠ loopVariable) (hentries : value.entryCount ≠ 0)
    (body : RenderM String) (state : RenderState) :
    ∃ starts outcome after, RunsInTurn key item body value state starts outcome after ∧
      Ends (turns key item value.entryCount body 0 (entries value)) state outcome after := by
  obtain ⟨starts, outcome, after, hruns, hends, hsome, hlength, hall, hsees⟩ :=
    runs_turns key item value.entryCount body 0 (entries value) state
  rw [value.length_entries] at hlength hall
  refine ⟨starts, outcome, after,
    ⟨hruns, hsome fun hnone => ?_, hlength, hall, fun place start hstart => ?_⟩, hends⟩
  · rw [← value.length_entries, hnone] at hentries
    exact hentries rfl
  · obtain ⟨entry, context, hentry, hcontext⟩ := hsees place start hstart
    rw [hcontext, Nat.zero_add]
    exact seesTurn_bindTurn hitem hkey hentry context

theorem Ends.thenChange {render : RenderM String} {start after : RenderState} {outcome : Except Fault String}
    (h : Ends render start outcome after) (change : Context → Context) :
    Ends (render.thenChange change) start outcome { after with context := change after.context } := by
  unfold RenderM.thenChange
  cases outcome with
  | ok text =>
    have hok : render start = .ok text after := h
    simp only [Ends, hok]
  | error fault =>
    have herror : render start = .error fault after := h
    simp only [Ends, herror]

theorem contextAfter_nodes_singleton (jump : Jump) (frame : Frame) (n : Node) (state : RenderState) :
    (nodes jump frame [n]).contextAfter state = (node jump frame n).contextAfter state := by
  rw [nodes]
  cases hnode : node jump frame n state with
  | ok text after => rw [RenderM.contextAfter_bind_of_ok hnode, RenderM.contextAfter_of_ok hnode]; rfl
  | error fault after => rw [RenderM.contextAfter_bind_of_error hnode, RenderM.contextAfter_of_error hnode]

/-- A name of a loop inside that has entries is restored; of the other names those stay that nothing in the
loop gives a new meaning. -/
theorem SeesTurn.after_loop {place : Nat} {start : RenderState} {innerKey : Option String} {inner : String}
    {other : Expr} (h : SeesTurn key item value place start.context)
    (hnames : ∀ name, IsLoopName key item name →
      (IsLoopName innerKey inner name ∧ ∀ iterated after,
        evaluated (upToDepth depth) frame other start = .ok iterated after → iterated.entryCount ≠ 0) ∨
      Spares frame (.binding name) depth [.loop innerKey inner other body empty] start) :
    SeesTurn key item value place
      ((node (upToDepth depth) frame (.loop innerKey inner other body empty)).contextAfter start) := by
  refine h.congr fun name hname => ?_
  rcases hnames name hname with ⟨hown, hentries⟩ | hspares
  · have hloop := (nodes_leave depth frame [] start).2 innerKey inner other body empty name hown
    refine hloop.resolve_right ?_
    rintro ⟨iterated, after, hiterated, hnone⟩
    refine hentries iterated after hiterated ?_
    rw [← iterated.length_entries, hnone]
    rfl
  · rw [← contextAfter_nodes_singleton]
    exact stays_of_spares hspares

/-- A loop renders its body for the entries of its value in turn, from the first one on and until a run
fails, and each run starts in a context in which the names of the loop stand for the entry, its key and its
place, whatever the earlier runs have made of them; afterwards the names stand for what they stood for before
the loop. Only for a value without entries the other part is rendered instead. A loop inside the body gives
back what it uses, so behind it the names stand for the same entry again. -/
theorem loop_binds (depth : Nat) (frame : Frame) (key : Option String) (item : String)
    (hitem : item ≠ loopVariable) (hkey : ∀ name ∈ key, name ≠ item ∧ name ≠ loopVariable)
    (source : Expr) (body empty : List Node) (state between : RenderState) (value : Value)
    (hsource : evaluated (upToDepth depth) frame source state = .ok value between) :
    (value.entryCount = 0 →
      node (upToDepth depth) frame (.loop key item source body empty) state =
        nodes (upToDepth depth) frame empty between) ∧
    (value.entryCount ≠ 0 → ∃ starts outcome after final,
      RunsInTurn key item (nodes (upToDepth depth) frame body) value between starts outcome after ∧
        Ends (node (upToDepth depth) frame (.loop key item source body empty)) state outcome final ∧
        GivesBack key item state after final) ∧
    ∀ place start innerKey inner other part none, SeesTurn key item value place start.context →
      (∀ name, IsLoopName key item name →
        (IsLoopName innerKey inner name ∧ ∀ iterated after,
          evaluated (upToDepth depth) frame other start = .ok iterated after → iterated.entryCount ≠ 0) ∨
        Spares frame (.binding name) depth [.loop innerKey inner other part none] start) →
      SeesTurn key item value place
        ((node (upToDepth depth) frame (.loop innerKey inner other part none)).contextAfter start) := by
  refine ⟨loop_of_no_entries hsource, fun hentries => ?_, fun _ _ _ _ _ _ _ hsees => hsees.after_loop⟩
  obtain ⟨starts, outcome, after, hruns, hends⟩ :=
    runsInTurn_of_entries hitem hkey hentries (nodes (upToDepth depth) frame body) between
  have hchanged := hends.thenChange (restoreLoop key item between.context)
  have hloop : Ends (node (upToDepth depth) frame (.loop key item source body empty)) state outcome
      { after with context := restoreLoop key item between.context after.context } := by
    unfold Ends
    rw [loop_of_entries hsource hentries]
    exact hchanged
  refine ⟨starts, outcome, after, _, hruns, hloop, rfl, sameButLoopNames_restoreLoop _ _, ?_⟩
  intro name hname
  rw [get?_restoreLoop hname, RenderM.context_of_evaluate hsource]

end Loop

section Sample

def twoMembers : Value := .object [("a", .string "A"), ("b", .string "B")]

/-- It prints the key and the item, uses their names in a loop of its own and assigns the item. -/
def spoilingBody : List Node := [
  .output (.path "k" []) [] none, .output (.path "x" []) [] none,
  .loop (some "k") "x" (.literal (.array [.null])) [.assign "loop" (.literal .null)] [],
  .output (.path "k" []) [] none, .output (.path "x" []) [] none,
  .assign "x" (.literal .null)]

theorem loop_binds_spoiled :
    ∃ starts after final,
      RunsInTurn (some "k") "x" (nodes (upToDepth 1) Eval.bareFrame spoilingBody) twoMembers ⟨{}, {}⟩ starts
        (.ok "aAaAbBbB") after ∧
      starts.length = 2 ∧ GivesBack (some "k") "x" ⟨{}, {}⟩ after final ∧
      ∀ place start, starts[place]? = some start →
        SeesTurn (some "k") "x" twoMembers place start.context ∧
        SeesTurn (some "k") "x" twoMembers place ((node (upToDepth 1) Eval.bareFrame
          (.loop (some "k") "x" (.literal (.array [.null])) [.assign "loop" (.literal .null)] [])).contextAfter
            start) := by
  obtain ⟨-, hruns, hnested⟩ := loop_binds 1 Eval.bareFrame (some "k") "x" (by decide) (by decide)
    (.literal twoMembers) spoilingBody [] ⟨{}, {}⟩ ⟨{}, {}⟩ twoMembers rfl
  obtain ⟨starts, outcome, after, final, hturns, hends, hback⟩ := hruns (by decide)
  have hprints : (match node (upToDepth 1) Eval.bareFrame
      (.loop (some "k") "x" (.literal twoMembers) spoilingBody []) ⟨{}, {}⟩ with
    | .ok text _ => text
    | .error _ _ => "") = "aAaAbBbB" := by
    decide +kernel
  cases outcome with
  | error fault =>
    have hfails : node (upToDepth 1) Eval.bareFrame _ _ = .error fault final := hends
    rw [hfails] at hprints
    have hnone : "" = "aAaAbBbB" := hprints
    exact absurd hnone (by decide)
  | ok text =>
    have hends : node (upToDepth 1) Eval.bareFrame _ _ = .ok text final := hends
    rw [hends] at hprints
    cases hprints
    refine ⟨starts, after, final, hturns, hturns.all _ rfl, hback, fun place start hstart => ?_⟩
    have hsees := hturns.sees place start hstart
    refine ⟨hsees, hnested place start _ _ _ _ _ hsees fun name hname => Or.inl ⟨hname, ?_⟩⟩
    rintro iterated after ⟨⟩
    decide

end Sample

end Render

end Stencil
