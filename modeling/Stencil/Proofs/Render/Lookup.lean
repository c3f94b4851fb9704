import Stencil.Engine.Basic
import Stencil.Proofs.Result

/-!
What an access chain finds. A chain leads from a value to another one through defined values only. It is
followed in the globals, and in the context only if it leads nowhere there. A computed key that is undefined
is no guard of its own: it reads as the empty name, and leads on into an object that has such a member.
-/
namespace Stencil

namespace Value

/-- An object is entered by the text of the key, an array by an index. -/
inductive Enters : Value → Value → Value → Prop
  | member {fields : Fields Value} {key next : Value}
      (hmember : Fields.get? fields key.display = some next) : Enters (.object fields) key next
  | item {items : List Value} {key next : Value} {index : Nat} (hindex : key.index? = some index)
      (hitem : items[index]? = some next) : Enters (.array items) key next

/-- The keys lead from the value to another one, and every value on the way is defined. -/
inductive Leads : Value → List Value → Value → Prop
  | here {value : Value} (hdefined : value.isNull = false) : Leads value [] value
  | enter {value key next found : Value} {rest : List Value} (hdefined : value.isNull = false)
      (henters : Enters value key next) (hrest : Leads next rest found) : Leads value (key :: rest) found

variable {value key next found : Value} {keys : List Value}

theorem step_eq_some_iff : step value key = some next ↔ Enters value key next := by
  constructor
  · intro h
    cases value with
    | object fields => exact .member h
    | array items =>
      obtain ⟨index, hindex, hitem⟩ := Option.bind_eq_some_iff.mp h
      exact .item hindex hitem
    | _ => cases h
  · intro h
    cases h with
    | member hmember => exact hmember
    | item hindex hitem => exact Option.bind_eq_some_iff.mpr ⟨_, hindex, hitem⟩

theorem Enters.defined (h : Enters value key next) : value.isNull = false := by
  cases h <;> rfl

/-- Only the last value has to be looked at, since no key leads on from an undefined one. -/
theorem walk_eq_some_iff : walk value keys = some found ↔ Leads value keys found := by
  induction keys generalizing value with
  | nil =>
    rw [walk]
    constructor
    · intro h
      split at h
      · cases h
      · rename_i hdefined
        cases h
        exact .here (Bool.eq_false_iff.mpr hdefined)
    · intro h
      cases h with
      | here hdefined => rw [hdefined, if_neg Bool.false_ne_true]
  | cons key rest ih =>
    rw [walk, Option.bind_eq_some_iff]
    constructor
    · rintro ⟨next, hstep, hwalk⟩
      have henters := step_eq_some_iff.mp hstep
      exact .enter henters.defined henters (ih.mp hwalk)
    · intro h
      cases h with
      | enter _ henters hrest => exact ⟨_, step_eq_some_iff.mpr henters, ih.mpr hrest⟩

theorem Leads.defined (h : Leads value keys found) : found.isNull = false := by
  induction h with
  | here hdefined => exact hdefined
  | enter _ _ _ ih => exact ih

/-- An undefined key leads on only through a member without a name. -/
theorem Leads.through_nameless {before rest : List Value}
    (h : Leads value (before ++ .null :: rest) found) :
    ∃ members, Leads value before (.object members) ∧ Fields.has members "" = true := by
  induction before generalizing value with
  | nil =>
    cases h with
    | enter hdefined henters _ =>
      cases henters with
      | @member members _ _ hmember =>
        exact ⟨members, .here hdefined, Option.isSome_iff_exists.mpr ⟨_, hmember⟩⟩
      | item hindex _ => cases hindex
  | cons key before ih =>
    cases h with
    | enter hdefined henters hrest =>
      obtain ⟨members, hleads, hhas⟩ := ih hrest
      exact ⟨members, .enter hdefined henters hleads, hhas⟩

end Value

namespace Eval

variable {jump : Jump} {frame : Frame} {context : Context} {root : String} {found : Value}
  {keys : List Value}

/-- The keys of a chain, of which the computed ones are evaluated from left to right. -/
inductive Keyed (jump : Jump) (frame : Frame) (context : Context) :
    List Step → Store → List Value → Store → Prop
  | nil (store : Store) : Keyed jump frame context [] store [] store
  | key {key : Value} {steps : List Step} {keys : List Value} {store after : Store}
      (hrest : Keyed jump frame context steps store keys after) :
      Keyed jump frame context (.key key :: steps) store (key :: keys) after
  | index {e : Expr} {key : Value} {steps : List Step} {keys : List Value} {store between after : Store}
      (hindex : expr jump frame context e store = .ok key between)
      (hrest : Keyed jump frame context steps between keys after) :
      Keyed jump frame context (.index e :: steps) store (key :: keys) after

/-- All computed keys are defined. -/
def Guarded (steps : List Step) (keys : List Value) : Prop :=
  ∀ e key, (Step.index e, key) ∈ steps.zip keys → key.isNull = false

/-- The variable of these fields leads to the value. -/
def FoundIn (fields : Fields Value) (root : String) (keys : List Value) (found : Value) : Prop :=
  ∃ value, Fields.get? fields root = some value ∧ value.Leads keys found

/-- The chain leads to the value in the globals, or nowhere there and to the value in the context. -/
def Found (frame : Frame) (context : Context) (root : String) (keys : List Value) (found : Value) : Prop :=
  FoundIn frame.env.settings.globals root keys found ∨
    (¬ ∃ other, FoundIn frame.env.settings.globals root keys other) ∧
      FoundIn context.bindings root keys found

/-- A computed key is undefined where a chain of these fields has come to an object with a member without a
name. -/
def Slips (fields : Fields Value) (root : String) (steps : List Step) (keys : List Value) : Prop :=
  ∃ before rest members e, keys = before ++ .null :: rest ∧ steps[before.length]? = some (.index e) ∧
    FoundIn fields root before (.object members) ∧ Fields.has members "" = true

theorem keys_eq_ok_iff {steps : List Step} {store after : Store} :
    Eval.keys jump frame context steps store = .ok keys after ↔
      Keyed jump frame context steps store keys after := by
  induction steps generalizing store keys with
  | nil =>
    rw [Eval.keys]
    constructor
    · intro h
      cases h
      exact .nil _
    · intro h
      cases h
      rfl
  | cons step steps ih =>
    cases step with
    | key key =>
      rw [Eval.keys, run_bind_eq_ok]
      constructor
      · rintro ⟨rest, between, hrest, hok⟩
        cases hok
        exact .key (ih.mp hrest)
      · intro h
        cases h with
        | key hrest => exact ⟨_, _, ih.mpr hrest, rfl⟩
    | index e =>
      rw [Eval.keys, run_bind_eq_ok]
      constructor
      · rintro ⟨key, between, hindex, hnext⟩
        obtain ⟨rest, last, hrest, hok⟩ := run_bind_eq_ok.mp hnext
        cases hok
        exact .index hindex (ih.mp hrest)
      · intro h
        cases h with
        | index hindex hrest =>
          exact ⟨_, _, hindex, run_bind_eq_ok.mpr ⟨_, _, ih.mpr hrest, rfl⟩⟩

theorem foundIn_iff {fields : Fields Value} :
    FoundIn fields root keys found ↔ (Fields.get? fields root).bind (·.walk keys) = some found := by
  simp only [FoundIn, Option.bind_eq_some_iff, Value.walk_eq_some_iff]

theorem FoundIn.defined {fields : Fields Value} (h : FoundIn fields root keys found) :
    found.isNull = false := by
  obtain ⟨value, -, hleads⟩ := h
  exact hleads.defined

theorem Found.defined (h : Found frame context root keys found) : found.isNull = false := by
  rcases h with hglobal | ⟨-, hcontext⟩
  · exact hglobal.defined
  · exact hcontext.defined

theorem not_foundIn_iff {fields : Fields Value} :
    (¬ ∃ other, FoundIn fields root keys other) ↔
      (Fields.get? fields root).bind (·.walk keys) = none := by
  simp only [foundIn_iff, not_exists, Option.eq_none_iff_forall_ne_some, ne_eq]

/-- What is found in the one tier or in the other. -/
theorem found_iff : Found frame context root keys found ↔
    ((Fields.get? frame.env.settings.globals root).bind (·.walk keys)).or
      ((Fields.get? context.bindings root).bind (·.walk keys)) = some found := by
  unfold Found
  rw [foundIn_iff, not_foundIn_iff, foundIn_iff, Option.or_eq_some_iff]

theorem find_eq_iff (hdefined : found.isNull = false) :
    find frame.env.settings.globals context root keys = found ↔ Found frame context root keys found := by
  rw [found_iff]
  unfold find
  constructor
  · intro h
    cases hfound : ((Fields.get? frame.env.settings.globals root).bind (·.walk keys)).or
        ((Fields.get? context.bindings root).bind (·.walk keys)) with
    | none =>
      dsimp only at h
      rw [hfound, Option.getD_none] at h
      subst h
      cases hdefined
    | some value =>
      dsimp only at h
      rw [hfound, Option.getD_some] at h
      rw [h]
  · intro h
    dsimp only
    rw [h, Option.getD_some]

theorem find_eq_null (h : ¬ ∃ found, Found frame context root keys found) :
    find frame.env.settings.globals context root keys = .null := by
  cases hvalue : (find frame.env.settings.globals context root keys).isNull with
  | false => exact absurd ⟨_, (find_eq_iff hvalue).mp rfl⟩ h
  | true =>
    cases hfind : find frame.env.settings.globals context root keys with
    | null => rfl
    | _ =>
      rw [hfind] at hvalue
      cases hvalue

theorem FoundIn.guarded_or_slips {fields : Fields Value} {steps : List Step}
    (h : FoundIn fields root keys found) : Guarded steps keys ∨ Slips fields root steps keys := by
  by_cases hguarded : Guarded steps keys
  · exact Or.inl hguarded
  · refine Or.inr ?_
    simp only [Guarded, Classical.not_forall] at hguarded
    obtain ⟨e, key, hmem, hundefined⟩ := hguarded
    obtain ⟨index, hindex⟩ := List.mem_iff_getElem?.mp hmem
    obtain ⟨hstep, hkey⟩ := List.getElem?_zip_eq_some.mp hindex
    obtain ⟨hlt, hget⟩ : ∃ _ : index < keys.length, keys[index] = key := List.getElem?_eq_some_iff.mp hkey
    have hnull : key = .null := by
      cases key with
      | null => rfl
      | _ => exact absurd rfl hundefined
    have hsplit : keys = keys.take index ++ .null :: keys.drop (index + 1) := by
      rw [← hnull, ← hget, ← List.drop_eq_getElem_cons hlt, List.take_append_drop]
    have hlength : (keys.take index).length = index := by
      rw [List.length_take]
      omega
    obtain ⟨value, hvalue, hleads⟩ := h
    rw [hsplit] at hleads
    obtain ⟨members, hbefore, hnameless⟩ := hleads.through_nameless
    exact ⟨_, _, members, e, hsplit, hlength.symm ▸ hstep, ⟨value, hvalue, hbefore⟩, hnameless⟩

theorem Found.guarded_or_slips {steps : List Step} (h : Found frame context root keys found) :
    Guarded steps keys ∨ Slips frame.env.settings.globals root steps keys ∨
      Slips context.bindings root steps keys := by
  rcases h with hglobal | ⟨-, hcontext⟩
  · exact hglobal.guarded_or_slips.imp_right Or.inl
  · exact hcontext.guarded_or_slips.imp_right Or.inr

theorem path_eq_ok_iff {steps : List Step} {store after : Store} :
    expr jump frame context (.path root steps) store = .ok found after ↔
      ∃ keys, Keyed jump frame context steps store keys after ∧
        find frame.env.settings.globals context root keys = found := by
  rw [expr, run_bind_eq_ok]
  constructor
  · rintro ⟨keys, between, hkeys, hok⟩
    cases hok
    exact ⟨keys, keys_eq_ok_iff.mp hkeys, rfl⟩
  · rintro ⟨keys, hkeyed, rfl⟩
    exact ⟨keys, after, keys_eq_ok_iff.mpr hkeyed, rfl⟩

/-- A chain has a value that is defined if and only if its computed keys have values, and its keys lead there
through defined values, in the globals or else in the context, never in parts of both; the computed keys are
then defined themselves, but for one that stands where there is a member without a name. In all other cases
the chain is undefined, unless a computed key fails. -/
theorem path_finds (jump : Jump) (frame : Frame) (context : Context) (root : String) (steps : List Step)
    (store : Store) :
    (∀ found after,
      expr jump frame context (.path root steps) store = .ok found after ∧ found.isNull = false ↔
        ∃ keys, Keyed jump frame context steps store keys after ∧
          (Guarded steps keys ∨ Slips frame.env.settings.globals root steps keys ∨
            Slips context.bindings root steps keys) ∧
          Found frame context root keys found) ∧
    ∀ keys after, Keyed jump frame context steps store keys after →
      (¬ ∃ found, Found frame context root keys found) →
      expr jump frame context (.path root steps) store = .ok .null after := by
  refine ⟨fun found after => ⟨?_, ?_⟩, fun keys after hkeyed hnone => ?_⟩
  · rintro ⟨hvalue, hdefined⟩
    obtain ⟨keys, hkeyed, hfind⟩ := path_eq_ok_iff.mp hvalue
    have hfound := (find_eq_iff hdefined).mp hfind
    exact ⟨keys, hkeyed, hfound.guarded_or_slips, hfound⟩
  · rintro ⟨keys, hkeyed, -, hfound⟩
    exact ⟨path_eq_ok_iff.mpr ⟨keys, hkeyed, (find_eq_iff hfound.defined).mpr hfound⟩, hfound.defined⟩
  · exact path_eq_ok_iff.mpr ⟨keys, hkeyed, find_eq_null hnone⟩

section Sample

/-- An engine as it comes, without templates. -/
def bareEngine : Engine := .new {} {} (.table [])

/-- A frame of that engine. -/
def bareFrame : Frame := ⟨bareEngine.env, [], ["t"], none, 0⟩

/-- A list with an object in it, and an object that says where. -/
def indexedContext : Context :=
  { bindings := [("a", .array [.null, .object [("d", .bool true)]]), ("b", .object [("c", .string "1")])] }

theorem path_finds_indexed :
    Keyed (Render.upToDepth 1) bareFrame indexedContext
        [.index (.path "b" [.key (.string "c")]), .key (.string "d")] {} [.string "1", .string "d"] {} ∧
      expr (Render.upToDepth 1) bareFrame indexedContext
        (.path "a" [.index (.path "b" [.key (.string "c")]), .key (.string "d")]) {} = .ok (.bool true) {} := by
  have hkeyed : Keyed (Render.upToDepth 1) bareFrame indexedContext
      [.index (.path "b" [.key (.string "c")]), .key (.string "d")] {} [.string "1", .string "d"] {} :=
    .index rfl (.key (.nil _))
  refine ⟨hkeyed, (((path_finds _ _ _ "a" _ _).1 _ _).mpr ⟨_, hkeyed, Or.inl ?_, Or.inr ⟨?_, ?_⟩⟩).1⟩
  · intro e key hmem
    simp only [List.zip_cons_cons, List.mem_cons, Prod.mk.injEq] at hmem
    rcases hmem with ⟨-, rfl⟩ | ⟨hstep, -⟩ | hnone
    · rfl
    · cases hstep
    · cases hnone
  · rintro ⟨other, value, hglobal, -⟩
    cases hglobal
  · exact ⟨_, rfl, .enter rfl (.item (rfl : _ = some 1) rfl) (.enter rfl (.member rfl) (.here rfl))⟩

/-- An object whose one member has no name. -/
def namelessContext : Context := { bindings := [("a", .object [("", .string "x")])] }

/-- The key is undefined, but the chain has a value, and a tag prints it. -/
theorem undefined_key_enters :
    Keyed (Render.upToDepth 1) bareFrame namelessContext [.index (.path "b" [])] {} [.null] {} ∧
      ¬ Guarded [.index (.path "b" [])] [.null] ∧
      expr (Render.upToDepth 1) bareFrame namelessContext (.path "a" [.index (.path "b" [])]) {} =
        .ok (.string "x") {} ∧
      (bareEngine.render "\x7b\x7b a[b] \x7d\x7d" namelessContext).1 = .ok "x" := by
  have hrender := eq_ok_of_isOk (by decide +kernel :
    (bareEngine.render "\x7b\x7b a[b] \x7d\x7d" namelessContext).1.isOk = true) ""
  refine ⟨.index rfl (.nil _), fun hguarded => ?_, rfl, hrender.trans ?_⟩
  · cases hguarded _ _ List.mem_cons_self
  · exact congrArg Except.ok (by decide +kernel)

end Sample

end Eval

end Stencil
