import Stencil.Proofs.Render.Places

/-!
Which templates may run inside each other. Every frame that is entered while a template runs is that of a
block, of a macro or of another template, which is none of those that are being rendered; or of a macro that
the name of a layout calls, and there the list of those that are being rendered starts anew.
-/
namespace Stencil

/-- The key of a template that a load can give, now or after other loads. -/
def Environment.Loadable (env : Environment) (store : Store) (id : String) : Prop :=
  ∃ before name from? compiled after, Relation.ReflTransGen env.LoadsTo store before ∧
    env.load name from? before = .ok compiled after ∧ compiled.template.id = id

theorem Environment.Gives.loadable {env : Environment} {store : Store} {template : Template}
    (h : env.Gives store template) : env.Loadable store template.id := by
  obtain ⟨before, name, from?, compiled, after, hled, hload, rfl⟩ := h
  exact ⟨before, name, from?, compiled, after, hled, hload, rfl⟩

namespace Render

/-- Why a frame was entered. -/
inductive Entry where
  | template (id : String)
  | block
  | macroCall
  /-- The name of a layout calls a macro. -/
  | naming
deriving DecidableEq

/-- Frames that are under way, the innermost first, and why they were entered. -/
inductive Active (env : Environment) (loadable : String → Prop) (given : List String) :
    List Entry → List Frame → Prop
  | idle : Active env loadable given [] []
  | template {entries : List Entry} {frames : List Frame} {id : String} {blocks : Blocks}
      {origin : Option String} (h : Active env loadable given entries frames)
      (hnew : id ∉ around given frames) (hloadable : frames ≠ [] → loadable id) :
      Active env loadable given (.template id :: entries)
        (⟨env, blocks, around given frames ++ [id], origin, 0⟩ :: frames)
  | block {entries : List Entry} {frame : Frame} {frames : List Frame}
      (h : Active env loadable given entries (frame :: frames)) :
      Active env loadable given (.block :: entries) (frame :: frame :: frames)
  | macroCall {entries : List Entry} {frame : Frame} {frames : List Frame}
      (h : Active env loadable given entries (frame :: frames))
      (hroom : frame.macroDepth < Eval.macroLimit) :
      Active env loadable given (.macroCall :: entries)
        ({ frame with macroDepth := frame.macroDepth + 1 } :: frame :: frames)
  | naming {entries : List Entry} {frames : List Frame} {origin : Option String}
      (h : Active env loadable given entries frames) :
      Active env loadable given (.naming :: entries) (⟨env, [], [], origin, 1⟩ :: frames)

/-- The keys of the templates that run since a layout was named, the innermost first. -/
def running : List Entry → List String
  | [] => []
  | .template id :: rest => id :: running rest
  | .naming :: _ => []
  | .block :: rest => running rest
  | .macroCall :: rest => running rest

/-- The template whose run an entry begins. -/
def Entry.key? : Entry → Option String
  | .template id => some id
  | _ => none

/-- The keys of all templates that run, as the frames tell: a template adds itself to those that are being
rendered, a block or a macro adds nothing, and nothing is left when a layout is named. -/
def entered (given : List String) : List Frame → List String
  | [] => []
  | frame :: frames =>
    if frame.ancestors = around given frames then entered given frames
    else frame.ancestors.getLast?.toList ++ entered given frames

theorem entered_cons_of_eq {given : List String} {frame : Frame} {frames : List Frame}
    (h : frame.ancestors = around given frames) :
    entered given (frame :: frames) = entered given frames := if_pos h

/-- How many macros are being called in the innermost template, or to name its layout. -/
def calls : List Entry → Nat
  | [] => 0
  | .template _ :: _ => 0
  | .naming :: _ => 1
  | .block :: rest => calls rest
  | .macroCall :: rest => calls rest + 1

namespace Active

variable {env : Environment} {loadable : String → Prop} {given : List String} {entries : List Entry}
  {frame : Frame} {frames : List Frame}

theorem env_eq (h : Active env loadable given entries frames) : ∀ frame ∈ frames, frame.env = env := by
  induction h with
  | idle => exact List.forall_mem_nil _
  | template _ _ _ ih => exact List.forall_mem_cons.mpr ⟨rfl, ih⟩
  | block _ ih => exact List.forall_mem_cons.mpr ⟨ih _ List.mem_cons_self, ih⟩
  | @macroCall _ frame _ _ _ ih => exact List.forall_mem_cons.mpr ⟨ih frame List.mem_cons_self, ih⟩
  | naming _ ih => exact List.forall_mem_cons.mpr ⟨rfl, ih⟩

/-- The list that is looked at is that of the templates that run. -/
theorem around_eq (h : Active env loadable given entries frames) :
    around given frames = (if .naming ∈ entries then [] else given) ++ (running entries).reverse := by
  induction h with
  | idle => simp [around, running]
  | @template entries frames id blocks origin _ _ _ ih =>
    have hmem : Entry.naming ∈ Entry.template id :: entries ↔ .naming ∈ entries := by simp
    simp only [hmem, running, List.reverse_cons, ← List.append_assoc, ← ih]
    rfl
  | @block entries frame frames _ ih =>
    have hmem : Entry.naming ∈ Entry.block :: entries ↔ .naming ∈ entries := by simp
    simp only [hmem, running, ← ih]
    rfl
  | @macroCall entries frame frames _ _ ih =>
    have hmem : Entry.naming ∈ Entry.macroCall :: entries ↔ .naming ∈ entries := by simp
    simp only [hmem, running, ← ih]
    rfl
  | naming => simp [around, running]

theorem nodup_around (h : Active env loadable given entries frames) (hgiven : given.Nodup) :
    (around given frames).Nodup := by
  induction h with
  | idle => exact hgiven
  | @template _ frames id _ _ _ hnew _ ih =>
    refine List.nodup_append.mpr ⟨ih, List.pairwise_singleton _ _, fun key hkey other hother => ?_⟩
    rintro rfl
    exact hnew (List.mem_singleton.mp hother ▸ hkey)
  | block _ ih => exact ih
  | macroCall _ _ ih => exact ih
  | naming => exact List.nodup_nil

theorem nodup_running (h : Active env loadable given entries frames) (hgiven : given.Nodup) :
    (running entries).Nodup := by
  have hnodup := h.nodup_around hgiven
  rw [h.around_eq] at hnodup
  exact (List.reverse_perm _).nodup_iff.mp (List.nodup_append.mp hnodup).2.1

theorem entered_eq (h : Active env loadable given entries frames) :
    entered given frames = entries.filterMap Entry.key? := by
  induction h with
  | idle => rfl
  | @template entries frames id blocks origin _ _ _ ih =>
    have hne : ¬ around given frames ++ [id] = around given frames := by simp
    rw [entered, if_neg hne, ih, List.getLast?_concat]
    rfl
  | block _ ih => exact (entered_cons_of_eq rfl).trans ih
  | macroCall _ _ ih => exact (entered_cons_of_eq rfl).trans ih
  | naming _ ih =>
    rw [entered]
    split
    · exact ih
    · exact ih

theorem running_eq (hnaming : .naming ∉ entries) : running entries = entries.filterMap Entry.key? := by
  induction entries with
  | nil => rfl
  | cons entry entries ih =>
    have ih := ih fun hmem => hnaming (List.mem_cons_of_mem _ hmem)
    cases entry with
    | template id => exact congrArg (id :: ·) ih
    | naming => exact absurd List.mem_cons_self hnaming
    | _ => exact ih

theorem nodup_entered (h : Active env loadable given entries frames) (hgiven : given.Nodup)
    (hnaming : .naming ∉ entries) : (entered given frames).Nodup := by
  rw [h.entered_eq, ← running_eq hnaming]
  exact h.nodup_running hgiven

/-- All templates that run were loaded but the one that was there at the start. -/
theorem loadable_of_mem (h : Active env loadable given entries frames) :
    ∀ id ∈ (running entries).dropLast, loadable id := by
  induction h with
  | idle => exact List.forall_mem_nil _
  | @template entries frames id _ _ h _ hloadable ih =>
    rw [running]
    cases hrest : running entries with
    | nil => exact List.forall_mem_nil _
    | cons other rest =>
      rw [hrest] at ih
      refine List.forall_mem_cons.mpr ⟨hloadable fun hnil => ?_, ih⟩
      subst hnil
      cases h
      cases hrest
  | block _ ih => exact ih
  | macroCall _ _ ih => exact ih
  | naming => exact List.forall_mem_nil _

/-- There are no more of them than templates that can be loaded, and one. -/
theorem length_running_le (h : Active env loadable given entries frames) (hgiven : given.Nodup)
    {keys : List String} (hkeys : ∀ id, loadable id → id ∈ keys) :
    (running entries).length ≤ keys.length + 1 := by
  have hnodup := (h.nodup_running hgiven).sublist (List.dropLast_sublist _)
  have hle := hnodup.length_le_of_subset fun id hid => hkeys id (h.loadable_of_mem id hid)
  rw [List.length_dropLast] at hle
  omega

theorem macroDepth_eq (h : Active env loadable given entries (frame :: frames)) :
    frame.macroDepth = calls entries ∧ calls entries ≤ Eval.macroLimit := by
  generalize hall : frame :: frames = all at h
  induction h generalizing frame frames with
  | idle => cases hall
  | template =>
    cases hall
    exact ⟨rfl, Nat.zero_le _⟩
  | block _ ih =>
    cases hall
    exact ih rfl
  | macroCall _ hroom ih =>
    cases hall
    obtain ⟨hdepth, -⟩ := ih rfl
    rw [calls, ← hdepth]
    exact ⟨rfl, hroom⟩
  | naming =>
    cases hall
    exact ⟨rfl, (by decide : 1 ≤ Eval.macroLimit)⟩

end Active

/-- What is said of all frames that are under way while a template is rendered as the last of those given.
Of what was entered since a layout was last named no template is there twice, none is one of those given,
and there are not many; the list that is looked at is the list of them. If no layout is being named, that is
all that was entered. And the macros that are being called in one template are not many. -/
def Orderly (env : Environment) (loadable : String → Prop) (given : List String) (frames : List Frame) :
    Prop :=
  ∃ entries, Active env loadable given entries frames ∧
    (around given frames = (if .naming ∈ entries then [] else given) ++ (running entries).reverse) ∧
    (around given frames).Nodup ∧
    (.naming ∉ entries → (entered given frames).Nodup) ∧
    (∀ keys : List String, (∀ id, loadable id → id ∈ keys) → (running entries).length ≤ keys.length + 1) ∧
    calls entries ≤ Eval.macroLimit

theorem Active.orderly {env : Environment} {loadable : String → Prop} {given : List String}
    {entries : List Entry} {frame : Frame} {frames : List Frame}
    (h : Active env loadable given entries (frame :: frames)) (hgiven : given.Nodup) :
    Orderly env loadable given (frame :: frames) :=
  ⟨entries, h, h.around_eq, h.nodup_around hgiven, h.nodup_entered hgiven,
    fun _ hkeys => h.length_running_le hgiven hkeys, h.macroDepth_eq.2⟩

/-- The way the frames under way were entered is kept. -/
theorem kept_active (env : Environment) (store : Store) (given : List String) :
    Kept env (env.Gives store) given
      fun frames => ∃ entries, Active env (env.Loadable store) given entries frames where
  env_eq := fun ⟨_, hactive⟩ => hactive.env_eq _ List.mem_cons_self
  template := by
    rintro frames template blocks ⟨entries, hactive⟩ hnew hloads
    exact ⟨_, .template hactive hnew fun hne => (hloads hne).loadable⟩
  block := fun ⟨_, hactive⟩ => ⟨_, .block hactive⟩
  macroCall := fun ⟨_, hactive⟩ hroom => ⟨_, .macroCall hactive hroom⟩
  naming := fun ⟨_, hactive⟩ _ => ⟨_, .naming hactive⟩

end Render

open Render in
/-- The watch never finds anything wrong, whatever it would do then: all frames that are under way while a
template is rendered are orderly. Among the templates that run since a layout was last named none runs
twice, and there are no more of them than can be loaded, and one; what is included or imported although it
is among them leaves the message, or is an error. And there is a limit to the macros that are being called
in one template. -/
theorem Template.execute_watched {given : List String} (hgiven : given.Nodup) (env : Environment)
    (template : Template) (context : Context) (store : Store) (alarm : Jump) (depth : Nat)
    [DecidablePred (Orderly env (env.Loadable store) given)] :
    template.execute (watched (Orderly env (env.Loadable store) given) alarm depth []) env given
        ⟨context, store⟩ =
      template.execute (upToDepth depth) env given ⟨context, store⟩ ∧
    ∀ (jump : Jump) (frame : Frame) name scope compiled before after,
      frame.env.load name frame.origin before = .ok compiled after →
      compiled.template.id ∈ frame.ancestors →
      let label := compiled.template.label
      let last := frame.ancestors.getLast?.getD ""
      let message := s!"Circular import of template \"{label}\" in \"{last}\"!"
      if frame.env.settings.debug = true then
        included jump frame name scope before = .error (.error (.render message)) after ∧
          imported jump frame name before = .error (.error (.render message)) after
      else
        included jump frame name scope before = .ok message after ∧
          imported jump frame name before = .ok (message, []) after := by
  refine ⟨?_, fun jump frame name scope compiled before after hload hmem => ?_⟩
  · refine (kept_active env store given).execute_kept (env.keeps_load_gives store) ?_ ⟨[], .idle⟩ alarm
      depth template context .refl
    exact fun frame frames ⟨_, hactive⟩ => hactive.orderly hgiven
  · intro label last message
    have hmessage : compiled.template.circularMessage? frame.ancestors = some message := by
      unfold Template.circularMessage?
      rw [if_pos (List.contains_iff_mem.mpr hmem)]
    have hincluded : included jump frame name scope before = circular frame message after := by
      unfold included
      rw [run_bind_of_ok hload, hmessage]
    have himported : imported jump frame name before =
        (circular frame message >>= fun text => return (text, [])) after := by
      unfold imported
      rw [run_bind_of_ok hload, hmessage]
    rw [hincluded, himported]
    unfold circular
    split <;> exact ⟨rfl, rfl⟩

section Sample

/-- The output of a file when nodes that are reached by a name are rendered in another way. -/
def Engine.renderFileBy (jump : Jump) (engine : Engine) (name : String) : Except Fault String :=
  (engine.run do
    let compiled ← engine.env.load name none
    let (text, _) ← RenderM.inside {} (compiled.template.execute jump engine.env [])
    return text).1

/-- A file that includes one whose layout is named by a macro, and the macro includes the first again. -/
def namingFiles : Fields String := [
  ("a", "\x7b% macro m() %\x7d\x7b% set inner = 1 %\x7d\x7b% include 'a' %\x7d\x7b% endmacro %\x7d" ++
    "\x7b% if inner %\x7dbase\x7b% else %\x7d\x7b% include 'b' %\x7d\x7b% endif %\x7d"),
  ("b", "\x7b% extends m() %\x7d"), ("base", "layout")]

def namingEngine : Engine := .new { debug := true } {} (.table namingFiles)

/-- The alarm ends the rendering. -/
def namingAlarm : Jump := fun _ _ => RenderM.fail (.render "again")

theorem Engine.exists_execute_of_renderFileBy {jump : Jump} {engine : Engine} {name text : String}
    (h : engine.renderFileBy jump name = .ok text) :
    ∃ compiled store state, engine.env.load name none engine.store = .ok compiled store ∧
      compiled.template.execute jump engine.env [] ⟨{}, store⟩ = .ok text state := by
  obtain ⟨after, hrun⟩ := run_eq_ok.mp h
  obtain ⟨compiled, store, hload, hrun⟩ := run_bind_eq_ok.mp hrun
  obtain ⟨⟨_, scope⟩, between, hinside, ⟨⟩⟩ := run_bind_eq_ok.mp hrun
  unfold RenderM.inside at hinside
  split at hinside
  · rename_i state hexecute
    cases hinside
    exact ⟨compiled, store, state, hload, hexecute⟩
  · cases hinside

theorem renderFileBy_naming : namingEngine.renderFileBy (Render.upToDepth 12) "a" = .ok "layout" :=
  eq_ok_of_toOption (by decide +kernel)

open Render Classical in
/-- The watch finds nothing wrong there, and the first file cannot be included in itself. -/
theorem Template.execute_watched_naming :
    ∃ compiled store state, namingEngine.env.load "a" none {} = .ok compiled store ∧
      compiled.template.execute
        (watched (Orderly namingEngine.env (namingEngine.env.Loadable store) []) namingAlarm 12 [])
        namingEngine.env [] ⟨{}, store⟩ = .ok "layout" state ∧
      included (upToDepth 12) ⟨namingEngine.env, [], ["a"], none, 0⟩ "a" {} {} =
        .error (.error (.render "Circular import of template \"a\" in \"a\"!")) store := by
  obtain ⟨compiled, store, state, hload, hexecute⟩ :=
    Engine.exists_execute_of_renderFileBy renderFileBy_naming
  have hcompiled : (namingEngine.compileFile "a").1 = .ok compiled :=
    Engine.run_eq_ok.mpr ⟨store, hload⟩
  have hnames : (namingEngine.compileFile "a").1.toOption.map
      (fun compiled => (compiled.template.id, compiled.template.label)) = some ("a", "a") := by
    decide +kernel
  rw [hcompiled] at hnames
  obtain ⟨hid, hlabel⟩ := Prod.mk.inj (Option.some.inj hnames)
  obtain ⟨hwatched, hcircular⟩ := Template.execute_watched List.nodup_nil namingEngine.env
    compiled.template {} store namingAlarm 12
  refine ⟨compiled, store, state, hload, hwatched.trans hexecute, ?_⟩
  have hincluded := (hcircular (upToDepth 12) ⟨namingEngine.env, [], ["a"], none, 0⟩ "a" {} compiled {} store
    hload (hid ▸ List.mem_singleton_self _)).1
  rw [hlabel] at hincluded
  exact hincluded

open Render in
/-- The first file runs inside itself: a watch over the templates that run gives the alarm, and without it
there is a text. -/
theorem entered_naming :
    (namingEngine.renderFile "a" {}).1 = .ok "layout" ∧
    namingEngine.renderFileBy (upToDepth 12) "a" = .ok "layout" ∧
    namingEngine.renderFileBy (watched (fun frames => (entered [] frames).Nodup) namingAlarm 12 []) "a" =
      .error (.error (.render "again")) :=
  ⟨eq_ok_of_toOption (by decide +kernel), renderFileBy_naming,
    Engine.eq_error_of_errorOf? (by decide +kernel)⟩

end Sample

end Stencil
