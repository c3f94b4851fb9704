import Stencil.Proofs.Render.Sparing
import Stencil.Proofs.Render.Watching

/-!
Where the blocks of a template are spared. A macro that is called in a template was given to it, imported in it
or written in it. If no given or imported one holds a block of the template's names then none that is called
does, and the sparing renderer never gives up.
-/
namespace Stencil

/-- What a macro may hold: no block of one of the names, and tags that import if that does no harm. -/
def Node.Spares (names : List String) (imports : Prop) : Node → Prop
  | .block name => name ∉ names
  | .importation _ _ => imports
  | _ => True

def Callable.Spares (names : List String) (imports : Prop) : Callable → Prop
  | .macroBody _ _ body => ∀ part ∈ Node.partsOf body, part.Spares names imports
  | .native _ => True

theorem Node.Spares.of_imports {names : List String} {imports : Prop} (himports : imports) {node : Node}
    (h : node.Spares names True) : node.Spares names imports := by
  cases node <;> first | exact h | exact himports

theorem Callable.Spares.of_imports {names : List String} {imports : Prop} (himports : imports)
    {callable : Callable} (h : callable.Spares names True) : callable.Spares names imports := by
  cases callable with
  | native function => exact h
  | macroBody name parameters body => exact fun part hpart => (h part hpart).of_imports himports

/-- Whatever is imported in the template, with this store or after other loads, has no macro that holds a
block of one of the names. -/
def Template.ImportsSpare (template : Template) (names : List String) (env : Environment)
    (ancestors : List String) (store : Store) : Prop :=
  ∀ depth name before text callables after, env.Led store before →
    Render.imported (Render.upToDepth depth) ⟨env, [], ancestors ++ [template.id], template.origin, 0⟩ name
      before = .ok (text, callables) after →
    callables.AllValues (Callable.Spares names True)

namespace Guarantee

/-- Macros hold no block of one of the names. -/
def sparing (names : List String) (imports : Prop) : Guarantee where
  node := Node.Spares names imports
  text _ := True
  body nodes := ∀ part ∈ Node.partsOf nodes, part.Spares names imports
  empty := True.intro
  append _ _ := True.intro
  literal _ := True.intro
  output _ _ := True.intro
  escaped _ _ := True.intro
  filtered _ _ := True.intro
  hosted _ _ := True.intro
  within h := h
  defined _ h := h

variable {names : List String} {imports : Prop}

theorem knownCallable_sparing {callable : Callable} :
    (sparing names imports).KnownCallable callable ↔ callable.Spares names imports := by
  cases callable <;> exact Iff.rfl

theorem knownContext_sparing {context : Context} : (sparing names imports).KnownContext context ↔
    context.callables.AllValues (Callable.Spares names imports) :=
  forall₂_congr fun _ _ => knownCallable_sparing

end Guarantee

theorem not_holdsBlock_of_spares {names : List String} {imports : Prop} {list : List Node}
    (h : ∀ part ∈ Node.partsOf list, part.Spares names imports) :
    ¬ Node.holdsBlock names list = true := by
  intro hholds
  obtain ⟨part, hpart, hname⟩ := List.any_eq_true.mp hholds
  have hspares := h part hpart
  cases part with
  | block name => exact hspares (List.contains_iff_mem.mp hname)
  | _ => cases hname

namespace Render

section Loads

variable {env : Environment} {I : Store → Prop}

theorem watched_true (alarm : Jump) (depth : Nat) (frames : List Frame) :
    watched (fun _ => True) alarm depth frames = upToDepth depth := by
  induction depth generalizing frames with
  | zero => rfl
  | succ depth ih =>
    unfold watched
    simp only [if_true, ih]
    rfl

/-- No frame is entered with other settings or another loader. -/
theorem kept_env (env : Environment) (loads : Template → Prop) (given : List String) :
    Kept env loads given fun frames => ∀ frame ∈ frames, frame.env = env where
  env_eq h := h _ List.mem_cons_self
  template h _ _ := List.forall_mem_cons.mpr ⟨rfl, h⟩
  block h := List.forall_mem_cons.mpr ⟨h _ List.mem_cons_self, h⟩
  macroCall {frame _} h _ := List.forall_mem_cons.mpr ⟨h frame List.mem_cons_self, h⟩
  naming h _ := List.forall_mem_cons.mpr ⟨rfl, h⟩

/-- What loads keep is kept by every rendering. -/
theorem sameAt_refl (hloads : ∀ name from?, Keeps I (fun _ => True) (env.load name from?)) (depth : Nat)
    {frame : Frame} (henv : frame.env = env) : SameAt I (upToDepth depth) (upToDepth depth) frame := by
  have hunder : ∀ other ∈ [frame], other.env = env := List.forall_mem_singleton.mpr henv
  have hsame : SameAt I (watched (fun _ => True) (upToDepth depth) depth []) (upToDepth depth) frame :=
    (kept_env env (fun _ => True) []).sameAt_watched hloads (fun _ _ _ => True.intro) (upToDepth depth) depth
      hunder
  rwa [watched_true] at hsame

end Loads

variable {names keys : List String}

/-- What other templates render does not matter. -/
theorem sparing_of_ne {frame : Frame} (hne : frame.ancestors ≠ keys) (depth : Nat) :
    sparing names keys depth frame = upToDepth depth frame := by
  cases depth with
  | zero => rfl
  | succ depth =>
    funext list
    exact if_neg hne

section Own

variable {env : Environment} {I : Store → Prop} {imports : Prop} {origin : Option String}

theorem sameBelow_sparing (hloads : ∀ name from?, Keeps I (fun _ => True) (env.load name from?))
    (hkeys : keys ≠ []) (depth : Nat) :
    SameBelow env I (fun _ => True) keys (sparing names keys depth) (upToDepth depth) where
  loads := hloads
  naming template _ := by
    have hsame : SameAt I (upToDepth depth) (upToDepth depth) ⟨env, [], [], template.origin, 1⟩ :=
      sameAt_refl hloads depth rfl
    intro list
    rw [sparing_of_ne hkeys.symm]
    exact hsame list
  template template blocks _ _ := by
    have hsame : SameAt I (upToDepth depth) (upToDepth depth)
      ⟨env, blocks, keys ++ [template.id], template.origin, 0⟩ := sameAt_refl hloads depth rfl
    intro list
    rw [sparing_of_ne (by simp)]
    exact hsame list

/-- The frames of a template: it has these keys and this place, and no blocks but those of the names. -/
structure Own (env : Environment) (names keys : List String) (origin : Option String) (frame : Frame) :
    Prop where
  env_eq : frame.env = env
  ancestors_eq : frame.ancestors = keys
  origin_eq : frame.origin = origin
  blocks : ∀ name, name ∉ names → Fields.get? frame.blocks name = none

theorem Own.macroCall {frame : Frame} (h : Own env names keys origin frame) (called : Nat) :
    Own env names keys origin { frame with macroDepth := called } :=
  ⟨h.env_eq, h.ancestors_eq, h.origin_eq, h.blocks⟩

/-- Renderers of known macros that agree do so on all that is known. -/
theorem alikeAt_sparing {frame : Frame} (hown : Own env names keys origin frame) {depth : Nat}
    (hmacros : ∀ body, (∀ part ∈ Node.partsOf body, part.Spares names imports) →
      Agree ((Guarantee.sparing names imports).Related (EqualWith I)) (Fault.Alike Eq) (EqualWith fun _ => True)
        (sparing names keys depth { frame with macroDepth := frame.macroDepth + 1 } body)
        (upToDepth depth { frame with macroDepth := frame.macroDepth + 1 } body)) :
    (Guarantee.sparing names imports).AlikeAt (EqualWith I) Eq env env (sparing names keys depth)
      (upToDepth depth) frame where
  runtime := ⟨rfl, rfl, rfl, rfl⟩
  refl _ := rfl
  blocks name body hname hbody := by
    rw [hown.blocks name hname] at hbody
    cases hbody
  macros _ body hbody := by
    have hsame := hmacros body hbody
    rwa [hown.env_eq] at hsame

/-- What is known where a template is rendered: loads keep the stores as they should be, and what is imported
from them is harmless, if there are imports. -/
structure Harmless (env : Environment) (I : Store → Prop) (names keys : List String)
    (origin : Option String) (imports : Prop) : Prop where
  keys_ne : keys ≠ []
  loads : ∀ name from?, Keeps I (fun _ => True) (env.load name from?)
  imported : imports → ∀ depth name before text callables after, I before →
    imported (upToDepth depth) ⟨env, [], keys, origin, 0⟩ name before = .ok (text, callables) after →
    callables.AllValues (Callable.Spares names True)

variable (h : Harmless env I names keys origin imports)

include h

theorem visits_sparing {frame : Frame} (hown : Own env names keys origin frame) (depth : Nat) :
    (Guarantee.sparing names imports).VisitsAlikeAt (EqualWith I) Eq env env (sparing names keys depth)
      (upToDepth depth) frame := by
  have hbelow : SameBelow env I (fun _ => True) keys (sparing names keys depth) (upToDepth depth) :=
    sameBelow_sparing h.loads h.keys_ne depth
  have hvisits := hbelow.visits hown.ancestors_eq
  refine ⟨fun name scope _ => hvisits.included name scope (Guarantee.knownContext_vacuous scope),
    fun {template space} himports name => ?_⟩
  have himported := @Guarantee.VisitsAlikeAt.imported _ _ _ _ _ _ _ _ hvisits template space True.intro name
  refine himported.equalWith_of_ok ?_
  rintro before ⟨text, callables⟩ after hbefore hrun
  refine ⟨True.intro, fun entry hentry => Guarantee.knownCallable_sparing.mpr ?_⟩
  have hframe : imported (upToDepth depth) { frame with env := env } name =
      imported (upToDepth depth) ⟨env, [], keys, origin, 0⟩ name := by
    unfold imported
    rw [← hown.ancestors_eq, ← hown.origin_eq]
    rfl
  rw [hframe] at hrun
  exact (h.imported himports depth name before text callables after hbefore hrun entry hentry).of_imports
    himports

/-- A macro that holds none of the blocks is rendered as by any other renderer. -/
theorem agree_sparing_macro {frame : Frame} (hown : Own env names keys origin frame) (depth : Nat)
    {list : List Node} (hlist : ∀ part ∈ Node.partsOf list, part.Spares names imports) :
    Agree ((Guarantee.sparing names imports).Related (EqualWith I)) (Fault.Alike Eq) (EqualWith fun _ => True)
      (sparing names keys depth frame list) (upToDepth depth frame list) := by
  induction depth generalizing frame list with
  | zero => exact Agree.throw True.intro
  | succ depth ih =>
    have hspared : ¬ (0 < frame.macroDepth ∧ Node.holdsBlock names list = true) := fun hholds =>
      not_holdsBlock_of_spares hlist hholds.2
    unfold sparing
    rw [if_pos hown.ancestors_eq, if_neg hspared]
    have halike := alikeAt_sparing hown fun body hbody => ih (hown.macroCall _) hbody
    obtain rfl := hown.env_eq
    exact halike.nodes (visits_sparing h hown depth) list hlist

/-- The template itself renders its blocks as any other renderer does. -/
theorem agree_sparing_own {frame : Frame} (hown : Own env names keys origin frame)
    (hcalled : frame.macroDepth = 0) {list list' : List Node} (hunfolds : Unfolds frame.blocks list list')
    (hlist : ∀ part ∈ Node.partsOf list', part.Spares names imports) (depth : Nat) :
    Agree ((Guarantee.sparing names imports).Related (EqualWith I)) (Fault.Alike Eq) (EqualWith fun _ => True)
      (nodes (sparing names keys depth) frame list) (nodes (upToDepth depth) frame list) := by
  induction hunfolds generalizing depth with
  | nil => exact Agree.pure ⟨rfl, True.intro⟩
  | @block name body inner rest rest' hbody _ _ ihinner ihrest =>
    rw [Node.partsOf_append] at hlist
    obtain ⟨hinner, hrest⟩ := List.forall_mem_append.mp hlist
    rw [nodes, nodes]
    refine Agree.bindWith (P := fun _ => True) ?_ fun text _ =>
      (ihrest hrest depth).bindWith fun texts _ => Agree.pure ⟨rfl, True.intro⟩
    rw [node, node, hbody]
    cases depth with
    | zero => exact Agree.throw True.intro
    | succ depth =>
      dsimp only
      rw [sparing_own names hown.ancestors_eq hcalled]
      exact ihinner hinner depth
  | same hnone _ ih =>
    rw [Node.partsOf_cons] at hlist
    obtain ⟨hfirst, hrest⟩ := List.forall_mem_append.mp hlist
    have halike := alikeAt_sparing hown fun body hbody => agree_sparing_macro h (hown.macroCall _) depth hbody
    have hvisits := visits_sparing h hown depth
    rw [nodes, nodes]
    obtain rfl := hown.env_eq
    exact (halike.node hvisits _ hfirst).bindWith fun text _ =>
      (ih hrest depth).bindWith fun texts _ => Agree.pure ⟨rfl, True.intro⟩

end Own

end Render

namespace Template

open Render

variable {template : Template} {names : List String} {env : Environment} {ancestors : List String}
  {imports : Prop} {state : RenderState}

theorem harmless_of_importsSpare
    (himports : imports → template.ImportsSpare names env ancestors state.store) :
    Harmless env (env.Led state.store) names (ancestors ++ [template.id]) template.origin imports where
  keys_ne := by simp
  loads name from? := (env.keeps_load_gives state.store name from?).mono fun _ _ hab => ⟨hab.1, True.intro⟩
  imported := himports

/-- Where no given or imported macro holds one of the blocks, none is called. -/
theorem rendersSparing_iff {program : Program} {opened : List Node}
    (hunfolds : Unfolds program.blocks program.nodes opened)
    (hblocks : ∀ name, name ∉ names → Fields.get? program.blocks name = none)
    (hopened : ∀ part ∈ Node.partsOf opened, part.Spares names imports)
    (himports : imports → template.ImportsSpare names env ancestors state.store)
    (hgiven : state.context.callables.AllValues (Callable.Spares names imports))
    (result : EStateM.Result Fault RenderState String) :
    template.RendersSparing names env ancestors program state result ↔
      template.RendersTo env ancestors program state result := by
  have hsame : ∀ depth,
      template.perform (sparing names (ancestors ++ [template.id]) depth) env ancestors program state =
        template.perform (upToDepth depth) env ancestors program state := by
    intro depth
    cases depth with
    | zero => rfl
    | succ depth =>
      rw [perform_sparing]
      have hown : Own env names (ancestors ++ [template.id]) template.origin
          ⟨env, program.blocks, ancestors ++ [template.id], template.origin, 0⟩ := ⟨rfl, rfl, rfl, hblocks⟩
      have hagree := agree_sparing_own (harmless_of_importsSpare himports) hown rfl hunfolds hopened depth
      exact Guarantee.eq_of_agree hagree (Guarantee.knownContext_sparing.mpr hgiven) .refl
  unfold RendersSparing RendersTo ComesTo
  simp only [hsame]

/-- Nor does it make a difference there whether the blocks are opened. -/
theorem rendersTo_opened_iff {program opened : Program}
    (hunfolds : Unfolds program.blocks program.nodes opened.nodes)
    (hblocks : ∀ name, name ∉ names → Fields.get? program.blocks name = none) (hnone : opened.blocks = [])
    (hopened : ∀ part ∈ Node.partsOf opened.nodes, part.Spares names imports)
    (himports : imports → template.ImportsSpare names env ancestors state.store)
    (hgiven : state.context.callables.AllValues (Callable.Spares names imports))
    (result : EStateM.Result Fault RenderState String) :
    template.RendersTo env ancestors program state result ↔
      template.RendersTo env ancestors opened state result := by
  have hfolded := rendersSparing_iff hunfolds hblocks hopened himports hgiven result
  have hunfolded : template.RendersSparing names env ancestors opened state result ↔
      template.RendersTo env ancestors opened state result :=
    rendersSparing_iff (.refl hunfolds.not_block) (fun name _ => by rw [hnone, Fields.get?_nil]) hopened
      himports hgiven result
  have hsame := sameOutside_of_opened hblocks hnone
  exact ⟨fun h => (rendersTo_of_spared hunfolds hsame (Or.inl (hfolded.mpr h))).2,
    fun h => (rendersTo_of_spared hunfolds hsame (Or.inr (hunfolded.mpr h))).1⟩

end Template

/-- A macro in which a parent tag stands for nodes of a layout. -/
def Token.isParentMacro : Token → Bool
  | .logic tag children =>
    decide (tag.kind = .definition) && (Token.partsOf children).any (·.isKind .parent)
  | _ => false

/-- A macro in which no block may stand, and no nodes of a layout. -/
def Token.BlocklessMacro : Token → Prop
  | .logic tag children => tag.kind = .definition →
    Token.PlacedAll false children ∧ ∀ part ∈ Token.partsOf children, part.isKind .parent = false
  | _ => True

def Node.BlocklessMacro : Node → Prop
  | .define _ _ body => ∀ name, .block name ∉ Node.partsOf body
  | _ => True

theorem Token.PlacedAll.blocklessMacro {allowed : Bool} {tokens : List Token} (h : PlacedAll allowed tokens)
    {token : Token} (htoken : token ∈ partsOf tokens) (hparent : token.isParentMacro = false) :
    token.BlocklessMacro := by
  cases token with
  | logic tag children =>
    intro hkind
    rw [isParentMacro, decide_eq_true hkind, Bool.true_and] at hparent
    refine ⟨h.inside (by rw [hkind]; decide) tokens htoken, fun part hpart => ?_⟩
    exact Bool.eq_false_iff.mpr (List.any_eq_false.mp hparent part hpart)
  | _ => exact True.intro

namespace Guarantee

/-- The macros hold no block at all. -/
def blockless : Guarantee where
  node := Node.BlocklessMacro
  text _ := True
  body nodes := (∀ name, Node.block name ∉ Node.partsOf nodes) ∧
    ∀ part ∈ Node.partsOf nodes, part.BlocklessMacro
  empty := True.intro
  append _ _ := True.intro
  literal _ := True.intro
  output _ _ := True.intro
  escaped _ _ := True.intro
  filtered _ _ := True.intro
  hosted _ _ := True.intro
  within h := h.2
  defined hself hparts := ⟨hself, hparts⟩

theorem blockless_covers : blockless.Covers Token.BlocklessMacro where
  makes scope token node htoken hmakes := by
    cases hmakes with
    | define hkind name parameters hbody =>
      obtain ⟨hplaced, hparent⟩ := htoken hkind
      exact not_block_of_compileTokens hplaced (Or.inr hparent) hbody
    | _ => exact True.intro
  fragment _ := True.intro

theorem spares_of_blockless {callable : Callable} (h : blockless.KnownCallable callable)
    (names : List String) : callable.Spares names True := by
  cases callable with
  | native function => exact True.intro
  | macroBody name parameters body =>
    intro part hpart
    cases part with
    | block name => exact absurd hpart (h.1 name)
    | _ => exact True.intro

end Guarantee

/-- Loads lead from known stores to known ones. -/
theorem Environment.Led.knownStore {env : Environment} {G : Guarantee} {T : Token → Prop}
    (hloads : G.LoadsKnown T (G.KnownStore T) env) {store after : Store} (hled : env.Led store after)
    (hstore : G.KnownStore T store) : G.KnownStore T after := by
  induction hled with
  | refl => exact hstore
  | tail _ hload ih =>
    obtain ⟨name, from?, ⟨compiled, hrun⟩ | ⟨fault, hrun⟩⟩ := hload
    · exact (Keeps.ok (hloads name from?) ih hrun).2
    · exact Keeps.error (hloads name from?) ih hrun

/-- If no source writes a parent tag in a macro then nothing that is imported has a macro with a block. -/
theorem Template.importsSpare_of_sources (template : Template) (names ancestors : List String)
    {env : Environment} {store : Store} (hstore : Guarantee.blockless.KnownStore Token.BlocklessMacro store)
    (hsources : Guarantee.KnownLoader (fun token => token.isParentMacro = false) env) :
    template.ImportsSpare names env ancestors store := by
  have hloader : Guarantee.KnownLoader Token.BlocklessMacro env :=
    fun path source tokens hsource hread token htoken => (Token.ofSource_placed hread).blocklessMacro htoken
      (hsources path source tokens hsource hread token htoken)
  have hloads := Guarantee.blockless_covers.loadsKnown hloader
  intro depth name before text callables after hled hrun entry hentry
  have halike : Guarantee.blockless.Alike (EqualWith (Guarantee.blockless.KnownStore Token.BlocklessMacro)) Eq
      env env (Render.upToDepth depth) (Render.upToDepth depth) :=
    Guarantee.blockless_covers.alike hloads (Or.inr fun _ => True.intro) (fun _ => rfl) depth
  have hvisits := Guarantee.blockless_covers.visits hloads halike (Or.inr fun _ => True.intro)
  have himported := @Guarantee.VisitsAlike.imported _ _ _ _ _ _ _ hvisits
    ⟨env, [], ancestors ++ [template.id], template.origin, 0⟩ (.literal .null) "" True.intro name
  have hknown := (Keeps.ok himported (hled.knownStore hloads hstore) hrun).1.2
  exact Guarantee.spares_of_blockless (hknown entry hentry) names

end Stencil
