import Stencil.Proofs.Inheritance.Unblocked
import Stencil.Proofs.Render.Depth

/-!
A renderer that spares the blocks of a template. It renders as any other one, but gives up where a macro is
called in the template that holds a block of one of its names: the macro would find the block of the template
that calls it. Where it does not give up, nothing depends on the blocks being there or opened in their places.
-/
namespace Stencil

/-- Whether one of the nodes is, or has in it, a block of one of the names. -/
def Node.holdsBlock (names : List String) (list : List Node) : Bool :=
  (Node.partsOf list).any fun
    | .block name => names.contains name
    | _ => false

theorem Node.not_mem_of_holdsBlock {names : List String} {list : List Node} {name : String}
    (h : ¬ Node.holdsBlock names list = true) (hname : .block name ∈ Node.partsOf list) : name ∉ names :=
  fun hmem => h (List.any_eq_true.mpr ⟨.block name, hname, List.contains_iff_mem.mpr hmem⟩)

namespace Render

/-- A renderer of the template with these keys, its own one last, that gives up where a macro is called that
holds a block of one of the names. What other templates render does not matter. -/
def sparing (names keys : List String) : Nat → Jump
  | 0 => fun _ _ => throw .tooDeep
  | depth + 1 => fun frame list =>
    if frame.ancestors = keys then
      if 0 < frame.macroDepth ∧ Node.holdsBlock names list = true then throw .tooDeep
      else nodes (sparing names keys depth) frame list
    else upToDepth (depth + 1) frame list

theorem deepensAll_sparing (names keys : List String) {depth more : Nat} (h : depth ≤ more) :
    DeepensAll (sparing names keys depth) (upToDepth more) := by
  induction depth generalizing more with
  | zero => exact fun frame list => .tooDeep _
  | succ depth ih =>
    cases more with
    | zero => exact absurd h (Nat.not_succ_le_zero depth)
    | succ more =>
      intro frame list
      unfold sparing
      split
      · split
        · exact .tooDeep _
        · exact (ih (Nat.le_of_succ_le_succ h)).nodes frame list
      · exact deepensAll_upToDepth h frame list

/-- Without names nothing is spared. -/
theorem sparing_nil (keys : List String) (depth : Nat) : sparing [] keys depth = upToDepth depth := by
  induction depth with
  | zero => rfl
  | succ depth ih =>
    funext frame list
    have hnone : ¬ (0 < frame.macroDepth ∧ Node.holdsBlock [] list = true) := by
      rintro ⟨-, hholds⟩
      obtain ⟨part, -, hpart⟩ := List.any_eq_true.mp hholds
      cases part <;> cases hpart
    unfold sparing
    rw [if_neg hnone, ih]
    split <;> rfl

section Frames

variable {names keys : List String} {frame : Frame} {blocks : Blocks}

/-- Blocks of other names are the same. -/
def SameOutside (names : List String) (blocks blocks' : Blocks) : Prop :=
  ∀ name, name ∉ names → Fields.get? blocks name = Fields.get? blocks' name

theorem SameOutside.symm {blocks' : Blocks} (h : SameOutside names blocks blocks') :
    SameOutside names blocks' blocks := fun name hname => (h name hname).symm

/-- Blocks of these names only, and none at all. -/
theorem sameOutside_of_opened {opened : Blocks} (h : ∀ name, name ∉ names → Fields.get? blocks name = none)
    (hopened : opened = []) : SameOutside names blocks opened := fun name hname => by
  rw [h name hname, hopened, Fields.get?_nil]

theorem deepensAt_sparing {depth more : Nat} (h : depth ≤ more)
    (hmacros : MacrosDeepen (sparing names keys depth) (upToDepth more) frame blocks) :
    DeepensAt (sparing names keys depth) (upToDepth more) frame blocks :=
  have hall := deepensAll_sparing names keys h
  ⟨hmacros, hall.included frame, hall.imported frame⟩

/-- A macro that is spared none of its blocks finds the same ones. -/
theorem sparing_macro (frame : Frame) (hsame : SameOutside names frame.blocks blocks)
    (hkeys : frame.ancestors = keys) (hcalled : 0 < frame.macroDepth) {depth more : Nat} (h : depth ≤ more)
    (list : List Node) :
    Deepens (sparing names keys depth frame list) (upToDepth more { frame with blocks } list) := by
  induction depth generalizing more frame list with
  | zero => exact .tooDeep _
  | succ depth ih =>
    cases more with
    | zero => exact absurd h (Nat.not_succ_le_zero depth)
    | succ more =>
      have hdepth : depth ≤ more := Nat.le_of_succ_le_succ h
      unfold sparing
      rw [if_pos hkeys]
      split
      · exact .tooDeep _
      · rename_i hspared
        have hinside : DeepensAt (sparing names keys depth) (upToDepth more) frame blocks :=
          deepensAt_sparing hdepth fun body =>
            ih { frame with macroDepth := frame.macroDepth + 1 } hsame hkeys (Nat.succ_pos _) hdepth body
        refine hinside.nodes (fun name (hname : name ∉ names) => ?_) list fun name hname =>
          Node.not_mem_of_holdsBlock (fun hholds => hspared ⟨hcalled, hholds⟩) hname
        simp only [node, hsame name hname]
        cases Fields.get? blocks name with
        | none => exact .refl _
        | some body => exact ih frame hsame hkeys hcalled hdepth body

/-- The template itself renders all but its blocks as it does with other blocks. -/
theorem deepensAt_own (hsame : SameOutside names frame.blocks blocks) (hkeys : frame.ancestors = keys)
    {depth more : Nat} (h : depth ≤ more) :
    DeepensAt (sparing names keys depth) (upToDepth more) frame blocks :=
  deepensAt_sparing h fun body =>
    sparing_macro { frame with macroDepth := frame.macroDepth + 1 } hsame hkeys (Nat.succ_pos _) h body

/-- In the template itself a block is never spared. -/
theorem sparing_own (names : List String) (hkeys : frame.ancestors = keys) (hown : frame.macroDepth = 0)
    (depth : Nat) (list : List Node) :
    sparing names keys (depth + 1) frame list = nodes (sparing names keys depth) frame list := by
  have hnone : ¬ (0 < frame.macroDepth ∧ Node.holdsBlock names list = true) := fun h => by
    rw [hown] at h
    exact Nat.lt_irrefl 0 h.1
  rw [sparing]
  dsimp only
  rw [if_pos hkeys, if_neg hnone]

variable {list list' : List Node} (frame)

/-- Nodes with their blocks opened render as the nodes do. -/
theorem deepens_unfolded (hunfolds : Unfolds frame.blocks list list')
    (hsame : SameOutside names frame.blocks blocks) (hkeys : frame.ancestors = keys)
    (hown : frame.macroDepth = 0) {depth more : Nat} (h : depth ≤ more) :
    Deepens (nodes (sparing names keys depth) frame list)
      (nodes (upToDepth more) { frame with blocks } list') := by
  induction hunfolds generalizing depth with
  | nil => exact .refl _
  | @block name body inner rest rest' hbody _ _ ihinner ihrest =>
    rw [nodes, nodes_append]
    refine Deepens.bind ?_ fun text => (ihrest h).bindPure _
    rw [node, hbody]
    cases depth with
    | zero => exact .tooDeep _
    | succ depth =>
      dsimp only
      rw [sparing_own names hkeys hown]
      exact ihinner (Nat.le_of_succ_le h)
  | same hnone _ ih =>
    rw [nodes, nodes]
    refine Deepens.bind ?_ fun text => (ih h).bindPure _
    exact (deepensAt_own hsame hkeys h).node (fun name (hfalse : False) => hfalse.elim) _ hnone

/-- The nodes render as they do with their blocks opened, if there is room for the blocks inside each
other. -/
theorem deepens_folded (hunfolds : Unfolds blocks list list')
    (hsame : SameOutside names frame.blocks blocks) (hkeys : frame.ancestors = keys) (depth : Nat) :
    ∃ more, Deepens (nodes (sparing names keys depth) frame list')
      (nodes (upToDepth more) { frame with blocks } list) := by
  induction hunfolds with
  | nil => exact ⟨depth, .refl _⟩
  | @block name body inner rest rest' hbody _ _ ihinner ihrest =>
    obtain ⟨inside, hinside⟩ := ihinner
    obtain ⟨behind, hbehind⟩ := ihrest
    refine ⟨max (inside + 1) behind, ?_⟩
    rw [nodes, nodes_append]
    refine Deepens.bind ?_ fun text => (hbehind.trans ?_).bindPure _
    · have hdeeper : Deepens (upToDepth (inside + 1) { frame with blocks } body)
          (upToDepth (max (inside + 1) behind) { frame with blocks } body) :=
        deepensAll_upToDepth (Nat.le_max_left _ _) _ body
      rw [node, hbody]
      exact hinside.trans hdeeper
    · exact (deepensAll_upToDepth (Nat.le_max_right _ _)).nodes _ rest
  | same hnone _ ih =>
    obtain ⟨behind, hbehind⟩ := ih
    refine ⟨max depth behind, ?_⟩
    rw [nodes, nodes]
    refine Deepens.bind ?_ fun text => (hbehind.trans ?_).bindPure _
    · have hinside := deepensAt_own hsame hkeys (Nat.le_max_left depth behind)
      exact hinside.node (fun name (hfalse : False) => hfalse.elim) _ hnone
    · exact (deepensAll_upToDepth (Nat.le_max_right _ _)).nodes _ _

end Frames

end Render

open Render

namespace Template

/-- The program of the template comes to this result. -/
def RendersTo (template : Template) (env : Environment) (ancestors : List String) (program : Program) :
    RenderState → EStateM.Result Fault RenderState String → Prop :=
  ComesTo fun depth => template.perform (upToDepth depth) env ancestors program

/-- The program comes to this result, and no macro is called in the template that holds a block of one of the
names. -/
def RendersSparing (template : Template) (names : List String) (env : Environment) (ancestors : List String)
    (program : Program) : RenderState → EStateM.Result Fault RenderState String → Prop :=
  ComesTo fun depth =>
    template.perform (sparing names (ancestors ++ [template.id]) depth) env ancestors program

section Renders

variable {template : Template} {names : List String} {env : Environment} {ancestors : List String}
  {program : Program} {state : RenderState} {result other : EStateM.Result Fault RenderState String}

theorem RendersTo.unique (h : template.RendersTo env ancestors program state result)
    (hother : template.RendersTo env ancestors program state other) : other = result :=
  ComesTo.unique (fun _ _ hle => deepensAll_upToDepth hle _ _) h hother

theorem RendersTo.iff (h : template.RendersTo env ancestors program state result) :
    template.RendersTo env ancestors program state other ↔ other = result :=
  ⟨h.unique, fun hother => hother ▸ h⟩

theorem RendersSparing.rendersTo (h : template.RendersSparing names env ancestors program state result) :
    template.RendersTo env ancestors program state result :=
  ComesTo.of_deepens (fun depth => ⟨depth, deepensAll_sparing _ _ (Nat.le_refl depth) _ _⟩) h

theorem rendersSparing_nil : template.RendersSparing [] env ancestors program state result ↔
    template.RendersTo env ancestors program state result := by
  unfold RendersSparing RendersTo
  simp only [sparing_nil]

/-- The template renders its own nodes first. -/
theorem perform_sparing (names : List String) (depth : Nat) :
    template.perform (sparing names (ancestors ++ [template.id]) (depth + 1)) env ancestors program =
      nodes (sparing names (ancestors ++ [template.id]) depth)
        ⟨env, program.blocks, ancestors ++ [template.id], template.origin, 0⟩ program.nodes :=
  sparing_own names rfl rfl depth program.nodes

theorem RendersSparing.unfolded (opened : Program)
    (hunfolds : Unfolds program.blocks program.nodes opened.nodes)
    (hsame : SameOutside names program.blocks opened.blocks)
    (h : template.RendersSparing names env ancestors program state result) :
    template.RendersTo env ancestors opened state result := by
  refine ComesTo.of_deepens (fun depth => ⟨depth, ?_⟩) h
  cases depth with
  | zero => exact .tooDeep _
  | succ depth =>
    let frame : Frame := ⟨env, program.blocks, ancestors ++ [template.id], template.origin, 0⟩
    rw [perform_sparing]
    exact deepens_unfolded frame hunfolds hsame rfl rfl (Nat.le_refl depth)

theorem RendersSparing.folded (program folded : Program)
    (hunfolds : Unfolds folded.blocks folded.nodes program.nodes)
    (hsame : SameOutside names program.blocks folded.blocks)
    (h : template.RendersSparing names env ancestors program state result) :
    template.RendersTo env ancestors folded state result := by
  refine ComesTo.of_deepens (fun depth => ?_) h
  cases depth with
  | zero => exact ⟨0, .tooDeep _⟩
  | succ depth =>
    let frame : Frame := ⟨env, program.blocks, ancestors ++ [template.id], template.origin, 0⟩
    rw [perform_sparing]
    obtain ⟨more, hmore⟩ := deepens_folded frame hunfolds hsame rfl depth
    exact ⟨more + 1, hmore⟩

/-- One rendering that comes to a result without the macros brings the other one with it. -/
theorem rendersTo_of_spared {opened : Program} (hunfolds : Unfolds program.blocks program.nodes opened.nodes)
    (hsame : SameOutside names program.blocks opened.blocks)
    (h : template.RendersSparing names env ancestors program state result ∨
      template.RendersSparing names env ancestors opened state result) :
    template.RendersTo env ancestors program state result ∧
      template.RendersTo env ancestors opened state result := by
  rcases h with h | h
  · exact ⟨h.rendersTo, h.unfolded opened hunfolds hsame⟩
  · exact ⟨h.folded opened program hunfolds hsame.symm, h.rendersTo⟩

end Renders

end Template

end Stencil
