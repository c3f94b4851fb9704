import Stencil.Proofs.Engine.Sources
import Stencil.Proofs.Render.Spared

/-!
Templates without a layout and their blocks. A block that is declared once is rendered as if its body stood
in its place. Only a macro that holds a block can tell the difference: it finds the block of this name in the
template that calls it, and so no block where the blocks of this template are opened. The macros that are
written in such a template hold none, so that it takes one that was given or imported.
-/
namespace Stencil

open Render

namespace Template

/-- The nodes with their blocks opened hold no block, and import only what the template does. -/
theorem spares_of_ofTokens_unblockedAll (names : List String) {scope : Scope} (hparent : scope.parent = none)
    {tokens : List Token} (hplaced : Token.PlacedAll true tokens) {imports : Prop}
    (himports : imports ∨ ∀ part ∈ Token.partsOf tokens, part.isKind .importation = false)
    {blocks : Blocks} {nodes : List Node} {opened : Program} (hunfolds : Unfolds blocks nodes opened.nodes)
    (h : Program.ofTokens scope (Token.unblockedAll tokens) = .ok opened) :
    ∀ part ∈ Node.partsOf opened.nodes, part.Spares names imports := by
  intro part hpart
  cases part with
  | block name => exact absurd hpart (hunfolds.not_block name)
  | importation template space =>
    refine himports.resolve_right fun hnone => ?_
    have hopened := (ofTokens_unblockedAll_iff.mp h).1
    exact not_importation_of_compileTokens hparent
      (fun token htoken => hnone token (Token.partsOf_unblockedAll_subset tokens hplaced htoken)) hopened
      template space hpart
  | _ => exact True.intro

/-- Opening the blocks of a template makes no difference. The tokens of a source without a layout, without
hyphens and with one block of each name compile if and only if they do with the blocks opened. The macros
that are written in the template hold no block. Rendered with the same blocks, the two lists of nodes always
come to the same result, which is the text or the error, the context and what was loaded. Without these blocks
they do so if no macro that was given, or that can be imported, holds a block of one of the names, where a
template without a tag that imports needs no promise of imports. They also do so wherever no such macro is
called: if one of the two comes to a result without a call of a macro that holds one of the blocks, then both
come to it, and to no other. -/
theorem renders_unblocked (env : Environment) {policy : Option EscapeKind} {source : String}
    {tokens : List Token} (hread : Token.ofSource env.settings.tags policy source = .ok tokens)
    (hplain : PlainAll tokens) (hextends : ∀ part ∈ Token.partsOf tokens, part.isKind .extends = false)
    (hnodup : (Token.blockNamesOf tokens).Nodup) :
    (Token.layout? env.scope tokens = .ok none ∧
      Token.layout? env.scope (Token.unblockedAll tokens) = .ok none) ∧
    ((∃ program, Program.ofTokens env.scope tokens = .ok program) ↔
      ∃ opened, Program.ofTokens env.scope (Token.unblockedAll tokens) = .ok opened) ∧
    ∀ program opened, Program.ofTokens env.scope tokens = .ok program →
      Program.ofTokens env.scope (Token.unblockedAll tokens) = .ok opened →
      (∀ name parameters body, program.Holds (.define name parameters body) →
        ∀ block, .block block ∉ Node.partsOf body) ∧
      ∀ (template : Template) (other : Environment) ancestors state,
        (∀ result, template.RendersTo other ancestors program state result ↔
          template.RendersTo other ancestors ⟨opened.nodes, program.blocks⟩ state result) ∧
        (let imports := template.ImportsSpare (Token.blockNamesOf tokens) other ancestors state.store
        state.context.callables.AllValues (Callable.Spares (Token.blockNamesOf tokens) imports) →
          (imports ∨ ∀ part ∈ Token.partsOf tokens, part.isKind .importation = false) →
          ∀ result, template.RendersTo other ancestors program state result ↔
            template.RendersTo other ancestors opened state result) ∧
        ∀ result,
          template.RendersSparing (Token.blockNamesOf tokens) other ancestors program state result ∨
            template.RendersSparing (Token.blockNamesOf tokens) other ancestors opened state result →
          ∀ ending, (template.RendersTo other ancestors program state ending ↔ ending = result) ∧
            (template.RendersTo other ancestors opened state ending ↔ ending = result) := by
  have hplaced : Token.PlacedAll true tokens := Token.ofSource_placed hread
  refine ⟨⟨?_, ?_⟩, exists_ofTokens_unblockedAll rfl hplaced hplain hnodup, ?_⟩
  · exact Token.layout?_eq_none (fun token htoken => hextends token
      (Token.mem_partsOf.mpr ⟨token, htoken, Token.mem_parts_self token⟩)) env.scope
  · exact Token.layout?_eq_none (Token.not_extends_unblockedAll hplaced hextends) env.scope
  intro program opened hprogram hopened
  refine ⟨fun name parameters body => not_block_of_macro rfl hplaced hprogram, ?_⟩
  intro template other ancestors state
  have hunfolds := unfolds_of_ofTokens rfl hplaced hplain hnodup hprogram hopened
  have hnone : opened.blocks = [] := (ofTokens_unblockedAll_iff.mp hopened).2
  have hblocks : ∀ name, name ∉ Token.blockNamesOf tokens → Fields.get? program.blocks name = none :=
    fun _ => get?_blocks_of_ofTokens hprogram
  have hsame := sameOutside_of_opened hblocks hnone
  refine ⟨fun result => ⟨fun h => ?_, fun h => ?_⟩, fun hgiven hwhere result => ?_,
    fun result hspared => ?_⟩
  · have hspared := rendersSparing_nil.mpr h
    exact hspared.unfolded ⟨opened.nodes, program.blocks⟩ hunfolds fun _ _ => rfl
  · have hspared := rendersSparing_nil.mpr h
    exact hspared.folded ⟨opened.nodes, program.blocks⟩ program hunfolds fun _ _ => rfl
  · have hspares := spares_of_ofTokens_unblockedAll (Token.blockNamesOf tokens) rfl hplaced hwhere hunfolds
      hopened
    exact rendersTo_opened_iff hunfolds hblocks hnone hspares (fun h => h) hgiven result
  · obtain ⟨hfolded, hunfolded⟩ := rendersTo_of_spared hunfolds hsame hspared
    exact fun ending => ⟨hfolded.iff, hunfolded.iff⟩

end Template

section Sample

instance : DecidablePred Token.Plain
  | .literal _ => isTrue True.intro
  | .output _ => isTrue True.intro
  | .logic tag _ => inferInstanceAs (Decidable (tag.strip = {}))

/-- The text of a rendering that succeeds. -/
def renderedText? : EStateM.Result Fault RenderState String → Option String
  | .ok text _ => some text
  | .error _ _ => none

theorem ComesTo.of_text {render : Nat → RenderM String} {state : RenderState} {text : String} (depth : Nat)
    (h : renderedText? (render depth state) = some text) :
    ∃ after, ComesTo render state (.ok text after) := by
  cases hrun : render depth state with
  | ok output after =>
    rw [hrun] at h
    cases h
    exact ⟨after, depth, hrun, nofun⟩
  | error fault after =>
    rw [hrun] at h
    cases h

/-- The macro of the page stands for the block of the layout, in which there is another block. -/
def macroFiles : Fields String := [
  ("layout", "\x7b% block a %\x7d\x7b% block c %\x7dlayout\x7b% endblock %\x7d\x7b% endblock %\x7d"),
  ("page", "\x7b% extends 'layout' %\x7d\x7b% block a %\x7d\x7b% macro m() %\x7d\x7b% parent %\x7d" ++
    "\x7b% endmacro %\x7d\x7b% endblock %\x7d")]

def macroEngine : Engine := .new { debug := true } {} (.table macroFiles)

def standalone : Template := ⟨"t", none, none, .ready ⟨[], []⟩⟩

def standaloneTokens (source : String) : List Token :=
  (Token.ofSource macroEngine.env.settings.tags none source).toOption.getD []

def standaloneProgram (tokens : List Token) : Program :=
  (Program.ofTokens macroEngine.env.scope tokens).toOption.getD ⟨[], []⟩

theorem ofTokens_standaloneProgram {tokens : List Token}
    (h : (Program.ofTokens macroEngine.env.scope tokens).isOk = true) :
    Program.ofTokens macroEngine.env.scope tokens = .ok (standaloneProgram tokens) :=
  eq_ok_of_isOk h (⟨[], []⟩ : Program)

def librarySource : String := "\x7b% macro m() %\x7dw\x7b% endmacro %\x7d"

/-- A macro of another template, without a block. -/
def libraryEngine : Engine := .new { debug := true } {} (.table [("lib", librarySource)])

theorem libraryEngine_sources :
    Guarantee.KnownLoader (fun token => token.isParentMacro = false) libraryEngine.env := by
  intro path source tokens hsource hread
  have hstored : libraryEngine.env.loader.AllSources (· = librarySource) :=
    List.forall_mem_singleton.mpr rfl
  obtain rfl := hstored.load (Environment.load_of_source hsource)
  have hchecked : (Token.ofSource libraryEngine.env.settings.tags libraryEngine.env.settings.autoescape
      librarySource).map (fun tokens => (Token.partsOf tokens).all (!·.isParentMacro)) = .ok true := by
    decide +kernel
  rw [hread] at hchecked
  intro token htoken
  have htoken := List.all_eq_true.mp (Except.ok.inj hchecked) token htoken
  rwa [Bool.not_eq_true'] at htoken

/-- A block with an assignment, a macro and a block in it, and the macros of two templates. -/
def nestedSource : String :=
  "\x7b% import 'lib' as f %\x7d\x7b% block a %\x7d\x7b% set x = 'v' %\x7d\x7b% macro m() %\x7dw" ++
    "\x7b% endmacro %\x7d\x7b% block b %\x7d\x7b\x7b x \x7d\x7d\x7b% endblock %\x7d\x7b% endblock %\x7d" ++
    "\x7b\x7b x \x7d\x7d\x7b\x7b m() \x7d\x7d\x7b\x7b f.m() \x7d\x7d"

theorem Template.renders_unblocked_nested :
    ∃ tokens program opened after,
      Token.ofSource macroEngine.env.settings.tags none nestedSource = .ok tokens ∧
      Program.ofTokens macroEngine.env.scope tokens = .ok program ∧
      Program.ofTokens macroEngine.env.scope (Token.unblockedAll tokens) = .ok opened ∧
      Fields.names program.blocks = ["a", "b"] ∧ Fields.names opened.blocks = [] ∧
      (∀ ending, standalone.RendersTo libraryEngine.env [] program ⟨{}, {}⟩ ending ↔
        standalone.RendersTo libraryEngine.env [] opened ⟨{}, {}⟩ ending) ∧
      ∀ ending,
        (standalone.RendersTo libraryEngine.env [] program ⟨{}, {}⟩ ending ↔ ending = .ok "vvww" after) ∧
        (standalone.RendersTo libraryEngine.env [] opened ⟨{}, {}⟩ ending ↔ ending = .ok "vvww" after) := by
  let tokens := standaloneTokens nestedSource
  let program := standaloneProgram tokens
  let render (depth : Nat) : RenderM String :=
    standalone.perform (sparing (Token.blockNamesOf tokens) ([] ++ [standalone.id]) depth) libraryEngine.env []
      program
  have hchecked : (Token.ofSource macroEngine.env.settings.tags none nestedSource).isOk = true ∧
      (Program.ofTokens macroEngine.env.scope tokens).isOk = true ∧ PlainAll tokens ∧
      (∀ part ∈ Token.partsOf tokens, part.isKind .extends = false) ∧ (Token.blockNamesOf tokens).Nodup ∧
      Fields.names program.blocks = ["a", "b"] ∧ renderedText? (render 8 ⟨{}, {}⟩) = some "vvww" := by
    decide +kernel
  obtain ⟨hread, hprogram, hplain, hextends, hnodup, hnames, hrender⟩ := hchecked
  have hread := eq_ok_of_isOk hread []
  have hprogram := ofTokens_standaloneProgram hprogram
  obtain ⟨-, hcompiles, hrenders⟩ :=
    Template.renders_unblocked macroEngine.env hread hplain hextends hnodup
  obtain ⟨opened, hopened⟩ := hcompiles.mp ⟨program, hprogram⟩
  obtain ⟨after, hspared⟩ : ∃ after, standalone.RendersSparing (Token.blockNamesOf tokens) libraryEngine.env []
      program ⟨{}, {}⟩ (.ok "vvww" after) := ComesTo.of_text 8 hrender
  have hblocks : opened.blocks = [] := (ofTokens_unblockedAll_iff.mp hopened).2
  have himports : standalone.ImportsSpare (Token.blockNamesOf tokens) libraryEngine.env [] {} :=
    Template.importsSpare_of_sources _ _ _ (Store.All.empty _) libraryEngine_sources
  obtain ⟨-, hwhole, hcalled⟩ :=
    (hrenders program opened hprogram hopened).2 standalone libraryEngine.env [] ⟨{}, {}⟩
  refine ⟨tokens, program, opened, after, hread, hprogram, hopened, hnames, by rw [hblocks]; rfl, ?_, ?_⟩
  · exact hwhole (Fields.AllValues.nil _) (Or.inl himports)
  · exact hcalled _ (Or.inl hspared)

/-- It calls the macro of the page, and has a block of the name itself. -/
def callingSource : String :=
  "\x7b% import 'page' as f %\x7d\x7b% block c %\x7dX\x7b% endblock %\x7d\x7b\x7b f.m() \x7d\x7d"

/-- The macro of another template finds the block of the template that calls it, and none where the blocks
are opened. -/
theorem Template.macro_finds_block :
    ∃ tokens program opened after after',
      Token.ofSource macroEngine.env.settings.tags none callingSource = .ok tokens ∧
      PlainAll tokens ∧ (∀ part ∈ Token.partsOf tokens, part.isKind .extends = false) ∧
      (Token.blockNamesOf tokens).Nodup ∧
      Program.ofTokens macroEngine.env.scope tokens = .ok program ∧
      Program.ofTokens macroEngine.env.scope (Token.unblockedAll tokens) = .ok opened ∧
      standalone.RendersTo macroEngine.env [] program ⟨{}, {}⟩ (.ok "XX" after) ∧
      standalone.RendersTo macroEngine.env [] opened ⟨{}, {}⟩ (.ok "X" after') := by
  let tokens := standaloneTokens callingSource
  let program := standaloneProgram tokens
  let opened := standaloneProgram (Token.unblockedAll tokens)
  let render (program : Program) : RenderM String :=
    standalone.perform (upToDepth 8) macroEngine.env [] program
  have hchecked : (Token.ofSource macroEngine.env.settings.tags none callingSource).isOk = true ∧
      PlainAll tokens ∧ (∀ part ∈ Token.partsOf tokens, part.isKind .extends = false) ∧
      (Token.blockNamesOf tokens).Nodup ∧ (Program.ofTokens macroEngine.env.scope tokens).isOk = true ∧
      (Program.ofTokens macroEngine.env.scope (Token.unblockedAll tokens)).isOk = true ∧
      renderedText? (render program ⟨{}, {}⟩) = some "XX" ∧
      renderedText? (render opened ⟨{}, {}⟩) = some "X" := by
    decide +kernel
  obtain ⟨hread, hplain, hextends, hnodup, hprogram, hopened, hrender, hrender'⟩ := hchecked
  obtain ⟨after, hafter⟩ : ∃ after, standalone.RendersTo macroEngine.env [] program ⟨{}, {}⟩
      (.ok "XX" after) := ComesTo.of_text 8 hrender
  obtain ⟨after', hafter'⟩ : ∃ after', standalone.RendersTo macroEngine.env [] opened ⟨{}, {}⟩
      (.ok "X" after') := ComesTo.of_text 8 hrender'
  exact ⟨tokens, program, opened, after, after', eq_ok_of_isOk hread [], hplain, hextends, hnodup,
    ofTokens_standaloneProgram hprogram, ofTokens_standaloneProgram hopened, hafter, hafter'⟩

end Sample

end Stencil
