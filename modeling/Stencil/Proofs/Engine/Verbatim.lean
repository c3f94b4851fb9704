import Stencil.Proofs.Render.Visits
import Stencil.Proofs.Source.Verbatim
import Stencil.Proofs.Token.Stripping

/-!
What stands for itself is rendered as it is. Sources made of plain texts, comments and raw bodies become
tokens without hyphens, and these become nodes that print the texts and the bodies in their order; so does
a fresh engine, whatever its configuration and the context.
-/
namespace Stencil

/-! Tokens. -/

/-- The tokens hold the text, and nothing next to them is to be removed. -/
inductive Token.Verbatim : List Token → String → Prop
  | nil : Verbatim [] ""
  | text {tokens : List Token} {output : String} (text : String) (h : Verbatim tokens output) :
      Verbatim (.literal text :: tokens) (text ++ output)
  | raw {tokens : List Token} {output : String} {tag : LogicTag} (body : String) (hkind : tag.kind = .raw)
      (hstrip : tag.strip = {}) (h : Verbatim tokens output) :
      Verbatim (.logic tag [.literal body] :: tokens) (body ++ output)

/-- The tokens of segments that hold a text. -/
theorem TokenTree.verbatim_addSegments {segments : List Source.Segment} {output : List Char}
    (h : Source.Verbatim segments output) (tags : Tags) (tree : TokenTree) :
    ∃ tokens, addSegments tags tree segments =
        .ok { tree with current := tokens.reverse ++ tree.current } ∧
      Token.Verbatim tokens (String.ofList output) := by
  induction h generalizing tree with
  | nil => exact ⟨[], rfl, .nil⟩
  | text content line _ ih =>
    obtain ⟨tokens, hadd, htokens⟩ := ih (tree.add (.literal (String.ofList content)))
    refine ⟨.literal (String.ofList content) :: tokens, ?_, ?_⟩
    · rw [addSegments, List.reverse_cons, List.append_assoc]
      exact hadd
    · rw [String.ofList_append]
      exact .text _ htokens
  | raw line body _ ih =>
    let token := tree.rawToken Source.Piece.rawContent line body Source.Piece.endrawContent
    obtain ⟨tokens, hadd, htokens⟩ := ih (tree.add token)
    refine ⟨token :: tokens, ?_, ?_⟩
    · rw [addSegments, List.reverse_cons, List.append_assoc]
      exact hadd
    · rw [String.ofList_append]
      exact .raw _ rfl rfl htokens

theorem Token.verbatim_ofSource {pieces : List Source.Piece} (h : Source.Piece.AllStand pieces) (tags : Tags)
    (escape : Option EscapeKind) :
    ∃ tokens, ofSource tags escape (String.ofList (pieces.flatMap Source.Piece.source)) = .ok tokens ∧
      Verbatim tokens (String.ofList (pieces.flatMap Source.Piece.output)) := by
  obtain ⟨hfault, hsegments⟩ := Source.verbatim_segments h
  obtain ⟨tokens, htree, htokens⟩ := TokenTree.verbatim_addSegments hsegments tags (.start escape)
  refine ⟨tokens, ?_, htokens⟩
  unfold ofSource
  dsimp only
  rw [htree, hfault]
  change Except.ok (tokens.reverse ++ []).reverse = _
  rw [List.append_nil, List.reverse_reverse]

/-! Nodes. -/

/-- Rendered by whom and where it may be, the nodes print the text. -/
def Prints (nodes : List Node) (text : String) : Prop :=
  ∀ jump frame state, Render.nodes jump frame nodes state = .ok text state

theorem prints_nil : Prints [] "" := by
  intro jump frame state
  rw [Render.nodes]
  rfl

theorem Prints.cons {node : Node} {nodes : List Node} {front back : String}
    (hnode : ∀ jump frame state, Render.node jump frame node state = .ok front state)
    (hnodes : Prints nodes back) : Prints (node :: nodes) (front ++ back) := by
  intro jump frame state
  rw [Render.nodes, run_bind_of_ok (hnode jump frame state), run_bind_of_ok (hnodes jump frame state)]
  rfl

theorem prints_text (text : String) : Prints [.text text] text := by
  have hnode : ∀ jump frame state, Render.node jump frame (.text text) state = .ok text state := by
    intro jump frame state
    rw [Render.node]
    rfl
  simpa using Prints.cons hnode prints_nil

theorem Render.nodes_append (jump : Jump) (frame : Frame) (front back : List Node) :
    nodes jump frame (front ++ back) = (do
      let text ← nodes jump frame front
      return text ++ (← nodes jump frame back)) := by
  induction front with
  | nil =>
    rw [nodes, List.nil_append]
    simp only [pure_bind, String.empty_append, bind_pure]
  | cons node front ih =>
    rw [List.cons_append, nodes, nodes, ih]
    simp only [bind_assoc, pure_bind, String.append_assoc]

theorem Prints.append {nodes more : List Node} {front back : String} (hnodes : Prints nodes front)
    (hmore : Prints more back) : Prints (nodes ++ more) (front ++ back) := by
  intro jump frame state
  rw [Render.nodes_append, run_bind_of_ok (hnodes jump frame state), run_bind_of_ok (hmore jump frame state)]
  rfl

theorem prints_group {nodes : List Node} {text : String} (h : Prints nodes text) :
    Prints [.group nodes] text := by
  have hnode : ∀ jump frame state, Render.node jump frame (.group nodes) state = .ok text state := by
    intro jump frame state
    rw [Render.node]
    exact h jump frame state
  simpa using Prints.cons hnode prints_nil

/-- A text next to which nothing is removed. -/
theorem exists_literal (scope : Scope) (text : String) :
    ∃ nodes, compileToken scope false false (.literal text) = .ok nodes ∧ Prints nodes text := by
  have hstrip := stripText_neither text
  by_cases hempty : text.isEmpty = true
  · refine ⟨[], ?_, ?_⟩
    · rw [compileToken, hstrip, if_pos hempty]
    · obtain rfl : text = "" := by simpa using hempty
      exact prints_nil
  · refine ⟨[.text text], ?_, prints_text text⟩
    rw [compileToken, hstrip, if_neg hempty]

theorem Token.Verbatim.plain {tokens : List Token} {output : String} (h : Verbatim tokens output) :
    ∀ part ∈ partsOf tokens, part.Plain := by
  induction h with
  | nil => exact List.forall_mem_nil _
  | text text _ ih => exact List.forall_mem_cons.mpr ⟨True.intro, ih⟩
  | raw body _ hstrip _ ih =>
    exact List.forall_mem_cons.mpr ⟨hstrip, List.forall_mem_cons.mpr ⟨True.intro, ih⟩⟩

theorem Token.Verbatim.compileTokens {tokens : List Token} {output : String} (h : Verbatim tokens output)
    (scope : Scope) : ∃ nodes, compileTokens scope false false tokens = .ok nodes ∧ Prints nodes output := by
  induction h with
  | nil => exact ⟨[], by rw [Stencil.compileTokens], prints_nil⟩
  | text text h ih =>
    obtain ⟨nodes, hnodes, hprints⟩ := exists_literal scope text
    obtain ⟨more, hmore, hprintsMore⟩ := ih
    refine ⟨nodes ++ more, ?_, hprints.append hprintsMore⟩
    rw [Stencil.compileTokens, stripsEnd_of_plain h.plain]
    exact bind_eq_ok.mpr ⟨nodes, hnodes, bind_eq_ok.mpr ⟨more, hmore, rfl⟩⟩
  | @raw tokens output tag body hkind hstrip h ih =>
    obtain ⟨nodes, hnodes, hprints⟩ := exists_literal scope body
    obtain ⟨more, hmore, hprintsMore⟩ := ih
    have hbody : Stencil.compileTokens scope false false [.literal body] = .ok nodes := by
      rw [Stencil.compileTokens]
      refine bind_eq_ok.mpr ⟨nodes, hnodes, ?_⟩
      rw [Stencil.compileTokens]
      exact congrArg Except.ok (List.append_nil nodes)
    have htoken : compileToken scope false false (.logic tag [.literal body]) = .ok [.group nodes] := by
      rw [compileToken, hkind, hstrip]
      exact bind_eq_ok.mpr ⟨nodes, hbody, rfl⟩
    have hafter : (Token.logic tag [.literal body]).stripsAfter = false := Plain.stripsAfter hstrip
    refine ⟨[.group nodes] ++ more, ?_, (prints_group hprints).append hprintsMore⟩
    rw [Stencil.compileTokens, stripsEnd_of_plain h.plain, hafter]
    exact bind_eq_ok.mpr ⟨[.group nodes], htoken, bind_eq_ok.mpr ⟨more, hmore, rfl⟩⟩

/-! Templates. -/

theorem Token.firstExtends?_eq_none {tokens : List Token}
    (h : ∀ token ∈ tokens, token.isKind .extends = false) : firstExtends? tokens = none := by
  induction tokens with
  | nil => rfl
  | cons token tokens ih =>
    obtain ⟨htoken, htokens⟩ := List.forall_mem_cons.mp h
    cases token with
    | logic tag children =>
      have hkind : ¬ tag.kind = .extends := of_decide_eq_false htoken
      rw [firstExtends?, if_neg hkind]
      exact ih htokens
    | literal text => exact ih htokens
    | output tag => exact ih htokens

/-- Tokens without an extends tag have no layout. -/
theorem Token.layout?_eq_none {tokens : List Token} (h : ∀ token ∈ tokens, token.isKind .extends = false)
    (scope : Scope) : layout? scope tokens = .ok none := by
  have hshown : ∀ token ∈ tokens.filter (!·.isBlankText), token.isKind .extends = false :=
    fun token htoken => h token (List.mem_filter.mp htoken).1
  unfold layout?
  cases hfilter : tokens.filter (!·.isBlankText) with
  | nil => rfl
  | cons token rest =>
    rw [hfilter] at hshown
    obtain ⟨htoken, hrest⟩ := List.forall_mem_cons.mp hshown
    have hleading : leadingExtends? (token :: rest) = (none, rest) := by
      cases token with
      | logic tag children =>
        have hkind : ¬ tag.kind = .extends := of_decide_eq_false htoken
        rw [leadingExtends?, if_neg hkind]
      | literal text => rfl
      | output tag => rfl
    rw [hleading]
    dsimp only
    rw [firstExtends?_eq_none hrest]

/-- Tokens without a block tag at the top level declare no blocks. -/
theorem compileBlocks_of_no_block {tokens : List Token} (h : ∀ token ∈ tokens, token.isKind .block = false)
    (scope : Scope) (inherited blocks : Blocks) :
    compileBlocks scope inherited tokens blocks = .ok blocks := by
  induction tokens with
  | nil => rw [compileBlocks]
  | cons token tokens ih =>
    obtain ⟨htoken, htokens⟩ := List.forall_mem_cons.mp h
    have hblock : compileBlock scope inherited token blocks = .ok blocks := by
      cases token with
      | logic tag children =>
        have hkind : ¬ tag.kind = .block := of_decide_eq_false htoken
        rw [compileBlock, if_neg hkind]
      | literal text => rfl
      | output tag => rfl
    rw [compileBlocks]
    exact bind_eq_ok.mpr ⟨blocks, hblock, ih htokens⟩

theorem Token.Verbatim.isKind_eq_false {tokens : List Token} {output : String} (h : Verbatim tokens output)
    {kind : Tag} (hkind : kind ≠ .raw) : ∀ token ∈ tokens, token.isKind kind = false := by
  induction h with
  | nil => exact List.forall_mem_nil _
  | text text h ih => exact List.forall_mem_cons.mpr ⟨rfl, ih⟩
  | raw body hraw hstrip h ih =>
    refine List.forall_mem_cons.mpr ⟨decide_eq_false ?_, ih⟩
    rw [hraw]
    exact Ne.symm hkind

/-- A source that stands for itself compiles to a template that prints its output. -/
theorem Environment.compile_pieces (env : Environment) {pieces : List Source.Piece}
    (h : Source.Piece.AllStand pieces) (id : String) (origin : Option String) (store : Store) :
    ∃ nodes, env.compile id (String.ofList (pieces.flatMap Source.Piece.source)) origin store =
        .ok ⟨id, origin, none, .ready ⟨nodes, []⟩⟩ store ∧
      Prints nodes (String.ofList (pieces.flatMap Source.Piece.output)) := by
  obtain ⟨tokens, htokens, hverbatim⟩ :=
    Token.verbatim_ofSource h env.settings.tags env.settings.autoescape
  obtain ⟨nodes, hnodes, hprints⟩ := hverbatim.compileTokens env.scope
  have hlayout : Token.layout? env.scope tokens = .ok none :=
    Token.layout?_eq_none (hverbatim.isKind_eq_false (by decide)) env.scope
  have hblocks : compileBlocks env.scope [] tokens [] = .ok [] :=
    compileBlocks_of_no_block (hverbatim.isKind_eq_false (by decide)) env.scope [] []
  have hprogram : Program.ofTokens env.scope tokens = .ok ⟨nodes, []⟩ :=
    bind_eq_ok.mpr ⟨nodes, hnodes, bind_eq_ok.mpr ⟨[], hblocks, rfl⟩⟩
  refine ⟨nodes, ?_, hprints⟩
  unfold Environment.compile
  rw [Environment.build_alone htokens hlayout hprogram]
  rfl

theorem Engine.compileSource_of_ok {env : Environment} {source : String} {store after : Store}
    {compiled : Compiled} (h : LoadM.throughStore env.settings.cache source
      (env.compile source source none) store = .ok compiled after) :
    compileSource env source {} store = .ok compiled after := by
  unfold compileSource
  dsimp only [Option.getD]
  rw [h]

/-- A fresh engine renders plain texts, comments and raw bodies as the texts and the bodies, one after the
other, whatever its configuration, its host and its loader, and in every context. -/
theorem Engine.render_pieces (config : Config) (host : Host) (loader : Loader) (context : Context)
    (pieces : List Source.Piece) (h : Source.Piece.AllStand pieces) :
    ((new config host loader).render (String.ofList (pieces.flatMap Source.Piece.source)) context).1 =
      .ok (String.ofList (pieces.flatMap Source.Piece.output)) := by
  let engine := new config host loader
  let source := String.ofList (pieces.flatMap Source.Piece.source)
  obtain ⟨nodes, hcompile, hprints⟩ := engine.env.compile_pieces h source none engine.store
  let template : Template := ⟨source, none, none, .ready ⟨nodes, []⟩⟩
  have hkept : ∃ compiled store, LoadM.throughStore engine.settings.cache source
      (engine.env.compile source source none) engine.store = .ok compiled store ∧
      compiled.template = template := by
    cases engine.settings.cache with
    | true => exact ⟨_, _, LoadM.throughStore_of_new rfl hcompile rfl, rfl⟩
    | false => exact ⟨_, _, LoadM.throughStore_of_ok hcompile, rfl⟩
  obtain ⟨compiled, store, hstored, htemplate⟩ := hkept
  have hsource : compileSource engine.env source {} engine.store = .ok compiled store :=
    compileSource_of_ok hstored
  have hrender : renderTemplate engine.env template context [] store =
      .ok (String.ofList (pieces.flatMap Source.Piece.output)) store :=
    @renderTemplate_ready engine.env source none none ⟨nodes, []⟩ [] context store _ ⟨context, store⟩
      List.not_mem_nil (hprints _ _ _)
  unfold render run
  rw [run_bind_of_ok hsource, htemplate, hrender]

section Sample

/-- Openings without an end, ends without an opening, and end tags that are none. -/
def samplePieces : List Source.Piece := [
  .text "a \x7b b %\x7d".toList,
  .comment " \x7b\x7b # \x7d \x7b% ".toList,
  .raw "\x7b\x7b x \x7b% if %\x7d\x7b# \x7b% endraw \x7b%- end raw -%\x7d \x7b% endraw".toList,
  .raw "\x7b%".toList,
  .text "\x7d\x7d \x7b".toList]

/-- An engine with a tag of the host that bears the name of raw. -/
def crowdedEngine : Engine :=
  .new { autoescape := .enabled true, debug := true }
    { tags := [("raw", ⟨true, fun _ => .error "not for the host"⟩)] } (.table [])

theorem render_samplePieces : Source.Piece.AllStand samplePieces ∧
    (crowdedEngine.render (String.ofList (samplePieces.flatMap Source.Piece.source))
      { bindings := [("x", .string "value")] }).1 =
      .ok ("a \x7b b %\x7d" ++
        "\x7b\x7b x \x7b% if %\x7d\x7b# \x7b% endraw \x7b%- end raw -%\x7d \x7b% endraw" ++
        "\x7b%" ++ "\x7d\x7d \x7b") := by
  have hstand : Source.Piece.AllStand samplePieces := by decide +kernel
  refine ⟨hstand, (Engine.render_pieces _ _ _ _ samplePieces hstand).trans ?_⟩
  exact congrArg Except.ok (by decide +kernel)

end Sample

end Stencil
