import Stencil.Node.Inheritance
import Stencil.Proofs.Node.Origin
import Stencil.Proofs.Token.Stripping

/-!
Whitespace control in compiled templates. Hyphens matter for a program only through the texts next to them in
the source: it is the program of the same tokens without hyphens, with those texts already cut.
-/
namespace Stencil

variable {scope : Scope}

namespace Arguments

variable (filters : Filters) (tag : LogicTag) (strip : Strip)

theorem parametersUpTo_strip (bracketed : Bool) (more : Nat) :
    parametersUpTo { tag with strip } bracketed more = parametersUpTo tag bracketed more := by
  induction more with
  | zero => rfl
  | succ more ih =>
    rw [parametersUpTo, parametersUpTo, ih]

theorem modifiers_strip (more : Nat) (inclusion : Inclusion) :
    modifiers filters { tag with strip } more inclusion = modifiers filters tag more inclusion := by
  induction more generalizing inclusion with
  | zero => rfl
  | succ more ih =>
    simp only [modifiers, ih]
    rfl

theorem definition_strip : definition { tag with strip } = definition tag := by
  simp only [definition, parametersUpTo_strip]
  rfl

theorem inclusion_strip : inclusion filters { tag with strip } = inclusion filters tag := by
  simp only [inclusion, modifiers_strip]
  rfl

end Arguments

section Programs

mutual

theorem compileToken_stripped (start finish : Bool) : (token : Token) →
    compileToken scope false false (token.stripped start finish) = compileToken scope start finish token
  | .literal text => by
    rw [Token.stripped, compileToken, compileToken, stripText_neither]
  | .output _ => rfl
  | .logic tag children => by
    have hbody := compileTokens_stripped tag.strip.start tag.strip.finish children
    simp only [Token.stripped, compileToken, hbody, Arguments.definition_strip, Arguments.inclusion_strip]
    rfl

/-- Tokens compile as they do without hyphens. -/
theorem compileTokens_stripped (start finish : Bool) : (tokens : List Token) →
    compileTokens scope false false (Token.strippedAll start finish tokens) =
      compileTokens scope start finish tokens
  | [] => rfl
  | token :: rest => by
    have hplain := Token.plain_partsOf_strippedAll token.stripsAfter finish rest
    have hself := Token.plain_parts_stripped start (stripsEnd finish rest) token
    have hafter : (token.stripped start (stripsEnd finish rest)).stripsAfter = false :=
      (hself _ (Token.mem_parts_self _)).stripsAfter
    rw [Token.strippedAll, compileTokens, compileTokens, Token.stripsEnd_of_plain hplain, hafter,
      compileToken_stripped start (stripsEnd finish rest) token,
      compileTokens_stripped token.stripsAfter finish rest]

end

mutual

theorem compileBlock_stripped (inherited : Blocks) (start finish : Bool) : (token : Token) →
    (blocks : Blocks) → compileBlock scope inherited (token.stripped start finish) blocks =
      compileBlock scope inherited token blocks
  | .literal _, _ => rfl
  | .output _, _ => rfl
  | .logic tag children, blocks => by
    rw [Token.stripped, compileBlock, compileBlock]
    refine ite_congr rfl (fun _ => ?_) fun _ => rfl
    have hbody : compileTokens { scope with parent := Fields.get? inherited tag.blockName } false false
        (Token.strippedAll tag.strip.start tag.strip.finish children) = _ :=
      compileTokens_stripped tag.strip.start tag.strip.finish children
    refine (congrArg (· >>= _) hbody).trans (bind_congr fun body => ?_)
    exact compileBlocks_stripped inherited tag.strip.start tag.strip.finish children _

/-- Blocks compile as they do without hyphens. -/
theorem compileBlocks_stripped (inherited : Blocks) (start finish : Bool) : (tokens : List Token) →
    (blocks : Blocks) →
    compileBlocks scope inherited (Token.strippedAll start finish tokens) blocks =
      compileBlocks scope inherited tokens blocks
  | [], _ => rfl
  | token :: rest, blocks => by
    rw [Token.strippedAll, compileBlocks, compileBlocks,
      compileBlock_stripped inherited start (stripsEnd finish rest) token blocks]
    exact bind_congr fun between =>
      compileBlocks_stripped inherited token.stripsAfter finish rest between

end

theorem compileToken_of_isKind {token : Token} {kind : Tag} (h : token.isKind kind = true)
    (start finish start' finish' : Bool) :
    compileToken scope start finish token = compileToken scope start' finish' token := by
  cases token with
  | literal text => cases h
  | output tag => cases h
  | logic tag children => rw [compileToken, compileToken]

theorem isKind_stripped (start finish : Bool) (kind : Tag) (token : Token) :
    (token.stripped start finish).isKind kind = token.isKind kind := by
  cases token with
  | literal text => rfl
  | output tag => rfl
  | logic tag children => rfl

/-- Top-level assignments have no text at their sides once they are picked out. -/
theorem compileTokens_assignments (before after finish start' finish' : Bool) (tokens : List Token)
    (start : Bool) :
    compileTokens scope before after (Token.assignments (Token.strippedAll start finish tokens)) =
      compileTokens scope start' finish' (Token.assignments tokens) := by
  unfold Token.assignments
  induction tokens generalizing before start start' with
  | nil => rfl
  | cons token rest ih =>
    have hkind := isKind_stripped start (stripsEnd finish rest) .assignment token
    rw [Token.strippedAll, List.filter_cons, List.filter_cons, hkind]
    by_cases hassigns : token.isKind .assignment = true
    · have hsame (between between' : Bool) :
          compileToken scope before between (token.stripped start (stripsEnd finish rest)) =
            compileToken scope start' between' token := by
        rw [compileToken_of_isKind (hkind.trans hassigns) before between false false,
          compileToken_stripped]
        exact compileToken_of_isKind hassigns _ _ _ _
      rw [if_pos hassigns, if_pos hassigns, compileTokens, compileTokens, hsame]
      exact bind_congr fun nodes => congrArg (· >>= _) (ih _ _ _)
    · rw [if_neg hassigns, if_neg hassigns]
      exact ih _ _ _

namespace Program

variable (start finish : Bool) (tokens : List Token)

theorem ofTokens_stripped :
    ofTokens scope (Token.strippedAll false false tokens) = ofTokens scope tokens := by
  unfold ofTokens
  rw [compileTokens_stripped]
  exact bind_congr fun nodes => by rw [compileBlocks_stripped]

theorem extend_stripped (layout : Program) :
    extend scope (Token.strippedAll start finish tokens) layout = extend scope tokens layout := by
  unfold extend
  rw [compileBlocks_stripped, compileTokens_assignments false false finish false false]

theorem check_stripped :
    check scope (Token.strippedAll start finish tokens) = check scope tokens := by
  unfold check
  rw [compileBlocks_stripped, compileTokens_assignments false false finish false false]

end Program

end Programs

section Texts

namespace Node

def text? : Node → Option String
  | .text content => some content
  | _ => none

/-- The texts among nodes, at any depth. -/
def textsOf (nodes : List Node) : List String := (partsOf nodes).filterMap text?

theorem filterMap_text?_kept (nodes : List Node) :
    (nodes.filter (!·.isAlternative)).filterMap text? = nodes.filterMap text? := by
  have hsame : (fun node : Node => if (!node.isAlternative) = true then node.text? else none) = text? := by
    funext node
    cases node <;> rfl
  rw [List.filterMap_filter, hsame]

/-- A node that is no text has the texts of the nodes inside it. -/
theorem Holds.textsOf {node : Node} {inner : List Node} (h : node.Holds inner) (hnone : node.text? = none) :
    Node.textsOf [node] = Node.textsOf inner := by
  unfold Node.textsOf
  rw [partsOf_cons, partsOf_nil, List.append_nil, ← filterMap_text?_kept, h.kept, List.filterMap_cons,
    hnone]
  exact filterMap_text?_kept (partsOf inner)

end Node

namespace Token

/-- The texts that a token leaves by itself: a text that is not empty, and those of what a parent tag stands
for. -/
def ownTexts (scope : Scope) : Token → List String
  | .literal text => if text.isEmpty then [] else [text]
  | .output _ => []
  | .logic tag _ =>
    if tag.kind = .parent then Node.textsOf (scope.parent.map Node.fragment).toList else []

/-- The texts of a body, but for those of the blocks inside it. -/
def textsOf (scope : Scope) (tokens : List Token) : List String :=
  (bodyPartsOf scope.tags tokens).flatMap (ownTexts scope)

theorem textsOf_cons (token : Token) (rest : List Token) :
    textsOf scope (token :: rest) =
      (bodyParts scope.tags token).flatMap (ownTexts scope) ++ textsOf scope rest := by
  unfold textsOf
  rw [bodyPartsOf_cons, List.flatMap_append]

theorem Makes.text?_eq_none {tag : LogicTag} {children : List Token} {node : Node}
    (h : Makes scope (.logic tag children) node) : node.text? = none := by
  cases h <;> rfl

end Token

mutual

theorem textsOf_compileToken {start finish : Bool} {nodes : List Node} : (token : Token) →
    compileToken scope start finish token = .ok nodes →
      Node.textsOf nodes =
        (Token.bodyParts scope.tags (token.stripped start finish)).flatMap (Token.ownTexts scope)
  | .literal text, h => by
    cases h
    rw [Token.stripped, Token.bodyParts, List.flatMap_singleton, Token.ownTexts]
    split <;> rfl
  | .output tag, h => by
    obtain ⟨expr, filters, rfl⟩ := exists_output_of_compileToken h
    rfl
  | .logic tag children, h => by
    have hsame : LogicTag.hasBody scope.tags { tag with strip := {} } = tag.hasBody scope.tags := rfl
    rw [Token.stripped, Token.bodyParts, List.flatMap_cons, Token.ownTexts, hsame]
    cases compiledTag_of_compileToken h with
    | body hbody hinner hmakes hholds =>
      rw [if_pos hbody, if_neg hmakes.kind_ne_parent, hholds.textsOf hmakes.text?_eq_none]
      exact textsOf_compileTokens children hinner
    | @leaf node hbody hmakes hparts =>
      have hnode : Node.textsOf [node] = [] := by
        unfold Node.textsOf
        rw [Node.partsOf_cons, hparts, Node.partsOf_nil, List.append_nil, List.filterMap_cons,
          hmakes.text?_eq_none, List.filterMap_nil]
      rw [hbody, if_neg hmakes.kind_ne_parent, hnode]
      rfl
    | parent hkind =>
      have hbody : tag.hasBody scope.tags = false := by rw [LogicTag.hasBody, hkind]
      rw [hbody, if_pos hkind]
      exact (List.append_nil _).symm
    | «extends» hkind =>
      have hbody : tag.hasBody scope.tags = false := by rw [LogicTag.hasBody, hkind]
      rw [hbody, if_neg (by rw [hkind]; exact nofun)]
      rfl

/-- The texts among compiled nodes are those of the body without its blanks, in their order; empty ones are
left out. -/
theorem textsOf_compileTokens {start finish : Bool} {nodes : List Node} : (tokens : List Token) →
    compileTokens scope start finish tokens = .ok nodes →
      Node.textsOf nodes = Token.textsOf scope (Token.strippedAll start finish tokens)
  | [], h => by
    cases h
    rfl
  | token :: rest, h => by
    obtain ⟨first, others, hfirst, hothers, rfl⟩ := compileTokens_cons_eq_ok.mp h
    have happend : Node.textsOf (first ++ others) = Node.textsOf first ++ Node.textsOf others := by
      unfold Node.textsOf
      rw [Node.partsOf_append, List.filterMap_append]
    rw [happend, Token.strippedAll, Token.textsOf_cons, textsOf_compileToken token hfirst,
      textsOf_compileTokens rest hothers]

end

end Texts

open Source (TagText)

/-- Hyphens act on their neighbours in the source. A tag has a hyphen at its front or at its back if its
content does, blanks aside. The tokens of a source make the same programs as tokens without hyphens that hold
the same sequence of items, but for the texts: right behind a tag with a hyphen at its back a text has lost the
blanks at its start, right before a tag with a hyphen at its front those at its end, and otherwise it is
unchanged. In any body of such tokens, at any depth, the texts become text nodes as they are, in their order,
unless they are empty. -/
theorem Token.ofSource_strips_neighbours {tags : Tags} {escape : Option EscapeKind} {source : String}
    {tokens : List Token} (h : ofSource tags escape source = .ok tokens) :
    (∀ content,
      ((TagText.ofContent content).stripBefore = true ↔ ∃ rest, Text.trim content = '-' :: rest) ∧
      ((TagText.ofContent content).stripAfter = true ↔
        ∃ front, front ≠ [] ∧ Text.trim content = front ++ ['-'])) ∧
    ∃ plain : List Token,
      itemsOf tags plain =
        Item.strippedAll false false ((Source.segments source).segments.flatMap (·.items tags)) ∧
      (∀ part ∈ partsOf plain, part.Plain) ∧
      (∀ scope, Program.ofTokens scope tokens = Program.ofTokens scope plain ∧
        Program.check scope tokens = Program.check scope plain ∧
        ∀ layout, Program.extend scope tokens layout = Program.extend scope plain layout) ∧
      ∀ body, partsOf body ⊆ partsOf plain → ∀ scope nodes,
        compileTokens scope false false body = .ok nodes → Node.textsOf nodes = textsOf scope body := by
  refine ⟨fun content => ⟨TagText.stripBefore_ofContent, TagText.stripAfter_ofContent⟩,
    strippedAll false false tokens, ?_, plain_partsOf_strippedAll false false tokens, ?_, ?_⟩
  · obtain ⟨-, hitems, hnested⟩ := reads_of_ofSource h
    rw [itemsOf_strippedAll false false tokens hnested, hitems]
  · intro scope
    exact ⟨(Program.ofTokens_stripped tokens).symm, (Program.check_stripped false false tokens).symm,
      fun layout => (Program.extend_stripped false false tokens layout).symm⟩
  · intro body hbody scope nodes hnodes
    have hplain : ∀ part ∈ partsOf body, part.Plain := fun part hpart =>
      plain_partsOf_strippedAll false false tokens part (hbody hpart)
    rw [textsOf_compileTokens body hnodes, strippedAll_of_plain body hplain]

section Sample

/-- A table with a tag of the host that has a body. -/
def boxTags : Tags := .ofHost [("box", ⟨true, fun _ => .ok ""⟩)]

/-- Hyphens at all kinds of tags, next to texts, a comment and nothing. -/
def boxSource : String :=
  "a \x7b%- if x -%\x7d b \x7b# c #\x7d d \x7b% else -%\x7d e \x7b%- endif %\x7d f " ++
  "\x7b% - raw -%\x7d \x7b%- g -%\x7d \x7b% endraw - %\x7d h \x7b%- box -%\x7d i \x7b% endbox -%\x7d\n"

theorem ofSource_strips_neighbours_box :
    ∃ tokens plain, Token.ofSource boxTags none boxSource = .ok tokens ∧
      Token.itemsOf boxTags plain = [
        .text "a".toList, .opening ⟨false, false, "if".toList, "x".toList⟩ 1, .text "b ".toList,
        .text " d ".toList, .tag ⟨false, false, "else".toList, []⟩ 1, .text "e".toList,
        .closing ⟨false, false, "endif".toList, []⟩, .text " f".toList,
        .opening ⟨false, false, "raw".toList, []⟩ 1, .text "\x7b%- g -%\x7d ".toList,
        .closing ⟨false, false, "endraw".toList, []⟩, .text "h".toList,
        .opening ⟨false, false, "box".toList, []⟩ 1, .text "i ".toList,
        .closing ⟨false, false, "endbox".toList, []⟩, .text []] ∧
      ∀ scope, Program.ofTokens scope tokens = Program.ofTokens scope plain := by
  obtain ⟨tokens, htokens⟩ := exists_eq_ok (by decide +kernel :
    (Token.ofSource boxTags none boxSource).isOk = true)
  obtain ⟨-, plain, hitems, -, hprograms, -⟩ := Token.ofSource_strips_neighbours htokens
  refine ⟨tokens, plain, htokens, hitems.trans ?_, fun scope => (hprograms scope).1⟩
  have hsegments : (Source.segments boxSource).segments = [
      .text "a ".toList 1, .logic "- if x -".toList 1, .text " b ".toList 1, .text " d ".toList 1,
      .logic " else -".toList 1, .text " e ".toList 1, .logic "- endif ".toList 1, .text " f ".toList 1,
      .raw " - raw -".toList 1 " \x7b%- g -%\x7d ".toList " endraw - ".toList, .text " h ".toList 1,
      .logic "- box -".toList 1, .text " i ".toList 1, .logic " endbox -".toList 1, .text "\n".toList 1] := by
    decide +kernel
  rw [hsegments]
  rfl

/-- Blanks may stand between the bracket of a tag and its hyphen. -/
theorem blank_before_hyphen :
    (Source.segments "a \x7b% - if true %\x7db\x7b% endif %\x7d").segments = [
      .text "a ".toList 1, .logic " - if true ".toList 1, .text "b".toList 1, .logic " endif ".toList 1] ∧
    ((do
      let tokens ← Token.ofSource (.ofHost []) none "a \x7b% - if true %\x7db\x7b% endif %\x7d"
      let program ← Program.ofTokens ⟨[], .ofHost [], none⟩ tokens
      return Node.textsOf program.nodes : Except TemplateError (List String))).toOption =
        some ["a", "b"] := by
  constructor
  · decide +kernel
  · decide +kernel

end Sample

end Stencil
