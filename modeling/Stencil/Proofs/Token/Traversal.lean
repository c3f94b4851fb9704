import Stencil.Proofs.Result
import Stencil.Proofs.Token.Growth
import Stencil.Proofs.Token.OutputTag

/-!
The token tree as the nesting of its source. The tree is read from the front to the back, each tag that has
an end before its body and its end tag behind it; this gives the segments of the source again, one by one.
-/
namespace Stencil

namespace Source

/-- The text of a tag without its arguments. -/
def TagText.bare (text : TagText) : TagText := { text with arguments := [] }

/-- Raw tags, and they alone, are kept together with their bodies and end tags. -/
def Segment.Proper : Segment → Prop
  | .logic content _ => (TagText.ofContent content).name ≠ ['r', 'a', 'w']
  | .raw content _ _ closer => (TagText.ofContent content).name = ['r', 'a', 'w'] ∧
      (TagText.ofContent closer).name = ['e', 'n', 'd', 'r', 'a', 'w']
  | _ => True

theorem name_of_rawStep {source content after : List Char}
    (h : rawStep source = .closer content after) :
    (TagText.ofContent content).name = ['e', 'n', 'd', 'r', 'a', 'w'] := by
  unfold rawStep at h
  split at h
  · split at h
    · cases h
    · split at h
      · rename_i hcloses
        cases h
        unfold TagText.closesRaw at hcloses
        simp only [Bool.and_eq_true, decide_eq_true_eq] at hcloses
        exact hcloses.1
      · cases h
  · cases h

theorem name_of_rawRun {source : List Char} {run : RawBody} (h : rawRun source = some run) :
    (TagText.ofContent run.closer).name = ['e', 'n', 'd', 'r', 'a', 'w'] := by
  induction source generalizing run with
  | nil => cases h
  | cons c rest ih =>
    rw [rawRun] at h
    split at h
    · rename_i hstep
      cases h
      exact name_of_rawStep hstep
    · cases h
    · obtain ⟨inner, hinner, rfl⟩ := Option.map_eq_some_iff.mp h
      exact @ih inner hinner

theorem proper_textSegment (text : List Char) (line : Nat) :
    ∀ segment ∈ textSegment text line, segment.Proper := by
  unfold textSegment
  split
  · exact List.forall_mem_nil _
  · exact List.forall_mem_singleton.mpr True.intro

theorem proper_before {front : List Segment} {rest : Segments} (hfront : ∀ segment ∈ front, segment.Proper)
    (hrest : ∀ segment ∈ rest.segments, segment.Proper) :
    ∀ segment ∈ (rest.before front).segments, segment.Proper :=
  List.forall_mem_append.mpr ⟨hfront, hrest⟩

theorem proper_segmentsFrom (line : Nat) (source : List Char) :
    ∀ segment ∈ (segmentsFrom line source).segments, segment.Proper := by
  have htagged {text : List Char} {line : Nat} {segment : Segment} (h : segment.Proper) :
      ∀ part ∈ textSegment text line ++ [segment], part.Proper :=
    List.forall_mem_append.mpr ⟨proper_textSegment text line, List.forall_mem_singleton.mpr h⟩
  fun_induction segmentsFrom line source with
  | case1 | case2 | case5 => exact proper_textSegment _ _
  | case3 _ _ _ _ _ _ _ _ _ _ _ _ _ ih => exact proper_before (proper_textSegment _ _) ih
  | case4 _ _ _ _ _ _ _ _ _ _ _ _ _ ih => exact proper_before (htagged True.intro) ih
  | case6 _ _ _ _ _ _ _ _ _ _ _ hopens _ hraw _ _ ih =>
    refine proper_before (htagged ⟨?_, name_of_rawRun hraw⟩) ih
    simpa [TagText.opensRaw] using hopens
  | case7 _ _ _ _ _ _ _ _ _ _ _ hopens _ _ ih =>
    refine proper_before (htagged ?_) ih
    simpa [TagText.opensRaw, Segment.Proper] using hopens

theorem proper_segments (source : String) : ∀ segment ∈ (segments source).segments, segment.Proper :=
  segments_eq source ▸ proper_segmentsFrom 1 source.toList

end Source

open Source (Segment TagText)

/-- What stands at one place of a source. Of an end tag only the name and the hyphens count. -/
inductive Item where
  | text (text : List Char)
  | output (expr : List Char) (filters : List FilterText) (line : Nat)
  /-- A tag without an end. -/
  | tag (text : TagText) (line : Nat)
  | opening (text : TagText) (line : Nat)
  | closing (text : TagText)

/-- What a segment holds. A name outside the table can only be that of an end tag, and a raw tag has no
arguments. -/
def Source.Segment.items (tags : Tags) : Segment → List Item
  | .text run _ => [.text run]
  | .output content line =>
    let parts := Source.pipeParts (Text.trim content)
    [.output (Text.trim (parts.headD [])) (parts.tail.map filterText) line]
  | .logic content line =>
    let text := TagText.ofContent content
    match tags.get? (String.ofList text.name) with
    | some entry => [if entry.ends then .opening text line else .tag text line]
    | none => [.closing text.bare]
  | .raw content line body closer =>
    [.opening (TagText.ofContent content).bare line, .text body,
      .closing (TagText.ofContent closer).bare]

/-- Items in which each tag with an end has its end tag behind its body. -/
inductive Item.Matched : List Item → Prop
  | nil : Matched []
  | text {text : List Char} {rest : List Item} (hrest : Matched rest) : Matched (.text text :: rest)
  | output {expr : List Char} {filters : List FilterText} {line : Nat} {rest : List Item}
      (hrest : Matched rest) : Matched (.output expr filters line :: rest)
  | tag {text : TagText} {line : Nat} {rest : List Item} (hrest : Matched rest) :
      Matched (.tag text line :: rest)
  | block {opening closing : TagText} {line : Nat} {body rest : List Item}
      (hname : closing.name = ['e', 'n', 'd'] ++ opening.name) (hbody : Matched body)
      (hrest : Matched rest) : Matched (.opening opening line :: (body ++ .closing closing :: rest))

theorem Item.Matched.append {items rest : List Item} (h : Matched items) (hrest : Matched rest) :
    Matched (items ++ rest) := by
  induction h with
  | nil => exact hrest
  | text _ ih => exact .text ih
  | output _ ih => exact .output ih
  | tag _ ih => exact .tag ih
  | block hname hbody _ _ ih =>
    rw [List.cons_append, List.append_assoc, List.cons_append]
    exact .block hname hbody ih

/-- An end tag right behind a tag is its own. -/
theorem Item.Matched.name_of_closing {opening closing : TagText} {line : Nat} {rest : List Item}
    (h : Matched (.opening opening line :: .closing closing :: rest)) :
    closing.name = ['e', 'n', 'd'] ++ opening.name := by
  generalize hitems : Item.opening opening line :: .closing closing :: rest = items at h
  cases h with
  | nil | text | output | tag => cases hitems
  | @block _ _ _ body _ hname hbody _ =>
    cases body with
    | nil =>
      cases hitems
      exact hname
    | cons item body =>
      cases hitems
      cases hbody

namespace LogicTag

/-- Whether the tag has an end tag. -/
def hasEnd (tags : Tags) (tag : LogicTag) : Bool :=
  tag.name = "raw" || (tags.get? tag.name).any (·.ends)

/-- A tag without an end, as it stands in the source. -/
def ownText (tag : LogicTag) : TagText :=
  ⟨tag.strip.before, tag.strip.after, tag.name.toList, tag.arguments.toList⟩

/-- The tag before its body. -/
def openingText (tag : LogicTag) : TagText :=
  ⟨tag.strip.before, tag.strip.start, tag.name.toList, tag.arguments.toList⟩

/-- The end tag behind the body. -/
def closingText (tag : LogicTag) : TagText :=
  ⟨tag.strip.finish, tag.strip.after, ['e', 'n', 'd'] ++ tag.name.toList, []⟩

end LogicTag

namespace Token

mutual

/-- The token from its front to its back. -/
def items (tags : Tags) : Token → List Item
  | .literal text => [.text text.toList]
  | .output tag => [.output tag.expr.toList tag.filters tag.line]
  | .logic tag children =>
    if tag.hasEnd tags then
      .opening tag.openingText tag.line :: (itemsOf tags children ++ [.closing tag.closingText])
    else .tag tag.ownText tag.line :: itemsOf tags children

def itemsOf (tags : Tags) : List Token → List Item
  | [] => []
  | token :: rest => items tags token ++ itemsOf tags rest

end

mutual

/-- Each tag names those around it, outermost first, and has children only if it has an end. -/
def Nested (tags : Tags) (around : List String) : Token → Prop
  | .logic tag children => tag.parents = around ∧ (tag.hasEnd tags = false → children = []) ∧
      NestedAll tags (around ++ [tag.name]) children
  | _ => True

def NestedAll (tags : Tags) (around : List String) : List Token → Prop
  | [] => True
  | token :: rest => Nested tags around token ∧ NestedAll tags around rest

end

variable {tags : Tags} {around : List String}

/-- The hyphens of the end tag do not matter for what stands before it. -/
theorem items_endedBy {tag : LogicTag} (h : tag.hasEnd tags = true) (text : TagText)
    (children : List Token) :
    items tags (.logic (tag.endedBy text) children) =
      .opening tag.openingText tag.line :: (itemsOf tags children ++
        [.closing ⟨text.stripBefore, text.stripAfter, ['e', 'n', 'd'] ++ tag.name.toList, []⟩]) := by
  rw [items, if_pos]
  · rfl
  · exact h

theorem items_leaf {tag : LogicTag} (h : tag.hasEnd tags = false) :
    items tags (.logic tag []) = [.tag tag.ownText tag.line] := by
  rw [items, if_neg (Bool.not_eq_true _ ▸ h), itemsOf]

theorem itemsOf_append (tokens rest : List Token) :
    itemsOf tags (tokens ++ rest) = itemsOf tags tokens ++ itemsOf tags rest := by
  induction tokens with
  | nil => rfl
  | cons token tokens ih => rw [List.cons_append, itemsOf, itemsOf, ih, List.append_assoc]

theorem itemsOf_reverse_cons (token : Token) (tokens : List Token) :
    itemsOf tags (token :: tokens).reverse = itemsOf tags tokens.reverse ++ items tags token := by
  rw [List.reverse_cons, itemsOf_append, itemsOf, itemsOf, List.append_nil]

theorem nestedAll_iff {tokens : List Token} :
    NestedAll tags around tokens ↔ ∀ token ∈ tokens, Nested tags around token := by
  induction tokens with
  | nil => simp [NestedAll]
  | cons token rest ih => simp [NestedAll, ih]

theorem NestedAll.reverse {tokens : List Token} (h : NestedAll tags around tokens) :
    NestedAll tags around tokens.reverse :=
  nestedAll_iff.mpr fun token htoken => nestedAll_iff.mp h token (List.mem_reverse.mp htoken)

mutual

theorem matched_items (tags : Tags) : (token : Token) → Item.Matched (items tags token)
  | .literal _ => .text .nil
  | .output _ => .output .nil
  | .logic tag children => by
    rw [items]
    split
    · exact .block rfl (matched_itemsOf tags children) .nil
    · exact .tag (matched_itemsOf tags children)

/-- Tokens are always read as matched items. -/
theorem matched_itemsOf (tags : Tags) : (tokens : List Token) → Item.Matched (itemsOf tags tokens)
  | [] => .nil
  | token :: rest => (matched_items tags token).append (matched_itemsOf tags rest)

end

end Token

namespace TokenTree

/-- The names of open tags, outermost first. -/
def namesOf (opened : List OpenTag) : List String := (opened.map (·.tag.name)).reverse

/-- What was read before the current place. -/
def openItems (tags : Tags) : List OpenTag → List Item
  | [] => []
  | block :: opened => openItems tags opened ++ Token.itemsOf tags block.before.reverse ++
      [.opening block.tag.openingText block.tag.line]

/-- All that was read. -/
def items (tags : Tags) (tree : TokenTree) : List Item :=
  openItems tags tree.opened ++ Token.itemsOf tags tree.current.reverse

/-- The open tags have ends and name those around them. -/
def Surrounds (tags : Tags) : List OpenTag → Prop
  | [] => True
  | block :: opened => block.tag.hasEnd tags = true ∧ block.tag.parents = namesOf opened ∧
      Token.NestedAll tags (namesOf opened) block.before ∧ Surrounds tags opened

/-- What is built so far names what is around it. -/
def Nested (tags : Tags) (tree : TokenTree) : Prop :=
  Surrounds tags tree.opened ∧ Token.NestedAll tags tree.parents tree.current

variable {tags : Tags} {tree tree' : TokenTree}

theorem items_add (token : Token) :
    (tree.add token).items tags = tree.items tags ++ token.items tags := by
  unfold items add
  rw [Token.itemsOf_reverse_cons, List.append_assoc]

theorem Nested.add {token : Token} (h : tree.Nested tags) (htoken : token.Nested tags tree.parents) :
    (tree.add token).Nested tags :=
  ⟨h.1, htoken, h.2⟩

/-- The tree went on by these items. -/
structure Reads (tags : Tags) (tree : TokenTree) (items : List Item) (tree' : TokenTree) : Prop where
  items_eq : tree'.items tags = tree.items tags ++ items
  nested : tree'.Nested tags

theorem Nested.reads_add {token : Token} (h : tree.Nested tags) (htoken : token.Nested tags tree.parents) :
    tree.Reads tags (token.items tags) (tree.add token) :=
  ⟨items_add token, h.add htoken⟩

theorem toList_of_closedName? {name closed : String} (h : closedName? name = some closed) :
    name.toList = ['e', 'n', 'd'] ++ closed.toList := by
  unfold closedName? at h
  split at h
  · rename_i rest hname
    cases h
    rw [hname, String.toList_ofList]
    rfl
  · cases h

/-- An end tag goes behind the body of the tag that it closes. -/
theorem Nested.reads_close {text : TagText} {closed : String} (h : tree.Nested tags)
    (hname : closedName? (String.ofList text.name) = some closed) {found : String}
    (hclose : tree.close text found closed = .ok tree') :
    tree.Reads tags [.closing text.bare] tree' := by
  obtain ⟨block, opened, hopened, rfl, rfl⟩ := close_eq_ok hclose
  obtain ⟨hsurrounds, hcurrent⟩ := h
  unfold parents at hcurrent
  rw [hopened] at hsurrounds hcurrent
  obtain ⟨hend, hparents, hbefore, habove⟩ := hsurrounds
  have hnames : namesOf (block :: opened) = namesOf opened ++ [block.tag.name] :=
    List.reverse_cons
  refine ⟨?_, habove, ⟨hparents, fun hnone => ?_, ?_⟩, hbefore⟩
  · have hclosing : ['e', 'n', 'd'] ++ block.tag.name.toList = text.name := by
      rw [← toList_of_closedName? hname, String.toList_ofList]
    unfold items
    dsimp only
    rw [hopened, openItems, Token.itemsOf_reverse_cons, Token.items_endedBy hend, hclosing]
    simp only [TagText.bare, List.append_assoc, List.cons_append, List.nil_append]
  · cases hnone.symm.trans hend
  · exact hnames ▸ hcurrent.reverse

/-- A tag goes to the current place, or opens a body there. -/
theorem Nested.reads_begin {tag : LogicTag} {entry : TagEntry} (h : tree.Nested tags)
    (hbegin : tree.begin tag entry = .ok tree') (hentry : tags.get? tag.name = some entry)
    (hraw : tag.name ≠ "raw") (hparents : tag.parents = tree.parents) :
    tree.Reads tags [if entry.ends then .opening tag.ownText tag.line else .tag tag.ownText tag.line]
      tree' := by
  have hend : tag.hasEnd tags = entry.ends := by
    simp [LogicTag.hasEnd, hraw, hentry]
  rcases begin_eq_ok hbegin with ⟨hends, rfl⟩ | ⟨hends, escape, -, rfl⟩
  · rw [hends] at hend ⊢
    rw [if_neg (by decide), ← Token.items_leaf hend]
    exact h.reads_add ⟨hparents, fun _ => rfl, True.intro⟩
  · rw [hends] at hend ⊢
    refine ⟨?_, ⟨hend, hparents, h.2, h.1⟩, True.intro⟩
    rw [if_pos rfl]
    unfold items
    dsimp only
    rw [openItems]
    exact List.append_nil _

theorem filterTexts_eq_ok {content : List Char} {parts : List (List Char)} {filters : List FilterText}
    (h : filterTexts content parts = .ok filters) : filters = parts.map filterText := by
  induction parts generalizing filters with
  | nil =>
    cases h
    rfl
  | cons part parts ih =>
    rw [filterTexts] at h
    dsimp only at h
    split at h
    · cases h
    · obtain ⟨rest, hrest, hok⟩ := bind_eq_ok.mp h
      cases hok
      rw [List.map_cons, ih hrest]
      rfl

/-- An output tag is read from the parts of its content. -/
theorem outputTag_eq_ok {escape : Option EscapeKind} {content : List Char} {line : Nat} {tag : OutputTag}
    (h : outputTag escape content line = .ok tag) :
    Segment.items tags (.output content line) = Token.items tags (.output tag) := by
  unfold outputTag at h
  dsimp only at h
  split at h
  · cases h
  · obtain ⟨_, -, h⟩ := bind_eq_ok.mp h
    split at h
    · cases h
    · rename_i first parts hparts
      split at h
      · cases h
      · obtain ⟨filters, hfilters, hok⟩ := bind_eq_ok.mp h
        cases hok
        rw [Segment.items, hparts, filterTexts_eq_ok hfilters, Token.items, String.toList_ofList]
        rfl

theorem toList_raw : "raw".toList = ['r', 'a', 'w'] := by decide

theorem items_rawToken {content : List Char} {line : Nat} {body closer : List Char}
    (h : (Segment.raw content line body closer).Proper) :
    Token.items tags (tree.rawToken content line body closer) =
      Segment.items tags (.raw content line body closer) := by
  obtain ⟨hopening, hclosing⟩ := h
  rw [Segment.items, TagText.bare, TagText.bare, hopening, hclosing, rawToken, Token.items,
    if_pos (by simp [LogicTag.hasEnd]), Token.itemsOf, Token.items, Token.itemsOf, String.toList_ofList,
    LogicTag.openingText, LogicTag.closingText, toList_raw]
  rfl

/-- Each segment is read as its items. -/
theorem Nested.reads_segment {segment : Segment} (h : tree.Nested tags) (hproper : segment.Proper)
    (hadd : tree.addSegment tags segment = .ok tree') : tree.Reads tags (segment.items tags) tree' := by
  cases segment with
  | text text line =>
    cases hadd
    have hnested : (Token.literal (String.ofList text)).Nested tags tree.parents := True.intro
    have hread := h.reads_add hnested
    rwa [Token.items, String.toList_ofList] at hread
  | output content line =>
    obtain ⟨tag, htag, hok⟩ := bind_eq_ok.mp hadd
    cases hok
    rw [outputTag_eq_ok htag]
    exact h.reads_add True.intro
  | logic content line =>
    rw [Segment.items]
    rcases addLogic_eq_ok hadd with
      ⟨found, closed, hnone, hclosed, hclose⟩ | ⟨entry, words, -, hentry, -, hbegin⟩
    · rw [hnone]
      exact h.reads_close hclosed hclose
    · have hraw : String.ofList (TagText.ofContent content).name ≠ "raw" := fun hname =>
        hproper (by rw [← toList_raw, ← hname, String.toList_ofList])
      have hread := h.reads_begin hbegin hentry hraw rfl
      simp only [LogicTag.ownText, tagOf, String.toList_ofList] at hread hentry
      rw [hentry]
      exact hread
  | raw content line body closer =>
    cases hadd
    have hnested : (tree.rawToken content line body closer).Nested tags tree.parents :=
      ⟨rfl, fun hnone => by simp [LogicTag.hasEnd] at hnone, True.intro, True.intro⟩
    have hread := h.reads_add hnested
    rwa [items_rawToken hproper] at hread

theorem Nested.reads_segments {segments : List Segment} (h : tree.Nested tags)
    (hproper : ∀ segment ∈ segments, segment.Proper)
    (hadd : addSegments tags tree segments = .ok tree') :
    tree.Reads tags (segments.flatMap (·.items tags)) tree' := by
  induction segments generalizing tree with
  | nil =>
    cases hadd
    exact ⟨(List.append_nil _).symm, h⟩
  | cons segment rest ih =>
    obtain ⟨hsegment, hrest⟩ := List.forall_mem_cons.mp hproper
    obtain ⟨between, hbetween, hafter⟩ := bind_eq_ok.mp hadd
    have hfirst := h.reads_segment hsegment (located_eq_ok.mp hbetween)
    have hlast := ih hfirst.nested hrest hafter
    refine ⟨?_, hlast.nested⟩
    rw [hlast.items_eq, hfirst.items_eq, List.flatMap_cons, List.append_assoc]

theorem nested_start (escape : Option EscapeKind) : (start escape).Nested tags :=
  ⟨True.intro, True.intro⟩

end TokenTree

/-- The tokens of a source hold what its segments hold. -/
theorem Token.reads_of_ofSource {tags : Tags} {escape : Option EscapeKind} {source : String}
    {tokens : List Token} (h : ofSource tags escape source = .ok tokens) :
    (Source.segments source).fault = none ∧
      itemsOf tags tokens = (Source.segments source).segments.flatMap (·.items tags) ∧
      NestedAll tags [] tokens := by
  obtain ⟨tree, htree, hrest⟩ := bind_eq_ok.mp h
  have hreads := (TokenTree.nested_start escape).reads_segments (Source.proper_segments source) htree
  split at hrest
  · cases hrest
  · rename_i hfault
    unfold TokenTree.finish at hrest
    split at hrest
    · rename_i hopened
      cases hrest
      obtain ⟨hitems, -, hnested⟩ := hreads
      unfold TokenTree.items at hitems
      unfold TokenTree.parents at hnested
      rw [hopened] at hitems hnested
      exact ⟨hfault, hitems, hnested.reverse⟩
    · cases hrest

/-- The tokens of a source, read from the front to the back, are its segments, none lost, doubled or moved:
each text, each output tag and each logic tag with its name, its arguments and its line, and behind the body
of a tag that has an end the end tag of its name. Each tag names those around it, outermost first. Where the
end tags of the segments do not match the tags that they close, there are no tokens. -/
theorem Token.ofSource_items (tags : Tags) (escape : Option EscapeKind) (source : String) :
    (∀ tokens, ofSource tags escape source = .ok tokens →
      (Source.segments source).fault = none ∧
      itemsOf tags tokens = (Source.segments source).segments.flatMap (·.items tags) ∧
      Item.Matched ((Source.segments source).segments.flatMap (·.items tags)) ∧
      NestedAll tags [] tokens) ∧
    (¬ Item.Matched ((Source.segments source).segments.flatMap (·.items tags)) →
      ∃ error, ofSource tags escape source = .error error) := by
  refine ⟨fun tokens htokens => ?_, fun hunmatched => ?_⟩
  · obtain ⟨hfault, hitems, hnested⟩ := reads_of_ofSource htokens
    exact ⟨hfault, hitems, hitems ▸ matched_itemsOf tags tokens, hnested⟩
  · cases htokens : ofSource tags escape source with
    | error error => exact ⟨error, rfl⟩
    | ok tokens =>
      obtain ⟨-, hitems, -⟩ := reads_of_ofSource htokens
      exact absurd (hitems ▸ matched_itemsOf tags tokens) hunmatched

section Sample

/-- A table with a tag of the host whose name begins as those of end tags do. -/
def endlessTags : Tags := .ofHost [("endless", ⟨true, fun _ => .ok ""⟩)]

def endlessSource : String :=
  "\x7b% endless 2 %\x7d\n\x7b% raw %\x7d\x7b% if %\x7d\x7b%- endraw %\x7d\x7b% endendless %\x7d"

theorem ofSource_items_endless :
    (∃ tokens, Token.ofSource endlessTags none endlessSource = .ok tokens ∧
      Token.itemsOf endlessTags tokens = [
        .opening ⟨false, false, "endless".toList, "2".toList⟩ 1, .text "\n".toList,
        .opening ⟨false, false, "raw".toList, []⟩ 2, .text "\x7b% if %\x7d".toList,
        .closing ⟨true, false, "endraw".toList, []⟩,
        .closing ⟨false, false, "endendless".toList, []⟩]) ∧
    ∃ error, Token.ofSource endlessTags none "\x7b% endless %\x7d\x7b% endif %\x7d" = .error error := by
  constructor
  · obtain ⟨tokens, htokens⟩ := exists_eq_ok (by decide +kernel :
      (Token.ofSource endlessTags none endlessSource).isOk = true)
    obtain ⟨-, hitems, -⟩ := (Token.ofSource_items endlessTags none endlessSource).1 tokens htokens
    refine ⟨tokens, htokens, hitems.trans ?_⟩
    have hsegments : Source.segments endlessSource = ⟨[.logic " endless 2 ".toList 1, .text "\n".toList 1,
        .raw " raw ".toList 2 "\x7b% if %\x7d".toList "- endraw ".toList, .logic " endendless ".toList 2],
        none⟩ := by
      decide +kernel
    rw [hsegments]
    rfl
  · refine (Token.ofSource_items endlessTags none _).2 fun hmatched => ?_
    have hsegments : Source.segments "\x7b% endless %\x7d\x7b% endif %\x7d" =
        ⟨[.logic " endless ".toList 1, .logic " endif ".toList 1], none⟩ := by
      decide +kernel
    rw [hsegments] at hmatched
    exact absurd (Item.Matched.name_of_closing hmatched) (by decide)

end Sample

end Stencil
