import Stencil.Node.Compile
import Stencil.Proofs.Token.Parts
import Stencil.Proofs.Token.Traversal

/-!
Blanks next to hyphens, in a source and in its token tree. In the source a hyphen asks for the blanks of its
neighbour alone. In the tree the same wish is kept at four places: at the two sides of a tag, for the texts
beside it, and at the two ends of its body, for the first and the last token there. Both remove the same
blanks.
-/
namespace Stencil

namespace Source.TagText

/-- The text of a tag without its hyphens. -/
def unhyphened (text : TagText) : TagText := { text with stripBefore := false, stripAfter := false }

/-- A tag strips before itself if it begins with a hyphen, blanks aside. -/
theorem stripBefore_ofContent {content : List Char} :
    (ofContent content).stripBefore = true ↔ ∃ rest, Text.trim content = '-' :: rest := by
  have hfirst : (ofContent content).stripBefore = (dropHyphen (Text.trim content)).1 := rfl
  rw [hfirst]
  unfold dropHyphen
  split
  · rename_i rest htrim
    exact ⟨fun _ => ⟨rest, htrim⟩, fun _ => rfl⟩
  · rename_i hother
    constructor
    · intro h
      cases h
    · intro ⟨rest, hrest⟩
      exact absurd hrest (hother rest)

/-- A tag strips behind itself if it ends with a hyphen, blanks aside, which is not its first one. -/
theorem stripAfter_ofContent {content : List Char} :
    (ofContent content).stripAfter = true ↔
      ∃ front, front ≠ [] ∧ Text.trim content = front ++ ['-'] := by
  have hlast : (ofContent content).stripAfter =
      (dropLastHyphen (dropHyphen (Text.trim content)).2).1 := rfl
  have hdrop (text : List Char) : (dropLastHyphen text).1 = true ↔ text.getLast? = some '-' := by
    unfold dropLastHyphen
    split <;> simp_all
  rw [hlast, hdrop, List.getLast?_eq_some_iff]
  cases htrim : Text.trim content with
  | nil => simp [dropHyphen]
  | cons c rest =>
    by_cases hc : c = '-'
    · subst hc
      constructor
      · intro ⟨front, hfront⟩
        exact ⟨'-' :: front, List.cons_ne_nil _ _, congrArg ('-' :: ·) hfront⟩
      · intro ⟨front, hne, hfront⟩
        obtain ⟨d, front, rfl⟩ := List.exists_cons_of_ne_nil hne
        exact ⟨front, (List.cons.inj hfront).2⟩
    · have hsame : (dropHyphen (c :: rest)).2 = c :: rest := by
        unfold dropHyphen
        split
        · rename_i heq
          exact absurd (List.cons.inj heq).1 hc
        · rfl
      rw [hsame]
      constructor
      · intro ⟨front, hfront⟩
        refine ⟨front, fun hnil => ?_, hfront⟩
        rw [hnil] at hfront
        exact hc (List.cons.inj hfront).1
      · intro ⟨front, _, hfront⟩
        exact ⟨front, hfront⟩

end Source.TagText

namespace Item

/-- Whether the blanks before it are removed. -/
def stripsBefore : Item → Bool
  | .tag content _ => content.stripBefore
  | .opening content _ => content.stripBefore
  | .closing content => content.stripBefore
  | _ => false

/-- Whether the blanks behind it are removed. -/
def stripsAfter : Item → Bool
  | .tag content _ => content.stripAfter
  | .opening content _ => content.stripAfter
  | .closing content => content.stripAfter
  | _ => false

/-- A text without the blanks at its start and at its end, where these are removed; a tag without its
hyphens. -/
def stripped (start finish : Bool) : Item → Item
  | .text run =>
    let run := if start then Text.trimStart run else run
    .text (if finish then Text.trimEnd run else run)
  | .output expr filters line => .output expr filters line
  | .tag content line => .tag content.unhyphened line
  | .opening content line => .opening content.unhyphened line
  | .closing content => .closing content.unhyphened

/-- Whether the blanks before the items are removed, or else those before what follows them. -/
def stripsFront (finish : Bool) : List Item → Bool
  | [] => finish
  | item :: _ => item.stripsBefore

/-- Each item stripped as the one right before it and the one right behind it ask for. -/
def strippedAll (start finish : Bool) : List Item → List Item
  | [] => []
  | item :: rest =>
    item.stripped start (stripsFront finish rest) :: strippedAll item.stripsAfter finish rest

/-- Whether the blanks behind the items are removed, or else those behind what comes before them. -/
def stripsBack (start : Bool) : List Item → Bool
  | [] => start
  | item :: rest => stripsBack item.stripsAfter rest

theorem stripsFront_append (finish : Bool) (items rest : List Item) :
    stripsFront finish (items ++ rest) = stripsFront (stripsFront finish rest) items := by
  cases items with
  | nil => rfl
  | cons item items => rfl

theorem stripsBack_append (start : Bool) (items rest : List Item) :
    stripsBack start (items ++ rest) = stripsBack (stripsBack start items) rest := by
  induction items generalizing start with
  | nil => rfl
  | cons item items ih => exact ih item.stripsAfter

/-- Items are stripped as those on either side of them ask for. -/
theorem strippedAll_append (start finish : Bool) (items rest : List Item) :
    strippedAll start finish (items ++ rest) =
      strippedAll start (stripsFront finish rest) items ++
        strippedAll (stripsBack start items) finish rest := by
  induction items generalizing start with
  | nil => rfl
  | cons item items ih =>
    rw [List.cons_append, strippedAll, ih, stripsFront_append]
    rfl

end Item

theorem stripText_neither (text : String) : stripText false false text = text := String.ofList_toList

theorem toList_stripText (start finish : Bool) (text : String) :
    [Item.text (stripText start finish text).toList] =
      Item.strippedAll start finish [.text text.toList] := by
  unfold stripText
  rw [String.toList_ofList]
  rfl

namespace Token

mutual

/-- The token without hyphens, and without the blanks that they ask for. -/
def stripped (start finish : Bool) : Token → Token
  | .literal text => .literal (stripText start finish text)
  | .output tag => .output tag
  | .logic tag children =>
    .logic { tag with strip := {} } (strippedAll tag.strip.start tag.strip.finish children)

def strippedAll (start finish : Bool) : List Token → List Token
  | [] => []
  | token :: rest =>
    stripped start (stripsEnd finish rest) token :: strippedAll token.stripsAfter finish rest

end

/-- The token is no tag with hyphens. -/
def Plain : Token → Prop
  | .logic tag _ => tag.strip = {}
  | _ => True

mutual

theorem plain_parts_stripped (start finish : Bool) : (token : Token) →
    ∀ part ∈ parts (stripped start finish token), part.Plain
  | .literal _ => List.forall_mem_singleton.mpr True.intro
  | .output _ => List.forall_mem_singleton.mpr True.intro
  | .logic tag children =>
    List.forall_mem_cons.mpr
      ⟨rfl, plain_partsOf_strippedAll tag.strip.start tag.strip.finish children⟩

theorem plain_partsOf_strippedAll (start finish : Bool) : (tokens : List Token) →
    ∀ part ∈ partsOf (strippedAll start finish tokens), part.Plain
  | [] => List.forall_mem_nil _
  | token :: rest =>
    List.forall_mem_append.mpr ⟨plain_parts_stripped start (stripsEnd finish rest) token,
      plain_partsOf_strippedAll token.stripsAfter finish rest⟩

end

theorem Plain.stripsBefore {token : Token} (h : token.Plain) : token.stripsBefore = false := by
  cases token with
  | literal text => rfl
  | output tag => rfl
  | logic tag children => exact congrArg Strip.before h

theorem Plain.stripsAfter {token : Token} (h : token.Plain) : token.stripsAfter = false := by
  cases token with
  | literal text => rfl
  | output tag => rfl
  | logic tag children => exact congrArg Strip.after h

theorem stripsEnd_of_plain {tokens : List Token} (h : ∀ part ∈ partsOf tokens, part.Plain) :
    stripsEnd false tokens = false := by
  cases tokens with
  | nil => rfl
  | cons token rest => exact (h token (List.mem_append_left _ (mem_parts_self token))).stripsBefore

mutual

theorem stripped_of_plain : (token : Token) → (∀ part ∈ parts token, part.Plain) →
    stripped false false token = token
  | .literal text, _ => congrArg Token.literal (stripText_neither text)
  | .output _, _ => rfl
  | .logic tag children, h => by
    obtain ⟨hself, hchildren⟩ := List.forall_mem_cons.mp h
    have hstrip : tag.strip = {} := hself
    rw [stripped, hstrip, strippedAll_of_plain children hchildren, ← hstrip]

/-- Without hyphens nothing is removed. -/
theorem strippedAll_of_plain : (tokens : List Token) → (∀ part ∈ partsOf tokens, part.Plain) →
    strippedAll false false tokens = tokens
  | [], _ => rfl
  | token :: rest, h => by
    obtain ⟨htoken, hrest⟩ := List.forall_mem_append.mp h
    have hafter : token.stripsAfter = false := (htoken token (mem_parts_self token)).stripsAfter
    rw [strippedAll, stripsEnd_of_plain hrest, hafter, stripped_of_plain token htoken,
      strippedAll_of_plain rest hrest]

end

variable {tags : Tags}

theorem stripsFront_itemsOf (finish : Bool) (tokens : List Token) :
    Item.stripsFront finish (itemsOf tags tokens) = stripsEnd finish tokens := by
  cases tokens with
  | nil => rfl
  | cons token rest =>
    cases token with
    | literal text => rfl
    | output tag => rfl
    | logic tag children =>
      rw [itemsOf, items]
      split <;> rfl

theorem Nested.stripsBack_items {around : List String} {token : Token} (h : Nested tags around token)
    (start : Bool) : Item.stripsBack start (items tags token) = token.stripsAfter := by
  cases token with
  | literal text => rfl
  | output tag => rfl
  | logic tag children =>
    cases hend : tag.hasEnd tags with
    | true =>
      rw [items, if_pos hend, Item.stripsBack, Item.stripsBack_append]
      rfl
    | false =>
      obtain ⟨-, hleaf, -⟩ := h
      rw [hleaf hend, items_leaf hend]
      rfl

mutual

theorem items_stripped (start finish : Bool) {around : List String} : (token : Token) →
    Nested tags around token →
    items tags (stripped start finish token) = Item.strippedAll start finish (items tags token)
  | .literal text, _ => toList_stripText start finish text
  | .output _, _ => rfl
  | .logic tag children, h => by
    obtain ⟨-, hleaf, hchildren⟩ := h
    have hbody := itemsOf_strippedAll tag.strip.start tag.strip.finish children hchildren
    have hsame : LogicTag.hasEnd tags { tag with strip := {} } = tag.hasEnd tags := rfl
    rw [stripped, items, items, hbody, hsame]
    split
    · -- the end tag is the neighbour of the last token of the body
      rw [Item.strippedAll, Item.strippedAll_append]
      rfl
    · rename_i hend
      rw [hleaf (Bool.eq_false_iff.mpr hend)]
      rfl

/-- What a tree without its blanks holds is what the tree holds without the blanks between neighbours. -/
theorem itemsOf_strippedAll (start finish : Bool) {around : List String} : (tokens : List Token) →
    NestedAll tags around tokens →
    itemsOf tags (strippedAll start finish tokens) =
      Item.strippedAll start finish (itemsOf tags tokens)
  | [], _ => rfl
  | token :: rest, h => by
    obtain ⟨htoken, hrest⟩ := h
    rw [strippedAll, itemsOf, itemsOf, Item.strippedAll_append, stripsFront_itemsOf,
      htoken.stripsBack_items, items_stripped start (stripsEnd finish rest) token htoken,
      itemsOf_strippedAll token.stripsAfter finish rest hrest]

end

end Token

end Stencil
