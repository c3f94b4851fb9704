import Stencil.Proofs.Expr.Complaints
import Stencil.Proofs.Source.Places
import Stencil.Proofs.Token.Growth
import Stencil.Proofs.Token.Parts
import Stencil.Proofs.Token.Traversal

/-!
The places of tokens, and of what makes a token tree fail. The items of a source lead from its tokens back
to its segments, and so to the tags that begin at places of it. The same items show which tag is open: behind
it only tags that have been closed again.
-/
namespace Stencil

open Source (Segment TagText HasTag lineAt)

section Items

variable {tags : Tags}

mutual

theorem Token.items_of_mem_parts {part : Token} {item : Item} : (token : Token) → part ∈ token.parts →
    item ∈ part.items tags → item ∈ token.items tags
  | .literal text, hpart, hitem => by
    obtain rfl := List.mem_singleton.mp hpart
    exact hitem
  | .output tag, hpart, hitem => by
    obtain rfl := List.mem_singleton.mp hpart
    exact hitem
  | .logic tag children, hpart, hitem => by
    rw [Token.parts] at hpart
    rcases List.mem_cons.mp hpart with rfl | hinside
    · exact hitem
    · have hchild := Token.itemsOf_of_mem_partsOf children hinside hitem
      rw [Token.items]
      split
      · exact List.mem_cons_of_mem _ (List.mem_append_left _ hchild)
      · exact List.mem_cons_of_mem _ hchild

/-- What a token holds is held by the tokens around it. -/
theorem Token.itemsOf_of_mem_partsOf {part : Token} {item : Item} : (tokens : List Token) →
    part ∈ Token.partsOf tokens → item ∈ part.items tags → item ∈ Token.itemsOf tags tokens
  | [], hpart, _ => (List.not_mem_nil hpart).elim
  | token :: rest, hpart, hitem => by
    rw [Token.itemsOf]
    rcases List.mem_append.mp hpart with hfirst | hrest
    · exact List.mem_append_left _ (Token.items_of_mem_parts token hfirst hitem)
    · exact List.mem_append_right _ (Token.itemsOf_of_mem_partsOf rest hrest hitem)

end

end Items

namespace Token

/-- The token is made of the tag that begins at the place. Of a raw tag the arguments do not count. -/
inductive StandsAt (source : List Char) (place : Nat) : Token → Prop
  | output {tag : OutputTag} {content : List Char} (htag : HasTag source .output place content)
      (hline : tag.line = lineAt source place)
      (hexpr : tag.expr.toList = Text.trim ((Source.pipeParts (Text.trim content)).headD []))
      (hfilters : tag.filters = (Source.pipeParts (Text.trim content)).tail.map filterText) :
      StandsAt source place (.output tag)
  | logic {tag : LogicTag} {children : List Token} {content : List Char}
      (htag : HasTag source .logic place content) (hline : tag.line = lineAt source place)
      (hname : tag.name.toList = (TagText.ofContent content).name)
      (harguments : tag.name ≠ "raw" → tag.arguments.toList = (TagText.ofContent content).arguments) :
      StandsAt source place (.logic tag children)

theorem StandsAt.line_eq {source : List Char} {place : Nat} {token : Token}
    (h : token.StandsAt source place) :
    token.line = lineAt source place := by
  cases h with
  | output _ hline | logic _ hline => exact hline

theorem StandsAt.begins {source : List Char} {place : Nat} {token : Token} (h : token.StandsAt source place) :
    ∃ delimiter, Source.Begins source delimiter place := by
  cases h with
  | output htag | logic htag => exact ⟨_, htag.1⟩

variable {tags : Tags} {escape : Option EscapeKind} {source : String} {tokens : List Token}

/-- A tag with or without an end, as an item of a source, begins at a place of it. -/
theorem exists_place_of_item {text : TagText} {line : Nat} {item : Item}
    (hitem : item = .opening text line ∨ item = .tag text line)
    (h : item ∈ (Source.segments source).segments.flatMap (·.items tags)) :
    ∃ place content, HasTag source.toList .logic place content ∧ line = lineAt source.toList place ∧
      text.name = (TagText.ofContent content).name ∧
      (text.name ≠ ['r', 'a', 'w'] → text.arguments = (TagText.ofContent content).arguments) := by
  obtain ⟨segment, hsegment, hmem⟩ := List.mem_flatMap.mp h
  have hproper := Source.proper_segments source segment hsegment
  have hplaced := Source.isPlaced_segments source segment hsegment
  cases segment with
  | text =>
    obtain rfl := List.mem_singleton.mp hmem
    rcases hitem with hitem | hitem <;> cases hitem
  | output =>
    obtain rfl := List.mem_singleton.mp hmem
    rcases hitem with hitem | hitem <;> cases hitem
  | logic content line' =>
    obtain ⟨_, _, ⟨⟩⟩ | ⟨place, htag, rfl⟩ := hplaced
    have hsame : TagText.ofContent content = text ∧ lineAt source.toList place = line := by
      rw [Segment.items] at hmem
      split at hmem
      · obtain rfl := List.mem_singleton.mp hmem
        split at hitem <;> rcases hitem with hitem | hitem <;> cases hitem <;> exact ⟨rfl, rfl⟩
      · obtain rfl := List.mem_singleton.mp hmem
        rcases hitem with hitem | hitem <;> cases hitem
    obtain ⟨rfl, rfl⟩ := hsame
    exact ⟨place, content, htag, rfl, rfl, fun _ => rfl⟩
  | raw content line' body closer =>
    obtain ⟨_, _, ⟨⟩⟩ | ⟨place, htag, rfl⟩ := hplaced
    have hsame : (TagText.ofContent content).bare = text ∧ lineAt source.toList place = line := by
      rw [Segment.items] at hmem
      simp only [List.mem_cons, List.not_mem_nil, or_false] at hmem
      rcases hmem with rfl | rfl | rfl
      · rcases hitem with hitem | hitem <;> cases hitem
        exact ⟨rfl, rfl⟩
      · rcases hitem with hitem | hitem <;> cases hitem
      · rcases hitem with hitem | hitem <;> cases hitem
    obtain ⟨rfl, rfl⟩ := hsame
    exact ⟨place, content, htag, rfl, rfl, fun hraw => absurd hproper.1 hraw⟩

/-- Every tag among the tokens of a source, at any depth, begins at a place of the source. -/
theorem exists_place (h : ofSource tags escape source = .ok tokens) {token : Token}
    (htoken : token ∈ partsOf tokens) :
    (∃ text, token = .literal text) ∨ ∃ place, token.StandsAt source.toList place := by
  obtain ⟨-, hitems, -⟩ := reads_of_ofSource h
  have hmem {item : Item} (hitem : item ∈ token.items tags) :
      item ∈ (Source.segments source).segments.flatMap (·.items tags) :=
    hitems ▸ itemsOf_of_mem_partsOf tokens htoken hitem
  cases token with
  | literal text => exact Or.inl ⟨text, rfl⟩
  | output tag =>
    obtain ⟨segment, hsegment, hitem⟩ := List.mem_flatMap.mp (hmem (List.mem_singleton.mpr rfl))
    have hplaced := Source.isPlaced_segments source segment hsegment
    cases segment with
    | output content line =>
      obtain ⟨_, _, ⟨⟩⟩ | ⟨place, htag, rfl⟩ := hplaced
      have hsame := List.mem_singleton.mp hitem
      simp only [Item.output.injEq] at hsame
      obtain ⟨hexpr, hfilters, hline⟩ := hsame
      exact Or.inr ⟨place, .output htag hline hexpr hfilters⟩
    | text => cases List.mem_singleton.mp hitem
    | logic content line =>
      rw [Segment.items] at hitem
      split at hitem
      · have hsplit := List.mem_singleton.mp hitem
        split at hsplit <;> cases hsplit
      · cases List.mem_singleton.mp hitem
    | raw content line body closer =>
      simp [Segment.items] at hitem
  | logic tag children =>
    have hplace : ∃ text item, (item = Item.opening text tag.line ∨ item = Item.tag text tag.line) ∧
        item ∈ Token.items tags (.logic tag children) ∧ text.name = tag.name.toList ∧
          text.arguments = tag.arguments.toList := by
      rw [Token.items]
      split
      · exact ⟨tag.openingText, _, Or.inl rfl, List.mem_cons_self, rfl, rfl⟩
      · exact ⟨tag.ownText, _, Or.inr rfl, List.mem_cons_self, rfl, rfl⟩
    obtain ⟨text, item, hitem, hin, hname, harguments⟩ := hplace
    obtain ⟨place, content, htag, hline, hname', harguments'⟩ := exists_place_of_item hitem (hmem hin)
    refine Or.inr ⟨place, .logic htag hline (hname.symm.trans hname') fun hraw => ?_⟩
    rw [← harguments]
    refine harguments' fun hname'' => hraw ?_
    rw [← String.toList_inj, ← hname, hname'', TokenTree.toList_raw]

end Token

namespace Item.Matched

theorem of_text {text : List Char} {rest : List Item} (h : Matched (.text text :: rest)) :
    Matched rest := by
  cases h with
  | text hrest => exact hrest

theorem not_closing {text : TagText} {rest : List Item} : ¬ Matched (.closing text :: rest) := nofun

end Item.Matched

namespace Source

variable {tags : Tags}

/-- The segment is a tag with an end, of this name. -/
def Segment.Opens (tags : Tags) (name : String) : Segment → Prop
  | logic content _ => String.ofList (TagText.ofContent content).name = name ∧
      ∃ entry, tags.get? name = some entry ∧ entry.ends = true
  | _ => False

/-- The segment is an end tag, found under one name, for tags of another. -/
def Segment.Closes (tags : Tags) (found closed : String) : Segment → Prop
  | logic content _ => String.ofList (TagText.ofContent content).name = found ∧ tags.get? found = none ∧
      TokenTree.closedName? found = some closed
  | _ => False

theorem Segment.StandsAt.begins_of_opens {source : List Char} {place : Nat} {segment : Segment}
    {name : String} (h : segment.StandsAt source place) (hopens : segment.Opens tags name) : Begins source .logic place := by
  cases segment with
  | logic => exact h.1.1
  | text | output | raw => exact hopens.elim

/-- Behind the segments the tag is open, and none of those inside it is. -/
def InnermostOpen (tags : Tags) (segments : List Segment) (opening : Segment) : Prop :=
  ∃ front body, segments = front ++ opening :: body ∧ Item.Matched (body.flatMap (·.items tags))

/-- An opening among the items of a segment is that of its tag; only a raw tag brings its end tag along. -/
theorem Segment.opens_of_items {segment : Segment} {before behind : List Item} {text : TagText} {line : Nat}
    (h : segment.items tags = before ++ .opening text line :: behind) :
    (∃ content, segment = .logic content line ∧ segment.Opens tags (String.ofList text.name) ∧
      behind = []) ∨
    ∃ body closing, behind = [.text body, .closing closing] := by
  have hone {item : Item} (h : [item] = before ++ .opening text line :: behind) :
      item = .opening text line ∧ behind = [] := by
    rcases List.singleton_eq_append_iff.mp h with ⟨-, h⟩ | ⟨-, h⟩
    · cases h
      exact ⟨rfl, rfl⟩
    · cases h
  cases segment with
  | text run line' => cases (hone h).1
  | output content line' => cases (hone h).1
  | logic content line' =>
    rw [Segment.items] at h
    split at h
    · rename_i entry hentry
      obtain ⟨hitem, rfl⟩ := hone h
      split at hitem
      · rename_i hends
        cases hitem
        exact Or.inl ⟨content, rfl, ⟨rfl, entry, hentry, hends⟩, rfl⟩
      · cases hitem
    · cases (hone h).1
  | raw content line' rawBody closer =>
    rw [Segment.items] at h
    cases before with
    | nil =>
      cases h
      exact Or.inr ⟨_, _, rfl⟩
    | cons first before =>
      have htail := (List.cons.inj h).2
      cases before with
      | nil => cases htail
      | cons second before =>
        cases before with
        | nil => cases htail
        | cons third before => simp at htail

/-- An opening with nothing but matched items behind it is that of the innermost open tag. -/
theorem innermostOpen_of_items {segments : List Segment} {before body : List Item} {text : TagText}
    {line : Nat} (hbody : Item.Matched body)
    (h : segments.flatMap (·.items tags) = before ++ .opening text line :: body) :
    ∃ content, InnermostOpen tags segments (.logic content line) ∧
      (Segment.logic content line).Opens tags (String.ofList text.name) := by
  induction segments generalizing before with
  | nil => cases before <;> cases h
  | cons segment rest ih =>
    have hlater {before' : List Item}
        (h : rest.flatMap (·.items tags) = before' ++ .opening text line :: body) :
        ∃ content, InnermostOpen tags (segment :: rest) (.logic content line) ∧
          (Segment.logic content line).Opens tags (String.ofList text.name) := by
      obtain ⟨content, ⟨front, body, rfl, hmatched⟩, hopens⟩ := ih h
      exact ⟨content, ⟨segment :: front, body, rfl, hmatched⟩, hopens⟩
    rw [List.flatMap_cons, List.append_eq_append_iff] at h
    obtain ⟨between, rfl, h⟩ | ⟨between, hitems, h⟩ := h
    · exact hlater h
    · cases between with
      | nil => exact @hlater [] h.symm
      | cons item behind =>
        obtain ⟨rfl, rfl⟩ := List.cons.inj h
        rcases Segment.opens_of_items hitems with
          ⟨content, rfl, hopens, rfl⟩ | ⟨rawBody, closing, rfl⟩
        · exact ⟨content, ⟨[], rest, rfl, hbody⟩, hopens⟩
        · exact absurd hbody.of_text Item.Matched.not_closing

end Source

namespace TokenTree

variable {tags : Tags} {tree : TokenTree} {segments : List Segment}

/-- The innermost tag that is open in the tree is that of the segments. -/
theorem innermostOpen_of_opened {escape : Option EscapeKind} (hproper : ∀ segment ∈ segments, segment.Proper)
    (h : addSegments tags (.start escape) segments = .ok tree) {block : OpenTag} {opened : List OpenTag}
    (hopened : tree.opened = block :: opened) :
    ∃ content, Source.InnermostOpen tags segments (.logic content block.tag.line) ∧
      (Segment.logic content block.tag.line).Opens tags block.tag.name := by
  have hitems := ((nested_start escape).reads_segments hproper h).items_eq
  have hstart : (start escape).items tags = [] := rfl
  rw [hstart, List.nil_append, items, hopened, openItems, List.append_assoc,
    List.singleton_append] at hitems
  have hopen := Source.innermostOpen_of_items (Token.matched_itemsOf tags tree.current.reverse) hitems.symm
  rwa [LogicTag.openingText, String.ofList_toList] at hopen

end TokenTree

end Stencil
