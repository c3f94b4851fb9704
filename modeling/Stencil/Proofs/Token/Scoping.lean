import Stencil.Proofs.Token.Escaping
import Stencil.Proofs.Token.Traversal

/-!
Where an escaping is in force. An output tag is escaped as the innermost autoescape tag around it asks for,
and as the source is where there is none. Read from the front to the back, an end tag gives back what was in
force before the tag that it closes, whatever stands between them.
-/
namespace Stencil

open Source (Segment TagText)

/-- What the words of an autoescape tag ask for. -/
inductive Asks : List String → Option EscapeKind → Prop
  | on : Asks ["true"] (some .html)
  | off : Asks ["false"] none
  | named {word : String} {name : List Char} {kind : EscapeKind}
      (hword : Source.unquote? word.toList = some name) (hname : String.ofList name = kind.name) :
      Asks [word] (some kind)

theorem EscapeKind.ofName?_eq_some {name : String} {kind : EscapeKind} :
    ofName? name = some kind ↔ name = kind.name := by
  constructor
  · intro h
    unfold ofName? at h
    split at h
    · cases h
      assumption
    · split at h
      · cases h
        assumption
      · cases h
  · rintro rfl
    cases kind <;> rfl

namespace TokenTree

/-- A word without quotes is no name. -/
theorem escapeOf_eq_ok_iff {words : List String} {policy : Option EscapeKind} :
    escapeOf words = .ok policy ↔ Asks words policy := by
  have htrue : Source.unquote? "true".toList = none := by decide
  have hfalse : Source.unquote? "false".toList = none := by decide
  constructor
  · intro h
    unfold escapeOf at h
    dsimp only at h
    split at h
    · split at h
      · rename_i hword
        cases h
        exact hword ▸ .on
      · split at h
        · rename_i hword
          cases h
          exact hword ▸ .off
        · split at h
          · rename_i kind hkind
            cases h
            obtain ⟨name, hword, hname⟩ := Option.bind_eq_some_iff.mp hkind
            exact .named hword (EscapeKind.ofName?_eq_some.mp hname)
          · cases h
    · cases h
  · intro h
    cases h with
    | on => rfl
    | off => rfl
    | @named word name kind hword hname =>
      have hkind : EscapeKind.ofName? (String.ofList name) = some kind :=
        EscapeKind.ofName?_eq_some.mpr hname
      unfold escapeOf
      dsimp only
      rw [if_neg, if_neg, hword, Option.bind_some, hkind]
      · rintro rfl
        exact absurd (hfalse.symm.trans hword) nofun
      · rintro rfl
        exact absurd (htrue.symm.trans hword) nofun

end TokenTree

/-- The escaping inside these tags, innermost first, in a source with an escaping of its own. -/
def InForce (source : Option EscapeKind) (around : List LogicTag) (policy : Option EscapeKind) : Prop :=
  match around.find? (·.kind = .autoescape) with
  | some tag => Asks tag.words policy
  | none => policy = source

/-- One of the filters that take the place of the escaping is in the chain. -/
def OutputTag.NamesSafe (tag : OutputTag) : Prop :=
  ∃ filter ∈ tag.filters, filter.name = "raw" ∨ filter.name = "e" ∨ filter.name = "escape"

theorem OutputTag.isSafe_iff (tag : OutputTag) : tag.isSafe = true ↔ tag.NamesSafe := by
  simp [isSafe, NamesSafe, Filter.isSafe, Filter.safeNames]

variable {source : Option EscapeKind} {around : List LogicTag} {policy : Option EscapeKind}

/-- The tag asks for something, if it is one that has to. -/
def LogicTag.Asking (tag : LogicTag) : Prop :=
  tag.kind = .autoescape → ∃ policy, Asks tag.words policy

theorem InForce.inside {tag : LogicTag} (h : InForce source around policy) (hasking : tag.Asking) :
    InForce source (tag :: around) (tag.escapeInside policy) := by
  unfold InForce LogicTag.escapeInside
  by_cases hkind : tag.kind = .autoescape
  · obtain ⟨asked, hasks⟩ := hasking hkind
    rw [List.find?_cons_of_pos (by simpa using hkind), if_pos hkind,
      TokenTree.escapeOf_eq_ok_iff.mpr hasks]
    exact hasks
  · rw [List.find?_cons_of_neg (by simpa using hkind), if_neg hkind]
    exact h

namespace Token

mutual

/-- The output tags in the token are escaped as is in force where they stand, or have a filter in its place.
The tags around the token come innermost first. -/
def Scoped (source : Option EscapeKind) (around : List LogicTag) : Token → Prop
  | .literal _ => True
  | .output tag =>
    (tag.NamesSafe → tag.escape = none) ∧ (¬ tag.NamesSafe → InForce source around tag.escape)
  | .logic tag children => ScopedAll source (tag :: around) children

def ScopedAll (source : Option EscapeKind) (around : List LogicTag) : List Token → Prop
  | [] => True
  | token :: rest => Scoped source around token ∧ ScopedAll source around rest

end

mutual

/-- All tags with something inside ask for something, if they have to. -/
def Asking : Token → Prop
  | .logic tag children => (children = [] ∨ tag.Asking) ∧ AskingAll children
  | _ => True

def AskingAll : List Token → Prop
  | [] => True
  | token :: rest => Asking token ∧ AskingAll rest

end

theorem askingAll_iff {tokens : List Token} : AskingAll tokens ↔ ∀ token ∈ tokens, Asking token := by
  induction tokens with
  | nil => simp [AskingAll]
  | cons token rest ih => simp [AskingAll, ih]

theorem AskingAll.reverse {tokens : List Token} (h : AskingAll tokens) : AskingAll tokens.reverse :=
  askingAll_iff.mpr fun token htoken => askingAll_iff.mp h token (List.mem_reverse.mp htoken)

mutual

theorem Escaped.scoped : (token : Token) → {around : List LogicTag} → {policy : Option EscapeKind} →
    InForce source around policy → Escaped policy token → Asking token → Scoped source around token
  | .literal _, _, _, _, _, _ => True.intro
  | .output tag, _, _, hforce, hescaped, _ => by
    rw [Escaped] at hescaped
    rw [Scoped, hescaped, ← OutputTag.isSafe_iff]
    refine ⟨fun hsafe => if_pos hsafe, fun hunsafe => ?_⟩
    rw [if_neg hunsafe]
    exact hforce
  | .logic tag children, _, _, hforce, hescaped, hasking => by
    obtain ⟨hself, hchildren⟩ := hasking
    rcases hself with rfl | hself
    · exact True.intro
    · exact EscapedAll.scoped children (hforce.inside hself) hescaped hchildren

/-- From one tag to the next the escaping is handed inwards. -/
theorem EscapedAll.scoped : (tokens : List Token) → {around : List LogicTag} →
    {policy : Option EscapeKind} → InForce source around policy → EscapedAll policy tokens →
    AskingAll tokens → ScopedAll source around tokens
  | [], _, _, _, _, _ => True.intro
  | token :: rest, _, _, hforce, hescaped, hasking =>
    ⟨Escaped.scoped token hforce hescaped.1 hasking.1, EscapedAll.scoped rest hforce hescaped.2 hasking.2⟩

end

end Token

namespace TokenTree

variable {tags : Tags} {tree tree' : TokenTree}

/-- All tags so far ask for something, if they have to. -/
def Asking (tree : TokenTree) : Prop :=
  (∀ block ∈ tree.opened, block.tag.Asking ∧ Token.AskingAll block.before) ∧ Token.AskingAll tree.current

theorem Asking.grows (hgrows : Grows tags tree tree') (h : tree.Asking) : tree'.Asking := by
  obtain ⟨hopened, hcurrent⟩ := h
  cases hgrows with
  | text text => exact ⟨hopened, True.intro, hcurrent⟩
  | output hread => exact ⟨hopened, True.intro, hcurrent⟩
  | leaf hentry hplace => exact ⟨hopened, ⟨Or.inl rfl, True.intro⟩, hcurrent⟩
  | raw content line body closer =>
    exact ⟨hopened, ⟨Or.inr nofun, True.intro, True.intro⟩, hcurrent⟩
  | opens hentry hplace hescape =>
    refine ⟨List.forall_mem_cons.mpr ⟨⟨fun hkind => ?_, hcurrent⟩, hopened⟩, True.intro⟩
    rw [if_pos hkind] at hescape
    exact ⟨_, escapeOf_eq_ok_iff.mp hescape⟩
  | closes heq strip =>
    rw [heq] at hopened
    obtain ⟨⟨hself, hbefore⟩, habove⟩ := List.forall_mem_cons.mp hopened
    exact ⟨habove, ⟨Or.inr hself, hcurrent.reverse⟩, hbefore⟩

/-- The open tags, innermost first. -/
def enclosing (tree : TokenTree) : List LogicTag := tree.opened.map (·.tag)

theorem inForce_of_leadsTo {opened : List OpenTag} {saved : List (Option EscapeKind)}
    {escape : Option EscapeKind} (hleads : LeadsTo source opened saved escape)
    (hasking : ∀ block ∈ opened, block.tag.Asking) : InForce source (opened.map (·.tag)) escape := by
  induction opened generalizing saved escape with
  | nil => exact hleads.2
  | cons block opened ih =>
    obtain ⟨around, outer, -, rfl, -, habove⟩ := hleads
    obtain ⟨hself, hrest⟩ := List.forall_mem_cons.mp hasking
    exact (ih habove hrest).inside hself

/-- At every place of a source the escaping is that of the innermost open autoescape tag. -/
theorem inForce_of_addSegments {front : List Segment}
    (h : addSegments tags (.start source) front = .ok tree) : InForce source tree.enclosing tree.escape := by
  have hescaped : tree.Escaped source :=
    addSegments_keeps (I := Escaped source) (fun _ _ hgrows htree => htree.grows hgrows) front h
      ⟨⟨rfl, rfl⟩, True.intro⟩
  have hasking : tree.Asking :=
    addSegments_keeps (I := Asking) (fun _ _ hgrows htree => htree.grows hgrows) front h
      ⟨List.forall_mem_nil _, True.intro⟩
  exact inForce_of_leadsTo hescaped.1 fun block hblock => (hasking.1 block hblock).1

end TokenTree

/-- Of the end tags among the items all but so many close a tag among them. -/
def Item.Closes (depth : Nat) : List Item → Prop
  | [] => depth = 0
  | .text _ :: rest => Closes depth rest
  | .output _ _ _ :: rest => Closes depth rest
  | .tag _ _ :: rest => Closes depth rest
  | .opening _ _ :: rest => Closes (depth + 1) rest
  | .closing _ :: rest => ∃ outer, depth = outer + 1 ∧ Closes outer rest

theorem Item.Matched.closes_append {items : List Item} (h : Matched items) (depth : Nat)
    (rest : List Item) : Closes depth (items ++ rest) ↔ Closes depth rest := by
  induction h generalizing depth rest with
  | nil => exact Iff.rfl
  | text _ ih => exact ih depth rest
  | output _ ih => exact ih depth rest
  | tag _ ih => exact ih depth rest
  | @block opening closing line body behind hname _ _ ihbody ihrest =>
    rw [List.cons_append, List.append_assoc, List.cons_append, Closes, ihbody, Closes]
    simp only [Nat.add_right_cancel_iff, exists_eq_left', ihrest]

theorem Item.Matched.closes {items : List Item} (h : Matched items) : Closes 0 items := by
  have hclosed := (h.closes_append 0 []).mpr rfl
  rwa [List.append_nil] at hclosed

namespace TokenTree

variable {tags : Tags} {tree tree' : TokenTree}

/-- The escaping at the current place, and what is saved there. -/
def escaping (tree : TokenTree) : Option EscapeKind × List (Option EscapeKind) := (tree.escape, tree.saved)

/-- A logic tag closes the innermost tag, stands for itself, or opens a body. -/
theorem addLogic_cases {content : List Char} {line : Nat}
    (h : tree.addLogic tags content line = .ok tree') :
    (∃ block text, tree.opened = block :: tree'.opened ∧
      tree'.escaping = restore block.tag.kind tree.escape tree.saved ∧
      Segment.items tags (.logic content line) = [.closing text]) ∨
    (∃ text, tree'.opened = tree.opened ∧ tree'.escaping = tree.escaping ∧
      Segment.items tags (.logic content line) = [.tag text line]) ∨
    ∃ block text, tree'.opened = block :: tree.opened ∧
      restore block.tag.kind tree'.escape tree'.saved = tree.escaping ∧
      Segment.items tags (.logic content line) = [.opening text line] := by
  rcases addLogic_eq_ok h with
    ⟨found, closed, hnone, -, hclose⟩ | ⟨entry, words, -, hentry, -, hbegin⟩
  · obtain ⟨block, opened, hopened, -, rfl⟩ := close_eq_ok hclose
    refine Or.inl ⟨block, (TagText.ofContent content).bare, hopened, rfl, ?_⟩
    rw [Segment.items, hnone]
  · have hentry : tags.get? (String.ofList (TagText.ofContent content).name) = some entry := hentry
    rcases begin_eq_ok hbegin with ⟨hends, rfl⟩ | ⟨hends, escape, hescape, rfl⟩
    · refine Or.inr (Or.inl ⟨TagText.ofContent content, rfl, rfl, ?_⟩)
      rw [Segment.items, hentry]
      simp [hends]
    · refine Or.inr (Or.inr ⟨_, TagText.ofContent content, rfl, ?_, ?_⟩)
      · exact restore_save (fun hkind => (Except.ok.inj ((if_neg hkind).symm.trans hescape)).symm) _
      · rw [Segment.items, hentry]
        simp [hends]

/-- What is in force, and what is saved, once all of these tags are closed. -/
def escapingBelow : List OpenTag → Option EscapeKind × List (Option EscapeKind) →
    Option EscapeKind × List (Option EscapeKind)
  | [], escaping => escaping
  | block :: inner, escaping => escapingBelow inner (restore block.tag.kind escaping.1 escaping.2)

/-- Items that close just the inner ones of the open tags leave the others open, with what was in force
there. -/
theorem escaping_of_closes {segments : List Segment} {inner base : List OpenTag}
    (hcloses : Item.Closes inner.length (segments.flatMap (·.items tags)))
    (hopened : tree.opened = inner ++ base) (h : addSegments tags tree segments = .ok tree') :
    tree'.opened = base ∧ tree'.escaping = escapingBelow inner tree.escaping := by
  induction segments generalizing tree inner with
  | nil =>
    cases h
    obtain rfl := List.length_eq_zero_iff.mp hcloses
    exact ⟨hopened, rfl⟩
  | cons segment rest ih =>
    obtain ⟨between, hbetween, hrest⟩ := bind_eq_ok.mp h
    replace hbetween := located_eq_ok.mp hbetween
    rw [List.flatMap_cons] at hcloses
    have hsame (hitems : Item.Closes inner.length (rest.flatMap (·.items tags)))
        (hopen : between.opened = tree.opened) (hescaping : between.escaping = tree.escaping) :
        tree'.opened = base ∧ tree'.escaping = escapingBelow inner tree.escaping :=
      hescaping ▸ ih hitems (hopen.trans hopened) hrest
    cases segment with
    | text text line =>
      cases hbetween
      exact hsame hcloses rfl rfl
    | output content line =>
      obtain ⟨tag, -, hok⟩ := bind_eq_ok.mp hbetween
      cases hok
      exact hsame hcloses rfl rfl
    | raw content line body closer =>
      cases hbetween
      obtain ⟨outer, hdepth, hcloses⟩ := hcloses
      exact hsame (Nat.add_right_cancel hdepth ▸ hcloses) rfl rfl
    | logic content line =>
      rcases addLogic_cases hbetween with ⟨block, text, hopen, hescaping, hitems⟩ |
        ⟨text, hopen, hescaping, hitems⟩ | ⟨block, text, hopen, hescaping, hitems⟩
      · rw [hitems] at hcloses
        obtain ⟨outer, hdepth, hcloses⟩ := hcloses
        cases inner with
        | nil => cases hdepth
        | cons first inner =>
          obtain ⟨rfl, hinner⟩ := List.cons.inj (hopen.symm.trans hopened)
          obtain ⟨hbase, hbelow⟩ := ih (Nat.add_right_cancel hdepth ▸ hcloses) hinner hrest
          rw [hescaping] at hbelow
          exact ⟨hbase, hbelow⟩
      · rw [hitems] at hcloses
        exact hsame hcloses hopen hescaping
      · rw [hitems] at hcloses
        have hlonger : between.opened = block :: inner ++ base := by rw [hopen, hopened, List.cons_append]
        obtain ⟨hbase, hbelow⟩ := ih hcloses hlonger hrest
        rw [escapingBelow] at hbelow
        dsimp only [escaping] at hbelow
        exact ⟨hbase, hbelow.trans (congrArg _ hescaping)⟩

end TokenTree

namespace Token

theorem ofSource_asking {tags : Tags} {text : String} {tokens : List Token}
    (h : ofSource tags source text = .ok tokens) : AskingAll tokens := by
  obtain ⟨tree, hasking, -, rfl⟩ :=
    ofSource_keeps (I := TokenTree.Asking) ⟨List.forall_mem_nil _, True.intro⟩
      (fun _ _ hgrows htree => htree.grows hgrows) h
  exact hasking.2.reverse

/-- The escaping of an output tag is what the innermost autoescape tag around it asks for, and that of the
source where there is none; a filter in its place leaves the tag without one. While the source is read, this
is what is in force at every place, and behind tags that are all closed again it is what was in force before
the first of them: an end tag gives back the escaping from before the tag that it closes. -/
theorem ofSource_scopes (tags : Tags) (source : Option EscapeKind) (text : String) :
    (∀ tokens, ofSource tags source text = .ok tokens → ScopedAll source [] tokens) ∧
    ∀ front before, TokenTree.addSegments tags (.start source) front = .ok before →
      InForce source before.enclosing before.escape ∧
      ∀ closed behind, Item.Matched (closed.flatMap (·.items tags)) →
        TokenTree.addSegments tags before closed = .ok behind →
        behind.enclosing = before.enclosing ∧ behind.escape = before.escape := by
  refine ⟨fun tokens htokens => ?_, fun front before hfront => ⟨?_, fun closed behind hmatched hclosed => ?_⟩⟩
  · have hstart : InForce source [] source := rfl
    exact EscapedAll.scoped tokens hstart (ofSource_escaped htokens) (ofSource_asking htokens)
  · exact TokenTree.inForce_of_addSegments hfront
  · have hcloses : Item.Closes ([] : List OpenTag).length (closed.flatMap (·.items tags)) := hmatched.closes
    obtain ⟨hopened, hescaping⟩ := TokenTree.escaping_of_closes hcloses (List.nil_append _).symm hclosed
    exact ⟨congrArg (List.map OpenTag.tag) hopened, congrArg Prod.fst hescaping⟩

end Token

section Sample

/-- An autoescape tag inside two other tags. -/
def scopedFront : List Segment :=
  [.logic " autoescape 'js' ".toList 1, .logic " if a ".toList 1]

def scopedInside : List Segment :=
  [.logic " autoescape false ".toList 1, .output " b ".toList 1, .logic " endautoescape ".toList 1]

def scopedSource : String :=
  "\x7b% autoescape 'js' %\x7d\x7b% if a %\x7d\x7b% autoescape false %\x7d\x7b\x7b b \x7d\x7d" ++
    "\x7b% endautoescape %\x7d\x7b\x7b c \x7d\x7d\x7b% endif %\x7d\x7b% endautoescape %\x7d" ++
    "\x7b\x7b d|raw \x7d\x7d"

/-- The escaping that the output tags of these tokens carry, in order. -/
def outputEscapes (tokens : List Token) : List (Option EscapeKind) :=
  (Token.partsOf tokens).filterMap fun
    | .output tag => some tag.escape
    | _ => none

theorem ofSource_scopes_nested :
    (∃ tokens, Token.ofSource (.ofHost []) (some .html) scopedSource = .ok tokens ∧
      outputEscapes tokens = [none, some .js, none] ∧ Token.ScopedAll (some .html) [] tokens) ∧
    (Source.segments scopedSource).segments.take 5 = scopedFront ++ scopedInside ∧
    ∃ before behind, TokenTree.addSegments (.ofHost []) (.start (some .html)) scopedFront = .ok before ∧
      TokenTree.addSegments (.ofHost []) before scopedInside = .ok behind ∧
      before.enclosing.map (·.name) = ["if", "autoescape"] ∧ before.escape = some .js ∧
      InForce (some .html) before.enclosing before.escape ∧
      behind.enclosing = before.enclosing ∧ behind.escape = before.escape := by
  obtain ⟨hall, hplaces⟩ := Token.ofSource_scopes (.ofHost []) (some .html) scopedSource
  refine ⟨?_, by decide +kernel, ?_⟩
  · obtain ⟨tokens, htokens, hescapes⟩ := exists_eq_ok_of_map (by decide +kernel :
      (Token.ofSource (.ofHost []) (some .html) scopedSource).toOption.map outputEscapes =
        some [none, some .js, none])
    exact ⟨tokens, htokens, hescapes, hall tokens htokens⟩
  · obtain ⟨before, hfront, hbefore⟩ := exists_eq_ok_of_map (by decide +kernel :
      (TokenTree.addSegments (.ofHost []) (.start (some .html)) scopedFront).toOption.map
        (fun tree => (tree.enclosing.map (·.name), tree.escape)) = some (["if", "autoescape"], some .js))
    obtain ⟨hnames, hescape⟩ := Prod.mk.inj hbefore
    obtain ⟨behind, hread⟩ := exists_eq_ok (by decide +kernel :
      (TokenTree.addSegments (.ofHost []) (.start (some .html)) scopedFront >>= fun before =>
        TokenTree.addSegments (.ofHost []) before scopedInside).isOk = true)
    rw [hfront] at hread
    obtain ⟨hforce, hclosed⟩ := hplaces scopedFront before hfront
    have hmatched : Item.Matched (scopedInside.flatMap (·.items (.ofHost []))) :=
      .block rfl (.output .nil) .nil
    exact ⟨before, behind, hfront, hread, hnames, hescape, hforce,
      hclosed scopedInside behind hmatched hread⟩

end Sample

end Stencil
