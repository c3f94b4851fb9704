import Stencil.Proofs.Result
import Stencil.Token.Tree

/-!
How the token tree of a source grows. Each segment adds a token without a body, opens a tag or closes the
innermost one; what all of these keep holds of the finished tree.
-/
namespace Stencil

/-- A tag in front of its body, which it may strip the beginning of. -/
def LogicTag.inFront (tag : LogicTag) : LogicTag :=
  { tag with strip := { tag.strip with start := tag.strip.after, after := false } }

/-- A tag that ends with an end tag. -/
def LogicTag.endedBy (tag : LogicTag) (text : Source.TagText) : LogicTag :=
  { tag with strip := { tag.strip with finish := text.stripBefore, after := text.stripAfter } }

namespace TokenTree

/-- The end of a tag returns to what was in force and what was saved before it. -/
theorem restore_save {kind : Tag} {escape around : Option EscapeKind}
    (h : kind ≠ .autoescape → escape = around) (saved : List (Option EscapeKind)) :
    restore kind escape (save kind around saved) = (around, saved) := by
  unfold restore save
  split
  · rfl
  · rename_i hkind
    rw [h hkind]

/-- The ways in which a segment changes a tree. -/
inductive Grows (tags : Tags) (tree : TokenTree) : TokenTree → Prop
  | text (text : String) : Grows tags tree (tree.add (.literal text))
  | output {tag : OutputTag} {content : List Char} {line : Nat}
      (hread : outputTag tree.escape content line = .ok tag) : Grows tags tree (tree.add (.output tag))
  | leaf {tag : LogicTag} (hentry : tags.get? tag.name = some ⟨tag.kind, false⟩)
      (hplace : tree.checkPlace tag.name tag.kind tag.words = .ok ()) :
      Grows tags tree (tree.add (.logic tag []))
  | raw (content : List Char) (line : Nat) (body closer : List Char) :
      Grows tags tree (tree.add (tree.rawToken content line body closer))
  | opens {tag : LogicTag} {escape : Option EscapeKind}
      (hentry : tags.get? tag.name = some ⟨tag.kind, true⟩)
      (hplace : tree.checkPlace tag.name tag.kind tag.words = .ok ())
      (hescape : (if tag.kind = .autoescape then escapeOf tag.words else .ok tree.escape) =
        .ok escape) :
      Grows tags tree
        ⟨⟨tag, tree.current⟩ :: tree.opened, [], escape, save tag.kind tree.escape tree.saved⟩
  | closes {block : OpenTag} {opened : List OpenTag} (hopened : tree.opened = block :: opened)
      (strip : Strip) :
      Grows tags tree
        ⟨opened, .logic { block.tag with strip } tree.current.reverse :: block.before,
          (restore block.tag.kind tree.escape tree.saved).1,
          (restore block.tag.kind tree.escape tree.saved).2⟩

/-- A tag that is read from the content and the words of its arguments. -/
def tagOf (tree : TokenTree) (content : List Char) (kind : Tag) (words : List (List Char)) (line : Nat) :
    LogicTag :=
  let text := Source.TagText.ofContent content
  { name := String.ofList text.name, kind, arguments := String.ofList text.arguments,
    words := words.map String.ofList, line, parents := tree.parents,
    strip := { before := text.stripBefore, after := text.stripAfter } }

variable {tags : Tags} {tree tree' : TokenTree}

/-- An end tag is put behind the body of the innermost tag, which it names. -/
theorem close_eq_ok {text : Source.TagText} {found closed : String}
    (h : tree.close text found closed = .ok tree') :
    ∃ block opened, tree.opened = block :: opened ∧ block.tag.name = closed ∧
      tree' = ⟨opened, .logic (block.tag.endedBy text) tree.current.reverse :: block.before,
        (restore block.tag.kind tree.escape tree.saved).1,
        (restore block.tag.kind tree.escape tree.saved).2⟩ := by
  unfold close at h
  split at h
  · cases h
  · rename_i block opened hopened
    split at h
    · cases h
    · rename_i hsame
      cases h
      exact ⟨block, opened, hopened, Decidable.not_not.mp hsame, rfl⟩

/-- A tag without an end is put at the current place, and any other opens a body there. -/
theorem begin_eq_ok {tag : LogicTag} {entry : TagEntry} (h : tree.begin tag entry = .ok tree') :
    (entry.ends = false ∧ tree' = tree.add (.logic tag [])) ∨
      entry.ends = true ∧ ∃ escape,
        (if entry.tag = .autoescape then escapeOf tag.words else .ok tree.escape) = .ok escape ∧
        tree' = ⟨⟨tag.inFront, tree.current⟩ :: tree.opened, [], escape,
          save entry.tag tree.escape tree.saved⟩ := by
  unfold begin at h
  cases hends : entry.ends with
  | false =>
    rw [hends] at h
    cases h
    exact Or.inl ⟨rfl, rfl⟩
  | true =>
    simp only [hends, Bool.not_true, Bool.false_eq_true, if_false] at h
    refine Or.inr ⟨rfl, ?_⟩
    split at h
    · rename_i hkind
      obtain ⟨escape, hescape, h⟩ := bind_eq_ok.mp h
      cases h
      exact ⟨escape, (if_pos hkind).trans hescape, rfl⟩
    · rename_i hkind
      cases h
      exact ⟨tree.escape, if_neg hkind, rfl⟩

/-- A logic tag ends another one, or it has an entry and stands where its kind may. -/
theorem addLogic_eq_ok {content : List Char} {line : Nat}
    (h : tree.addLogic tags content line = .ok tree') :
    (∃ found closed, tags.get? (String.ofList (Source.TagText.ofContent content).name) = none ∧
      closedName? (String.ofList (Source.TagText.ofContent content).name) = some closed ∧
      tree.close (Source.TagText.ofContent content) found closed = .ok tree') ∨
    ∃ entry words, Source.words (Source.TagText.ofContent content).arguments = .ok words ∧
      tags.get? (tree.tagOf content entry.tag words line).name = some entry ∧
      tree.checkPlace (tree.tagOf content entry.tag words line).name entry.tag
        (tree.tagOf content entry.tag words line).words = .ok () ∧
      tree.begin (tree.tagOf content entry.tag words line) entry = .ok tree' := by
  unfold addLogic at h
  dsimp only at h
  split at h
  · cases h
  · split at h
    · rename_i closed hnone hclosed
      exact Or.inl ⟨_, closed, hnone, hclosed, h⟩
    · cases h
    · rename_i entry hentry
      obtain ⟨words, hwords, h⟩ := bind_eq_ok.mp h
      obtain ⟨_, hplace, hbegin⟩ := bind_eq_ok.mp h
      exact Or.inr ⟨entry, words, hwords, hentry, hplace, hbegin⟩

theorem grows_of_addLogic {content : List Char} {line : Nat}
    (h : tree.addLogic tags content line = .ok tree') : Grows tags tree tree' := by
  rcases addLogic_eq_ok h with
    ⟨found, closed, -, -, hclose⟩ | ⟨⟨kind, ends⟩, words, -, hentry, hplace, hbegin⟩
  · obtain ⟨block, opened, hopened, -, rfl⟩ := close_eq_ok hclose
    exact .closes hopened _
  · rcases begin_eq_ok hbegin with ⟨rfl, rfl⟩ | ⟨rfl, escape, hescape, rfl⟩
    · exact .leaf hentry hplace
    · exact @Grows.opens tags tree (tree.tagOf content kind words line).inFront escape hentry hplace hescape

/-- A segment changes a tree in one of the ways. -/
theorem grows_of_addSegment {segment : Source.Segment}
    (h : tree.addSegment tags segment = .ok tree') : Grows tags tree tree' := by
  cases segment with
  | text text line =>
    simp only [addSegment, Except.ok.injEq] at h
    subst h
    exact .text _
  | output content line =>
    obtain ⟨tag, hread, hadd⟩ := bind_eq_ok.mp h
    simp only [pure, Except.pure, Except.ok.injEq] at hadd
    subst hadd
    exact .output hread
  | logic content line => exact grows_of_addLogic h
  | raw content line body closer =>
    simp only [addSegment, Except.ok.injEq] at h
    subst h
    exact .raw content line body closer

theorem addSegments_keeps {I : TokenTree → Prop}
    (hstep : ∀ tree tree', Grows tags tree tree' → I tree → I tree')
    (segments : List Source.Segment) (h : addSegments tags tree segments = .ok tree')
    (hI : I tree) : I tree' := by
  induction segments generalizing tree with
  | nil =>
    simp only [addSegments, Except.ok.injEq] at h
    exact h ▸ hI
  | cons segment rest ih =>
    obtain ⟨next, hnext, hrest⟩ := bind_eq_ok.mp h
    have hgrows := grows_of_addSegment (located_eq_ok.mp hnext)
    exact ih hrest (hstep tree next hgrows hI)

end TokenTree

/-- What the steps keep from the start on holds of the finished tree, in which no tag is open. -/
theorem Token.ofSource_keeps {tags : Tags} {escape : Option EscapeKind} {source : String}
    {tokens : List Token} {I : TokenTree → Prop} (hstart : I (.start escape))
    (hstep : ∀ tree tree', TokenTree.Grows tags tree tree' → I tree → I tree')
    (h : Token.ofSource tags escape source = .ok tokens) :
    ∃ tree, I tree ∧ tree.opened = [] ∧ tokens = tree.current.reverse := by
  obtain ⟨tree, htree, hrest⟩ := bind_eq_ok.mp h
  have hI := TokenTree.addSegments_keeps hstep _ htree hstart
  split at hrest
  · cases hrest
  · unfold TokenTree.finish at hrest
    split at hrest
    · rename_i hopened
      exact ⟨tree, hI, hopened, (Except.ok.inj hrest).symm⟩
    · cases hrest

end Stencil
