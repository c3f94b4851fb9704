import Stencil.Proofs.Result
import Stencil.Proofs.Source.ExtendsTag
import Stencil.Token.Tree

/-!
What stands at the front of a source. A tag without a body at the very start leaves no trace in the
building of the tree behind it: the tokens are those of the rest with that tag before them.
-/
namespace Stencil

namespace TokenTree

/-- Open tags and the tokens at the current place, with the token before them all. -/
def lead (token : Token) : List OpenTag → List Token → List OpenTag × List Token
  | [], current => ([], current ++ [token])
  | block :: opened, current =>
    let above := lead token opened block.before
    ({ block with before := above.2 } :: above.1, current)

/-- The tree with the token at its front. -/
def led (token : Token) (tree : TokenTree) : TokenTree :=
  ⟨(lead token tree.opened tree.current).1, (lead token tree.opened tree.current).2, tree.escape,
    tree.saved⟩

variable {token : Token} {tree : TokenTree}

theorem lead_cons (opened : List OpenTag) (next : Token) (current : List Token) :
    lead token opened (next :: current) =
      ((lead token opened current).1, next :: (lead token opened current).2) := by
  cases opened <;> rfl

theorem tags_lead (opened : List OpenTag) (current : List Token) :
    (lead token opened current).1.map (·.tag) = opened.map (·.tag) := by
  induction opened generalizing current with
  | nil => rfl
  | cons block opened ih =>
    change block.tag :: _ = block.tag :: _
    rw [ih]

theorem led_add (next : Token) : (tree.add next).led token = (tree.led token).add next := by
  unfold led add
  rw [lead_cons]

theorem led_parents : (tree.led token).parents = tree.parents := by
  have htags : (tree.led token).opened.map (·.tag) = tree.opened.map (·.tag) := tags_lead _ _
  have hnames := congrArg (List.map (·.name)) htags
  simp only [List.map_map] at hnames
  exact congrArg List.reverse hnames

/-- Where a block may stand depends on the open tags alone. -/
theorem led_checkBlock (name : String) (words : List String) :
    (tree.led token).checkBlock name words = tree.checkBlock name words := by
  have hfind : ∀ opened : List OpenTag,
      (opened.reverse.find? (·.tag.kind != .block)).map (·.tag) =
        (opened.map (·.tag)).reverse.find? (·.kind != .block) := by
    intro opened
    rw [← List.map_reverse, List.find?_map]
    rfl
  have hsame := (hfind (tree.led token).opened).trans
    ((congrArg (fun tags => tags.reverse.find? (·.kind != .block)) (tags_lead _ _)).trans
      (hfind tree.opened).symm)
  unfold checkBlock
  cases hled : (tree.led token).opened.reverse.find? (·.tag.kind != .block) with
  | none =>
    rw [hled] at hsame
    rw [Option.map_eq_none_iff.mp hsame.symm]
  | some block =>
    rw [hled] at hsame
    obtain ⟨other, hother, htag⟩ := Option.map_eq_some_iff.mp hsame.symm
    dsimp only at htag
    rw [hother]
    dsimp only
    rw [htag]

theorem led_checkPlace (name : String) (kind : Tag) (words : List String) :
    (tree.led token).checkPlace name kind words = tree.checkPlace name kind words := by
  have hopen : (tree.led token).opened.isEmpty = tree.opened.isEmpty ∧
      (tree.led token).takesAlternative = tree.takesAlternative := by
    unfold takesAlternative led
    cases tree.opened <;> exact ⟨rfl, rfl⟩
  unfold checkPlace
  rw [hopen.1, hopen.2, led_checkBlock]

theorem led_close (text : Source.TagText) (found closed : String) :
    (tree.led token).close text found closed = (tree.close text found closed).map (led token) := by
  obtain ⟨opened, current, escape, saved⟩ := tree
  cases opened with
  | nil => rfl
  | cons block opened =>
    unfold close led
    dsimp only [lead]
    split
    · rfl
    · simp only [Except.map, lead_cons]

theorem led_begin (tag : LogicTag) (entry : TagEntry) :
    (tree.led token).begin tag entry = (tree.begin tag entry).map (led token) := by
  unfold begin
  split
  · exact congrArg Except.ok (led_add _).symm
  · split
    · cases escapeOf tag.words <;> rfl
    · rfl

variable {tags : Tags}

theorem led_addLogic (content : List Char) (line : Nat) :
    (tree.led token).addLogic tags content line =
      (tree.addLogic tags content line).map (led token) := by
  unfold addLogic
  dsimp only
  split
  · rfl
  · split
    · exact led_close _ _ _
    · rfl
    · cases Source.words (Source.TagText.ofContent content).arguments with
      | error complaint => rfl
      | ok words =>
        change ((tree.led token).checkPlace _ _ _ >>= _) = (tree.checkPlace _ _ _ >>= _).map _
        rw [led_checkPlace, led_parents]
        cases tree.checkPlace _ _ _ with
        | error complaint => rfl
        | ok _ => exact led_begin _ _

theorem led_addSegment (segment : Source.Segment) :
    (tree.led token).addSegment tags segment = (tree.addSegment tags segment).map (led token) := by
  cases segment with
  | text text line => exact congrArg Except.ok (led_add _).symm
  | output content line =>
    unfold addSegment
    change (outputTag tree.escape content line >>= _) = (outputTag tree.escape content line >>= _).map _
    cases outputTag tree.escape content line with
    | error complaint => rfl
    | ok tag => exact congrArg Except.ok (led_add _).symm
  | logic content line => exact led_addLogic content line
  | raw content line body closer =>
    unfold addSegment rawToken
    rw [led_parents]
    exact congrArg Except.ok (led_add _).symm

theorem led_addSegments (segments : List Source.Segment) :
    addSegments tags (tree.led token) segments =
      (addSegments tags tree segments).map (led token) := by
  induction segments generalizing tree with
  | nil => rfl
  | cons segment rest ih =>
    rw [addSegments, addSegments, led_addSegment]
    cases tree.addSegment tags segment with
    | error complaint => rfl
    | ok next => exact ih

theorem led_finish : (tree.led token).finish = tree.finish.map (token :: ·) := by
  obtain ⟨opened, current, escape, saved⟩ := tree
  cases opened with
  | nil => simp [led, lead, finish, Except.map]
  | cons block opened => rfl

end TokenTree

/-- An extends tag with this argument on the first line. -/
def LogicTag.extending (word : List Char) : LogicTag where
  name := "extends"
  kind := .extends
  arguments := String.ofList word
  words := [String.ofList word]
  line := 1
  parents := []
  strip := {}

/-- The tokens of a source that begins with an extends tag. -/
theorem Token.ofSource_extends {tags : Tags} {escape : Option EscapeKind} {word : List Char}
    (htag : tags.get? "extends" = some ⟨.extends, false⟩) (hword : Source.IsArgument word)
    (rest : List Char) :
    Token.ofSource tags escape (String.ofList (Source.extendsSource word rest)) =
      (Token.ofSource tags escape (String.ofList rest)).map (.logic (.extending word) [] :: ·) := by
  have hfirst : (TokenTree.start escape).addSegment tags (.logic (Source.extendsContent word) 1) =
      .ok ((TokenTree.start escape).led (.logic (.extending word) [])) := by
    change (TokenTree.start escape).addLogic tags (Source.extendsContent word) 1 = _
    unfold TokenTree.addLogic
    rw [Source.ofContent_extends hword]
    have hname : String.ofList ['e', 'x', 't', 'e', 'n', 'd', 's'] = "extends" := rfl
    simp only [hname, htag, hword.words]
    rfl
  unfold Token.ofSource
  rw [Source.segments_eq, Source.segments_eq, String.toList_ofList, String.toList_ofList, Source.segmentsFrom_extends hword]
  unfold Source.Segments.before
  dsimp only [List.cons_append, List.nil_append]
  rw [TokenTree.addSegments, hfirst]
  change (TokenTree.addSegments tags (TokenTree.led _ _) _ >>= _) = _
  rw [TokenTree.led_addSegments]
  cases TokenTree.addSegments tags (.start escape) (Source.segmentsFrom 1 rest).segments with
  | error error => rfl
  | ok tree =>
    generalize (Source.segmentsFrom 1 rest).fault = fault
    cases fault with
    | some fault => rfl
    | none => exact TokenTree.led_finish

end Stencil
