import Stencil.Node.Inheritance
import Stencil.Proofs.Expr.Joined
import Stencil.Proofs.Token.Front
import Stencil.Proofs.Token.Growth

/-!
The names of layouts. An extends tag names its layout by a word of the source. The layout is known from the
source where that word is one literal, and also where it only begins and ends with literals in equal quotes,
which is then taken for a name as a whole; any other word is an expression.
-/
namespace Stencil

open Source (IsWord Joined insideOf unquote?)

/-- All words of the tag are words of a text. -/
def LogicTag.Worded (tag : LogicTag) : Prop := ∀ word ∈ tag.words, IsWord word.toList

def Token.Worded : Token → Prop
  | .logic tag _ => tag.Worded
  | _ => True

namespace TokenTree

/-- The tags at the current place and around it have words. -/
structure Worded (tree : TokenTree) : Prop where
  opened : ∀ block ∈ tree.opened, block.tag.Worded ∧ ∀ token ∈ block.before, token.Worded
  current : ∀ token ∈ tree.current, token.Worded

namespace Worded

variable {tags : Tags} {tree tree' : TokenTree}

theorem add {token : Token} (h : tree.Worded) (htoken : token.Worded) : (tree.add token).Worded :=
  ⟨h.opened, List.forall_mem_cons.mpr ⟨htoken, h.current⟩⟩

theorem close {text : Source.TagText} {found closed : String} (h : tree.Worded)
    (hclose : tree.close text found closed = .ok tree') : tree'.Worded := by
  obtain ⟨block, opened, heq, -, rfl⟩ := close_eq_ok hclose
  have hopened := h.opened
  rw [heq] at hopened
  obtain ⟨⟨htag, hbefore⟩, haround⟩ := List.forall_mem_cons.mp hopened
  exact ⟨haround, List.forall_mem_cons.mpr ⟨htag, hbefore⟩⟩

theorem begin {tag : LogicTag} {entry : TagEntry} (h : tree.Worded) (htag : tag.Worded)
    (hbegin : tree.begin tag entry = .ok tree') : tree'.Worded := by
  rcases begin_eq_ok hbegin with ⟨-, rfl⟩ | ⟨-, escape, -, rfl⟩
  · exact h.add htag
  · exact ⟨List.forall_mem_cons.mpr ⟨⟨htag, h.current⟩, h.opened⟩, List.forall_mem_nil _⟩

theorem addLogic {content : List Char} {line : Nat} (h : tree.Worded)
    (hadd : tree.addLogic tags content line = .ok tree') : tree'.Worded := by
  rcases addLogic_eq_ok hadd with ⟨_, _, -, -, hclose⟩ | ⟨entry, parts, hparts, -, -, hbegin⟩
  · exact h.close hclose
  · refine h.begin ?_ hbegin
    intro word hword
    obtain ⟨part, hpart, rfl⟩ := List.mem_map.mp hword
    rw [String.toList_ofList]
    exact Source.isWord_of_mem hparts hpart

theorem addSegment {segment : Source.Segment} (h : tree.Worded)
    (hadd : tree.addSegment tags segment = .ok tree') : tree'.Worded := by
  cases segment with
  | text text line =>
    cases hadd
    exact h.add True.intro
  | output content line =>
    obtain ⟨tag, -, hok⟩ := bind_eq_ok.mp hadd
    cases hok
    exact h.add True.intro
  | logic content line => exact h.addLogic hadd
  | raw content line body closer =>
    cases hadd
    exact h.add (List.forall_mem_nil _)

theorem addSegments {segments : List Source.Segment} (h : tree.Worded)
    (hadd : TokenTree.addSegments tags tree segments = .ok tree') : tree'.Worded := by
  induction segments generalizing tree with
  | nil =>
    cases hadd
    exact h
  | cons segment rest ih =>
    obtain ⟨next, hnext, hrest⟩ := bind_eq_ok.mp hadd
    exact ih (h.addSegment (located_eq_ok.mp hnext)) hrest

end Worded

end TokenTree

namespace Token

variable {tags : Tags} {escape : Option EscapeKind} {source : String} {tokens : List Token} {scope : Scope}
  {tag : LogicTag} {word : String}

theorem worded_of_ofSource (h : ofSource tags escape source = .ok tokens) : ∀ token ∈ tokens, token.Worded := by
  obtain ⟨tree, htree, hrest⟩ := bind_eq_ok.mp h
  have hstart : (TokenTree.start escape).Worded := ⟨List.forall_mem_nil _, List.forall_mem_nil _⟩
  have hworded := hstart.addSegments htree
  split at hrest
  · cases hrest
  · unfold TokenTree.finish at hrest
    split at hrest
    · cases hrest
      exact fun token htoken => hworded.current token (List.mem_reverse.mp htoken)
    · cases hrest

theorem layoutOf_of_unquote? {name : List Char} (hwords : tag.words = [word])
    (hname : unquote? word.toList = some name) : layoutOf scope tag = .ok (.named (String.ofList name)) := by
  simp only [layoutOf, hwords, hname]

theorem layoutOf_of_not_unquote? (hwords : tag.words = [word]) (hname : unquote? word.toList = none) :
    layoutOf scope tag = (scope.expr tag.line word).map .computed := by
  simp only [layoutOf, hwords, hname]

/-- A word that a text is cut into has a name between its quotes if and only if it is one literal or joined
from several. So the layout of a tag is known from the source in these two cases, of which the second is
never one literal, and is computed by the word as an expression in all others. -/
theorem layoutOf_between_quotes (text : List Char) (tags : Tags) (escape : Option EscapeKind) (source : String)
    (scope : Scope) :
    (∀ parts, Source.words text = .ok parts → ∀ word ∈ parts,
      (∀ name, unquote? word = some name ↔
        Lexeme.ofText word = .ok [.literal (String.ofList name)] ∨ Joined word ∧ name = insideOf word) ∧
      (Joined word → ∀ literal, Lexeme.ofText word ≠ .ok [.literal literal])) ∧
    ∀ tokens, ofSource tags escape source = .ok tokens →
      ∀ tag children word, .logic tag children ∈ tokens → tag.words = [word] →
        (∀ name, Lexeme.ofText word.toList = .ok [.literal name] → layoutOf scope tag = .ok (.named name)) ∧
        (Joined word.toList → layoutOf scope tag = .ok (.named (String.ofList (insideOf word.toList)))) ∧
        ((∀ name, Lexeme.ofText word.toList ≠ .ok [.literal name]) → ¬ Joined word.toList →
          layoutOf scope tag = (scope.expr tag.line word).map .computed) := by
  refine ⟨fun parts hparts word hword => ?_, fun tokens hsource tag children word hmem hwords => ?_⟩
  · have hisWord := Source.isWord_of_mem hparts hword
    exact ⟨fun name => hisWord.unquote?_iff, fun hjoined => hjoined.ofText_ne⟩
  · have hword : IsWord word.toList :=
      worded_of_ofSource hsource _ hmem word (hwords ▸ List.mem_singleton_self word)
    refine ⟨fun name hread => ?_, fun hjoined => layoutOf_of_unquote? hwords hjoined.unquote?_eq,
      fun hunread hapart => layoutOf_of_not_unquote? hwords (Option.eq_none_iff_forall_ne_some.mpr ?_)⟩
    · rw [layoutOf_of_unquote? hwords (Source.unquote?_of_ofText hread), String.ofList_toList]
    · intro name hname
      rcases hword.unquote?_iff.mp hname with hread | ⟨hjoined, -⟩
      · exact hunread _ hread
      · exact hapart hjoined

section Sample

open Source (IsArgument extendsSource)

/-- Two literals with an operator between them. -/
def joinedWord : List Char := "\"a\"||\"b\"".toList

theorem isArgument_joinedWord : IsArgument joinedWord where
  words := by decide +kernel
  notClosing := by decide
  onOneLine := by decide
  starts := ⟨'"', rfl, by decide⟩
  ends := ⟨'"', rfl, by decide, by decide⟩

theorem layoutOf_between_quotes_joined :
    (∃ tokens, ofSource (.ofHost []) none (String.ofList (extendsSource joinedWord [])) = .ok tokens ∧
      .logic (.extending joinedWord) [] ∈ tokens) ∧
    Joined joinedWord ∧ Source.words joinedWord = .ok [joinedWord] ∧
    (unquote? joinedWord = some "a\"||\"b".toList ↔
      Lexeme.ofText joinedWord = .ok [.literal "a\"||\"b"] ∨
        Joined joinedWord ∧ "a\"||\"b".toList = insideOf joinedWord) ∧
    layoutOf ⟨[], .ofHost [], none⟩ (.extending joinedWord) = .ok (.named "a\"||\"b") := by
  have hjoined : Joined joinedWord :=
    .intro (by decide : Source.isQuote '"' = true) (.plain (by decide) (by decide) .nil)
      (by decide : Source.Nesting.start.after? ['|', '|'] = some .start)
      (.plain (by decide) (by decide) .nil)
  have htokens : ofSource (.ofHost []) none (String.ofList (extendsSource joinedWord [])) =
      .ok [.logic (.extending joinedWord) []] := by
    have hentry : (Tags.ofHost []).get? "extends" = some ⟨.extends, false⟩ := by decide +kernel
    have hempty : Source.segments (String.ofList []) = ⟨[], none⟩ := by decide +kernel
    rw [ofSource_extends hentry isArgument_joinedWord, ofSource, hempty]
    rfl
  have hmem : Token.logic (.extending joinedWord) [] ∈ [Token.logic (.extending joinedWord) []] :=
    List.mem_singleton_self _
  obtain ⟨hwords, hlayouts⟩ := layoutOf_between_quotes joinedWord (.ofHost []) none
    (String.ofList (extendsSource joinedWord [])) ⟨[], .ofHost [], none⟩
  have hread := hwords _ isArgument_joinedWord.words joinedWord (List.mem_singleton_self _)
  have hlayout := hlayouts _ htokens _ _ _ hmem rfl
  exact ⟨⟨_, htokens, hmem⟩, hjoined, isArgument_joinedWord.words, hread.1 _, hlayout.2.1 hjoined⟩

/-- The word is taken for one name, although it is three lexemes. -/
theorem joinedWord_named :
    Source.words joinedWord = .ok [joinedWord] ∧
    ¬ (unquote? joinedWord = some "a\"||\"b".toList ↔
      Lexeme.ofText joinedWord = .ok [.literal "a\"||\"b"]) ∧
    (Lexeme.ofText joinedWord).toOption.map (·.map Lexeme.shown) =
      some ["Str(\"a\")", "Op(\"||\")", "Str(\"b\")"] ∧
    ∀ scope, layoutOf scope (.extending joinedWord) = .ok (.named "a\"||\"b") := by
  have hlexemes : (Lexeme.ofText joinedWord).toOption.map (·.map Lexeme.shown) =
      some ["Str(\"a\")", "Op(\"||\")", "Str(\"b\")"] := by decide +kernel
  have hname : unquote? joinedWord = some "a\"||\"b".toList := by decide +kernel
  refine ⟨by decide +kernel, fun hiff => ?_, hlexemes, fun scope => layoutOf_of_unquote? rfl hname⟩
  rw [hiff.mp hname] at hlexemes
  have hlength := congrArg (Option.map List.length) hlexemes
  exact absurd hlength (by decide +kernel)

end Sample

end Token

end Stencil
