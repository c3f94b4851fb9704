/-!
Tags in a text: an angle bracket that opens, one character or more, and the next bracket that closes.
Removing the tags goes from left to right; what is removed is not looked at again.

This is what replacing all matches of the pattern `<[^>]+>` by nothing does, as the library `regex`
documents it: of all matches the leftmost comes first, it takes as many characters as it can, and the search
goes on behind it, so that matches do not overlap.
-/
namespace Stencil.Text

/-- Whether a tag begins at the character that stands before the rest. -/
def opensTag (c : Char) (rest : List Char) : Bool :=
  c == '<' && rest.head? != some '>' && rest.contains '>'

/-- The text without tags; the flag tells that the first character is inside one. -/
def withoutTags (inside : Bool) : List Char → List Char
  | [] => []
  | c :: rest =>
      if inside then withoutTags (c != '>') rest
      else if opensTag c rest then withoutTags true rest
      else c :: withoutTags false rest

def stripTags (text : List Char) : List Char := withoutTags false text

theorem withoutTags_sublist (inside : Bool) (text : List Char) :
    (withoutTags inside text).Sublist text := by
  induction text generalizing inside with
  | nil => exact List.Sublist.refl _
  | cons c rest ih =>
    unfold withoutTags
    split
    · exact (ih _).cons _
    · split
      · exact (ih _).cons _
      · exact (ih _).cons_cons _

end Stencil.Text
