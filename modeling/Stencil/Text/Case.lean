import Stencil.Text.Category
import Stencil.Text.CaseTable

/-!
Upper case, lower case and case variants. A character may map to several. The capital sigma becomes a
final sigma at the end of a word, when a whole text is lowered.
-/
namespace Stencil.Text

open CaseTable (Shifts)

def shifted? (shifts : Shifts) (n : Nat) : Option Nat :=
  (shifts.find? fun (first, last, step, _) => first ≤ n && n ≤ last && (n - first) % step == 0).map
    fun (_, _, _, distance) => (n + distance).toNat

def mapCase (shifts : Shifts) (sequences : List (Nat × List Nat)) (c : Char) : List Char :=
  match sequences.lookup c.toNat with
  | some codes => codes.map Char.ofNat
  | none =>
    match shifted? shifts c.toNat with
    | some n => [Char.ofNat n]
    | none => [c]

def upperChar (c : Char) : List Char :=
  if c.toNat < 128 then [c.toUpper] else mapCase CaseTable.upper CaseTable.upperSequences c

def lowerChar (c : Char) : List Char :=
  if c.toNat < 128 then [c.toLower] else mapCase CaseTable.lower CaseTable.lowerSequences c

def upper (text : List Char) : List Char := text.flatMap upperChar

/-- Whether the first character that counts for case has one. The pharyngeal letter has none: its
cased pair are two other characters. -/
def meetsCased (text : List Char) : Bool :=
  match text.dropWhile isCaseIgnorable with
  | c :: _ => isCased c && c != 'ʕ'
  | [] => false

/-- A sigma is final after a cased character and before none, case-ignorable ones apart. -/
def sigma (before after : List Char) : Char :=
  if meetsCased before && !meetsCased after then 'ς' else 'σ'

/-- The first list is what was read already, last character first. -/
def lowerFrom (before : List Char) : List Char → List Char
  | [] => []
  | c :: rest =>
      (if c = 'Σ' then [sigma before rest] else lowerChar c) ++ lowerFrom (c :: before) rest

def lower (text : List Char) : List Char := lowerFrom [] text

/-- The first character in upper case, the rest in lower case as a text of its own. -/
def capitalise : List Char → List Char
  | [] => []
  | c :: rest => upperChar c ++ lower rest

/-- Every word, from its first word character up to the next blank, capitalised. -/
def title : List Char → List Char
  | [] => []
  | c :: rest =>
    if isWord c then
      capitalise (c :: rest.takeWhile (!isBlank ·)) ++ title (rest.dropWhile (!isBlank ·))
    else c :: title rest
termination_by text => text.length
decreasing_by
  all_goals simp_wf
  have := (List.dropWhile_suffix (l := rest) (!isBlank ·)).length_le
  omega

/-- The representative of the case variants of a character. -/
def foldChar (c : Char) : Char :=
  match shifted? CaseTable.folding c.toNat with
  | some n => Char.ofNat n
  | none => c

/-- The characters that have this one as their representative. -/
def unfoldChar (representative : Char) : List Char :=
  CaseTable.folding.filterMap fun (first, last, step, distance) =>
    let n : Int := representative.toNat - distance
    if first ≤ n && n ≤ last && (n.toNat - first) % step == 0 then some (Char.ofNat n.toNat)
    else none

/-- All case variants of a character, itself included. -/
def caseVariants (c : Char) : List Char :=
  let representative := foldChar c
  representative :: unfoldChar representative

end Stencil.Text
