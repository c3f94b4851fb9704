import Stencil.Expr.Identifier
import Stencil.Proofs.Source.Runs
import Stencil.Source.Literal
import Stencil.Source.Words

/-!
Sources that begin with an extends tag. The tag has one argument, a quoted name or a variable, and is read
back from the source whatever follows it.
-/
namespace Stencil

/-- A name that can be quoted as it stands. -/
def IsPlainName (name : String) : Prop :=
  ∀ c ∈ name.toList, c ≠ '"' ∧ c ≠ '\\' ∧ c ≠ '%' ∧ c ≠ '\n'

/-- A name that is read as a variable. -/
structure IsVariable (name : String) : Prop where
  bindable : nameFault? name = none
  notLiteral : name ∉ ["true", "false", "null", "undefined"]

section Range

variable {c : Char}

theorem toNat_of_isUpper (h : c.isUpper = true) : 65 ≤ c.toNat ∧ c.toNat ≤ 90 := of_decide_eq_true h

theorem toNat_of_isLower (h : c.isLower = true) : 97 ≤ c.toNat ∧ c.toNat ≤ 122 := by
  obtain ⟨hlow, hhigh⟩ := (Bool.and_eq_true _ _).mp h
  exact ⟨of_decide_eq_true hlow, of_decide_eq_true hhigh⟩

theorem toNat_of_isDigit (h : c.isDigit = true) : 48 ≤ c.toNat ∧ c.toNat ≤ 57 := by
  obtain ⟨hlow, hhigh⟩ := (Bool.and_eq_true _ _).mp h
  exact ⟨of_decide_eq_true hlow, of_decide_eq_true hhigh⟩

theorem toNat_of_isNameStart (h : isNameStart c = true) :
    (65 ≤ c.toNat ∧ c.toNat ≤ 90) ∨ (97 ≤ c.toNat ∧ c.toNat ≤ 122) ∨ c = '_' ∨ c = '$' := by
  unfold isNameStart at h
  simp only [Bool.or_eq_true, beq_iff_eq] at h
  rcases h with (hletter | hline) | hdollar
  · rcases (Bool.or_eq_true _ _).mp hletter with hupper | hlower
    · exact Or.inl (toNat_of_isUpper hupper)
    · exact Or.inr (Or.inl (toNat_of_isLower hlower))
  · exact Or.inr (Or.inr (Or.inl hline))
  · exact Or.inr (Or.inr (Or.inr hdollar))

theorem isNamePart_iff : isNamePart c = true ↔ isNameStart c = true ∨ c.isDigit = true := by
  unfold isNamePart isNameStart Char.isAlphanum
  simp only [Bool.or_eq_true]
  constructor
  · rintro (((hletter | hdigit) | hline) | hdollar)
    · exact Or.inl (Or.inl (Or.inl hletter))
    · exact Or.inr hdigit
    · exact Or.inl (Or.inl (Or.inr hline))
    · exact Or.inl (Or.inr hdollar)
  · rintro (((hletter | hline) | hdollar) | hdigit)
    · exact Or.inl (Or.inl (Or.inl hletter))
    · exact Or.inl (Or.inr hline)
    · exact Or.inr hdollar
    · exact Or.inl (Or.inl (Or.inr hdigit))

end Range

theorem IsVariable.chars {name : String} (h : IsVariable name) :
    ∃ first rest, name.toList = first :: rest ∧ isNameStart first = true ∧
      ∀ c ∈ first :: rest, isNamePart c = true := by
  have hidentifier : isIdentifier name = true := by
    have hname := h.bindable
    unfold nameFault? at hname
    split at hname
    · cases hname
    · split at hname
      · cases hname
      · split at hname
        · cases hname
        · rename_i hidentifier
          simpa using hidentifier
  unfold isIdentifier at hidentifier
  split at hidentifier
  · rename_i first rest hchars
    obtain ⟨hfirst, hrest⟩ := (Bool.and_eq_true _ _).mp hidentifier
    refine ⟨first, rest, hchars, hfirst, ?_⟩
    exact List.forall_mem_cons.mpr ⟨isNamePart_iff.mpr (Or.inl hfirst), List.all_eq_true.mp hrest⟩
  · cases hidentifier

namespace Source

section Trim

variable {text : List Char} {first last : Char}

theorem trimStart_of_head (h : text.head? = some first) (hblank : Text.isBlank first = false) :
    Text.trimStart text = text := by
  cases text with
  | nil => cases h
  | cons c rest =>
    cases h
    simp [Text.trimStart, hblank]

theorem trimEnd_of_last (h : text.getLast? = some last) (hblank : Text.isBlank last = false) :
    Text.trimEnd text = text := by
  have hstart := trimStart_of_head ((List.head?_reverse).trans h) hblank
  unfold Text.trimStart at hstart
  rw [Text.trimEnd, hstart, List.reverse_reverse]

theorem trim_of_ends (hfirst : text.head? = some first) (hlast : text.getLast? = some last)
    (hblank : Text.isBlank first = false) (hblank' : Text.isBlank last = false) :
    Text.trim text = text := by
  rw [Text.trim, trimStart_of_head hfirst hblank, trimEnd_of_last hlast hblank']

theorem trimEnd_append_blank (h : text.getLast? = some last) (hblank : Text.isBlank last = false) :
    Text.trimEnd (text ++ [' ']) = text := by
  have hend := trimEnd_of_last h hblank
  unfold Text.trimEnd at hend ⊢
  rw [List.reverse_append]
  exact hend

end Trim

/-- A text that is one word, and can be the last thing in a tag. -/
structure IsArgument (word : List Char) : Prop where
  words : words word = .ok [word]
  notClosing : '%' ∉ word
  onOneLine : '\n' ∉ word
  starts : ∃ first, word.head? = some first ∧ Text.isBlank first = false
  ends : ∃ last, word.getLast? = some last ∧ Text.isBlank last = false ∧ last ≠ '-'

/-- The inside of an extends tag. -/
def extendsContent (word : List Char) : List Char :=
  ' ' :: 'e' :: 'x' :: 't' :: 'e' :: 'n' :: 'd' :: 's' :: ' ' :: word ++ [' ']

/-- A source that begins with an extends tag. -/
def extendsSource (word rest : List Char) : List Char :=
  '\x7b' :: '%' :: (extendsContent word ++ '%' :: '\x7d' :: rest)

variable {word : List Char}

theorem ofContent_extends (h : IsArgument word) :
    TagText.ofContent (extendsContent word) =
      ⟨false, false, ['e', 'x', 't', 'e', 'n', 'd', 's'], word⟩ := by
  obtain ⟨first, hfirst, hstart⟩ := h.starts
  obtain ⟨last, hlast, hend, hhyphen⟩ := h.ends
  let inner := 'e' :: 'x' :: 't' :: 'e' :: 'n' :: 'd' :: 's' :: ' ' :: word
  have hlast' : inner.getLast? = some last := by
    simp [inner, List.getLast?_cons, hlast]
  have hfirst' : inner.head? = some 'e' := rfl
  have hinner : Text.trim inner = inner := trim_of_ends hfirst' hlast' (by decide) hend
  have houter : Text.trim (extendsContent word) = inner := trimEnd_append_blank hlast' hend
  have hplain : dropLastHyphen inner = (false, inner) := by
    rw [dropLastHyphen, hlast', if_neg]
    simpa using hhyphen
  have hword : Text.trim (' ' :: word) = word := trim_of_ends hfirst hlast hstart hend
  unfold TagText.ofContent
  rw [houter, show dropHyphen inner = (false, inner) from rfl]
  simp only [hplain, hinner]
  rw [show inner.takeWhile (!Text.isBlank ·) = ['e', 'x', 't', 'e', 'n', 'd', 's'] from rfl,
    show inner.dropWhile (!Text.isBlank ·) = ' ' :: word from rfl, hword]

theorem segmentsFrom_extends (h : IsArgument word) (rest : List Char) :
    segmentsFrom 1 (extendsSource word rest) =
      (segmentsFrom 1 rest).before [.logic (extendsContent word) 1] := by
  have hclosing : '%' ∉ extendsContent word := by
    simp [extendsContent, h.notClosing]
  have hlines : lineEnds (extendsContent word) = 0 := by
    have hline : '\n' ∉ extendsContent word := by
      simp [extendsContent, h.onOneLine]
    exact List.count_eq_zero.mpr hline
  have htext : textRun (extendsSource word rest) =
      ([], some (.logic, extendsContent word ++ '%' :: '\x7d' :: rest)) := by
    rw [extendsSource, textRun]
    rfl
  have htag : tagRun Delimiter.logic.closing (extendsContent word ++ '%' :: '\x7d' :: rest) =
      some (extendsContent word, rest) :=
    tagRun_append (fun hwithin => hclosing (hwithin.mem List.mem_cons_self)) (by decide) rest
  rw [segmentsFrom_eq, htext]
  dsimp only
  rw [htag]
  dsimp only
  rw [ofContent_extends h, hlines]
  rfl

section Argument

theorem wordsFrom_quoted {name rest : List Char} {word : List Char}
    (h : ∀ c ∈ name, c ≠ '"' ∧ c ≠ '\\') :
    wordsFrom ⟨some '"', false, []⟩ word (name ++ rest) =
      wordsFrom ⟨some '"', false, []⟩ (name.reverse ++ word) rest := by
  induction name generalizing word with
  | nil => rfl
  | cons c name ih =>
    obtain ⟨⟨hquote, hslash⟩, hname⟩ := List.forall_mem_cons.mp h
    have hstep : Nesting.step ⟨some '"', false, []⟩ c = (⟨some '"', false, []⟩, .inside) := by
      simp [Nesting.step, Nesting.stepInQuote, hquote, hslash]
    rw [List.cons_append, wordsFrom, hstep]
    simp only [ih hname, List.reverse_cons, List.append_assoc, List.singleton_append]

theorem isArgument_quoted {name : String} (h : IsPlainName name) :
    IsArgument ('"' :: name.toList ++ ['"']) where
  words := by
    have hplain : ∀ c ∈ name.toList, c ≠ '"' ∧ c ≠ '\\' := fun c hc => ⟨(h c hc).1, (h c hc).2.1⟩
    have hopen : Nesting.step .start '"' = (⟨some '"', false, []⟩, .inside) := by decide
    have hclose : Nesting.step ⟨some '"', false, []⟩ '"' = (.start, .inside) := by decide
    have hfrom : wordsFrom .start [] ('"' :: name.toList ++ ['"']) =
        .ok ['"' :: name.toList ++ ['"']] := by
      rw [List.cons_append, wordsFrom, hopen]
      simp only [wordsFrom_quoted hplain]
      rw [wordsFrom, hclose]
      simp [wordsFrom, endWord, Nesting.isTop, Nesting.start]
    unfold words
    rw [hfrom]
  notClosing hmem := by
    simp only [List.cons_append, List.mem_cons, List.mem_append, List.not_mem_nil, or_false, false_or,
      Char.reduceEq] at hmem
    exact (h _ hmem).2.2.1 rfl
  onOneLine hmem := by
    simp only [List.cons_append, List.mem_cons, List.mem_append, List.not_mem_nil, or_false, false_or,
      Char.reduceEq] at hmem
    exact (h _ hmem).2.2.2 rfl
  starts := ⟨'"', rfl, by decide⟩
  ends := ⟨'"', List.getLast?_concat, by decide, by decide⟩

theorem unescape_of_plain {text : List Char} (h : '\\' ∉ text) : unescape text = text := by
  induction text with
  | nil => rfl
  | cons c rest ih =>
    have hne := Ne.symm (List.ne_of_not_mem_cons h)
    have hrest := ih (List.not_mem_of_not_mem_cons h)
    cases rest with
    | nil => simp [unescape]
    | cons d rest =>
      rw [unescape, hrest]
      rintro d rest rfl
      exact absurd rfl hne

theorem unquote?_quoted {name : String} (h : IsPlainName name) :
    unquote? ('"' :: name.toList ++ ['"']) = some name.toList := by
  have hslash : '\\' ∉ name.toList := fun hmem => (h _ hmem).2.1 rfl
  have hfirst : ('"' :: name.toList ++ ['"']).head? = some '"' := rfl
  have htrim : Text.trim ('"' :: name.toList ++ ['"']) = '"' :: name.toList ++ ['"'] :=
    trim_of_ends hfirst List.getLast?_concat (by decide) (by decide)
  unfold unquote?
  rw [htrim, List.cons_append]
  simp only [List.getLast?_concat, List.dropLast_concat, unescape_of_plain hslash]
  rfl

theorem isBlank_of_isNamePart {c : Char} (h : isNamePart c = true) : Text.isBlank c = false := by
  have hrange : (48 ≤ c.toNat ∧ c.toNat ≤ 57) ∨ (65 ≤ c.toNat ∧ c.toNat ≤ 90) ∨
      (97 ≤ c.toNat ∧ c.toNat ≤ 122) ∨ c.toNat = 95 ∨ c.toNat = 36 := by
    rcases isNamePart_iff.mp h with hstart | hdigit
    · rcases toNat_of_isNameStart hstart with hupper | hlower | rfl | rfl
      · exact Or.inr (Or.inl hupper)
      · exact Or.inr (Or.inr (Or.inl hlower))
      · decide
      · decide
    · exact Or.inl (toNat_of_isDigit hdigit)
  unfold Text.isBlank
  simp only [Bool.or_eq_false_iff, Bool.and_eq_false_iff, decide_eq_false_iff_not, beq_eq_false_iff_ne]
  omega

/-- A character that a test tells from all quotes and brackets is none of them. -/
theorem isQuote_of_test {c : Char} {test : Char → Bool} (h : test c = true)
    (htest : ['"', '\'', '(', ')', '[', ']', '\x7b', '\x7d'].all (fun other => !test other) = true) :
    isQuote c = false ∧ closerOf? c = none ∧ isCloser c = false := by
  have hnot : ∀ other ∈ ['"', '\'', '(', ')', '[', ']', '\x7b', '\x7d'], c ≠ other := by
    rintro other hother rfl
    have hother := List.all_eq_true.mp htest c hother
    rw [h] at hother
    cases hother
  simp only [List.forall_mem_cons, List.not_mem_nil, false_imp_iff, implies_true, and_true] at hnot
  simp [isQuote, closerOf?, isCloser, hnot]

/-- What the characters of a variable are not. -/
theorem isNamePart_facts {c : Char} (h : isNamePart c = true) :
    isQuote c = false ∧ closerOf? c = none ∧ isCloser c = false ∧ Text.isBlank c = false ∧ c ≠ '%' ∧
      c ≠ '\n' ∧ c ≠ '-' := by
  have hnot : ∀ other : Char, isNamePart other = false → c ≠ other := by
    rintro other hother rfl
    rw [h] at hother
    cases hother
  obtain ⟨hquote, hopener, hcloser⟩ := isQuote_of_test h (by decide)
  exact ⟨hquote, hopener, hcloser, isBlank_of_isNamePart h, hnot _ (by decide), hnot _ (by decide),
    hnot _ (by decide)⟩

theorem wordsFrom_variable {name word : List Char} (h : ∀ c ∈ name, isNamePart c = true) :
    wordsFrom .start word name = .ok (endWord (name.reverse ++ word) []) := by
  induction name generalizing word with
  | nil => simp [wordsFrom, Nesting.isTop, Nesting.start]
  | cons c name ih =>
    obtain ⟨hpart, hname⟩ := List.forall_mem_cons.mp h
    obtain ⟨hquote, hcloser, hclosing, hblank, -⟩ := isNamePart_facts hpart
    have hstep : Nesting.step .start c = (.start, .top) := by
      simp [Nesting.step, Nesting.start, hquote, hcloser, hclosing]
    rw [wordsFrom, hstep]
    simp [hblank, ih hname]

theorem isArgument_variable {name : String} (h : IsVariable name) : IsArgument name.toList := by
  obtain ⟨first, rest, hchars, -, hparts⟩ := h.chars
  rw [hchars]
  have hlast := List.getLast?_eq_some_getLast (List.cons_ne_nil first rest)
  obtain ⟨-, -, -, hblank, -, -, hhyphen⟩ := isNamePart_facts
    (hparts _ (List.getLast_mem (List.cons_ne_nil first rest)))
  exact {
    words := by
      unfold words
      rw [wordsFrom_variable hparts]
      simp [endWord]
    notClosing := fun hmem => (isNamePart_facts (hparts _ hmem)).2.2.2.2.1 rfl
    onOneLine := fun hmem => (isNamePart_facts (hparts _ hmem)).2.2.2.2.2.1 rfl
    starts := ⟨first, rfl, isBlank_of_isNamePart (hparts first List.mem_cons_self)⟩
    ends := ⟨_, hlast, hblank, hhyphen⟩ }

theorem unquote?_variable {name : String} (h : IsVariable name) : unquote? name.toList = none := by
  obtain ⟨first, hfirst, hstart⟩ := (isArgument_variable h).starts
  obtain ⟨last, hlast, hend, -⟩ := (isArgument_variable h).ends
  obtain ⟨c, rest, hchars, -, hparts⟩ := h.chars
  unfold unquote?
  rw [trim_of_ends hfirst hlast hstart hend, hchars]
  simp [(isNamePart_facts (hparts c List.mem_cons_self)).1]

end Argument

end Source

end Stencil
