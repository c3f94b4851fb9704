import Stencil.Filter.Builtin
import Stencil.Proofs.Expr.Brackets
import Stencil.Proofs.Expr.Recognition

/-!
String literals. A text with its quotes and backslashes escaped, between quotes of either kind, is one word,
one lexeme and one expression, and stands for that text in all three.
-/
namespace Stencil

open Source (Nesting isQuote unescape unquote?)

namespace Source

variable {c : Char} {text : List Char}

theorem unescape_cons (h : c ≠ '\\') (rest : List Char) : unescape (c :: rest) = c :: unescape rest := by
  rw [unescape]
  rintro d rest rfl
  exact absurd rfl h

theorem isBlank_of_isQuote (h : isQuote c = true) : Text.isBlank c = false := by
  by_contra hbad
  have hplain := (isQuote_of_isBlank ((Bool.not_eq_false _).mp hbad)).1
  rw [h] at hplain
  cases hplain

theorem hasEnds_quotes {quote : Char} (hquote : isQuote quote = true) (body : List Char) :
    Lexeme.HasEnds (quote :: body ++ [quote]) where
  first := ⟨quote, rfl, isBlank_of_isQuote hquote⟩
  last := ⟨quote, List.getLast?_concat, isBlank_of_isQuote hquote⟩

/-- Quotes are taken off whatever stands between them. -/
theorem unquote?_quotes {quote : Char} (hquote : isQuote quote = true) (body : List Char) :
    unquote? (quote :: body ++ [quote]) = some (unescape body) := by
  unfold unquote?
  rw [(hasEnds_quotes hquote body).trim_self, List.cons_append]
  simp [hquote]

end Source

namespace Lexeme

variable {quote : Char} {body : List Char}

theorem QuotedBody.append {more : List Char} (h : QuotedBody quote body) (hmore : QuotedBody quote more) :
    QuotedBody quote (body ++ more) := by
  induction h with
  | nil => exact hmore
  | escape c hbody ih => exact .escape c ih
  | plain hslash hne hbody ih => exact .plain hslash hne ih

/-- Inside of quotes no word ends. -/
theorem QuotedBody.wordsFrom_eq (hquote : isQuote quote = true) (h : QuotedBody quote body)
    (word rest : List Char) :
    Source.wordsFrom ⟨some quote, false, []⟩ word (body ++ quote :: rest) =
      Source.wordsFrom .start (quote :: (body.reverse ++ word)) rest := by
  induction h generalizing word with
  | nil =>
    have hstep : Nesting.step ⟨some quote, false, []⟩ quote = (.start, .inside) := by
      simp [Nesting.step, Nesting.stepInQuote, ne_slash_of_isQuote hquote, Nesting.start]
    rw [List.nil_append, Source.wordsFrom, hstep]
    rfl
  | escape c hbody ih =>
    have hslash : Nesting.step ⟨some quote, false, []⟩ '\\' = (⟨some quote, true, []⟩, .inside) := rfl
    have hstep : Nesting.step ⟨some quote, true, []⟩ c = (⟨some quote, false, []⟩, .inside) := rfl
    rw [List.cons_append, List.cons_append, Source.wordsFrom, hslash]
    dsimp only
    rw [Source.wordsFrom, hstep]
    dsimp only
    rw [ih]
    simp
  | @plain c body hslash hne hbody ih =>
    have hstep : Nesting.step ⟨some quote, false, []⟩ c = (⟨some quote, false, []⟩, .inside) := by
      simp [Nesting.step, Nesting.stepInQuote, hslash, hne]
    rw [List.cons_append, Source.wordsFrom, hstep]
    dsimp only
    rw [ih]
    simp

/-- A literal is one word. -/
theorem QuotedBody.words_eq (hquote : isQuote quote = true) (h : QuotedBody quote body) :
    Source.words (quote :: body ++ [quote]) = .ok [quote :: body ++ [quote]] := by
  have hstep : Nesting.start.step quote = (⟨some quote, false, []⟩, .inside) := by
    simp [Nesting.step, Nesting.start, hquote]
  refine Source.words_eq_ok.mpr ?_
  rw [List.cons_append, Source.wordsFrom, hstep]
  dsimp only
  rw [h.wordsFrom_eq hquote, Source.wordsFrom]
  simp [Source.endWord, Nesting.isTop, Nesting.start]

/-- A literal is read up to its closing quote, whatever follows it. -/
theorem QuotedBody.listFrom_eq (hquote : isQuote quote = true) (h : QuotedBody quote body)
    (afterPoint : Bool) (after : List Char) :
    listFrom afterPoint (quote :: body ++ quote :: after) =
      (listFrom false after).map (.literal (String.ofList (unescape body)) :: ·) := by
  have hspace : Text.isSpace quote = false := by
    by_contra hbad
    have hblank := isBlank_of_isSpace ((Bool.not_eq_false _).mp hbad)
    rw [Source.isBlank_of_isQuote hquote] at hblank
    cases hblank
  have hread : ReadFrom afterPoint quote (body ++ [quote]) after (.literal (String.ofList (unescape body))) :=
    (readFrom_literal hspace hquote (h.run_eq hquote after)).2
  have hlist := hread.listFrom_eq (List.prefix_refl after)
  rwa [List.cons_append, List.append_assoc] at hlist

/-- A literal is one lexeme. -/
theorem QuotedBody.ofText_eq (hquote : isQuote quote = true) (h : QuotedBody quote body) :
    ofText (quote :: body ++ [quote]) = .ok [.literal (String.ofList (unescape body))] := by
  refine ofText_eq_ok.mpr ?_
  rw [h.listFrom_eq hquote, listFrom]
  rfl

end Lexeme

/-- A text that is one literal is an expression. -/
theorem Expr.ofText_of_literal {text : List Char} {literal : String}
    (h : Lexeme.ofText text = .ok [.literal literal]) (filters : Filters) :
    Expr.ofText filters text = .ok (.literal (.string literal)) := by
  have hderives : Derives filters .primary [.literal literal] (.literal (.string literal)) := .text literal
  have hwhole : Derives filters .disjunction [.literal literal] (.literal (.string literal)) :=
    .conjunction (.negation (.comparison (.filtered (.filters hderives .nil))))
  exact Parser.runOn_eq_ok.mpr
    ⟨[.literal literal], Lexeme.ofText_eq_ok.mp h, Parser.expression_of_derives hwhole⟩

namespace Filter

variable {c : Char}

theorem slashed_of_ne (hslash : c ≠ '\\') (hsingle : c ≠ '\'') (hdouble : c ≠ '"') : slashed c = [c] :=
  if_neg (by simp [hslash, hsingle, hdouble])

/-- A backslash before each character of one kind. -/
def slashing (special c : Char) : List Char := if c = special then ['\\', c] else [c]

/-- The three kinds can be escaped one after the other, if backslashes come first. -/
theorem addSlashes_eq_slashing (text : List Char) :
    addSlashes text =
      ((text.flatMap (slashing '\\')).flatMap (slashing '\'')).flatMap (slashing '"') := by
  unfold addSlashes
  rw [List.flatMap_assoc, List.flatMap_assoc]
  refine congrArg (text.flatMap ·) (funext fun c => ?_)
  by_cases hslash : c = '\\'
  · subst hslash
    rfl
  · by_cases hsingle : c = '\''
    · subst hsingle
      rfl
    · by_cases hdouble : c = '"'
      · subst hdouble
        rfl
      · simp [slashed, slashing, hslash, hsingle, hdouble]

theorem unescape_slashed (c : Char) (rest : List Char) : unescape (slashed c ++ rest) = c :: unescape rest := by
  by_cases hspecial : c = '\\' ∨ c = '\'' ∨ c = '"'
  · rcases hspecial with rfl | rfl | rfl <;> rfl
  · simp only [not_or] at hspecial
    obtain ⟨hslash, hsingle, hdouble⟩ := hspecial
    rw [slashed_of_ne hslash hsingle hdouble, List.singleton_append, Source.unescape_cons hslash]

theorem unescape_addSlashes (text : List Char) : unescape (addSlashes text) = text := by
  induction text with
  | nil => rfl
  | cons c text ih =>
    unfold addSlashes at ih ⊢
    rw [List.flatMap_cons, unescape_slashed, ih]

theorem quotedBody_slashed {quote : Char} (hquote : isQuote quote = true) (c : Char) :
    Lexeme.QuotedBody quote (slashed c) := by
  by_cases hspecial : c = '\\' ∨ c = '\'' ∨ c = '"'
  · rcases hspecial with rfl | rfl | rfl <;> exact .escape _ .nil
  · simp only [not_or] at hspecial
    obtain ⟨hslash, hsingle, hdouble⟩ := hspecial
    rw [slashed_of_ne hslash hsingle hdouble]
    refine .plain hslash ?_ .nil
    rintro rfl
    simp [isQuote, hsingle, hdouble] at hquote

/-- Escaped text closes no quotes. -/
theorem quotedBody_addSlashes {quote : Char} (hquote : isQuote quote = true) (text : List Char) :
    Lexeme.QuotedBody quote (addSlashes text) := by
  induction text with
  | nil => exact .nil
  | cons c text ih =>
    unfold addSlashes at ih ⊢
    rw [List.flatMap_cons]
    exact (quotedBody_slashed hquote c).append ih

/-- The literal that is written for a text. -/
def quotedBy (quote : Char) (text : List Char) : List Char := quote :: addSlashes text ++ [quote]

/-- What the filter for slashes makes of a text is read back as that text, between quotes of either kind: the
literal is a single word, as a name it is the text, its only lexeme is the text, and as an expression it is
the text. -/
theorem quotedBy_reads (filters : Filters) (minutesBehind : Int32) (arguments : List Value) (text : List Char)
    {quote : Char} (hquote : isQuote quote = true) :
    (Fields.get? (builtin minutesBehind) "addslashes").map (· (.string (String.ofList text)) arguments) =
        some (.string (String.ofList (addSlashes text))) ∧
      Source.words (quotedBy quote text) = .ok [quotedBy quote text] ∧
      unquote? (quotedBy quote text) = some text ∧
      Lexeme.ofText (quotedBy quote text) = .ok [.literal (String.ofList text)] ∧
      Expr.ofText filters (quotedBy quote text) = .ok (.literal (.string (String.ofList text))) ∧
      unescape (addSlashes text) = text := by
  have hbody := quotedBody_addSlashes hquote text
  have hback := unescape_addSlashes text
  have hlexeme : Lexeme.ofText (quotedBy quote text) = .ok [.literal (String.ofList text)] := by
    have hread := hbody.ofText_eq hquote
    rwa [hback] at hread
  refine ⟨?_, hbody.words_eq hquote, ?_, hlexeme, Expr.ofText_of_literal hlexeme filters, hback⟩
  · change some (mapText addSlashes (.string (String.ofList text))) = _
    rw [mapText, Value.display, String.toList_ofList] <;> nofun
  · have hquotes := Source.unquote?_quotes hquote (addSlashes text)
    rwa [hback] at hquotes

/-- Backslashes, quotes of both kinds, and letters behind backslashes. -/
def slashedSample : List Char := "\\n 'a' \\\\\"t\"\\".toList

theorem quotedBy_reads_sample :
    quotedBy '\'' slashedSample = "'\\\\n \\'a\\' \\\\\\\\\\\"t\\\"\\\\'".toList ∧
      unquote? (quotedBy '\'' slashedSample) = some slashedSample ∧
      Expr.ofText [] (quotedBy '\'' slashedSample) = .ok (.literal (.string (String.ofList slashedSample))) := by
  obtain ⟨-, -, hname, -, hexpr, -⟩ := quotedBy_reads [] 0 [] slashedSample (by decide : isQuote '\'' = true)
  exact ⟨by decide +kernel, hname, hexpr⟩

end Filter

end Stencil
