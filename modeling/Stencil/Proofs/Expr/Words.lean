import Stencil.Proofs.Expr.Variable

/-!
How a lexeme is spelled. It is read from a word of the text, and stays the same when less of the text
follows the word.
-/
namespace Stencil

section TakeWhile

variable {p : Char → Bool} {text rest : List Char}

/-- What follows the longest run goes on in no other way when it is cut short. -/
theorem takeWhile_append_prefix (h : rest <+: text.dropWhile p) :
    (text.takeWhile p ++ rest).takeWhile p = text.takeWhile p := by
  have hrest : rest.takeWhile p = [] := by
    obtain ⟨more, hmore⟩ := h
    cases rest with
    | nil => rfl
    | cons c rest =>
      have hhead := List.head?_dropWhile_not p text
      rw [← hmore] at hhead
      exact List.takeWhile_cons_of_neg (by simpa using hhead)
  rw [List.takeWhile_append_of_pos (List.all_eq_true.mp List.all_takeWhile), hrest, List.append_nil]

end TakeWhile

namespace Lexeme

/-! The inside of a literal. -/

section Quoted

variable {quote : Char} {body text after : List Char}

/-- The inside of a literal with these quotes, in which a character behind a backslash is taken as it is. -/
inductive QuotedBody (quote : Char) : List Char → Prop
  | nil : QuotedBody quote []
  | escape (c : Char) {body : List Char} (hbody : QuotedBody quote body) :
      QuotedBody quote ('\\' :: c :: body)
  | plain {c : Char} {body : List Char} (hslash : c ≠ '\\') (hquote : c ≠ quote)
      (hbody : QuotedBody quote body) : QuotedBody quote (c :: body)

theorem ne_slash_of_isQuote (h : Source.isQuote quote = true) : quote ≠ '\\' := by
  rintro rfl
  cases h

theorem quotedRun_cons {c : Char} (h : c ≠ '\\') (quote : Char) (rest : List Char) :
    quotedRun quote (c :: rest) =
      if c = quote then some ([], rest)
      else (quotedRun quote rest).map fun (body, after) => (c :: body, after) := by
  rw [quotedRun]
  · intro heq
    exact absurd heq h
  · intro d rest' heq
    exact absurd heq h

/-- A literal goes on to its closing quote, whatever follows it. -/
theorem QuotedBody.run_eq (hquote : Source.isQuote quote = true) (h : QuotedBody quote body)
    (after : List Char) : quotedRun quote (body ++ quote :: after) = some (body, after) := by
  induction h with
  | nil => rw [List.nil_append, quotedRun_cons (ne_slash_of_isQuote hquote), if_pos rfl]
  | escape c hbody ih =>
    rw [List.cons_append, List.cons_append, quotedRun, ih]
    rfl
  | plain hslash hne hbody ih =>
    rw [List.cons_append, quotedRun_cons hslash, if_neg hne, ih]
    rfl

theorem quotedRun_eq_some (h : quotedRun quote text = some (body, after)) :
    text = body ++ quote :: after ∧ QuotedBody quote body := by
  fun_induction quotedRun quote text generalizing body with
  | case1 => cases h
  | case2 => cases h
  | case3 c rest ih =>
    obtain ⟨⟨body', after'⟩, hrun, hpair⟩ := Option.map_eq_some_iff.mp h
    cases hpair
    obtain ⟨rfl, hbody⟩ := ih hrun
    exact ⟨rfl, .escape c hbody⟩
  | case4 rest =>
    cases h
    exact ⟨rfl, .nil⟩
  | case5 c rest hend hescape hne ih =>
    obtain ⟨⟨body', after'⟩, hrun, hpair⟩ := Option.map_eq_some_iff.mp h
    cases hpair
    obtain ⟨rfl, hbody⟩ := ih hrun
    have hslash : c ≠ '\\' := by
      intro heq
      cases body' with
      | nil => exact hescape _ _ heq rfl
      | cons d body' => exact hescape _ _ heq rfl
    exact ⟨rfl, .plain hslash hne hbody⟩

end Quoted

/-- What a lexeme looks like. -/
inductive Spelled : Lexeme → List Char → Prop
  | name {word : List Char} (hne : word ≠ []) (hparts : ∀ c ∈ word, isNamePart c = true) :
      Spelled (.name (String.ofList word)) word
  | number {word : List Char} (value : Value) (hne : word ≠ [])
      (hchars : ∀ c ∈ word, c.isDigit = true ∨ c = '-' ∨ c = '.') : Spelled (.number value) word
  | literal {quote : Char} {body : List Char} (text : String) (hquote : Source.isQuote quote = true)
      (hbody : QuotedBody quote body) : Spelled (.literal text) (quote :: body ++ [quote])
  | operator (op : Operator) : Spelled (.operator op) op.spelling
  | mark {c : Char} (hmark : c ∈ marks) : Spelled (.mark c) [c]

/-! The digits of a number. -/

section Number

variable {sign whole tail rest text : List Char}

/-- The point and the digits that a number has behind its whole part. -/
def fraction : List Char → List Char
  | '.' :: rest =>
    if (rest.takeWhile Char.isDigit).isEmpty then [] else '.' :: rest.takeWhile Char.isDigit
  | _ => []

theorem fraction_cons_of_ne {c : Char} (h : c ≠ '.') (rest : List Char) : fraction (c :: rest) = [] := by
  unfold fraction
  split
  · rename_i heq
    cases heq
    exact absurd rfl h
  · rfl

theorem numberLength_eq (hsign : sign = ['-'] ∨ sign = [] ∧ (whole ++ tail).head? ≠ some '-')
    (hwhole : ∀ c ∈ whole, c.isDigit = true) (htail : tail.takeWhile Char.isDigit = []) :
    numberLength (sign ++ (whole ++ tail)) = sign.length + whole.length + (fraction tail).length := by
  have hlength : (if (sign ++ (whole ++ tail)).head? = some '-' then 1 else 0) = sign.length := by
    rcases hsign with rfl | ⟨rfl, hhead⟩
    · rfl
    · rw [List.nil_append, if_neg hhead]
      rfl
  have hdigits : (whole ++ tail).takeWhile Char.isDigit = whole := by
    rw [List.takeWhile_append_of_pos hwhole, htail, List.append_nil]
  unfold numberLength
  simp only [hlength, List.drop_left, hdigits]
  rw [← List.drop_drop, List.drop_left, List.drop_left]
  cases tail with
  | nil => rfl
  | cons c rest =>
    by_cases hpoint : c = '.'
    · subst hpoint
      by_cases hnone : rest.takeWhile Char.isDigit = []
      · simp [fraction, hnone]
      · simp [fraction, hnone]
        omega
    · rw [fraction_cons_of_ne hpoint]
      split
      · rename_i heq
        cases heq
        exact absurd rfl hpoint
      · rfl

theorem takeWhile_prefix_nil {p : Char → Bool} (h : text.takeWhile p = []) (hrest : rest <+: text) :
    rest.takeWhile p = [] := by
  have hdrop : text.dropWhile p = text := by
    have happend := List.takeWhile_append_dropWhile (p := p) (l := text)
    rwa [h] at happend
  have hsame := takeWhile_append_prefix (hdrop ▸ hrest)
  rwa [h] at hsame

/-- The fraction stays the same when less of the text follows it. -/
theorem exists_fraction (tail : List Char) : ∃ after, tail = fraction tail ++ after ∧
    ∀ rest, rest <+: after → fraction (fraction tail ++ rest) = fraction tail := by
  by_cases hnone : fraction tail = []
  · refine ⟨tail, by rw [hnone]; rfl, ?_⟩
    intro rest hrest
    rw [hnone, List.nil_append]
    obtain ⟨more, rfl⟩ := hrest
    cases rest with
    | nil => rfl
    | cons c rest =>
      by_cases hpoint : c = '.'
      · subst hpoint
        have hdigits : (rest ++ more).takeWhile Char.isDigit = [] := by
          cases hrun : (rest ++ more).takeWhile Char.isDigit with
          | nil => rfl
          | cons d digits => simp [fraction, hrun] at hnone
        have hfront := takeWhile_prefix_nil hdigits (List.prefix_append rest more)
        simp [fraction, hfront]
      · exact fraction_cons_of_ne hpoint rest
  · cases tail with
    | nil => exact absurd rfl hnone
    | cons c tail =>
      by_cases hpoint : c = '.'
      · subst hpoint
        have hdigits : tail.takeWhile Char.isDigit ≠ [] := by
          intro heq
          simp [fraction, heq] at hnone
        have hfraction : fraction ('.' :: tail) = '.' :: tail.takeWhile Char.isDigit := by
          simp [fraction, hdigits]
        refine ⟨tail.dropWhile Char.isDigit, ?_, ?_⟩
        · rw [hfraction, List.cons_append, List.takeWhile_append_dropWhile]
        · intro rest hrest
          rw [hfraction, List.cons_append]
          simp [fraction, takeWhile_append_prefix hrest, hdigits]
      · exact absurd (fraction_cons_of_ne hpoint tail) hnone

theorem fraction_chars {tail : List Char} : ∀ c ∈ fraction tail, c.isDigit = true ∨ c = '.' := by
  intro c hc
  unfold fraction at hc
  split at hc
  · split at hc
    · cases hc
    · rcases List.mem_cons.mp hc with rfl | hmem
      · exact Or.inr rfl
      · exact Or.inl (List.all_eq_true.mp List.all_takeWhile c hmem)
  · cases hc

end Number

/-- The lexeme is read from the word, whatever part of the text is left behind it. -/
structure ReadFrom (afterPoint : Bool) (c : Char) (word after : List Char) (lexeme : Lexeme) : Prop where
  spelled : Spelled lexeme (c :: word)
  scans : ∀ rest, rest <+: after →
    scan afterPoint c (word ++ rest) = .lexeme lexeme (word.length + 1)

section Scan

variable {afterPoint : Bool} {c : Char} {text : List Char}

theorem isNamePart_of_isDigit (h : c.isDigit = true) : isNamePart c = true :=
  isNamePart_iff.mpr (Or.inr h)

/-- Whether a text begins with a digit, or with a sign and a digit. -/
def beginsNumber (c : Char) (text : List Char) : Bool :=
  c.isDigit || (c = '-' && text.head?.any Char.isDigit)

/-- A text that begins as a number does, taken apart. -/
theorem exists_digits (h : beginsNumber c text = true) :
    ∃ sign whole tail, c :: text = sign ++ (whole ++ tail) ∧ (sign = ['-'] ∨ sign = []) ∧ whole ≠ [] ∧
      (∀ d ∈ whole, d.isDigit = true) ∧ tail.takeWhile Char.isDigit = [] := by
  have hstop : ∀ text : List Char, (text.dropWhile Char.isDigit).takeWhile Char.isDigit = [] := by
    intro text
    have hsame := takeWhile_append_prefix (List.prefix_refl (text.dropWhile Char.isDigit))
    rw [List.takeWhile_append_of_pos (List.all_eq_true.mp List.all_takeWhile)] at hsame
    exact List.append_right_eq_self.mp hsame
  have hall : ∀ text : List Char, ∀ d ∈ text.takeWhile Char.isDigit, d.isDigit = true := fun _ =>
    List.all_eq_true.mp List.all_takeWhile
  by_cases hdigit : c.isDigit = true
  · refine ⟨[], (c :: text).takeWhile Char.isDigit, (c :: text).dropWhile Char.isDigit, ?_, Or.inr rfl, ?_,
      hall _, hstop _⟩
    · rw [List.nil_append, List.takeWhile_append_dropWhile]
    · rw [List.takeWhile_cons_of_pos hdigit]
      exact List.cons_ne_nil _ _
  · simp only [beginsNumber, hdigit, Bool.false_or, Bool.and_eq_true, decide_eq_true_eq] at h
    obtain ⟨rfl, hhead⟩ := h
    refine ⟨['-'], text.takeWhile Char.isDigit, text.dropWhile Char.isDigit, ?_, Or.inl rfl, ?_, hall _,
      hstop _⟩
    · rw [List.takeWhile_append_dropWhile]
      rfl
    · cases text with
      | nil => cases hhead
      | cons d text =>
        rw [List.takeWhile_cons_of_pos (by simpa using hhead)]
        exact List.cons_ne_nil _ _

/-- The characters of a number, which are the same ones when less of the text follows them. -/
theorem exists_numberWord (h : beginsNumber c text = true) :
    ∃ word after, text = word ++ after ∧ (∀ d ∈ c :: word, d.isDigit = true ∨ d = '-' ∨ d = '.') ∧
      ∀ rest, rest <+: after → beginsNumber c (word ++ rest) = true ∧
        numberLength (c :: (word ++ rest)) = word.length + 1 := by
  obtain ⟨sign, whole, tail, htext, hsign, hne, hdigits, hstop⟩ := exists_digits h
  obtain ⟨after, htail, hfraction⟩ := exists_fraction tail
  obtain ⟨first, more, rfl⟩ := List.exists_cons_of_ne_nil hne
  have hfirst : first.isDigit = true := hdigits first List.mem_cons_self
  have hapart : first ≠ '-' := by
    rintro rfl
    cases hfirst
  -- the characters of the number, of which the first is at hand
  obtain ⟨word, hword⟩ : ∃ word, c :: word = sign ++ (first :: more ++ fraction tail) := by
    rcases hsign with rfl | rfl
    · obtain ⟨rfl, -⟩ := List.cons.inj htext
      exact ⟨_, rfl⟩
    · obtain ⟨rfl, -⟩ := List.cons.inj htext
      exact ⟨_, rfl⟩
  have hsplit : c :: text = c :: word ++ after := by
    have hmore : first :: more ++ tail = first :: more ++ fraction tail ++ after := by
      rw [List.append_assoc, ← htail]
    rw [hword, htext, hmore]
    simp only [List.append_assoc]
  refine ⟨word, after, (List.cons.inj hsplit).2, ?_, ?_⟩
  · intro d hd
    rw [hword] at hd
    rcases List.mem_append.mp hd with hmem | hmem
    · rcases hsign with rfl | rfl
      · exact Or.inr (Or.inl (List.mem_singleton.mp hmem))
      · cases hmem
    · rcases List.mem_append.mp hmem with hmem | hmem
      · exact Or.inl (hdigits d hmem)
      · exact (fraction_chars d hmem).imp id Or.inr
  · intro rest hrest
    constructor
    · rcases hsign with rfl | rfl
      · obtain ⟨rfl, rfl⟩ := List.cons.inj hword
        simp [beginsNumber, hfirst]
      · obtain ⟨rfl, -⟩ := List.cons.inj hword
        simp [beginsNumber, hfirst]
    · have hfront : c :: (word ++ rest) = sign ++ (first :: more ++ (fraction tail ++ rest)) := by
        rw [← List.cons_append, hword]
        simp only [List.append_assoc]
      have hhead : (first :: more ++ (fraction tail ++ rest)).head? ≠ some '-' := by
        simpa using hapart
      have hleads : fraction tail ++ rest <+: tail := by
        obtain ⟨more', hmore'⟩ := hrest
        exact ⟨more', by rw [List.append_assoc, hmore', ← htail]⟩
      have hbehind := takeWhile_prefix_nil hstop hleads
      have hsign' := hsign.imp id fun hnil => And.intro hnil hhead
      rw [hfront, numberLength_eq hsign' hdigits hbehind, hfraction rest hrest, ← List.length_cons, hword]
      simp only [List.length_append]
      omega

theorem exists_number (hspace : Text.isSpace c = false) (hquote : Source.isQuote c = false)
    (hbehind : (c.isDigit && afterPoint) = false) (hnumber : beginsNumber c text = true) :
    ∃ word after value, text = word ++ after ∧ ReadFrom afterPoint c word after (.number value) := by
  obtain ⟨word, after, htext, hchars, hread⟩ := exists_numberWord hnumber
  refine ⟨word, after, numberValue (c :: word), htext, .number _ (List.cons_ne_nil _ _) hchars, ?_⟩
  intro rest hrest
  obtain ⟨hbegins, hlength⟩ := hread rest hrest
  unfold beginsNumber at hbegins
  have htake : (c :: (word ++ rest)).take (word.length + 1) = c :: word := by
    show (c :: word ++ rest).take (c :: word).length = c :: word
    exact List.take_left
  unfold scan
  simp only [hspace, hquote, hbehind, hbegins, hlength, htake, Bool.false_eq_true, if_false, if_true]

theorem readFrom_literal (hspace : Text.isSpace c = false) (hquote : Source.isQuote c = true)
    {body after : List Char} (hrun : quotedRun c text = some (body, after)) :
    text = body ++ [c] ++ after ∧ ReadFrom afterPoint c (body ++ [c]) after
      (.literal (String.ofList (Source.unescape body))) := by
  obtain ⟨rfl, hbody⟩ := quotedRun_eq_some hrun
  refine ⟨by simp, .literal _ hquote hbody, ?_⟩
  intro rest _
  have hrest : quotedRun c (body ++ [c] ++ rest) = some (body, rest) := by
    rw [List.append_assoc]
    exact hbody.run_eq hquote rest
  unfold scan
  simp only [hspace, hquote, hrest, Bool.false_eq_true, if_false, if_true, List.length_append,
    List.length_singleton]

/-- Digits behind a point are a name. -/
theorem readFrom_digits (hspace : Text.isSpace c = false) (hquote : Source.isQuote c = false)
    (hbehind : (c.isDigit && afterPoint) = true) :
    ReadFrom afterPoint c (text.takeWhile Char.isDigit) (text.dropWhile Char.isDigit)
      (.name (String.ofList (c :: text.takeWhile Char.isDigit))) := by
  have hdigit : c.isDigit = true := ((Bool.and_eq_true _ _).mp hbehind).1
  refine ⟨.name (List.cons_ne_nil _ _) ?_, ?_⟩
  · refine List.forall_mem_cons.mpr ⟨isNamePart_of_isDigit hdigit, ?_⟩
    intro d hd
    exact isNamePart_of_isDigit (List.all_eq_true.mp List.all_takeWhile d hd)
  · intro rest hrest
    have hrun : (c :: (text.takeWhile Char.isDigit ++ rest)).takeWhile Char.isDigit =
        c :: text.takeWhile Char.isDigit := by
      rw [List.takeWhile_cons_of_pos hdigit, takeWhile_append_prefix hrest]
    unfold scan
    simp only [hspace, hquote, hbehind, hrun, Bool.false_eq_true, if_false, if_true, List.length_cons]

theorem readFrom_name (hspace : Text.isSpace c = false) (hstart : isNameStart c = true) :
    ReadFrom afterPoint c (text.takeWhile isNamePart) (text.dropWhile isNamePart)
      (.name (String.ofList (c :: text.takeWhile isNamePart))) := by
  have hpart : isNamePart c = true := isNamePart_iff.mpr (Or.inl hstart)
  obtain ⟨hquote, -, -, -, -, -, hhyphen⟩ := Source.isNamePart_facts hpart
  have hdigit : c.isDigit = false := isDigit_of_isNameStart hstart
  refine ⟨.name (List.cons_ne_nil _ _) ?_, ?_⟩
  · exact List.forall_mem_cons.mpr ⟨hpart, List.all_eq_true.mp List.all_takeWhile⟩
  · intro rest hrest
    have hrun : (c :: (text.takeWhile isNamePart ++ rest)).takeWhile isNamePart =
        c :: text.takeWhile isNamePart := by
      rw [List.takeWhile_cons_of_pos hpart, takeWhile_append_prefix hrest]
    unfold scan
    simp [hspace, hquote, hdigit, hhyphen, hstart, hrun]

/-- An operator at the front of a text is at the front of any part of it that holds the operator. -/
theorem atFront?_of_prefix {op : Operator} {text front : List Char}
    (h : Operator.atFront? text = some op) (hfront : front <+: text) (hop : op.spelling <+: front) :
    Operator.atFront? front = some op := by
  obtain ⟨-, before, after, hall, hbefore⟩ := List.find?_eq_some_iff_append.mp h
  refine List.find?_eq_some_iff_append.mpr ⟨List.isPrefixOf_iff_prefix.mpr hop, before, after, hall, ?_⟩
  intro other hother
  have hnot := hbefore other hother
  simp only [Bool.not_eq_true', ← Bool.not_eq_true, List.isPrefixOf_iff_prefix] at hnot ⊢
  exact fun hleads => hnot (hleads.trans hfront)

theorem atFront?_none_of_prefix {text front : List Char} (h : Operator.atFront? text = none)
    (hfront : front <+: text) : Operator.atFront? front = none := by
  refine List.find?_eq_none.mpr ?_
  intro op hop hleads
  have hnot := List.find?_eq_none.mp h op hop
  rw [List.isPrefixOf_iff_prefix] at hleads hnot
  exact hnot (hleads.trans hfront)

/-- What is read where no other word begins. -/
theorem scan_symbol (hspace : Text.isSpace c = false) (hquote : Source.isQuote c = false)
    (hdigit : c.isDigit = false) (hname : isNameStart c = false) (hhyphen : c ≠ '-') :
    scan afterPoint c text =
      match Operator.atFront? (c :: text) with
      | some op => .lexeme (operator op) op.spelling.length
      | none => if marks.contains c then .lexeme (mark c) 1 else .unexpected := by
  unfold scan
  cases Operator.atFront? (c :: text) with
  | some op => simp [hspace, hquote, hdigit, hname, hhyphen]
  | none => simp [hspace, hquote, hdigit, hname, hhyphen]

theorem exists_operator (hspace : Text.isSpace c = false) (hquote : Source.isQuote c = false)
    (hdigit : c.isDigit = false) (hname : isNameStart c = false) {op : Operator}
    (h : Operator.atFront? (c :: text) = some op) :
    ∃ word after, text = word ++ after ∧ ReadFrom afterPoint c word after (.operator op) := by
  obtain ⟨hleads, -⟩ := List.find?_eq_some_iff_append.mp h
  have hfront : op.spelling <+: c :: text := List.isPrefixOf_iff_prefix.mp hleads
  obtain ⟨after, hafter⟩ := hfront
  obtain ⟨first, word, hspelling⟩ := List.exists_cons_of_ne_nil op.spelling_ne_nil
  rw [hspelling] at hafter
  obtain ⟨rfl, rfl⟩ := List.cons.inj hafter
  have hhyphen : first ≠ '-' := by
    rintro rfl
    cases op <;> simp [Operator.spelling] at hspelling
  refine ⟨word, after, rfl, hspelling ▸ .operator op, ?_⟩
  intro rest hrest
  have hleads : first :: (word ++ rest) <+: first :: (word ++ after) :=
    (List.prefix_append_right_inj (first :: word)).mpr hrest
  have hat : Operator.atFront? (first :: (word ++ rest)) = some op := by
    refine atFront?_of_prefix h hleads ?_
    rw [hspelling]
    exact List.prefix_append (first :: word) rest
  rw [scan_symbol hspace hquote hdigit hname hhyphen, hat]
  dsimp only
  rw [hspelling, List.length_cons]

theorem readFrom_mark (hspace : Text.isSpace c = false) (hquote : Source.isQuote c = false)
    (hdigit : c.isDigit = false) (hname : isNameStart c = false)
    (h : Operator.atFront? (c :: text) = none) (hmark : c ∈ marks) :
    ReadFrom afterPoint c [] text (.mark c) := by
  have hhyphen : c ≠ '-' := by
    rintro rfl
    revert hmark
    decide
  refine ⟨.mark hmark, ?_⟩
  intro rest hrest
  have hat := atFront?_none_of_prefix h ((List.prefix_append_right_inj [c]).mpr hrest)
  rw [List.nil_append, scan_symbol hspace hquote hdigit hname hhyphen]
  change Operator.atFront? (c :: rest) = none at hat
  rw [hat]
  simp [hmark]

/-- A lexeme is read from a word of the text. -/
theorem exists_word {length : Nat} {lexeme : Lexeme}
    (h : scan afterPoint c text = .lexeme lexeme length) :
    ∃ word after, text = word ++ after ∧ ReadFrom afterPoint c word after lexeme := by
  -- what is read is the lexeme at hand
  have hread : ∀ {word after lexeme'}, text = word ++ after → ReadFrom afterPoint c word after lexeme' →
      ∃ word after, text = word ++ after ∧ ReadFrom afterPoint c word after lexeme := by
    rintro word after lexeme' rfl hword
    have hscan := hword.scans after (List.prefix_refl after)
    rw [hscan] at h
    cases h
    exact ⟨word, after, rfl, hword⟩
  cases hspace : Text.isSpace c with
  | true => simp [scan, hspace] at h
  | false =>
    cases hquote : Source.isQuote c with
    | true =>
      cases hrun : quotedRun c text with
      | none => simp [scan, hspace, hquote, hrun] at h
      | some run =>
        obtain ⟨htext, hword⟩ := readFrom_literal hspace hquote hrun
        exact hread htext hword
    | false =>
      cases hbehind : (c.isDigit && afterPoint) with
      | true => exact hread List.takeWhile_append_dropWhile.symm (readFrom_digits hspace hquote hbehind)
      | false =>
        cases hnumber : beginsNumber c text with
        | true =>
          obtain ⟨word, after, value, htext, hword⟩ := exists_number hspace hquote hbehind hnumber
          exact hread htext hword
        | false =>
          obtain ⟨hdigit, hhyphen⟩ := (Bool.or_eq_false_iff).mp hnumber
          cases hname : isNameStart c with
          | true => exact hread List.takeWhile_append_dropWhile.symm (readFrom_name hspace hname)
          | false =>
            cases hoperator : Operator.atFront? (c :: text) with
            | some op =>
              obtain ⟨word, after, htext, hword⟩ :=
                exists_operator hspace hquote hdigit hname hoperator
              exact hread htext hword
            | none =>
              have hmark : c ∈ marks := by
                by_cases hmem : c ∈ marks
                · exact hmem
                · unfold beginsNumber at hnumber
                  unfold scan at h
                  simp [hspace, hquote, hbehind, hnumber, hname, hoperator, hmem] at h
              exact hread rfl (readFrom_mark hspace hquote hdigit hname hoperator hmark)

end Scan

end Lexeme

end Stencil
