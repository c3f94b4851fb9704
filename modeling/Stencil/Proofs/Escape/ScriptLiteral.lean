import Stencil.Escape

/-!
Escaping for JavaScript against the string literals of that language. All escapes that an escaped text has
are codes of four digits, and reading them gives the text back. Between quotes the escaped text is a literal
with the value of the text, unless the text has a line feed or a carriage return: these two ends of lines,
unlike the other two, stay as they are.
-/
namespace Stencil

namespace EscapeKind

variable {c quote : Char} {text : List Char}

def quotes : List Char := ['"', '\'']

/-- The characters that end a line, and so have no place in a literal. -/
def lineEnds : List Char := ['\n', '\r', '\u2028', '\u2029']

def hexValue? (c : Char) : Option Nat :=
  if c.isDigit then some (c.toNat - '0'.toNat)
  else if 'A' ≤ c ∧ c ≤ 'F' then some (c.toNat - 'A'.toNat + 10)
  else if 'a' ≤ c ∧ c ≤ 'f' then some (c.toNat - 'a'.toNat + 10)
  else none

/-- The code that four hexadecimal digits give. -/
def code? (a b c d : Char) : Option Nat := do
  return (← hexValue? a) * 4096 + (← hexValue? b) * 256 + (← hexValue? c) * 16 + (← hexValue? d)

/-- The escapes of four digits replaced by the characters with these codes. -/
def decodeScript : List Char → List Char
  | '\\' :: 'u' :: a :: b :: c :: d :: rest =>
    match code? a b c d with
    | some code => Char.ofNat code :: decodeScript rest
    | none => '\\' :: decodeScript ('u' :: a :: b :: c :: d :: rest)
  | c :: rest => c :: decodeScript rest
  | [] => []

/-- The units of 16 bits that a character has in the value of a literal. -/
def units (c : Char) : List Nat :=
  if c.toNat < 0x10000 then [c.toNat]
  else [0xD800 + (c.toNat - 0x10000) / 0x400, 0xDC00 + (c.toNat - 0x10000) % 0x400]

/-- What stands between the quotes of a literal, with the value. Escapes other than those of four digits are
left out, as no escaped text has them. -/
inductive ScriptLiteral (quote : Char) : List Char → List Nat → Prop
  | done : ScriptLiteral quote [] []
  | plain {c : Char} {text : List Char} {value : List Nat} (hquote : c ≠ quote) (hescape : c ≠ '\\')
      (hline : c ∉ lineEnds) (hrest : ScriptLiteral quote text value) :
      ScriptLiteral quote (c :: text) (units c ++ value)
  | escape {a b c d : Char} {code : Nat} {text : List Char} {value : List Nat}
      (hcode : code? a b c d = some code) (hrest : ScriptLiteral quote text value) :
      ScriptLiteral quote ('\\' :: 'u' :: a :: b :: c :: d :: text) (code :: value)

theorem hexValue?_hexDigit (n : Nat) : hexValue? (hexDigit n) = some (n % 16) := by
  have hdigits : ∀ d < 16, hexValue? (Nat.digitChar d).toUpper = some d := by decide
  exact hdigits (n % 16) (Nat.mod_lt n (by decide))

/-- The digits of an escape give the code back. -/
theorem code?_unicodeEscape {n : Nat} (h : n < 0x10000) :
    code? (hexDigit (n / 4096)) (hexDigit (n / 256)) (hexDigit (n / 16)) (hexDigit n) = some n := by
  have hsum : n / 4096 % 16 * 4096 + n / 256 % 16 * 256 + n / 16 % 16 * 16 + n % 16 = n := by omega
  simp only [code?, hexValue?_hexDigit]
  exact congrArg some hsum

/-- A digit of an escape is no mark. -/
theorem hexDigit_ne {n : Nat} (h : hexValue? c = none) : hexDigit n ≠ c := by
  rintro rfl
  rw [hexValue?_hexDigit] at h
  cases h

/-- The characters that are escaped. -/
theorem isScriptSpecial_iff : isScriptSpecial c = true ↔
    c ∈ ['\\', '"', '\'', '<', '>', '&', '=', '-', ';', '\u2028', '\u2029'] := by
  simp [isScriptSpecial, or_assoc]

theorem toNat_of_isScriptSpecial (h : isScriptSpecial c = true) : c.toNat < 0x10000 := by
  have hcodes : (['\\', '"', '\'', '<', '>', '&', '=', '-', ';', '\u2028', '\u2029'].all fun d =>
      decide (d.toNat < 0x10000)) = true := by decide
  exact of_decide_eq_true (List.all_eq_true.mp hcodes c (isScriptSpecial_iff.mp h))

/-- What an escaped character is written with. -/
theorem mem_unicodeEscape {d : Char} (h : d ∈ unicodeEscape c) :
    d = '\\' ∨ d = 'u' ∨ ∃ n, d = hexDigit n := by
  simp only [unicodeEscape, List.mem_cons, List.not_mem_nil, or_false] at h
  rcases h with rfl | rfl | h | h | h | h
  · exact Or.inl rfl
  · exact Or.inr (Or.inl rfl)
  · exact Or.inr (Or.inr ⟨_, h⟩)
  · exact Or.inr (Or.inr ⟨_, h⟩)
  · exact Or.inr (Or.inr ⟨_, h⟩)
  · exact Or.inr (Or.inr ⟨_, h⟩)

/-- Where a character that no escape is written with can come from. -/
theorem mem_escapeScript_iff (hmark : hexValue? c = none) (hletter : c ≠ 'u') (hslash : c ≠ '\\') :
    c ∈ escapeScript text ↔ c ∈ text ∧ isScriptSpecial c = false := by
  have hescape : ∀ d, c ∉ unicodeEscape d := by
    intro d hmem
    rcases mem_unicodeEscape hmem with h | h | ⟨n, h⟩
    · exact hslash h
    · exact hletter h
    · exact hexDigit_ne hmark h.symm
  simp only [escapeScript, List.mem_flatMap]
  constructor
  · rintro ⟨d, hd, hmem⟩
    cases hspecial : isScriptSpecial d with
    | true =>
      simp only [scriptForm, hspecial, if_true] at hmem
      exact absurd hmem (hescape d)
    | false =>
      simp only [scriptForm, hspecial, Bool.false_eq_true, if_false, List.mem_singleton] at hmem
      exact ⟨hmem ▸ hd, hmem ▸ hspecial⟩
  · rintro ⟨hmem, hspecial⟩
    exact ⟨c, hmem, by simp [scriptForm, hspecial]⟩

/-- No escaped text can end a literal, nor holds one of the two ends of lines that are escaped. -/
theorem not_mem_escapeScript (h : c ∈ quotes ∨ c = '\u2028' ∨ c = '\u2029') : c ∉ escapeScript text := by
  have hmarks : (['"', '\'', '\u2028', '\u2029'].all fun d =>
      decide (hexValue? d = none ∧ d ≠ 'u' ∧ d ≠ '\\' ∧ isScriptSpecial d = true)) = true := by decide
  have hmem : c ∈ ['"', '\'', '\u2028', '\u2029'] := by simpa [quotes, or_assoc] using h
  obtain ⟨hmark, hletter, hslash, hspecial⟩ := of_decide_eq_true (List.all_eq_true.mp hmarks c hmem)
  rw [mem_escapeScript_iff hmark hletter hslash, hspecial]
  exact fun hmem => nomatch hmem.2

/-- The other two stay where they are. -/
theorem mem_escapeScript_of_break (h : c = '\n' ∨ c = '\r') : c ∈ escapeScript text ↔ c ∈ text := by
  rcases h with rfl | rfl
  · rw [mem_escapeScript_iff (by decide) (by decide) (by decide)]
    exact and_iff_left (by decide)
  · rw [mem_escapeScript_iff (by decide) (by decide) (by decide)]
    exact and_iff_left (by decide)

/-- Text by text: the form of the first character, and the rest. -/
theorem escapeScript_cons (c : Char) (text : List Char) :
    escapeScript (c :: text) = scriptForm c ++ escapeScript text := rfl

/-- Every backslash begins an escape of four digits. -/
theorem exists_code_of_backslash {front rest : List Char} (h : escapeScript text = front ++ '\\' :: rest) :
    ∃ a b c d after code, rest = 'u' :: a :: b :: c :: d :: after ∧ code? a b c d = some code := by
  induction text generalizing front with
  | nil => simp [escapeScript] at h
  | cons c text ih =>
    rw [escapeScript_cons] at h
    rcases List.append_eq_append_iff.mp h with ⟨behind, -, hrest⟩ | ⟨behind, hform, hrest⟩
    · exact ih hrest
    · cases behind with
      | nil => exact @ih [] hrest.symm
      | cons d behind =>
        obtain ⟨rfl, rfl⟩ := List.cons.inj hrest
        -- the backslash is one of those that the first character is written with
        unfold scriptForm at hform
        split at hform
        · rename_i hspecial
          cases front with
          | nil =>
            obtain ⟨-, rfl⟩ := List.cons.inj hform
            exact ⟨_, _, _, _, _, _, rfl, code?_unicodeEscape (toNat_of_isScriptSpecial hspecial)⟩
          | cons e front =>
            obtain ⟨-, htail⟩ := List.cons.inj hform
            have hslash : ∀ n, hexDigit n ≠ '\\' := fun n => hexDigit_ne (by decide)
            have hmem : '\\' ∈ 'u' :: [hexDigit (c.toNat / 4096), hexDigit (c.toNat / 256),
                hexDigit (c.toNat / 16), hexDigit c.toNat] := htail ▸ by simp
            simp [(hslash _).symm] at hmem
        · rename_i hplain
          have hmem : '\\' ∈ [c] := by
            rw [hform]
            simp
          obtain rfl := List.mem_singleton.mp hmem
          exact absurd (by decide) hplain

theorem decodeScript_unicodeEscape (h : c.toNat < 0x10000) (rest : List Char) :
    decodeScript (unicodeEscape c ++ rest) = c :: decodeScript rest := by
  change decodeScript ('\\' :: 'u' :: _ :: _ :: _ :: _ :: rest) = _
  rw [decodeScript, code?_unicodeEscape h]
  exact congrArg (· :: decodeScript rest) (Char.ofNat_toNat c)

theorem decodeScript_cons (h : c ≠ '\\') (rest : List Char) :
    decodeScript (c :: rest) = c :: decodeScript rest := by
  rw [decodeScript]
  rintro _ _ _ _ _ rfl
  exact absurd rfl h

theorem ne_backslash (h : ¬ isScriptSpecial c = true) : c ≠ '\\' := by
  rintro rfl
  exact h (by decide)

theorem decodeScript_escapeScript (text : List Char) : decodeScript (escapeScript text) = text := by
  induction text with
  | nil => rfl
  | cons c text ih =>
    rw [escapeScript_cons]
    unfold scriptForm
    split
    · rename_i hspecial
      rw [decodeScript_unicodeEscape (toNat_of_isScriptSpecial hspecial), ih]
    · rename_i hplain
      rw [List.singleton_append, decodeScript_cons (ne_backslash hplain), ih]

/-- The value that the escape of a character has in a literal. -/
theorem scriptLiteral_unicodeEscape_iff (h : isScriptSpecial c = true) {rest : List Char}
    {value : List Nat} : ScriptLiteral quote (unicodeEscape c ++ rest) value ↔
      ∃ value', value = units c ++ value' ∧ ScriptLiteral quote rest value' := by
  have hcode := code?_unicodeEscape (toNat_of_isScriptSpecial h)
  have hunits : units c = [c.toNat] := if_pos (toNat_of_isScriptSpecial h)
  constructor
  · intro hliteral
    cases hliteral with
    | plain hquote hescape hline hrest => exact absurd rfl hescape
    | escape hcode' hrest =>
      cases hcode.symm.trans hcode'
      exact ⟨_, by rw [hunits]; rfl, hrest⟩
  · rintro ⟨value', rfl, hrest⟩
    rw [hunits]
    exact .escape hcode hrest

theorem scriptLiteral_cons_iff (h : c ≠ '\\') {rest : List Char} {value : List Nat} :
    ScriptLiteral quote (c :: rest) value ↔
      c ≠ quote ∧ c ∉ lineEnds ∧ ∃ value', value = units c ++ value' ∧ ScriptLiteral quote rest value' := by
  constructor
  · intro hliteral
    cases hliteral with
    | plain hquote _ hline hrest => exact ⟨hquote, hline, _, rfl, hrest⟩
    | escape hcode hrest => exact absurd rfl h
  · rintro ⟨hquote, hline, value', rfl, hrest⟩
    exact .plain hquote h hline hrest

/-- An escaped text is a literal if the text is written on one line, and then its value is the text. -/
theorem scriptLiteral_escapeScript_iff (hquote : quote ∈ quotes) {value : List Nat} :
    ScriptLiteral quote (escapeScript text) value ↔
      value = text.flatMap units ∧ '\n' ∉ text ∧ '\r' ∉ text := by
  induction text generalizing value with
  | nil =>
    constructor
    · rintro ⟨⟩
      simp
    · rintro ⟨rfl, -⟩
      exact .done
  | cons c text ih =>
    rw [escapeScript_cons]
    have hbreaks : '\n' ∉ c :: text ∧ '\r' ∉ c :: text ↔
        (c ≠ '\n' ∧ c ≠ '\r') ∧ '\n' ∉ text ∧ '\r' ∉ text := by
      simp only [List.mem_cons, not_or, ne_eq, eq_comm]
      exact and_and_and_comm
    rw [hbreaks, List.flatMap_cons]
    unfold scriptForm
    split
    · rename_i hspecial
      have hne : c ≠ '\n' ∧ c ≠ '\r' := by
        constructor <;> rintro rfl <;> exact absurd hspecial (by decide)
      rw [scriptLiteral_unicodeEscape_iff hspecial]
      constructor
      · rintro ⟨value', rfl, hrest⟩
        obtain ⟨rfl, hlines⟩ := ih.mp hrest
        exact ⟨rfl, hne, hlines⟩
      · rintro ⟨rfl, -, hlines⟩
        exact ⟨_, rfl, ih.mpr ⟨rfl, hlines⟩⟩
    · rename_i hplain
      have hspecial := List.all_eq_true.mp
        (by decide : (['"', '\'', '\u2028', '\u2029'].all isScriptSpecial) = true)
      have hne : c ≠ quote := by
        rintro rfl
        exact hplain (hspecial c (List.mem_append_left ['\u2028', '\u2029'] hquote))
      have hline : c ∉ lineEnds ↔ c ≠ '\n' ∧ c ≠ '\r' := by
        have h1 : c ≠ '\u2028' := fun h => hplain (hspecial c (by simp [h]))
        have h2 : c ≠ '\u2029' := fun h => hplain (hspecial c (by simp [h]))
        simp [lineEnds, h1, h2]
      rw [List.singleton_append, scriptLiteral_cons_iff (ne_backslash hplain), hline]
      constructor
      · rintro ⟨-, hbreak, value', rfl, hrest⟩
        obtain ⟨rfl, hlines⟩ := ih.mp hrest
        exact ⟨rfl, hbreak, hlines⟩
      · rintro ⟨rfl, hbreak, hlines⟩
        exact ⟨hne, hbreak, _, rfl, ih.mpr ⟨rfl, hlines⟩⟩

/-- Between quotes an escaped text is a literal, with the value of the text, exactly if the text has neither
of the two ends of lines that escaping leaves alone. In all texts no quote is left and no other end of a
line, a backslash begins four digits, and reading these gives the text back, so that no two texts are
escaped alike. -/
theorem apply_js_literal (text : String) {quote : Char} (hquote : quote ∈ quotes) :
    (∀ value, ScriptLiteral quote (js.apply text).toList value ↔
      value = text.toList.flatMap units ∧ '\n' ∉ text.toList ∧ '\r' ∉ text.toList) ∧
    (∀ c, c ∈ quotes ∨ c = '\u2028' ∨ c = '\u2029' → c ∉ (js.apply text).toList) ∧
    (∀ c, c = '\n' ∨ c = '\r' → (c ∈ (js.apply text).toList ↔ c ∈ text.toList)) ∧
    (∀ front rest, (js.apply text).toList = front ++ '\\' :: rest →
      ∃ a b c d after code, rest = 'u' :: a :: b :: c :: d :: after ∧ code? a b c d = some code) ∧
    decodeScript (js.apply text).toList = text.toList ∧
    ∀ other, js.apply other = js.apply text → other = text := by
  have hjs : ∀ text, (js.apply text).toList = escapeScript text.toList := fun _ => String.toList_ofList
  simp only [hjs]
  refine ⟨fun value => scriptLiteral_escapeScript_iff hquote, fun c => not_mem_escapeScript,
    fun c => mem_escapeScript_of_break, fun front rest => exists_code_of_backslash,
    decodeScript_escapeScript text.toList, fun other hother => ?_⟩
  have hsame := congrArg (decodeScript ∘ String.toList) hother
  simp only [Function.comp_apply, hjs, decodeScript_escapeScript] at hsame
  exact String.toList_inj.mp hsame

/-- A text with both quotes, a backslash, an end of a line that is escaped, and a character of two units. -/
theorem apply_js_literal_marked : '"' ∈ quotes ∧
    ScriptLiteral '"' (js.apply "'\\\"\u2028😀").toList [39, 92, 34, 0x2028, 0xD83D, 0xDE00] :=
  ⟨by decide, ((apply_js_literal "'\\\"\u2028😀" (by decide : '"' ∈ quotes)).1 _).mpr (by decide)⟩

/-- A line feed is no part of a literal, and is not escaped. -/
theorem not_scriptLiteral_line_feed : js.apply "\n" = "\n" ∧
    ∀ quote ∈ quotes, ¬ ∃ value, ScriptLiteral quote (js.apply "\n").toList value := by
  refine ⟨by decide, ?_⟩
  rintro quote - ⟨value, hvalue⟩
  have hplain : (js.apply "\n").toList = ['\n'] := by decide
  rw [hplain, scriptLiteral_cons_iff (by decide)] at hvalue
  exact hvalue.2.1 (by decide)

end EscapeKind

end Stencil
