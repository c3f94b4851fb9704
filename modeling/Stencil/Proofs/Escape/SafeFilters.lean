import Stencil.Proofs.Engine.Printing
import Stencil.Proofs.Escape.HtmlSafe

/-!
The filter that escapes, as the last one of an output tag. It escapes the texts inside a value, and the tag
prints the value afterwards, unescaped. This is safe as long as the value has no object with members that
is printed: these are printed with quotes around the names and the texts, and the names as they are.
-/
namespace Stencil

namespace Value

mutual

/-- Whether the text of the value has the members of an object in it. -/
def printsMembers : Value → Bool
  | array items => anyPrintsMembers items
  | object fields => !fields.isEmpty
  | _ => false

def anyPrintsMembers : List Value → Bool
  | [] => false
  | item :: rest => printsMembers item || anyPrintsMembers rest

end

/-- The text of an array begins with that of its first item. -/
theorem displayItems_cons (item : Value) (rest : List Value) :
    displayItems (item :: rest) =
      display item ++ if rest.isEmpty then "" else "," ++ displayItems rest := by
  cases rest with
  | nil => simp [displayItems]
  | cons next rest => simp [displayItems, String.append_assoc]

/-- The text of an object with members has quotes. -/
theorem quote_mem_json {fields : List (String × Value)} (h : fields ≠ []) :
    '"' ∈ (json (object fields)).toList := by
  obtain ⟨⟨name, item⟩, rest, rfl⟩ := List.exists_cons_of_ne_nil h
  have hname : '"' ∈ (Json.quoted name).toList := by simp [Json.quoted]
  cases rest with
  | nil => simp [json, jsonMembers, hname]
  | cons next rest => simp [json, jsonMembers, hname]

end Value

theorem IsHtmlSafe.not_mem {text : List Char} (h : IsHtmlSafe text) {c : Char} (hc : c ∈ markupChars) :
    c ∉ text := by
  induction text with
  | nil => exact List.not_mem_nil
  | cons d rest ih =>
    rintro (_ | ⟨_, hmem⟩)
    · exact h.1 hc
    · exact ih h.2.2 hmem

namespace Filter

open Value (printsMembers anyPrintsMembers)

theorem isHtmlSafe_scalar {f : List Char → List Char} (hf : ∀ text, IsHtmlSafe (f text))
    (text : List Char) : IsHtmlSafe (Value.string (String.ofList (f text))).display.toList := by
  rw [Value.display, String.toList_ofList]
  exact hf text

mutual

/-- What is printed of a value with safe texts is safe but for the members of objects. -/
theorem isHtmlSafe_mapText {f : List Char → List Char} (hf : ∀ text, IsHtmlSafe (f text)) :
    (value : Value) → value.printsMembers = false → IsHtmlSafe (mapText f value).display.toList
  | .array items, h => isHtmlSafe_mapTextItems hf items h
  | .object [], _ => by
    change IsHtmlSafe (Value.object []).display.toList
    decide +kernel
  | .object (_ :: _), h => by cases h
  | .null, _ => isHtmlSafe_scalar hf _
  | .bool _, _ => isHtmlSafe_scalar hf _
  | .number _, _ => isHtmlSafe_scalar hf _
  | .string _, _ => isHtmlSafe_scalar hf _

theorem isHtmlSafe_mapTextItems {f : List Char → List Char} (hf : ∀ text, IsHtmlSafe (f text)) :
    (items : List Value) → anyPrintsMembers items = false →
      IsHtmlSafe (Value.displayItems (mapTextItems f items)).toList
  | [], _ => True.intro
  | item :: rest, h => by
    obtain ⟨hitem, hrest⟩ := Bool.or_eq_false_iff.mp h
    rw [mapTextItems, Value.displayItems_cons, String.toList_append]
    refine (isHtmlSafe_mapText hf item hitem).append ?_
    split
    · exact True.intro
    · rw [String.toList_append]
      exact IsHtmlSafe.append (by decide) (isHtmlSafe_mapTextItems hf rest hrest)

end

mutual

/-- The members of an object bring quotes into the text. -/
theorem quote_mem_mapText (f : List Char → List Char) : (value : Value) → value.printsMembers = true →
    '"' ∈ (mapText f value).display.toList
  | .array items, h => quote_mem_mapTextItems f items h
  | .object [], h => by cases h
  | .object ((name, item) :: rest), _ => Value.quote_mem_json (List.cons_ne_nil _ _)
  | .null, h => by cases h
  | .bool _, h => by cases h
  | .number _, h => by cases h
  | .string _, h => by cases h

theorem quote_mem_mapTextItems (f : List Char → List Char) : (items : List Value) →
    anyPrintsMembers items = true → '"' ∈ (Value.displayItems (mapTextItems f items)).toList
  | [], h => by cases h
  | item :: rest, h => by
    rw [mapTextItems, Value.displayItems_cons, String.toList_append, List.mem_append]
    rcases (Bool.or_eq_true _ _).mp h with hitem | hrest
    · exact Or.inl (quote_mem_mapText f item hitem)
    · have hmem := quote_mem_mapTextItems f rest hrest
      cases rest with
      | nil => cases hrest
      | cons next rest =>
        refine Or.inr ?_
        rw [if_neg (by simp [mapTextItems]), String.toList_append, List.mem_append]
        exact Or.inr hmem

end

/-- The text that the filter leaves is safe exactly if no object with members is printed. -/
theorem isHtmlSafe_escape_iff (value : Value) :
    IsHtmlSafe (escape value []).display.toList ↔ value.printsMembers = false := by
  have hhtml : ∀ text, IsHtmlSafe (Text.onChars EscapeKind.html.apply text) := by
    intro text
    unfold Text.onChars
    rw [EscapeKind.apply, String.toList_ofList, String.toList_ofList]
    exact isHtmlSafe_escapeHtml text
  constructor
  · intro h
    rw [Bool.eq_false_iff]
    intro hmembers
    exact h.not_mem (by decide) (quote_mem_mapText _ value hmembers)
  · exact isHtmlSafe_mapText hhtml value

end Filter

/-! Tags that print a variable through one filter. -/

section Tag

variable {name filter : String}

/-- The text of a variable with a filter behind it. -/
def pipedText (name filter : String) : String := name ++ "|" ++ filter

theorem toList_pipedText (name filter : String) :
    (pipedText name filter).toList = name.toList ++ Source.piped [filter.toList] := by
  simp [pipedText, Source.piped]

/-- A word that is made of letters as names are. -/
structure IsWord (word : String) : Prop where
  ne_nil : word.toList ≠ []
  parts : ∀ c ∈ word.toList, isNamePart c = true

theorem IsVariable.isWord (h : IsVariable name) : IsWord name := by
  obtain ⟨first, rest, hchars, -, hparts⟩ := h.chars
  rw [← hchars] at hparts
  exact ⟨by simp [hchars], hparts⟩

theorem isWord_of_all {word : String} (hne : word.toList ≠ []) (h : word.toList.all isNamePart = true) :
    IsWord word := ⟨hne, List.all_eq_true.mp h⟩

namespace IsWord

variable {word : String} (h : IsWord word)

include h

theorem hasEnds : Lexeme.HasEnds word.toList :=
  Lexeme.hasEnds_of_forall h.ne_nil fun c hc => Source.isBlank_of_isNamePart (h.parts c hc)

theorem uncut : Source.Uncut .start word.toList .start :=
  Lexeme.uncut_plain fun c hc => Lexeme.not_mem_delimiters_of_isNamePart (h.parts c hc)

theorem isPart : Source.IsPart word.toList where
  uncut := h.uncut
  apart := by
    obtain ⟨first, rest, hchars⟩ := List.exists_cons_of_ne_nil h.ne_nil
    refine ⟨first, by rw [hchars]; rfl, ?_⟩
    exact (Lexeme.not_mem_delimiters_of_isNamePart (h.parts first (by simp [hchars]))).2

theorem callText : Source.CallText.ofText word.toList = ⟨word.toList, none⟩ := by
  refine Source.callText_plain h.hasEnds.trim_self ?_
  intro hmem
  exact absurd (h.parts '(' hmem) (by decide)

end IsWord

/-- The tag has the variable and the filter, and no escaping if the filter is a safe one. -/
theorem outputTag_piped (hname : IsWord name) (hfilter : IsWord filter) (escape : Option EscapeKind)
    (line : Nat) :
    TokenTree.outputTag escape (' ' :: (pipedText name filter).toList ++ [' ']) line =
      .ok ⟨name, [⟨filter, none⟩], if Filter.isSafe filter then none else escape, line⟩ := by
  have hparts : ∀ part ∈ [filter.toList], Source.IsPart part :=
    List.forall_mem_singleton.mpr hfilter.isPart
  have hends : Lexeme.HasEnds (pipedText name filter).toList := by
    rw [toList_pipedText]
    simpa [Source.piped] using hname.hasEnds.append ['|'] hfilter.hasEnds
  have hspace : ∀ c ∈ [' '], Text.isSpace c = true := List.forall_mem_singleton.mpr (by decide)
  have htrim := Lexeme.trim_eq hspace hends hspace
  have hclosed : Source.Nesting.start.after? (pipedText name filter).toList = some .start := by
    rw [toList_pipedText, hname.uncut.after?_append]
    exact Source.closed_piped hparts
  obtain ⟨words, hwords⟩ := Source.exists_words_of_after? hclosed rfl
  have hpieces : Source.pipeParts (pipedText name filter).toList = [name.toList, filter.toList] := by
    rw [toList_pipedText]
    exact Source.pipeParts_piped hname.uncut hparts
  have htrim' := hname.hasEnds.trim_self
  have htag := outputTag_eq escape line htrim hends.ne_nil hwords hpieces (by rw [htrim']; exact hname.ne_nil)
    (List.forall_mem_singleton.mpr (by rw [hfilter.callText]; exact hfilter.ne_nil))
  rw [htrim', String.ofList_toList] at htag
  simpa [filterText, hfilter.callText] using htag

/-- A name and a pipe do not close a tag. -/
theorem staysOpen_pipedText (hname : IsWord name) (hfilter : IsWord filter) :
    StaysOpen (pipedText name filter) := by
  intro hwithin
  have hbrace : '\x7d' ∈ (pipedText name filter).toList :=
    hwithin.subset List.mem_cons_self
  have hapart : ∀ {word}, IsWord word → '\x7d' ∉ word.toList := fun h hmem =>
    absurd (h.parts _ hmem) (by decide)
  rw [toList_pipedText] at hbrace
  simp [Source.piped, hapart hname, hapart hfilter] at hbrace

end Tag

section Template

variable {env : Environment} {name filter : String}

/-- A source that prints a variable through a safe filter compiles, and nothing escapes its output. -/
theorem compile_piped {f : Filter} (hname : IsVariable name) (hfilter : IsWord filter)
    (hsafe : Filter.isSafe filter = true) (hget : Fields.get? env.settings.filters filter = some f)
    (id : String) (origin : Option String) (store : Store) :
    env.compile id (outputSource (pipedText name filter)) origin store =
      .ok (printer id origin (.path name []) [.mk filter f []] none) store := by
  have htag := outputTag_piped hname.isWord hfilter env.settings.autoescape 1
  rw [if_pos hsafe] at htag
  have hcalls : env.scope.filterCalls 1 [⟨filter, none⟩] = .ok [.mk filter f []] := by
    rw [Scope.filterCalls, show env.scope.filters = env.settings.filters from rfl, hget]
    rfl
  have hnode : env.scope.output ⟨name, [⟨filter, none⟩], none, 1⟩ =
      .ok (.output (.path name []) [.mk filter f []] none) :=
    output_eq (Expr.ofText_variable hname env.settings.filters) hcalls
  exact compile_of_outputTag (staysOpen_pipedText hname.isWord hfilter) htag hnode id origin store

/-- The value of a variable through a filter. -/
theorem expr_piped {jump : Jump} {frame : Frame} {context : Context} {store : Store} (f : Filter) :
    Eval.expr jump frame context ((Expr.path name []).through [.mk filter f []]) store =
      .ok (f (Eval.find frame.env.settings.globals context name []) []) store := by
  rfl

/-- What is printed of a variable behind the filter that escapes, in every context and from every place:
its texts are escaped, and nothing else. The output is safe exactly if no object with members is printed. -/
theorem escape_tag_prints (hname : IsVariable name) (hfilter : filter ∈ ["e", "escape"])
    (hget : Fields.get? env.settings.filters filter = some Filter.escape)
    (id : String) (origin : Option String) (store : Store) :
    ∃ template, env.compile id (outputSource (pipedText name filter)) origin store = .ok template store ∧
      ∀ ancestors context started value, id ∉ ancestors →
        Eval.find env.settings.globals context name [] = value →
        ∃ text, Engine.renderTemplate env template context ancestors started = .ok text started ∧
          text = (Filter.escape value []).display ∧
          (IsHtmlSafe text.toList ↔ value.printsMembers = false) := by
  have hsafe : IsWord filter ∧ Filter.isSafe filter = true := by
    simp only [List.mem_cons, List.not_mem_nil, or_false] at hfilter
    rcases hfilter with rfl | rfl
    · exact ⟨isWord_of_all (by decide) (by decide), by decide⟩
    · exact ⟨isWord_of_all (by decide) (by decide), by decide⟩
  refine ⟨_, compile_piped hname hsafe.1 hsafe.2 hget id origin store, ?_⟩
  rintro ancestors context started value hnew rfl
  refine ⟨_, renderTemplate_printer hnew (expr_piped Filter.escape), rfl, ?_⟩
  exact Filter.isHtmlSafe_escape_iff _

end Template

section Sample

/-- An array in an array, with markup and an entity. -/
def nestedMarkup : Value := .array [.string "<a>", .array [.string "x &amp; 'y'", .null]]

theorem escape_tag_prints_nested :
    ∃ template text, (Engine.new {} {} (.table [])).env.compile "t" (outputSource "v|e") none {} =
        .ok template {} ∧
      Engine.renderTemplate (Engine.new {} {} (.table [])).env template
        { bindings := [("v", nestedMarkup)] } [] {} = .ok text {} ∧
      text = "&lt;a&gt;,x &amp; &#39;y&#39;," ∧ IsHtmlSafe text.toList := by
  obtain ⟨template, hcompile, hprints⟩ := @escape_tag_prints (Engine.new {} {} (.table [])).env "v" "e"
    ⟨by decide +kernel, by decide +kernel⟩ (by decide) rfl "t" none {}
  obtain ⟨text, hrender, htext, hsafe⟩ :=
    hprints [] { bindings := [("v", nestedMarkup)] } {} nestedMarkup (by simp) rfl
  refine ⟨template, text, hcompile, hrender, htext.trans (by decide +kernel), hsafe.mpr rfl⟩

/-- An object whose one member has markup for its name. -/
def markupMember : Value := .object [("<b>", .number (.integer 1))]

/-- The name is printed as it is, with the quotes of the JSON text. -/
theorem escape_tag_leaves_names :
    ((Engine.new {} {} (.table [])).render (outputSource "v|e") { bindings := [("v", markupMember)] }).1 =
        .ok "\x7b\"<b>\":\"1\"\x7d" ∧
      ¬ IsHtmlSafe "\x7b\"<b>\":\"1\"\x7d".toList := by
  have hrender := eq_ok_of_isOk (by decide +kernel :
    ((Engine.new {} {} (.table [])).render (outputSource "v|e")
      { bindings := [("v", markupMember)] }).1.isOk = true) ""
  refine ⟨hrender.trans ?_, by decide +kernel⟩
  exact congrArg Except.ok (by decide +kernel)

end Sample

end Stencil
