import Stencil.Node.Compile
import Stencil.Proofs.Expr.Chain
import Stencil.Proofs.Source.Runs
import Stencil.Token.Tree

/-!
Output tags as expressions. The tag cuts its content at the pipes and the parts at their brackets; where
the content is an expression without a pipe at the top level, or a chain in which the filters apply to all
before them, the pieces are read as the grammar reads them in the whole.
-/
namespace Stencil

namespace Source

open Lexeme (HasEnds Spelled)

variable {afterPoint : Bool} {name : String} {part blanks : List Char}

theorem trim_padded {front core back : List Char} (hfront : ∀ c ∈ front, Text.isSpace c = true)
    (hcore : HasEnds core) (hback : ∀ c ∈ back, Text.isSpace c = true)
    (hblanks : ∀ c ∈ blanks, Text.isSpace c = true) :
    Text.trim (front ++ core ++ back ++ blanks) = core := by
  have hbehind : ∀ c ∈ back ++ blanks, Text.isSpace c = true := by
    intro c hc
    rcases List.mem_append.mp hc with hmem | hmem
    · exact hback c hmem
    · exact hblanks c hmem
  rw [List.append_assoc]
  exact Lexeme.trim_eq hfront hcore hbehind

theorem spelled_name {word : List Char} (h : Spelled (.name name) word) :
    word = name.toList ∧ name.toList ≠ [] ∧ ∀ c ∈ word, c ∉ Lexeme.delimiters ∧ c ≠ '|' := by
  generalize hlexeme : Lexeme.name name = lexeme at h
  cases h with
  | @name word hne hparts =>
    cases hlexeme
    refine ⟨String.toList_ofList.symm, ?_, fun c hc => Lexeme.not_mem_delimiters_of_isNamePart (hparts c hc)⟩
    rw [String.toList_ofList]
    exact hne
  | _ => cases hlexeme

theorem callText_plain {text core : List Char} (htrim : Text.trim text = core) (h : '(' ∉ core) :
    CallText.ofText text = ⟨core, none⟩ := by
  unfold CallText.ofText
  rw [htrim]
  simp [h]

theorem callText_brackets {text word gap arguments : List Char}
    (htrim : Text.trim text = word ++ gap ++ '(' :: (arguments ++ [')'])) (hword : HasEnds word)
    (hparen : '(' ∉ word) (hgap : ∀ c ∈ gap, Text.isSpace c = true) :
    CallText.ofText text = ⟨word, some arguments⟩ := by
  have hfront : ∀ c ∈ word ++ gap, (c != '(') = true := by
    intro c hc
    rw [bne_iff_ne]
    rintro rfl
    rcases List.mem_append.mp hc with hmem | hmem
    · exact hparen hmem
    · have hspace := hgap '(' hmem
      revert hspace
      decide
  have htake : (word ++ gap ++ '(' :: (arguments ++ [')'])).takeWhile (· != '(') = word ++ gap := by
    rw [List.takeWhile_append_of_pos hfront]
    simp
  have hdrop : (word ++ gap ++ '(' :: (arguments ++ [')'])).dropWhile (· != '(') =
      '(' :: (arguments ++ [')']) := by
    rw [List.dropWhile_append_of_pos hfront]
    simp
  have hname : Text.trim (word ++ gap) = word := hword.trim_append hgap
  have hcontains : (word ++ gap ++ '(' :: (arguments ++ [')'])).contains '(' = true := by simp
  have hlast : (word ++ gap ++ '(' :: (arguments ++ [')'])).getLast? = some ')' := by
    simp [List.getLast?_append, List.getLast?_cons]
  unfold CallText.ofText
  simp only [htrim, hcontains, hlast, htake, hdrop, hname, Bool.true_and, decide_true, if_true,
    List.tail_cons, List.dropLast_concat]

/-- A name by itself is a call without arguments. -/
theorem callText_name (hlist : Lexeme.listFrom afterPoint part = .ok [.name name])
    (hblanks : ∀ c ∈ blanks, Text.isSpace c = true) :
    CallText.ofText (part ++ blanks) = ⟨name.toList, none⟩ := by
  obtain ⟨front, word, back, rfl, hfront, hspelled, -, hback⟩ := Lexeme.exists_first hlist
  have htrim := trim_padded hfront hspelled.hasEnds (Lexeme.isSpace_of_listFrom_nil hback) hblanks
  obtain ⟨rfl, -, hplain⟩ := spelled_name hspelled
  have hparen : '(' ∉ name.toList := fun hmem => (hplain '(' hmem).1 (by decide)
  exact callText_plain htrim hparen

/-- A name with brackets behind it is a call, and what is between the brackets are its arguments. -/
theorem callText_call {arguments : List Lexeme}
    (hlist : Lexeme.listFrom afterPoint part = .ok (.name name :: .mark '(' :: (arguments ++ [.mark ')'])))
    (hblanks : ∀ c ∈ blanks, Text.isSpace c = true) :
    ∃ text, CallText.ofText (part ++ blanks) = ⟨name.toList, some text⟩ ∧
      Lexeme.listFrom false text = .ok arguments := by
  obtain ⟨front, word, behind, rfl, hfront, hspelled, -, hbehind⟩ := Lexeme.exists_first hlist
  obtain ⟨gap, opener, inside, rfl, hgap, hopener, -, hinside⟩ := Lexeme.exists_first hbehind
  cases hopener
  obtain ⟨body, rest, rfl, -, hbody, hrest⟩ := Lexeme.exists_front hinside
  obtain ⟨gap', closer, back, rfl, hgap', hcloser, -, hback⟩ := Lexeme.exists_first hrest
  cases hcloser
  have hname := hspelled.hasEnds
  obtain ⟨rfl, -, hplain⟩ := spelled_name hspelled
  have hparen : '(' ∉ name.toList := fun hmem => (hplain '(' hmem).1 (by decide)
  refine ⟨body ++ gap', ?_, ?_⟩
  · have hcore : HasEnds (name.toList ++ (gap ++ '(' :: (body ++ gap')) ++ [')']) :=
      hname.append _ (Spelled.mark (by decide)).hasEnds
    have hpadded := trim_padded hfront hcore (Lexeme.isSpace_of_listFrom_nil hback) hblanks
    refine callText_brackets ?_ hname hparen hgap
    simpa using hpadded
  · have hleads : gap' <+: gap' ++ [')'] ++ back := by
      rw [List.append_assoc]
      exact List.prefix_append _ _
    have hempty : ∀ afterPoint, Lexeme.listFrom afterPoint gap' = .ok [] := by
      intro afterPoint
      have hblank := @Lexeme.listFrom_blanks afterPoint gap' hgap' []
      rw [List.append_nil] at hblank
      rw [hblank, Lexeme.listFrom]
    have hread := hbody gap' hleads
    rw [hempty] at hread
    exact hread.trans (congrArg Except.ok (List.append_nil arguments))

/-- A name with or without brackets, and blanks behind it, is a part of a chain. -/
theorem isPart_of_name {lexemes : List Lexeme} (hbalanced : Balanced false (.name name :: lexemes))
    (hlist : Lexeme.listFrom afterPoint part = .ok (.name name :: lexemes))
    (hblanks : ∀ c ∈ blanks, Text.isSpace c = true) : IsPart (part ++ blanks) where
  uncut := by
    obtain ⟨-, huncut⟩ := Lexeme.closed_of_balanced hbalanced hlist []
    exact (huncut fun _ => rfl).append (Lexeme.uncut_blanks hblanks)
  apart := by
    obtain ⟨front, word, behind, rfl, hfront, hspelled, -, -⟩ := Lexeme.exists_first hlist
    cases front with
    | nil =>
      obtain ⟨c, hc, -⟩ := hspelled.hasEnds.first
      obtain ⟨-, -, hplain⟩ := spelled_name hspelled
      exact ⟨c, by simp [List.head?_append, hc], (hplain c (List.mem_of_head? hc)).2⟩
    | cons c front =>
      have hc := hfront c List.mem_cons_self
      refine ⟨c, rfl, ?_⟩
      rintro rfl
      revert hc
      decide

end Source

/-- A part of a chain, as the text of a filter. -/
def filterText (part : List Char) : FilterText :=
  let call := Source.CallText.ofText part
  ⟨String.ofList call.name, call.arguments.map String.ofList⟩

/-- A part that is read as the filter, or left out if there is none. -/
structure ReadsAs (filters : Filters) (call : Option FilterCall) (part : List Char) : Prop where
  named : (Source.CallText.ofText part).name ≠ []
  calls : ∀ {scope : Scope} {line : Nat} {texts : List FilterText} {calls : List FilterCall},
    scope.filters = filters → scope.filterCalls line texts = .ok calls →
    scope.filterCalls line (filterText part :: texts) = .ok (call.toList ++ calls)

/-- What is done with a filter by its name. -/
theorem filterCalls_cons {scope : Scope} {line : Nat} {name : String} {arguments? : Option String}
    {arguments : List Expr} {texts : List FilterText} {calls : List FilterCall}
    (harguments : (match arguments? with
      | some arguments => located line (Expr.listOfText scope.filters arguments.toList)
      | none => pure []) = .ok arguments)
    (hcalls : scope.filterCalls line texts = .ok calls) :
    scope.filterCalls line (⟨name, arguments?⟩ :: texts) =
      .ok ((Parser.known scope.filters name arguments).toList ++ calls) := by
  rw [Scope.filterCalls]
  unfold Parser.known
  cases Fields.get? scope.filters name with
  | none => exact hcalls
  | some filter =>
    cases arguments? with
    | none =>
      cases harguments
      refine bind_eq_ok.mpr ⟨[], rfl, ?_⟩
      exact bind_eq_ok.mpr ⟨calls, hcalls, rfl⟩
    | some text =>
      refine bind_eq_ok.mpr ⟨arguments, harguments, ?_⟩
      exact bind_eq_ok.mpr ⟨calls, hcalls, rfl⟩

theorem readsAs_of_isFilterCall {filters : Filters} {call : Option FilterCall} {front : List Lexeme}
    {afterPoint : Bool} {part blanks : List Char} (h : Parser.IsFilterCall filters call front)
    (hlist : Lexeme.listFrom afterPoint part = .ok front)
    (hblanks : ∀ c ∈ blanks, Text.isSpace c = true) : ReadsAs filters call (part ++ blanks) := by
  obtain ⟨name, lexemes, rfl⟩ := h.exists_name
  have hnamed : name.toList ≠ [] := by
    obtain ⟨-, word, -, -, -, hspelled, -, -⟩ := Lexeme.exists_first hlist
    exact (Source.spelled_name hspelled).2.1
  cases h with
  | plain _ =>
    have hcall := Source.callText_name hlist hblanks
    refine ⟨by rw [hcall]; exact hnamed, ?_⟩
    rintro scope line texts calls rfl hcalls
    unfold filterText
    rw [hcall]
    dsimp only
    rw [String.ofList_toList]
    exact filterCalls_cons rfl hcalls
  | call _ hbody hread =>
    obtain ⟨text, hcall, htext⟩ := Source.callText_call hlist hblanks
    refine ⟨by rw [hcall]; exact hnamed, ?_⟩
    rintro scope line texts calls rfl hcalls
    have harguments := Parser.runOn_eq_ok.mpr ⟨_, htext, hread⟩
    unfold filterText
    rw [hcall]
    dsimp only
    rw [String.ofList_toList]
    refine filterCalls_cons ?_ hcalls
    dsimp only [Option.map_some]
    rw [String.toList_ofList]
    exact located_eq_ok.mpr harguments

/-- The filters of a chain, as the parts behind its pipes. -/
theorem exists_parts {filters : Filters} {depth more : Nat} {lexemes : List Lexeme}
    {calls : List FilterCall} {afterPoint : Bool} {text : List Char}
    (hlength : lexemes.length < min more (depth + 1))
    (h : (Parser.filterCalls filters (Parser.upToDepth filters depth) more).run lexemes = .ok (calls, []))
    (hlist : Lexeme.listFrom afterPoint text = .ok lexemes) :
    ∃ blanks parts, text = blanks ++ Source.piped parts ∧ (∀ c ∈ blanks, Text.isSpace c = true) ∧
      (∀ part ∈ parts, Source.IsPart part ∧ (Source.CallText.ofText part).name ≠ []) ∧
      ∀ scope line, scope.filters = filters →
        Scope.filterCalls scope line (parts.map filterText) = .ok calls := by
  induction more generalizing lexemes calls afterPoint text with
  | zero => omega
  | succ more ih =>
    rw [Parser.filterCalls] at h
    obtain ⟨passed, between, hpipe, hcalls⟩ := Parser.run_bind_eq_ok.mp h
    have hsplit := Parser.acceptMark_eq_ok hpipe
    cases passed with
    | false =>
      cases hcalls
      obtain rfl : lexemes = [] := hsplit
      refine ⟨text, [], by simp [Source.piped], Lexeme.isSpace_of_listFrom_nil hlist, by simp, ?_⟩
      intro scope line _
      rfl
    | true =>
      obtain ⟨call, middle, hcall, hrest⟩ := Parser.run_bind_eq_ok.mp hcalls
      obtain ⟨calls', after, hcalls', hpair⟩ := Parser.run_bind_eq_ok.mp hrest
      cases hpair
      obtain rfl : lexemes = .mark '|' :: between := hsplit
      rw [List.length_cons] at hlength
      obtain ⟨blanks, bar, behind, rfl, hblanks, hbar, -, hbehind⟩ := Lexeme.exists_first hlist
      cases hbar
      obtain ⟨front, rfl, hfront⟩ := Parser.filterCall_eq_ok (by omega) hcall
      rw [List.length_append] at hlength
      obtain ⟨part, rest, rfl, hpart, hrest⟩ := Lexeme.exists_texts hbehind
      obtain ⟨blanks', parts, rfl, hblanks', hparts, hread⟩ := ih (by omega) hcalls' hrest
      obtain ⟨name, lexemes, rfl⟩ := hfront.exists_name
      have hreads := readsAs_of_isFilterCall hfront hpart hblanks'
      refine ⟨blanks, (part ++ blanks') :: parts, by simp [Source.piped], hblanks, ?_, ?_⟩
      · refine List.forall_mem_cons.mpr ⟨⟨?_, hreads.named⟩, hparts⟩
        exact Source.isPart_of_name hfront.balanced hpart hblanks'
      · intro scope line hscope
        exact hreads.calls hscope (hread scope line hscope)

theorem filterTexts_eq (content : List Char) {parts : List (List Char)}
    (h : ∀ part ∈ parts, (Source.CallText.ofText part).name ≠ []) :
    TokenTree.filterTexts content parts = .ok (parts.map filterText) := by
  induction parts with
  | nil => rfl
  | cons part parts ih =>
    obtain ⟨hpart, hparts⟩ := List.forall_mem_cons.mp h
    rw [TokenTree.filterTexts, ih hparts]
    simp only [List.isEmpty_iff, hpart, if_false]
    rfl

/-- A tag is read from the parts of its content. -/
theorem outputTag_eq {content core first : List Char} {parts : List (List Char)} {words : List (List Char)}
    (escape : Option EscapeKind) (line : Nat) (htrim : Text.trim content = core) (hcore : core ≠ [])
    (hwords : Source.words core = .ok words) (hparts : Source.pipeParts core = first :: parts)
    (hfirst : Text.trim first ≠ []) (hnames : ∀ part ∈ parts, (Source.CallText.ofText part).name ≠ []) :
    TokenTree.outputTag escape content line = .ok ⟨String.ofList (Text.trim first), parts.map filterText,
      if (parts.map filterText).any (Filter.isSafe ·.name) then none else escape, line⟩ := by
  unfold TokenTree.outputTag
  rw [htrim]
  simp only [List.isEmpty_iff, hcore, if_false]
  refine bind_eq_ok.mpr ⟨words, hwords, ?_⟩
  rw [hparts]
  simp only [hfirst, if_false]
  exact bind_eq_ok.mpr ⟨_, filterTexts_eq core hnames, rfl⟩

/-- Blanks around the content do not matter. -/
theorem outputTag_of_trim {content other : List Char} (h : Text.trim content = Text.trim other)
    (escape : Option EscapeKind) (line : Nat) :
    TokenTree.outputTag escape content line = TokenTree.outputTag escape other line := by
  unfold TokenTree.outputTag
  rw [h]

/-- The tag with this content, which is read in pieces, as the expression that is read in the whole. -/
def ReadByTag (filters : Filters) (content : List Char) (expr : Expr) : Prop :=
  ∀ escape line, ∃ tag base calls, TokenTree.outputTag escape content line = .ok tag ∧
    tag.escape = (if tag.filters.any (Filter.isSafe ·.name) then none else escape) ∧
    expr = base.through calls ∧
    ∀ scope : Scope, scope.filters = filters → scope.output tag = .ok (.output base calls tag.escape)

section Content

variable {filters : Filters} {content : List Char} {expr : Expr}

theorem output_eq {scope : Scope} {tag : OutputTag} {base : Expr} {calls : List FilterCall}
    (hbase : Expr.ofText scope.filters tag.expr.toList = .ok base)
    (hcalls : scope.filterCalls tag.line tag.filters = .ok calls) :
    scope.output tag = .ok (.output base calls tag.escape) := by
  have hexpr : scope.expr tag.line tag.expr = .ok base := located_eq_ok.mpr hbase
  refine bind_eq_ok.mpr ⟨base, hexpr, ?_⟩
  exact bind_eq_ok.mpr ⟨calls, hcalls, rfl⟩

/-- The lexemes of an expression are closed. -/
theorem balanced_of_expression {lexemes : List Lexeme}
    (h : (Parser.expression filters).run lexemes = .ok (expr, [])) : Parser.IsOperand lexemes := by
  obtain ⟨size, between, hsize, hrun⟩ := Parser.run_bind_eq_ok.mp h
  cases hsize
  obtain ⟨front, hsplit, hfront, -⟩ :=
    Parser.reads_expression filters (lexemes.length + 1) 0 lexemes expr [] (by omega) hrun
  rw [List.append_nil] at hsplit
  rw [hsplit]
  exact hfront

/-- Without a pipe at the top level the tag has no filters. -/
theorem readByTag_of_isWhole (h : Expr.ofText filters content = .ok expr) (hwhole : Source.IsWhole content) :
    ReadByTag filters content expr := by
  obtain ⟨lexemes, hlist, hrun⟩ := Parser.runOn_eq_ok.mp h
  obtain ⟨hbalanced, hne⟩ := balanced_of_expression hrun
  obtain ⟨blanks, core, after, rfl, hblanks, hafter, hcore, hlist'⟩ := Lexeme.exists_core hlist hne
  have htrim := Lexeme.trim_eq hblanks hcore hafter
  have htrim' : Text.trim core = core := hcore.trim_self
  obtain ⟨hclosed, -⟩ := Lexeme.closed_of_balanced hbalanced hlist' []
  obtain ⟨words, hwords⟩ := Source.exists_words_of_after? hclosed rfl
  have hparts : Source.pipeParts core = [core] := by
    have hhead : after.head? ≠ some '|' := by
      intro hhead
      have hspace := hafter '|' (List.mem_of_head? hhead)
      revert hspace
      decide
    exact (hwhole.middle (Lexeme.uncut_blanks hblanks) hhead).parts_eq
  intro escape line
  refine ⟨_, expr, [], outputTag_eq escape line htrim hcore.ne_nil hwords hparts
    (by rw [htrim']; exact hcore.ne_nil) (by simp), rfl, rfl, ?_⟩
  rintro scope rfl
  refine output_eq ?_ rfl
  rw [htrim', String.toList_ofList]
  exact Parser.runOn_eq_ok.mpr ⟨lexemes, hlist', hrun⟩

/-- The filters of a chain are those of the tag. -/
theorem readByTag_of_chainOfText (h : Expr.chainOfText filters content = .ok expr) :
    ReadByTag filters content expr := by
  obtain ⟨lexemes, hlist, hrun⟩ := Parser.runOn_eq_ok.mp h
  obtain ⟨size, between, hsize, hfiltered⟩ := Parser.run_bind_eq_ok.mp hrun
  cases hsize
  obtain ⟨base, calls, front, rest, rfl, ⟨hfront, hne⟩, hbase, hcalls, rfl⟩ :=
    Parser.filtered_eq_ok (Nat.le_refl _) hfiltered
  have hnil : front ++ rest ≠ [] := fun hnil => hne (List.append_eq_nil_iff.mp hnil).1
  obtain ⟨blanks, core, after, rfl, hblanks, hafter, hcore, hlist'⟩ := Lexeme.exists_core hlist hnil
  have htrim := Lexeme.trim_eq hblanks hcore hafter
  -- the text of the primary with the blanks behind it, and the parts of the filters
  obtain ⟨first, behind, rfl, hfirst, hbehind⟩ := Lexeme.exists_texts hlist'
  obtain ⟨gap, parts, rfl, hgap, hparts, hread⟩ := exists_parts (by simp) hcalls hbehind
  obtain ⟨-, huncut⟩ := Lexeme.closed_of_balanced hfront hfirst []
  have hfirst' : Source.Uncut .start (first ++ gap) .start :=
    (huncut fun _ => rfl).append (Lexeme.uncut_blanks hgap)
  have hisParts : ∀ part ∈ parts, Source.IsPart part := fun part hpart => (hparts part hpart).1
  have hsplit : first ++ (gap ++ Source.piped parts) = first ++ gap ++ Source.piped parts := by
    rw [List.append_assoc]
  have htrim' := htrim.trans hsplit
  rw [hsplit] at hcore
  have hclosed : Source.Nesting.start.after? (first ++ gap ++ Source.piped parts) = some .start := by
    rw [Source.Nesting.after?_append, hfirst'.closed]
    exact Source.closed_piped hisParts
  obtain ⟨words, hwords⟩ := Source.exists_words_of_after? hclosed rfl
  obtain ⟨front', inner, back', rfl, hfront', hback', hinner, hinner'⟩ := Lexeme.exists_core hfirst hne
  have hbase' : Text.trim (front' ++ inner ++ back' ++ gap) = inner :=
    Source.trim_padded hfront' hinner hback' hgap
  intro escape line
  refine ⟨_, base, calls, outputTag_eq escape line htrim' hcore.ne_nil hwords
    (Source.pipeParts_piped hfirst' hisParts) (by rw [hbase']; exact hinner.ne_nil)
    (fun part hpart => (hparts part hpart).2), rfl, rfl, ?_⟩
  intro scope hscope
  refine output_eq ?_ (hread scope line hscope)
  rw [hbase', String.toList_ofList, hscope]
  exact Parser.runOn_eq_ok.mpr ⟨front, hinner', hbase⟩

theorem ReadByTag.of_trim {other : List Char} (h : ReadByTag filters content expr)
    (htrim : Text.trim other = Text.trim content) : ReadByTag filters other expr := by
  intro escape line
  rw [outputTag_of_trim htrim]
  exact h escape line

/-- If the tag does not cut the text, or the filters apply to all before them, it is read as an expression. -/
theorem readByTag_of_ofText (h : Expr.ofText filters content = .ok expr)
    (hbinds : Expr.BindsWhole filters content) : ReadByTag filters content expr := by
  rcases hbinds with hwhole | ⟨other, hchain⟩
  · exact readByTag_of_isWhole h hwhole
  · have hsame := Expr.ofText_of_chainOfText hchain
    rw [h] at hsame
    cases hsame
    exact readByTag_of_chainOfText hchain

/-- The blanks that set the text off from the tag. -/
theorem trim_spaced (h : Expr.ofText filters content = .ok expr) :
    Text.trim (' ' :: content ++ [' ']) = Text.trim content := by
  obtain ⟨lexemes, hlist, hrun⟩ := Parser.runOn_eq_ok.mp h
  obtain ⟨-, hne⟩ := balanced_of_expression hrun
  obtain ⟨blanks, core, after, rfl, hblanks, hafter, hcore, -⟩ := Lexeme.exists_core hlist hne
  have hspace : Text.isSpace ' ' = true := by decide
  have hfront : ∀ c ∈ ' ' :: blanks, Text.isSpace c = true := List.forall_mem_cons.mpr ⟨hspace, hblanks⟩
  have hpadded := Source.trim_padded hfront hcore hafter (List.forall_mem_singleton.mpr hspace)
  rw [Lexeme.trim_eq hblanks hcore hafter]
  exact hpadded

end Content

/-! Sources that are one output tag. -/

section Tag

/-- A source with the text in an output tag. -/
def outputSource (text : String) : String := "\x7b\x7b " ++ text ++ " \x7d\x7d"

/-- Whether the text does not close an output tag. -/
def StaysOpen (text : String) : Prop := ¬ ['\x7d', '\x7d'] <:+: text.toList

instance (text : String) : Decidable (StaysOpen text) :=
  inferInstanceAs (Decidable (¬ ['\x7d', '\x7d'] <:+: text.toList))

namespace Source

theorem tagRun_output {content : List Char} (h : ¬ ['\x7d', '\x7d'] <:+: content) :
    tagRun '\x7d' (content ++ [' ', '\x7d', '\x7d']) = some (content ++ [' '], []) := by
  induction content with
  | nil => decide
  | cons c content ih =>
    have hrest : ¬ ['\x7d', '\x7d'] <:+: content := fun hwithin =>
      h (hwithin.trans (List.suffix_cons c content).isInfix)
    have hopen : ¬ (c = '\x7d' && (content ++ [' ', '\x7d', '\x7d']).head? = some '\x7d') = true := by
      rw [Bool.and_eq_true, decide_eq_true_eq, decide_eq_true_eq]
      rintro ⟨rfl, hhead⟩
      cases content with
      | nil => cases hhead
      | cons d content =>
        cases hhead
        exact h ⟨[], content, rfl⟩
    rw [List.cons_append, tagRun, ih hrest, if_neg hopen]
    rfl

theorem toList_outputSource (text : String) : (outputSource text).toList =
    '\x7b' :: '\x7b' :: ((' ' :: text.toList) ++ [' ', '\x7d', '\x7d']) := by
  simp [outputSource, String.toList_append]

theorem segments_outputSource {text : String} (h : StaysOpen text) :
    segments (outputSource text) = ⟨[.output (' ' :: text.toList ++ [' ']) 1], none⟩ := by
  have hopen : ¬ ['\x7d', '\x7d'] <:+: ' ' :: text.toList := by
    intro hwithin
    rcases List.infix_cons_iff.mp hwithin with hleads | hinside
    · obtain ⟨more, hmore⟩ := hleads
      cases hmore
    · exact h hinside
  have htext : textRun (outputSource text).toList =
      ([], some (.output, (' ' :: text.toList) ++ [' ', '\x7d', '\x7d'])) := by
    rw [toList_outputSource, textRun]
    rfl
  have htag : tagRun Delimiter.output.closing _ = _ := tagRun_output hopen
  rw [segments_eq, segmentsFrom_eq, htext]
  dsimp only
  rw [htag]
  dsimp only
  rw [segmentsFrom_nil]
  rfl

end Source

theorem ofSource_outputSource {text : String} (h : StaysOpen text) (tags : Tags) {escape : Option EscapeKind}
    {tag : OutputTag} (htag : TokenTree.outputTag escape (' ' :: text.toList ++ [' ']) 1 = .ok tag) :
    Token.ofSource tags escape (outputSource text) = .ok [.output tag] := by
  have hadd : (TokenTree.start escape).addSegment tags (.output (' ' :: text.toList ++ [' ']) 1) =
      .ok ((TokenTree.start escape).add (.output tag)) := bind_eq_ok.mpr ⟨tag, htag, rfl⟩
  have htree : TokenTree.addSegments tags (.start escape) [.output (' ' :: text.toList ++ [' ']) 1] =
      .ok ((TokenTree.start escape).add (.output tag)) :=
    bind_eq_ok.mpr ⟨_, located_eq_ok.mpr hadd, rfl⟩
  unfold Token.ofSource
  rw [Source.segments_outputSource h]
  exact bind_eq_ok.mpr ⟨_, htree, rfl⟩

end Tag

end Stencil
