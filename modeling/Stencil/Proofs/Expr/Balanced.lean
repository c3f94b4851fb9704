import Stencil.Proofs.Expr.Spelling
import Stencil.Proofs.Source.TopLevel

/-!
Lexemes in which all brackets are closed. A tag that holds their text is not cut at the pipes of the text,
if all of these stand inside brackets.
-/
namespace Stencil

def Lexeme.brackets : List Char := ['(', ')', '[', ']', '\x7b', '\x7d']

/-- Lexemes in which all brackets are closed, with or without single pipes outside of them. -/
inductive Balanced : Bool → List Lexeme → Prop
  | nil {pipes : Bool} : Balanced pipes []
  | cons {pipes : Bool} {lexeme : Lexeme} {rest : List Lexeme}
      (hbracket : ∀ c ∈ Lexeme.brackets, lexeme ≠ .mark c) (hpipe : lexeme = .mark '|' → pipes = true)
      (hrest : Balanced pipes rest) : Balanced pipes (lexeme :: rest)
  | group {pipes : Bool} {opener closer : Char} {inside rest : List Lexeme}
      (hopener : Source.closerOf? opener = some closer) (hinside : Balanced true inside)
      (hrest : Balanced pipes rest) : Balanced pipes (.mark opener :: inside ++ .mark closer :: rest)

/-- A mark that is no bracket. -/
theorem mark_ne {c : Char} (h : c ∉ Lexeme.brackets) : ∀ d ∈ Lexeme.brackets, Lexeme.mark c ≠ .mark d := by
  intro d hd heq
  cases heq
  exact h hd

namespace Balanced

variable {pipes : Bool} {lexeme : Lexeme} {front rest : List Lexeme}

theorem append (hfront : Balanced pipes front) (hrest : Balanced pipes rest) :
    Balanced pipes (front ++ rest) := by
  induction hfront with
  | nil => exact hrest
  | cons hbracket hpipe hmore ih => exact .cons hbracket hpipe (ih hrest)
  | group hopener hinside hmore ih ih' =>
    rw [List.append_assoc]
    exact .group hopener hinside (ih' hrest)

theorem single (hbracket : ∀ c ∈ Lexeme.brackets, lexeme ≠ .mark c) (hpipe : lexeme ≠ .mark '|') :
    Balanced pipes [lexeme] :=
  .cons hbracket (fun heq => absurd heq hpipe) .nil

theorem mono (h : Balanced false front) : Balanced pipes front := by
  cases pipes with
  | false => exact h
  | true =>
    generalize hfalse : false = outside at h
    induction h with
    | nil => exact .nil
    | cons hbracket hpipe hmore ih => exact .cons hbracket (fun _ => rfl) (ih hfalse)
    | group hopener hinside hmore ih ih' => exact .group hopener hinside (ih' hfalse)

end Balanced

namespace Lexeme

open Source (Nesting Uncut)

section Uncut

variable {closers : List Char} {c quote : Char} {text : List Char} {after : Nesting}

/-- A character inside of quotes or brackets cuts nothing. -/
theorem uncut_inside {before between : Nesting} (hstep : before.step c = (between, .inside))
    (h : Uncut between text after) : Uncut before (c :: text) after := by
  refine Uncut.cons ?_ ?_ ?_
  · rw [hstep]
    intro heq
    cases heq
  · simp [Source.isPipe, hstep]
  · rw [hstep]
    exact h

/-- Inside quotes nothing is cut, up to the closing quote. -/
theorem QuotedBody.uncut (hquote : Source.isQuote quote = true) {body : List Char}
    (h : QuotedBody quote body) :
    Uncut ⟨some quote, false, closers⟩ (body ++ [quote]) (.awaiting closers) := by
  induction h with
  | nil =>
    have hstep : Nesting.step ⟨some quote, false, closers⟩ quote = (.awaiting closers, .inside) := by
      simp [Nesting.step, Nesting.stepInQuote, ne_slash_of_isQuote hquote, Nesting.awaiting]
    exact uncut_inside hstep Uncut.nil
  | escape c hbody ih =>
    have hstep : Nesting.step ⟨some quote, true, closers⟩ c =
        (⟨some quote, false, closers⟩, .inside) := rfl
    exact uncut_inside rfl (uncut_inside hstep ih)
  | @plain c body hslash hne hbody ih =>
    have hstep : Nesting.step ⟨some quote, false, closers⟩ c =
        (⟨some quote, false, closers⟩, .inside) := by
      simp [Nesting.step, Nesting.stepInQuote, hslash, hne]
    exact uncut_inside hstep ih

/-- Quotes and brackets. -/
def delimiters : List Char := ['"', '\'', '(', ')', '[', ']', '\x7b', '\x7d']

theorem step_awaiting (h : c ∉ delimiters) :
    (Nesting.awaiting closers).step c =
      (.awaiting closers, if closers.isEmpty then .top else .inside) := by
  simp only [delimiters, List.mem_cons, List.not_mem_nil, or_false, not_or] at h
  simp [Nesting.step, Nesting.awaiting, Source.isQuote, Source.closerOf?, Source.isCloser, h]

/-- Outside quotes other characters change nothing; a pipe cuts at the top level alone. -/
theorem uncut_cons (hc : c ∉ delimiters) (hpipe : c = '|' → closers ≠ [])
    (h : Uncut (.awaiting closers) text after) : Uncut (.awaiting closers) (c :: text) after := by
  have hstep := @step_awaiting closers c hc
  have hapart : Source.isPipe (.awaiting closers) c = false := by
    unfold Source.isPipe
    by_cases heq : c = '|'
    · have hne := hpipe heq
      rw [hstep]
      simp [hne]
    · simp [heq]
  refine Uncut.cons ?_ hapart ?_
  · rw [hstep]
    cases closers <;> simp
  · rw [hstep]
    exact h

theorem uncut_word {word : List Char} (h : ∀ c ∈ word, c ∉ delimiters ∧ (c = '|' → closers ≠ [])) :
    Uncut (.awaiting closers) word (.awaiting closers) := by
  induction word with
  | nil => exact Uncut.nil
  | cons c word ih =>
    obtain ⟨⟨hc, hpipe⟩, hword⟩ := List.forall_mem_cons.mp h
    exact uncut_cons hc hpipe (ih hword)

theorem uncut_plain {word : List Char} (h : ∀ c ∈ word, c ∉ delimiters ∧ c ≠ '|') :
    Uncut (.awaiting closers) word (.awaiting closers) :=
  uncut_word fun c hc => ⟨(h c hc).1, fun heq => absurd heq (h c hc).2⟩

theorem closerOf?_cases {opener closer : Char} (h : Source.closerOf? opener = some closer) :
    opener = '(' ∧ closer = ')' ∨ opener = '[' ∧ closer = ']' ∨ opener = '\x7b' ∧ closer = '\x7d' := by
  unfold Source.closerOf? at h
  split at h
  · cases h
    exact Or.inl ⟨‹_›, rfl⟩
  · split at h
    · cases h
      exact Or.inr (Or.inl ⟨‹_›, rfl⟩)
    · split at h
      · cases h
        exact Or.inr (Or.inr ⟨‹_›, rfl⟩)
      · cases h

theorem uncut_opener {opener closer : Char} (h : Source.closerOf? opener = some closer)
    (closers : List Char) : Uncut (.awaiting closers) [opener] (.awaiting (closer :: closers)) := by
  rcases closerOf?_cases h with ⟨rfl, rfl⟩ | ⟨rfl, rfl⟩ | ⟨rfl, rfl⟩ <;>
    exact uncut_inside rfl Uncut.nil

theorem uncut_closer {opener closer : Char} (h : Source.closerOf? opener = some closer)
    (closers : List Char) : Uncut (.awaiting (closer :: closers)) [closer] (.awaiting closers) := by
  rcases closerOf?_cases h with ⟨rfl, rfl⟩ | ⟨rfl, rfl⟩ | ⟨rfl, rfl⟩ <;>
    exact uncut_inside rfl Uncut.nil

theorem not_mem_delimiters_of_isNamePart {c : Char} (h : isNamePart c = true) :
    c ∉ delimiters ∧ c ≠ '|' := by
  have hall : ('|' :: delimiters).all (fun d => !isNamePart d) = true := by decide
  have hapart : c ∉ '|' :: delimiters := by
    intro hmem
    have hnone := List.all_eq_true.mp hall c hmem
    rw [h] at hnone
    cases hnone
  exact ⟨List.not_mem_of_not_mem_cons hapart, List.ne_of_not_mem_cons hapart⟩

theorem uncut_blanks {blanks : List Char} (h : ∀ c ∈ blanks, Text.isSpace c = true) :
    Uncut (.awaiting closers) blanks (.awaiting closers) := by
  refine uncut_plain ?_
  intro c hc
  have hspace := h c hc
  simp only [Text.isSpace, Bool.or_eq_true, beq_iff_eq] at hspace
  rcases hspace with (((rfl | rfl) | rfl) | rfl) | rfl <;> decide

theorem Spelled.uncut {lexeme : Lexeme} {word : List Char} (h : Spelled lexeme word)
    (hbracket : ∀ c ∈ brackets, lexeme ≠ .mark c) (hpipe : lexeme = .mark '|' → closers ≠ []) :
    Uncut (.awaiting closers) word (.awaiting closers) := by
  cases h with
  | name hne hparts => exact uncut_plain fun c hc => not_mem_delimiters_of_isNamePart (hparts c hc)
  | number value hne hchars =>
    refine uncut_plain ?_
    intro c hc
    rcases hchars c hc with hdigit | rfl | rfl
    · exact not_mem_delimiters_of_isNamePart (isNamePart_of_isDigit hdigit)
    · decide
    · decide
  | literal text hquote hbody =>
    rename_i quote body
    have hstep : (Nesting.awaiting closers).step quote = (⟨some quote, false, closers⟩, .inside) := by
      simp [Nesting.step, Nesting.awaiting, hquote]
    exact uncut_inside hstep (hbody.uncut hquote)
  | operator op =>
    have hall : op.spelling.all (fun c => decide (c ∉ delimiters) && (c != '|' || op == .or)) = true := by
      cases op <;> decide
    by_cases htwin : op = .or ∧ closers = []
    · obtain ⟨rfl, rfl⟩ := htwin
      exact Uncut.twin
    · refine uncut_word fun c hc => ?_
      obtain ⟨hplain, hor⟩ := (Bool.and_eq_true _ _).mp (List.all_eq_true.mp hall c hc)
      refine ⟨of_decide_eq_true hplain, ?_⟩
      rintro rfl hnil
      exact htwin ⟨by simpa using hor, hnil⟩
  | mark hmark =>
    rename_i c
    have hall : marks.all (fun d => decide (d ∈ brackets) || decide (d ∉ delimiters)) = true := by decide
    refine uncut_word fun d hd => ?_
    obtain rfl := List.mem_singleton.mp hd
    rcases (Bool.or_eq_true _ _).mp (List.all_eq_true.mp hall d hmark) with hmem | hplain
    · exact absurd rfl (hbracket d (of_decide_eq_true hmem))
    · exact ⟨of_decide_eq_true hplain, fun heq => hpipe (congrArg Lexeme.mark heq)⟩

end Uncut

variable {afterPoint : Bool} {lexemes : List Lexeme} {text : List Char}

/-- A text is closed if its lexemes are, and it is not cut if no pipe stands outside of the brackets. -/
theorem closed_of_balanced {pipes : Bool} (h : Balanced pipes lexemes)
    (hlist : listFrom afterPoint text = .ok lexemes) (closers : List Char) :
    (Nesting.awaiting closers).after? text = some (.awaiting closers) ∧
      ((closers = [] → pipes = false) → Uncut (.awaiting closers) text (.awaiting closers)) := by
  induction h generalizing afterPoint text closers with
  | nil =>
    have hblanks : Uncut (.awaiting closers) text (.awaiting closers) :=
      uncut_blanks (isSpace_of_listFrom_nil hlist)
    exact ⟨hblanks.closed, fun _ => hblanks⟩
  | @cons pipes lexeme rest hbracket hpipe hrest ih =>
    obtain ⟨blanks, word, after, rfl, hblanks, hspelled, -, hafter⟩ := exists_first hlist
    have hfront : Uncut (.awaiting closers) blanks (.awaiting closers) := uncut_blanks hblanks
    obtain ⟨hclosed, huncut⟩ := ih hafter closers
    by_cases hbar : lexeme = .mark '|' ∧ closers = []
    · obtain ⟨rfl, rfl⟩ := hbar
      cases hspelled
      constructor
      · have hword : (Nesting.awaiting []).after? ['|'] = some (.awaiting []) := by decide
        rw [List.append_assoc, hfront.after?_append, Nesting.after?_append, hword, Option.bind_some, hclosed]
      · intro hpipes
        have htrue := hpipe rfl
        rw [hpipes rfl] at htrue
        cases htrue
    · have hword : Uncut (.awaiting closers) word (.awaiting closers) :=
        hspelled.uncut hbracket fun heq hnil => hbar ⟨heq, hnil⟩
      constructor
      · rw [(hfront.append hword).after?_append, hclosed]
      · intro hpipes
        exact (hfront.append hword).append (huncut hpipes)
  | @group pipes opener closer inside rest hopener hinside hrest ih ih' =>
    obtain ⟨blanks, word, after, rfl, hblanks, hspelled, -, hafter⟩ := exists_first hlist
    cases hspelled
    obtain ⟨front, behind, rfl, hfront, hbehind⟩ := exists_texts hafter
    obtain ⟨blanks', word, after, rfl, hblanks', hspelled, -, hafter'⟩ := exists_first hbehind
    cases hspelled
    obtain ⟨-, hinside'⟩ := ih hfront (closer :: closers)
    obtain ⟨hclosed, huncut⟩ := ih' hafter' closers
    have hgroup : Uncut (.awaiting closers) (blanks ++ [opener] ++ (front ++ (blanks' ++ [closer])))
        (.awaiting closers) := by
      have hopened := (uncut_blanks hblanks).append (uncut_opener hopener closers)
      have hended := (uncut_blanks hblanks').append (uncut_closer hopener closers)
      exact hopened.append ((hinside' fun hnil => by cases hnil).append hended)
    have hsplit : blanks ++ [opener] ++ (front ++ (blanks' ++ [closer] ++ after)) =
        blanks ++ [opener] ++ (front ++ (blanks' ++ [closer])) ++ after := by
      simp only [List.append_assoc]
    rw [hsplit]
    constructor
    · rw [hgroup.after?_append, hclosed]
    · intro hpipes
      exact hgroup.append (huncut hpipes)

end Lexeme

end Stencil
