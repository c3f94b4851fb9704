import Stencil.Proofs.Expr.Brackets
import Stencil.Proofs.Result

/-!
Texts and lexemes cut at their pipes. The parts of a filter chain have the lexemes of the whole, cut at the
single pipes outside of all brackets: never inside of a literal or a group, nor at an operator of two pipes.
-/
namespace Stencil

open Source (Nesting isPipe pipeParts pipePartsFrom)

namespace Source

variable {nesting : Nesting} {text part : List Char}

/-- With pipes between them the parts are the text. -/
theorem intercalate_pipePartsFrom (nesting : Nesting) (part text : List Char) :
    ['|'].intercalate (pipePartsFrom nesting part text) = part.reverse ++ text := by
  fun_induction pipePartsFrom nesting part text with
  | case1 nesting part => simp
  | case2 nesting part c hpipe =>
    obtain rfl := eq_pipe_of_isPipe hpipe
    simp
  | case3 nesting part c hpipe => simp
  | case4 nesting part c rest next hpipe ih =>
    rw [ih]
    simp
  | case5 nesting part c d rest next hpipe hd ih =>
    obtain rfl := eq_pipe_of_isPipe hpipe
    rw [List.intercalate_cons_of_ne_nil (pipePartsFrom_ne_nil _ _ _), ih]
    simp
  | case6 nesting part c d rest next hpipe ih =>
    rw [ih]
    simp

/-- A pipe that ends a part stands at the top level. -/
theorem eq_start_of_isPipe {c : Char} (h : isPipe nesting c = true) (hsound : nesting.Sound) :
    nesting = .start ∧ nesting.step c = (nesting, .top) := by
  obtain ⟨-, hplace⟩ := (Bool.and_eq_true _ _).mp h
  have hstep : nesting.step c = ((nesting.step c).1, .top) := Prod.ext rfl (of_decide_eq_true hplace)
  obtain ⟨hnext, htop⟩ := Nesting.of_step_top hstep
  rw [hnext] at hstep
  exact ⟨hsound.eq_start htop, hstep⟩

/-- One character more of the part leads on to the next nesting. -/
theorem after?_part {c : Char} {rest : List Char} (hpart : Nesting.start.after? part.reverse = some nesting)
    (hrest : nesting.after? (c :: rest) = some .start) :
    Nesting.start.after? (c :: part).reverse = some (nesting.step c).1 ∧
      (nesting.step c).1.after? rest = some .start := by
  obtain ⟨hstray, hafter⟩ := Nesting.after?_cons_eq_some hrest
  refine ⟨?_, hafter⟩
  rw [List.reverse_cons, Nesting.after?_append, hpart]
  exact Nesting.after?_of_step rfl hstray

/-- The parts of a closed text are closed. -/
theorem closed_of_mem_pipePartsFrom (hsound : nesting.Sound)
    (hpart : Nesting.start.after? part.reverse = some nesting) (htext : nesting.after? text = some .start) :
    ∀ found ∈ pipePartsFrom nesting part text, Nesting.start.after? found = some .start := by
  fun_induction pipePartsFrom nesting part text with
  | case1 nesting part =>
    cases htext
    exact List.forall_mem_singleton.mpr hpart
  | case2 nesting part c hpipe =>
    obtain ⟨rfl, -⟩ := eq_start_of_isPipe hpipe hsound
    exact List.forall_mem_cons.mpr ⟨hpart, List.forall_mem_singleton.mpr rfl⟩
  | case3 nesting part c hpipe =>
    obtain ⟨hnext, hend⟩ := after?_part hpart htext
    rw [Option.some.inj hend] at hnext
    exact List.forall_mem_singleton.mpr hnext
  | case4 nesting part c rest next hpipe ih =>
    obtain ⟨rfl, hstep⟩ := eq_start_of_isPipe hpipe hsound
    obtain rfl := eq_pipe_of_isPipe hpipe
    obtain ⟨hnext, hrest⟩ := after?_part hpart htext
    obtain ⟨hnext', hrest'⟩ := after?_part hnext hrest
    exact ih (hsound.step hstep) hnext' hrest'
  | case5 nesting part c d rest next hpipe hd ih =>
    obtain ⟨rfl, hstep⟩ := eq_start_of_isPipe hpipe hsound
    obtain ⟨-, hrest⟩ := after?_part hpart htext
    have hnext : next = .start := congrArg Prod.fst hstep
    refine List.forall_mem_cons.mpr ⟨hpart, ih ?_ ?_ hrest⟩
    · rw [hnext]
      exact Nesting.sound_start
    · rw [hnext]
      rfl
  | case6 nesting part c d rest next hpipe ih =>
    obtain ⟨hnext, hrest⟩ := after?_part hpart htext
    exact ih (hsound.step rfl) hnext hrest

theorem closed_of_mem_pipeParts (h : Nesting.start.after? text = some .start) :
    ∀ part ∈ pipeParts text, Nesting.start.after? part = some .start :=
  closed_of_mem_pipePartsFrom Nesting.sound_start rfl h

end Source

namespace Lexeme

variable {afterPoint : Bool} {lexemes piece : List Lexeme} {pieces : List (List Lexeme)} {text rest : List Char}

/-- Lexemes cut into pieces at their single pipes outside of all brackets. -/
structure CutInto (lexemes : List Lexeme) (pieces : List (List Lexeme)) : Prop where
  joined : lexemes = [.mark '|'].intercalate pieces
  balanced : ∀ piece ∈ pieces, Balanced false piece

/-- What stands in front of the first cut can be more. -/
theorem CutInto.append {front : List Lexeme} (hfront : Balanced false front) (h : CutInto lexemes pieces)
    (hne : pieces ≠ []) : ∃ pieces', CutInto (front ++ lexemes) pieces' ∧ pieces' ≠ [] := by
  obtain ⟨first, behind, rfl⟩ := List.exists_cons_of_ne_nil hne
  obtain ⟨hfirst, hbehind⟩ := List.forall_mem_cons.mp h.balanced
  refine ⟨(front ++ first) :: behind, ⟨?_, List.forall_mem_cons.mpr ⟨hfront.append hfirst, hbehind⟩⟩,
    List.cons_ne_nil _ _⟩
  rw [h.joined]
  cases behind with
  | nil => simp
  | cons second behind => simp [List.intercalate_cons_cons]

/-- Balanced lexemes can be cut in this way. -/
theorem exists_cutInto (h : Balanced true lexemes) : ∃ pieces, CutInto lexemes pieces ∧ pieces ≠ [] := by
  generalize hpipes : true = pipes at h
  induction h with
  | nil => exact ⟨[[]], ⟨by simp, List.forall_mem_singleton.mpr .nil⟩, List.cons_ne_nil _ _⟩
  | @cons pipes lexeme rest hbracket _ hrest ih =>
    obtain ⟨pieces, hcut, hne⟩ := ih hpipes
    by_cases hpipe : lexeme = .mark '|'
    · subst hpipe
      refine ⟨[] :: pieces, ⟨?_, List.forall_mem_cons.mpr ⟨.nil, hcut.balanced⟩⟩, List.cons_ne_nil _ _⟩
      rw [hcut.joined, List.intercalate_cons_of_ne_nil hne]
      rfl
    · exact hcut.append (.single hbracket hpipe) hne
  | @group pipes opener closer inside rest hopener hinside _ ih ih' =>
    obtain ⟨pieces, hcut, hne⟩ := ih' hpipes
    have hgroup : Balanced false (.mark opener :: inside ++ [.mark closer]) := .group hopener hinside .nil
    obtain ⟨pieces', hcut', hne'⟩ := hcut.append hgroup hne
    rw [List.append_assoc, List.singleton_append] at hcut'
    exact ⟨pieces', hcut', hne'⟩

/-- A single pipe is followed by no other. -/
theorem head?_of_listFrom_pipe (h : listFrom afterPoint ('|' :: rest) = .ok (.mark '|' :: lexemes)) :
    rest.head? ≠ some '|' := by
  intro hhead
  obtain ⟨rest, rfl⟩ := List.head?_eq_some_iff.mp hhead
  have hscan : scan afterPoint '|' ('|' :: rest) = .lexeme (.operator .or) 2 := by
    rw [scan_symbol (by decide) (by decide) (by decide) (by decide) (by decide)]
    rfl
  rw [listFrom, hscan] at h
  change (listFrom false rest).map (.operator .or :: ·) = _ at h
  cases hrun : listFrom false rest <;> rw [hrun] at h <;> cases h

/-- How the parts of a text go with the pieces of its lexemes: each part has the lexemes of its piece, and
what the text has in front of a cut has the lexemes in front of it. -/
structure CutAlike (text : List Char) (lexemes : List Lexeme) (parts : List (List Char))
    (pieces : List (List Lexeme)) : Prop where
  joined : text = ['|'].intercalate parts
  cut : CutInto lexemes pieces
  reads : parts.map ofText = pieces.map .ok
  fronts : ∀ n, ofText (['|'].intercalate (parts.take n)) = .ok ([.mark '|'].intercalate (pieces.take n))

theorem intercalate_take_prefix {α : Type} (sep : List α) (parts : List (List α)) (n : Nat) :
    sep.intercalate (parts.take n) <+: sep.intercalate parts := by
  induction parts generalizing n with
  | nil => simp
  | cons first parts ih =>
    cases n with
    | zero => exact List.nil_prefix
    | succ n =>
      cases parts with
      | nil => simp
      | cons second parts =>
        cases n with
        | zero =>
          rw [List.take_succ_cons, List.take_zero, List.intercalate_singleton, List.intercalate_cons_cons,
            List.append_assoc]
          exact List.prefix_append first _
        | succ n =>
          rw [List.take_succ_cons, List.take_succ_cons, List.intercalate_cons_cons,
            List.intercalate_cons_cons, ← List.take_succ_cons]
          exact (List.prefix_append_right_inj _).mpr (ih (n + 1))

theorem listFrom_nil (afterPoint : Bool) : listFrom afterPoint [] = .ok [] := by rw [listFrom]

/-- A text of which the lexemes are cut at a single pipe, taken apart at that pipe. -/
theorem exists_pipe (hpiece : Balanced false piece)
    (hlist : listFrom afterPoint text = .ok (piece ++ .mark '|' :: lexemes)) :
    ∃ front behind, text = front ++ '|' :: behind ∧ listFrom afterPoint front = .ok piece ∧
      listFrom false behind = .ok lexemes ∧ pipeParts text = front :: pipeParts behind ∧
      ∀ rest, rest <+: behind →
        listFrom afterPoint (front ++ '|' :: rest) = (listFrom false rest).map (piece ++ .mark '|' :: ·) := by
  obtain ⟨front, after, rfl, -, hfront, hafter⟩ := exists_front hlist
  obtain ⟨blanks, word, behind, rfl, hblanks, hspelled, hreads, hbehind⟩ := exists_first hafter
  cases hspelled
  have hempty : listFrom (pointAfter afterPoint piece) blanks = .ok [] := by
    have hread := @listFrom_blanks (pointAfter afterPoint piece) blanks hblanks []
    rwa [List.append_nil, listFrom_nil] at hread
  have hpart : listFrom afterPoint (front ++ blanks) = .ok piece := by
    have hread := hfront blanks (by rw [List.append_assoc]; exact List.prefix_append _ _)
    rw [hread, hempty]
    exact congrArg Except.ok (List.append_nil piece)
  have hsingle : behind.head? ≠ some '|' := by
    have hread := hreads behind (List.prefix_refl behind)
    rw [List.append_assoc, listFrom_blanks hblanks, hbehind] at hread
    exact head?_of_listFrom_pipe hread
  obtain ⟨-, huncut⟩ := closed_of_balanced hpiece hpart []
  refine ⟨front ++ blanks, behind, by simp, hpart, hbehind, ?_, ?_⟩
  · have hcut := (huncut fun _ => rfl).goesOn [] ('|' :: behind)
    have htext : front ++ (blanks ++ ['|'] ++ behind) = front ++ blanks ++ '|' :: behind := by simp
    unfold pipeParts
    rw [htext]
    refine hcut.trans ?_
    rw [Source.pipePartsFrom_pipe (by decide) hsingle, List.append_nil, List.reverse_reverse]
    rfl
  · intro rest hrest
    have hleads : blanks ++ ['|'] ++ rest <+: blanks ++ ['|'] ++ behind :=
      (List.prefix_append_right_inj _).mpr hrest
    have htext : front ++ blanks ++ '|' :: rest = front ++ (blanks ++ ['|'] ++ rest) := by simp
    have hmark : isMark '.' (mark '|') = false := rfl
    rw [htext, hfront _ hleads, hreads rest hrest, hmark]
    cases listFrom false rest <;> rfl

/-- The parts of a text are read as the pieces of its lexemes. -/
theorem CutInto.cutAlike (hcut : CutInto lexemes pieces) (hne : pieces ≠ [])
    (hlist : listFrom false text = .ok lexemes) : CutAlike text lexemes (pipeParts text) pieces := by
  induction pieces generalizing lexemes text with
  | nil => exact absurd rfl hne
  | cons piece pieces ih =>
    obtain ⟨hpiece, hpieces⟩ := List.forall_mem_cons.mp hcut.balanced
    have hjoined : text = ['|'].intercalate (pipeParts text) :=
      (Source.intercalate_pipePartsFrom .start [] text).symm
    cases pieces with
    | nil =>
      have hsame : lexemes = piece := hcut.joined.trans List.intercalate_singleton
      subst hsame
      have hread : ofText text = .ok lexemes := ofText_eq_ok.mpr hlist
      obtain ⟨-, huncut⟩ := closed_of_balanced hpiece hlist []
      have hparts : pipeParts text = [text] := (huncut fun _ => rfl).parts_eq
      refine ⟨hjoined, hcut, by simp [hparts, hread], fun n => ?_⟩
      cases n with
      | zero => exact ofText_eq_ok.mpr (listFrom_nil false)
      | succ n => simpa [hparts] using hread
    | cons second pieces =>
      have hsplit : lexemes = piece ++ .mark '|' :: [.mark '|'].intercalate (second :: pieces) := by
        rw [hcut.joined, List.intercalate_cons_cons, List.append_assoc]
        rfl
      rw [hsplit] at hlist
      obtain ⟨front, behind, rfl, hfront, hbehind, hparts, hreads⟩ := exists_pipe hpiece hlist
      have hrest := ih ⟨rfl, hpieces⟩ (List.cons_ne_nil _ _) hbehind
      refine ⟨hjoined, hcut, ?_, fun n => ?_⟩
      · rw [hparts, List.map_cons, hrest.reads, ofText_eq_ok.mpr hfront]
        rfl
      · rw [hparts]
        match n with
        | 0 => exact ofText_eq_ok.mpr (listFrom_nil false)
        | 1 => exact ofText_eq_ok.mpr (by simpa using hfront)
        | n + 2 =>
          have hsome : (pipeParts behind).take (n + 1) ≠ [] := by
            have hne : pipeParts behind ≠ [] := Source.pipePartsFrom_ne_nil _ _ _
            simpa [List.take_eq_nil_iff] using hne
          have hleads : ['|'].intercalate ((pipeParts behind).take (n + 1)) <+: behind := by
            have hprefix := intercalate_take_prefix ['|'] (pipeParts behind) (n + 1)
            rwa [← hrest.joined] at hprefix
          have hread := hreads _ hleads
          rw [ofText_eq_ok.mp (hrest.fronts (n + 1))] at hread
          rw [List.take_succ_cons, List.intercalate_cons_of_ne_nil hsome, List.take_succ_cons,
            List.take_succ_cons, List.intercalate_cons_cons, List.append_assoc, List.append_assoc]
          exact ofText_eq_ok.mpr hread

end Lexeme

/-- Words, lexemes and the parts of filter chains agree on quotes, brackets and pipes. A text with lexemes is
cut into words if and only if its lexemes are balanced, and is then cut at its pipes just where its lexemes
have single pipes outside of all brackets. In a text that is cut into words, and in its parts, no quote is
left open. -/
theorem Source.pipeParts_cutAlike (text : List Char) :
    (∀ lexemes, Lexeme.ofText text = .ok lexemes →
      ((∃ parts, words text = .ok parts) ↔ Balanced true lexemes) ∧
      (Balanced true lexemes → ∃ pieces, Lexeme.CutAlike text lexemes (pipeParts text) pieces)) ∧
    ((∃ parts, words text = .ok parts) →
      ∀ part ∈ text :: pipeParts text, ∀ argument,
        Lexeme.ofText part ≠ .error (.unclosedArgument argument)) := by
  refine ⟨fun lexemes hlexemes => ⟨Lexeme.exists_words_iff_balanced hlexemes, fun hbalanced => ?_⟩,
    fun hwords => ?_⟩
  · obtain ⟨pieces, hcut, hne⟩ := Lexeme.exists_cutInto hbalanced
    exact ⟨pieces, hcut.cutAlike hne (Lexeme.ofText_eq_ok.mp hlexemes)⟩
  · have hclosed := exists_words_iff.mp hwords
    intro part hpart
    refine Lexeme.ofText_ne_unclosed ?_
    rcases List.mem_cons.mp hpart with rfl | hmem
    · exact hclosed
    · exact closed_of_mem_pipeParts hclosed part hmem

/-- Pipes in quotes, in brackets and in an operator, and two single ones. -/
def Source.pipedSample : List Char := "a || [b | c]|join('x|y')|upper".toList

theorem Source.pipeParts_cutAlike_sample :
    (∃ parts, words pipedSample = .ok parts) ∧
    (∀ part ∈ pipedSample :: pipeParts pipedSample, ∀ argument,
      Lexeme.ofText part ≠ .error (.unclosedArgument argument)) ∧
    ∃ lexemes pieces, Lexeme.ofText pipedSample = .ok lexemes ∧ Balanced true lexemes ∧
      Lexeme.CutAlike pipedSample lexemes ["a || [b | c]".toList, "join('x|y')".toList, "upper".toList] pieces := by
  have hwords : ∃ parts, words pipedSample = .ok parts := exists_eq_ok (by decide +kernel)
  obtain ⟨hreads, hcloses⟩ := Source.pipeParts_cutAlike pipedSample
  obtain ⟨lexemes, hlexemes⟩ := exists_eq_ok (by decide +kernel : (Lexeme.ofText pipedSample).isOk = true)
  have hbalanced := (hreads lexemes hlexemes).1.mp hwords
  obtain ⟨pieces, hcut⟩ := (hreads lexemes hlexemes).2 hbalanced
  have hparts : pipeParts pipedSample =
      ["a || [b | c]".toList, "join('x|y')".toList, "upper".toList] := by decide +kernel
  exact ⟨hwords, hcloses hwords, lexemes, pieces, hlexemes, hbalanced, hparts ▸ hcut⟩

end Stencil
