import Stencil.Proofs.Source.ExtendsTag

/-!
What the cutting of a tag leaves in one piece: a text whose quotes and brackets are all closed is cut into
words, and one that has single pipes only inside them is not cut at its pipes, whatever follows it. So
such texts with pipes between them are the parts of a filter chain.
-/
namespace Stencil.Source

namespace Nesting

variable {nesting between after : Nesting} {text rest word : List Char} {c : Char}

/-- Outside quotes, with these closers awaited. -/
def awaiting (closers : List Char) : Nesting := ⟨none, false, closers⟩

/-- Where the text leads, unless it closes a bracket that is not open. -/
def after? (nesting : Nesting) : List Char → Option Nesting
  | [] => some nesting
  | c :: rest => if (nesting.step c).2 = .stray then none else (nesting.step c).1.after? rest

theorem after?_append (text rest : List Char) :
    nesting.after? (text ++ rest) = (nesting.after? text).bind (·.after? rest) := by
  induction text generalizing nesting with
  | nil => rfl
  | cons c text ih =>
    rw [List.cons_append, after?, after?]
    by_cases hstray : (nesting.step c).2 = .stray
    · rw [if_pos hstray, if_pos hstray]
      rfl
    · rw [if_neg hstray, if_neg hstray]
      exact ih

/-- Between words that have ended, a text without stray closers goes on to its own end. -/
theorem exists_words (word : List Char) (h : nesting.after? text = some after) (hafter : after.isTop = true) :
    ∃ words, wordsFrom nesting word text = .ok words := by
  induction text generalizing nesting word with
  | nil =>
    cases h
    refine ⟨endWord word [], ?_⟩
    rw [wordsFrom, hafter, Bool.or_true, if_pos rfl]
  | cons c text ih =>
    rw [after?] at h
    by_cases hstray : (nesting.step c).2 = .stray
    · rw [if_pos hstray] at h
      cases h
    · rw [if_neg hstray] at h
      rw [wordsFrom]
      split
      · rename_i next hstep
        rw [hstep] at hstray
        exact absurd rfl hstray
      · rename_i next hstep
        rw [hstep] at h
        exact ih (c :: word) h
      · rename_i next hstep
        rw [hstep] at h
        by_cases hblank : Text.isBlank c = true
        · obtain ⟨words, hwords⟩ := ih [] h
          refine ⟨endWord word words, ?_⟩
          rw [if_pos hblank, hwords]
          rfl
        · rw [if_neg hblank]
          exact ih (c :: word) h

end Nesting

/-- A text that is closed is cut into words. -/
theorem exists_words_of_after? {text : List Char} {after : Nesting}
    (h : Nesting.start.after? text = some after) (hafter : after.isTop = true) :
    ∃ parts, words text = .ok parts := by
  obtain ⟨parts, hparts⟩ := Nesting.exists_words [] h hafter
  refine ⟨parts, ?_⟩
  unfold words
  rw [hparts]

section Pipes

variable {nesting before between after : Nesting} {c : Char} {text rest part : List Char}

theorem pipePartsFrom_cons (h : isPipe nesting c = false) (part rest : List Char) :
    pipePartsFrom nesting part (c :: rest) = pipePartsFrom (nesting.step c).1 (c :: part) rest := by
  cases rest with
  | nil => simp [pipePartsFrom, h]
  | cons d rest =>
    rw [pipePartsFrom, h]
    rfl

theorem pipePartsFrom_twin (h : isPipe nesting '|' = true) (part rest : List Char) :
    pipePartsFrom nesting part ('|' :: '|' :: rest) =
      pipePartsFrom (nesting.step '|').1 ('|' :: '|' :: part) rest := by
  rw [pipePartsFrom, h]
  rfl

/-- A pipe by itself ends the part. -/
theorem pipePartsFrom_pipe (h : isPipe nesting '|' = true) (hrest : rest.head? ≠ some '|')
    (part : List Char) :
    pipePartsFrom nesting part ('|' :: rest) =
      part.reverse :: pipePartsFrom (nesting.step '|').1 [] rest := by
  cases rest with
  | nil => simp [pipePartsFrom, h]
  | cons d rest =>
    have hd : d ≠ '|' := fun heq => hrest (congrArg some heq)
    rw [pipePartsFrom, h]
    simp [hd]

theorem pipePartsFrom_ne_nil (nesting : Nesting) (part text : List Char) :
    pipePartsFrom nesting part text ≠ [] := by
  fun_induction pipePartsFrom nesting part text <;> simp_all

/-- A text in which no part ends, with what it leads to. -/
structure Uncut (before : Nesting) (text : List Char) (after : Nesting) : Prop where
  closed : before.after? text = some after
  goesOn : ∀ part rest,
    pipePartsFrom before part (text ++ rest) = pipePartsFrom after (text.reverse ++ part) rest

namespace Uncut

theorem nil : Uncut nesting [] nesting := ⟨rfl, fun _ _ => rfl⟩

theorem append (hfirst : Uncut before text between) (hrest : Uncut between rest after) :
    Uncut before (text ++ rest) after where
  closed := by
    rw [Nesting.after?_append, hfirst.closed]
    exact hrest.closed
  goesOn part last := by
    rw [List.append_assoc, hfirst.goesOn, hrest.goesOn, List.reverse_append, List.append_assoc]

theorem cons (hstray : (before.step c).2 ≠ .stray) (hpipe : isPipe before c = false)
    (h : Uncut (before.step c).1 text after) : Uncut before (c :: text) after where
  closed := by
    rw [Nesting.after?, if_neg hstray]
    exact h.closed
  goesOn part last := by
    rw [List.cons_append, pipePartsFrom_cons hpipe, h.goesOn, List.reverse_cons, List.append_assoc]
    rfl

theorem after?_append (h : Uncut before text between) (rest : List Char) :
    before.after? (text ++ rest) = between.after? rest := by
  rw [Nesting.after?_append, h.closed]
  rfl

/-- Two pipes in a row are an operator. -/
theorem twin : Uncut (.awaiting []) ['|', '|'] (.awaiting []) where
  closed := by decide
  goesOn part rest := pipePartsFrom_twin (by decide) part rest

/-- A text that is not cut is one part. -/
theorem parts_eq (h : Uncut .start text after) : pipeParts text = [text] := by
  have hparts := h.goesOn [] []
  rw [List.append_nil, List.append_nil] at hparts
  unfold pipeParts
  rw [hparts, pipePartsFrom, List.reverse_reverse]

end Uncut

/-- Behind a pipe stands what is neither a pipe nor cut by one. -/
structure IsPart (part : List Char) : Prop where
  uncut : Uncut .start part .start
  apart : ∃ first, part.head? = some first ∧ first ≠ '|'

/-- Texts with a pipe before each. -/
def piped (parts : List (List Char)) : List Char := parts.flatMap ('|' :: ·)

theorem pipePartsFrom_piped {parts : List (List Char)} (h : ∀ part ∈ parts, IsPart part)
    (part : List Char) : pipePartsFrom .start part (piped parts) = part.reverse :: parts := by
  induction parts generalizing part with
  | nil => rfl
  | cons next parts ih =>
    obtain ⟨hnext, hparts⟩ := List.forall_mem_cons.mp h
    obtain ⟨first, hfirst, hapart⟩ := hnext.apart
    have hhead : (next ++ piped parts).head? ≠ some '|' := by
      rw [List.head?_append, hfirst]
      simpa using hapart
    have hpipe : isPipe .start '|' = true := by decide
    have hstep : (Nesting.start.step '|').1 = .start := by decide
    change pipePartsFrom .start part ('|' :: (next ++ piped parts)) = _
    rw [pipePartsFrom_pipe hpipe hhead, hstep, hnext.uncut.goesOn, ih hparts]
    simp

theorem pipeParts_piped {parts : List (List Char)} (htext : Uncut .start text .start)
    (h : ∀ part ∈ parts, IsPart part) : pipeParts (text ++ piped parts) = text :: parts := by
  unfold pipeParts
  rw [htext.goesOn, pipePartsFrom_piped h]
  simp

theorem closed_piped {parts : List (List Char)} (h : ∀ part ∈ parts, IsPart part) :
    Nesting.start.after? (piped parts) = some .start := by
  induction parts with
  | nil => rfl
  | cons next parts ih =>
    obtain ⟨hnext, hparts⟩ := List.forall_mem_cons.mp h
    have hpipe : Nesting.start.after? ['|'] = some .start := by decide
    change Nesting.start.after? (['|'] ++ (next ++ piped parts)) = _
    rw [Nesting.after?_append, hpipe, Option.bind_some, hnext.uncut.after?_append]
    exact ih hparts

end Pipes

section Whole

variable {nesting : Nesting} {text before rest part : List Char}

/-- A text that is not cut at its pipes. -/
def IsWhole (text : List Char) : Prop := (pipeParts text).length = 1

theorem eq_pipe_of_isPipe {c : Char} (h : isPipe nesting c = true) : c = '|' :=
  of_decide_eq_true ((Bool.and_eq_true _ _).mp h).1

theorem length_pipePartsFrom_pos (nesting : Nesting) (part text : List Char) :
    0 < (pipePartsFrom nesting part text).length :=
  List.length_pos_iff.mpr (pipePartsFrom_ne_nil nesting part text)

theorem pipePartsFrom_of_length (h : (pipePartsFrom nesting part text).length = 1) :
    pipePartsFrom nesting part text = [part.reverse ++ text] := by
  fun_induction pipePartsFrom nesting part text with
  | case1 nesting part => simp
  | case2 nesting part c hpipe => cases h
  | case3 nesting part c hpipe => simp
  | case4 nesting part c rest next hpipe ih => simpa using ih h
  | case5 nesting part c d rest next hpipe hd ih =>
    have hpos := length_pipePartsFrom_pos next [] (d :: rest)
    rw [List.length_cons] at h
    omega
  | case6 nesting part c d rest next hpipe ih => simpa using ih h

theorem IsWhole.parts_eq (h : IsWhole text) : pipeParts text = [text] :=
  pipePartsFrom_of_length h

/-- The front of a text that is not cut is not cut, unless it is taken from between two pipes. -/
theorem length_pipePartsFrom_front (other : List Char) (hrest : rest.head? ≠ some '|')
    (h : (pipePartsFrom nesting part (text ++ rest)).length = 1) :
    (pipePartsFrom nesting other text).length = 1 := by
  fun_induction pipePartsFrom nesting other text generalizing part with
  | case1 nesting other => rfl
  | case2 nesting other c hpipe =>
    obtain rfl := eq_pipe_of_isPipe hpipe
    rw [List.singleton_append, pipePartsFrom_pipe hpipe hrest, List.length_cons] at h
    have hpos := length_pipePartsFrom_pos (nesting.step '|').1 [] rest
    omega
  | case3 nesting other c hpipe => rfl
  | case4 nesting other c text next hpipe =>
    rename_i ih
    obtain rfl := eq_pipe_of_isPipe hpipe
    rw [List.cons_append, List.cons_append, pipePartsFrom_twin hpipe] at h
    exact ih h
  | case5 nesting other c d text next hpipe hd =>
    obtain rfl := eq_pipe_of_isPipe hpipe
    have hhead : (d :: text ++ rest).head? ≠ some '|' := by simpa using hd
    rw [List.cons_append, pipePartsFrom_pipe hpipe hhead, List.length_cons] at h
    have hpos := length_pipePartsFrom_pos (nesting.step '|').1 [] (d :: text ++ rest)
    omega
  | case6 nesting other c d text next hpipe =>
    rename_i ih
    rw [List.cons_append, pipePartsFrom_cons (Bool.eq_false_iff.mpr hpipe)] at h
    exact ih h

/-- What is taken from between texts that no pipe begins or ends is whole, if it all is. -/
theorem IsWhole.middle (hbefore : Uncut .start before .start) (hrest : rest.head? ≠ some '|')
    (h : IsWhole (before ++ text ++ rest)) : IsWhole text := by
  have hparts : (pipePartsFrom .start (before.reverse ++ []) (text ++ rest)).length = 1 := by
    rw [← hbefore.goesOn, ← List.append_assoc]
    exact h
  exact length_pipePartsFrom_front [] hrest hparts

end Whole

end Stencil.Source
