import Stencil.Proofs.Expr.Words

/-!
Texts and their lexemes. There are only blanks between the words of a text, so it can be taken apart where
its lexemes can.
-/
namespace Stencil.Lexeme

section Texts

variable {afterPoint : Bool} {lexeme : Lexeme} {lexemes more : List Lexeme} {text blanks : List Char}

/-- Whether what follows these lexemes stands behind a point. -/
def pointAfter (afterPoint : Bool) (lexemes : List Lexeme) : Bool :=
  lexemes.foldl (fun _ lexeme => lexeme.isMark '.') afterPoint

theorem listFrom_blank {c : Char} (hc : Text.isSpace c = true) (text : List Char) :
    listFrom afterPoint (c :: text) = listFrom afterPoint text := by
  rw [listFrom]
  simp [scan, hc]

theorem listFrom_blanks (hblanks : ∀ c ∈ blanks, Text.isSpace c = true) (text : List Char) :
    listFrom afterPoint (blanks ++ text) = listFrom afterPoint text := by
  induction blanks with
  | nil => rfl
  | cons c blanks ih =>
    obtain ⟨hc, hblanks⟩ := List.forall_mem_cons.mp hblanks
    rw [List.cons_append, listFrom_blank hc, ih hblanks]

theorem ReadFrom.listFrom_eq {c : Char} {word after rest : List Char}
    (h : ReadFrom afterPoint c word after lexeme) (hrest : rest <+: after) :
    listFrom afterPoint (c :: word ++ rest) =
      (listFrom (lexeme.isMark '.') rest).map (lexeme :: ·) := by
  rw [List.cons_append, listFrom, h.scans rest hrest]
  dsimp only
  rw [Nat.add_sub_cancel, List.drop_left]

theorem isSpace_of_scan {c : Char} (h : scan afterPoint c text = .blank) : Text.isSpace c = true := by
  unfold scan at h
  split at h
  · assumption
  · repeat' split at h
    all_goals cases h

/-- A text of which the lexemes can be read begins with a blank or with the word of the first of them. -/
theorem listFrom_cons_eq_ok {c : Char} (h : listFrom afterPoint (c :: text) = .ok lexemes) :
    (Text.isSpace c = true ∧ listFrom afterPoint text = .ok lexemes) ∨
      ∃ first rest word after, lexemes = first :: rest ∧ text = word ++ after ∧
        ReadFrom afterPoint c word after first ∧ listFrom (first.isMark '.') after = .ok rest := by
  cases hscan : scan afterPoint c text with
  | blank =>
    have hc := isSpace_of_scan hscan
    exact Or.inl ⟨hc, (listFrom_blank hc text).symm.trans h⟩
  | lexeme first length =>
    obtain ⟨word, after, rfl, hread⟩ := exists_word hscan
    have hmap := (hread.listFrom_eq (List.prefix_refl after)).symm.trans h
    cases hafter : listFrom (first.isMark '.') after with
    | error fault =>
      rw [hafter] at hmap
      cases hmap
    | ok rest =>
      rw [hafter] at hmap
      cases hmap
      exact Or.inr ⟨first, rest, word, after, rfl, rfl, hread, hafter⟩
  | unclosed =>
    rw [listFrom, hscan] at h
    cases h
  | unexpected =>
    rw [listFrom, hscan] at h
    cases h

/-- The text up to the end of its first lexeme, and what is left of it. -/
theorem exists_first (h : listFrom afterPoint text = .ok (lexeme :: lexemes)) :
    ∃ blanks word after, text = blanks ++ word ++ after ∧ (∀ c ∈ blanks, Text.isSpace c = true) ∧
      Spelled lexeme word ∧
      (∀ rest, rest <+: after → listFrom afterPoint (blanks ++ word ++ rest) =
        (listFrom (lexeme.isMark '.') rest).map (lexeme :: ·)) ∧
      listFrom (lexeme.isMark '.') after = .ok lexemes := by
  induction text with
  | nil =>
    rw [listFrom] at h
    cases h
  | cons c text ih =>
    rcases listFrom_cons_eq_ok h with ⟨hc, htext⟩ | ⟨_, _, word, after, heq, rfl, hread, hafter⟩
    · obtain ⟨blanks, word, after, rfl, hblanks, hspelled, hreads, hafter⟩ := ih htext
      refine ⟨c :: blanks, word, after, rfl, List.forall_mem_cons.mpr ⟨hc, hblanks⟩, hspelled, ?_, hafter⟩
      intro rest hrest
      rw [List.cons_append, List.cons_append, listFrom_blank hc, hreads rest hrest]
    · cases heq
      exact ⟨[], c :: word, after, rfl, by simp, hread.spelled, fun rest hrest => hread.listFrom_eq hrest,
        hafter⟩

theorem isSpace_of_listFrom_nil (h : listFrom afterPoint text = .ok []) :
    ∀ c ∈ text, Text.isSpace c = true := by
  induction text with
  | nil => simp
  | cons c text ih =>
    rcases listFrom_cons_eq_ok h with ⟨hc, htext⟩ | ⟨_, _, _, _, heq, -⟩
    · exact List.forall_mem_cons.mpr ⟨hc, ih htext⟩
    · cases heq

/-- A text with more than blanks at its two ends. -/
structure HasEnds (text : List Char) : Prop where
  first : ∃ c, text.head? = some c ∧ Text.isBlank c = false
  last : ∃ c, text.getLast? = some c ∧ Text.isBlank c = false

theorem HasEnds.append {front back : List Char} (hfront : HasEnds front) (middle : List Char)
    (hback : HasEnds back) : HasEnds (front ++ middle ++ back) where
  first := by
    obtain ⟨c, hc, hblank⟩ := hfront.first
    exact ⟨c, by simp [List.head?_append, hc], hblank⟩
  last := by
    obtain ⟨c, hc, hblank⟩ := hback.last
    exact ⟨c, by simp [List.getLast?_append, hc], hblank⟩

theorem hasEnds_of_forall {word : List Char} (hne : word ≠ [])
    (h : ∀ c ∈ word, Text.isBlank c = false) : HasEnds word where
  first := by
    obtain ⟨c, word, rfl⟩ := List.exists_cons_of_ne_nil hne
    exact ⟨c, rfl, h c List.mem_cons_self⟩
  last := ⟨word.getLast hne, List.getLast?_eq_some_getLast hne, h _ (List.getLast_mem hne)⟩

theorem Spelled.hasEnds {word : List Char} (h : Spelled lexeme word) : HasEnds word := by
  cases h with
  | name hne hparts =>
    exact hasEnds_of_forall hne fun c hc => Source.isBlank_of_isNamePart (hparts c hc)
  | number value hne hchars =>
    refine hasEnds_of_forall hne fun c hc => ?_
    rcases hchars c hc with hdigit | rfl | rfl
    · exact Source.isBlank_of_isNamePart (isNamePart_of_isDigit hdigit)
    · decide
    · decide
  | literal text hquote hbody =>
    rename_i quote body
    have hblank : Text.isBlank quote = false := by
      unfold Source.isQuote at hquote
      simp only [Bool.or_eq_true, beq_iff_eq] at hquote
      rcases hquote with rfl | rfl <;> decide
    exact ⟨⟨quote, rfl, hblank⟩, ⟨quote, List.getLast?_concat, hblank⟩⟩
  | operator op =>
    have hall : op.spelling.all (fun c => !Text.isBlank c) = true := by
      cases op <;> decide
    refine hasEnds_of_forall op.spelling_ne_nil fun c hc => ?_
    simpa using List.all_eq_true.mp hall c hc
  | mark hmark =>
    have hall : marks.all (fun c => !Text.isBlank c) = true := by decide
    refine hasEnds_of_forall (List.cons_ne_nil _ _) fun c hc => ?_
    obtain rfl := List.mem_singleton.mp hc
    simpa using List.all_eq_true.mp hall c hmark

theorem isBlank_of_isSpace {c : Char} (h : Text.isSpace c = true) : Text.isBlank c = true := by
  simp only [Text.isSpace, Bool.or_eq_true, beq_iff_eq] at h
  rcases h with (((rfl | rfl) | rfl) | rfl) | rfl <;> decide

/-- The blanks around a text are trimmed. -/
theorem trim_eq {core after : List Char} (hblanks : ∀ c ∈ blanks, Text.isSpace c = true)
    (hcore : HasEnds core) (hafter : ∀ c ∈ after, Text.isSpace c = true) :
    Text.trim (blanks ++ core ++ after) = core := by
  have hdrop : ∀ {blanks text : List Char}, (∀ c ∈ blanks, Text.isSpace c = true) →
      (blanks ++ text).dropWhile Text.isBlank = text.dropWhile Text.isBlank := by
    intro blanks text hblanks
    exact List.dropWhile_append_of_pos fun c hc => isBlank_of_isSpace (hblanks c hc)
  obtain ⟨first, hfirst, hfirst'⟩ := hcore.first
  obtain ⟨last, hlast, hlast'⟩ := hcore.last
  have hstart : Text.trimStart (blanks ++ core ++ after) = core ++ after := by
    unfold Text.trimStart
    rw [List.append_assoc, hdrop hblanks]
    exact Source.trimStart_of_head (by rw [List.head?_append, hfirst]; rfl) hfirst'
  have hreverse : ∀ c ∈ after.reverse, Text.isSpace c = true := fun c hc =>
    hafter c (List.mem_reverse.mp hc)
  rw [Text.trim, hstart, Text.trimEnd, List.reverse_append, hdrop hreverse]
  exact Source.trimEnd_of_last hlast hlast'

theorem HasEnds.trim_append {core after : List Char} (hcore : HasEnds core)
    (hafter : ∀ c ∈ after, Text.isSpace c = true) : Text.trim (core ++ after) = core := by
  have hnone : ∀ c ∈ ([] : List Char), Text.isSpace c = true := by simp
  exact trim_eq hnone hcore hafter

theorem HasEnds.trim_self {core : List Char} (hcore : HasEnds core) : Text.trim core = core := by
  have htrim := hcore.trim_append (List.forall_mem_nil _)
  rwa [List.append_nil] at htrim

theorem HasEnds.ne_nil (h : HasEnds text) : text ≠ [] := by
  rintro rfl
  obtain ⟨c, hc, -⟩ := h.first
  cases hc

/-- A text of which the lexemes are taken apart, where the first of them end. -/
theorem exists_front (h : listFrom afterPoint text = .ok (lexemes ++ more)) :
    ∃ front after, text = front ++ after ∧
      (lexemes = [] ∧ front = [] ∨ ∃ blanks core, front = blanks ++ core ∧
        (∀ c ∈ blanks, Text.isSpace c = true) ∧ HasEnds core) ∧
      (∀ rest, rest <+: after →
        listFrom afterPoint (front ++ rest) =
          (listFrom (pointAfter afterPoint lexemes) rest).map (lexemes ++ ·)) ∧
      listFrom (pointAfter afterPoint lexemes) after = .ok more := by
  induction lexemes generalizing afterPoint text with
  | nil =>
    refine ⟨[], text, rfl, Or.inl ⟨rfl, rfl⟩, ?_, h⟩
    intro rest _
    change listFrom afterPoint rest = (listFrom afterPoint rest).map id
    cases listFrom afterPoint rest <;> rfl
  | cons lexeme lexemes ih =>
    obtain ⟨blanks, word, after, rfl, hblanks, hspelled, hreads, hafter⟩ := exists_first h
    obtain ⟨front, after, rfl, hends, hfront, hmore⟩ := ih hafter
    refine ⟨blanks ++ word ++ front, after, by simp only [List.append_assoc], Or.inr ?_, ?_, hmore⟩
    · rcases hends with ⟨rfl, rfl⟩ | ⟨blanks', core, rfl, -, hcore⟩
      · exact ⟨blanks, word, by rw [List.append_nil], hblanks, hspelled.hasEnds⟩
      · exact ⟨blanks, word ++ blanks' ++ core, by simp only [List.append_assoc], hblanks,
          hspelled.hasEnds.append blanks' hcore⟩
    · intro rest hrest
      rw [List.append_assoc, hreads _ ((List.prefix_append_right_inj front).mpr hrest), hfront rest hrest]
      change _ = (listFrom (pointAfter (lexeme.isMark '.') lexemes) rest).map _
      cases listFrom (pointAfter (lexeme.isMark '.') lexemes) rest <;> rfl

theorem exists_texts (h : listFrom afterPoint text = .ok (lexemes ++ more)) :
    ∃ front after, text = front ++ after ∧ listFrom afterPoint front = .ok lexemes ∧
      listFrom (pointAfter afterPoint lexemes) after = .ok more := by
  obtain ⟨front, after, htext, -, hread, hmore⟩ := exists_front h
  refine ⟨front, after, htext, ?_, hmore⟩
  have hlist := hread [] List.nil_prefix
  rw [List.append_nil, listFrom] at hlist
  rw [hlist]
  exact congrArg Except.ok (List.append_nil lexemes)

/-- A text with lexemes has them between its blanks. -/
theorem exists_core (h : listFrom afterPoint text = .ok lexemes) (hne : lexemes ≠ []) :
    ∃ blanks core after, text = blanks ++ core ++ after ∧ (∀ c ∈ blanks, Text.isSpace c = true) ∧
      (∀ c ∈ after, Text.isSpace c = true) ∧ HasEnds core ∧ listFrom afterPoint core = .ok lexemes := by
  have happend : listFrom afterPoint text = .ok (lexemes ++ []) := by rw [h, List.append_nil]
  obtain ⟨front, after, rfl, hends, hfront, hafter⟩ := exists_front happend
  rcases hends with ⟨hnil, -⟩ | ⟨blanks, core, rfl, hblanks, hcore⟩
  · exact absurd hnil hne
  · refine ⟨blanks, core, after, rfl, hblanks, isSpace_of_listFrom_nil hafter, hcore, ?_⟩
    have hlist := hfront [] List.nil_prefix
    rw [List.append_nil, listFrom_blanks hblanks, listFrom] at hlist
    rw [hlist]
    exact congrArg Except.ok (List.append_nil lexemes)

end Texts

end Stencil.Lexeme
