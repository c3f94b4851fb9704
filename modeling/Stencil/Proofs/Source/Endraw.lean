import Stencil.Proofs.Source.ExtendsTag

/-!
End tags of raw. Trimming takes blanks away at the ends, and a hyphen at an end before the next trimming; a
tag ends the body of a raw tag if and only if the name is what is left.
-/
namespace Stencil.Source

/-- The content of an end tag of raw: its name, with blanks and at most one hyphen on either side. -/
def IsEndraw (content : List Char) : Prop :=
  ∃ before ∈ [[], ['-']], ∃ after ∈ [[], ['-']], ∃ outer inner inner' outer' : List Char,
    (∀ c ∈ outer ++ inner ++ inner' ++ outer', Text.isBlank c = true) ∧
      content = outer ++ before ++ inner ++ ['e', 'n', 'd', 'r', 'a', 'w'] ++ inner' ++ after ++ outer'

variable {text content : List Char}

theorem exists_trimStart (text : List Char) :
    ∃ blanks, (∀ c ∈ blanks, Text.isBlank c = true) ∧ text = blanks ++ Text.trimStart text := by
  refine ⟨text.takeWhile Text.isBlank, ?_, List.takeWhile_append_dropWhile.symm⟩
  exact List.all_eq_true.mp List.all_takeWhile

theorem exists_trimEnd (text : List Char) :
    ∃ blanks, (∀ c ∈ blanks, Text.isBlank c = true) ∧ text = Text.trimEnd text ++ blanks := by
  obtain ⟨blanks, hblanks, hreverse⟩ := exists_trimStart text.reverse
  refine ⟨blanks.reverse, fun c hc => hblanks c (List.mem_reverse.mp hc), ?_⟩
  have htext := congrArg List.reverse hreverse
  rwa [List.reverse_reverse, List.reverse_append] at htext

theorem exists_trim (text : List Char) :
    ∃ front back, (∀ c ∈ front ++ back, Text.isBlank c = true) ∧ text = front ++ Text.trim text ++ back := by
  obtain ⟨front, hfront, hstart⟩ := exists_trimStart text
  obtain ⟨back, hback, hend⟩ := exists_trimEnd (Text.trimStart text)
  refine ⟨front, back, List.forall_mem_append.mpr ⟨hfront, hback⟩, ?_⟩
  rw [List.append_assoc, Text.trim, ← hend]
  exact hstart

theorem isBlank_of_trim_eq_nil (h : Text.trim text = []) : ∀ c ∈ text, Text.isBlank c = true := by
  obtain ⟨front, back, hblanks, htext⟩ := exists_trim text
  rw [htext, h, List.append_nil]
  exact hblanks

theorem exists_dropHyphen (text : List Char) :
    ∃ hyphen ∈ [[], ['-']], text = hyphen ++ (dropHyphen text).2 := by
  unfold dropHyphen
  split
  · exact ⟨['-'], by simp, rfl⟩
  · exact ⟨[], by simp, rfl⟩

theorem exists_dropLastHyphen (text : List Char) :
    ∃ hyphen ∈ [[], ['-']], text = (dropLastHyphen text).2 ++ hyphen := by
  unfold dropLastHyphen
  by_cases hlast : text.getLast? = some '-'
  · rw [if_pos hlast]
    obtain ⟨front, rfl⟩ := List.getLast?_eq_some_iff.mp hlast
    exact ⟨['-'], by simp, by rw [List.dropLast_concat]⟩
  · rw [if_neg hlast]
    exact ⟨[], by simp, (List.append_nil text).symm⟩

/-- What ends a raw tag is an end tag of raw. -/
theorem isEndraw_of_closesRaw (h : (TagText.ofContent content).closesRaw = true) : IsEndraw content := by
  unfold TagText.closesRaw at h
  obtain ⟨hname, harguments⟩ := (Bool.and_eq_true _ _).mp h
  obtain ⟨outer, outer', houter, hcontent⟩ := exists_trim content
  obtain ⟨before, hbefore, hstart⟩ := exists_dropHyphen (Text.trim content)
  obtain ⟨after, hafter, hend⟩ := exists_dropLastHyphen (dropHyphen (Text.trim content)).2
  obtain ⟨inner, inner', hinner, htext⟩ := exists_trim (dropLastHyphen (dropHyphen (Text.trim content)).2).2
  let core := Text.trim (dropLastHyphen (dropHyphen (Text.trim content)).2).2
  have hname' : core.takeWhile (!Text.isBlank ·) = ['e', 'n', 'd', 'r', 'a', 'w'] := of_decide_eq_true hname
  have hsplit : ['e', 'n', 'd', 'r', 'a', 'w'] ++ core.dropWhile (!Text.isBlank ·) = core :=
    hname' ▸ List.takeWhile_append_dropWhile
  have hblanks : ∀ c ∈ core.dropWhile (!Text.isBlank ·), Text.isBlank c = true :=
    isBlank_of_trim_eq_nil (List.isEmpty_iff.mp harguments)
  refine ⟨before, hbefore, after, hafter, outer, inner, core.dropWhile (!Text.isBlank ·) ++ inner', outer',
    ?_, ?_⟩
  · simp only [List.mem_append] at houter hinner ⊢
    rintro c (((hc | hc) | (hc | hc)) | hc)
    · exact houter c (Or.inl hc)
    · exact hinner c (Or.inl hc)
    · exact hblanks c hc
    · exact hinner c (Or.inr hc)
    · exact houter c (Or.inr hc)
  · calc content
      _ = outer ++ Text.trim content ++ outer' := hcontent
      _ = outer ++ (before ++ (inner ++ core ++ inner' ++ after)) ++ outer' := by
        rw [← htext, ← hend, ← hstart]
      _ = outer ++ (before ++ (inner ++ (['e', 'n', 'd', 'r', 'a', 'w'] ++
            core.dropWhile (!Text.isBlank ·)) ++ inner' ++ after)) ++ outer' := by rw [hsplit]
      _ = _ := by simp only [List.append_assoc]

/-- Blanks around a text that is more than blanks at its two ends. -/
theorem trim_between {front core back : List Char} {first last : Char}
    (hfront : ∀ c ∈ front, Text.isBlank c = true) (hback : ∀ c ∈ back, Text.isBlank c = true)
    (hfirst : core.head? = some first) (hlast : core.getLast? = some last)
    (hblank : Text.isBlank first = false) (hblank' : Text.isBlank last = false) :
    Text.trim (front ++ core ++ back) = core := by
  have hhead : (core ++ back).head? = some first := by simp [List.head?_append, hfirst]
  have hstart : Text.trimStart (front ++ core ++ back) = core ++ back := by
    rw [List.append_assoc, Text.trimStart, List.dropWhile_append_of_pos hfront]
    exact trimStart_of_head hhead hblank
  have hend : Text.trimEnd (core ++ back) = Text.trimEnd core := by
    unfold Text.trimEnd
    rw [List.reverse_append, List.dropWhile_append_of_pos fun c hc => hback c (List.mem_reverse.mp hc)]
  rw [Text.trim, hstart, hend]
  exact trimEnd_of_last hlast hblank'

theorem closesRaw_of_trim {core text : List Char} (htrim : Text.trim content = core)
    (hhyphens : (dropLastHyphen (dropHyphen core).2).2 = text)
    (htext : Text.trim text = ['e', 'n', 'd', 'r', 'a', 'w']) :
    (TagText.ofContent content).closesRaw = true := by
  have htag : TagText.ofContent content = ⟨(dropHyphen core).1, (dropLastHyphen (dropHyphen core).2).1,
      ['e', 'n', 'd', 'r', 'a', 'w'], []⟩ := by
    unfold TagText.ofContent
    dsimp only
    rw [htrim, hhyphens, htext]
    rfl
  rw [htag]
  rfl

theorem dropLastHyphen_of_last {text : List Char} {last : Char} (h : text.getLast? = some last)
    (hlast : last ≠ '-') : (dropLastHyphen text).2 = text := by
  unfold dropLastHyphen
  rw [if_neg]
  rw [h]
  exact fun heq => hlast (Option.some.inj heq)

theorem dropLastHyphen_append (text : List Char) : (dropLastHyphen (text ++ ['-'])).2 = text := by
  unfold dropLastHyphen
  rw [if_pos List.getLast?_concat, List.dropLast_concat]

/-- An end tag of raw ends a raw tag. -/
theorem closesRaw_of_isEndraw (h : IsEndraw content) : (TagText.ofContent content).closesRaw = true := by
  obtain ⟨before, hbefore, after, hafter, outer, inner, inner', outer', hblanks, rfl⟩ := h
  let name : List Char := ['e', 'n', 'd', 'r', 'a', 'w']
  simp only [List.mem_append] at hblanks
  have houter : ∀ c ∈ outer, Text.isBlank c = true := fun c hc => hblanks c (by simp [hc])
  have hinner : ∀ c ∈ inner, Text.isBlank c = true := fun c hc => hblanks c (by simp [hc])
  have hinner' : ∀ c ∈ inner', Text.isBlank c = true := fun c hc => hblanks c (by simp [hc])
  have houter' : ∀ c ∈ outer', Text.isBlank c = true := fun c hc => hblanks c (by simp [hc])
  have hleft : ∀ c ∈ outer ++ inner, Text.isBlank c = true := List.forall_mem_append.mpr ⟨houter, hinner⟩
  have hright : ∀ c ∈ inner' ++ outer', Text.isBlank c = true := List.forall_mem_append.mpr ⟨hinner', houter'⟩
  have hnone : ∀ c ∈ ([] : List Char), Text.isBlank c = true := List.forall_mem_nil _
  have hname : ∀ {front back : List Char}, (∀ c ∈ front, Text.isBlank c = true) →
      (∀ c ∈ back, Text.isBlank c = true) → Text.trim (front ++ name ++ back) = name :=
    fun hfront hback => trim_between hfront hback rfl rfl (by decide) (by decide)
  simp only [List.mem_cons, List.not_mem_nil, or_false] at hbefore hafter
  -- A hyphen keeps the blanks between it and the name from the first trimming.
  rcases hbefore with rfl | rfl <;> rcases hafter with rfl | rfl
  · have htrim : Text.trim (outer ++ [] ++ inner ++ name ++ inner' ++ [] ++ outer') = name := by
      simpa [name] using hname hleft hright
    exact closesRaw_of_trim htrim rfl (hname hnone hnone)
  · have hcore : Text.trim (outer ++ inner ++ (name ++ inner' ++ ['-']) ++ outer') =
        name ++ inner' ++ ['-'] :=
      trim_between hleft houter' rfl List.getLast?_concat (by decide) (by decide)
    have htrim : Text.trim (outer ++ [] ++ inner ++ name ++ inner' ++ ['-'] ++ outer') =
        name ++ inner' ++ ['-'] := by
      simpa [name] using hcore
    have hhyphens : (dropLastHyphen (dropHyphen (name ++ inner' ++ ['-'])).2).2 = name ++ inner' :=
      dropLastHyphen_append (name ++ inner')
    exact closesRaw_of_trim htrim hhyphens (hname hnone hinner')
  · have hlast : (inner ++ name).getLast? = some 'w' := by simp [name]
    have hlast' : ('-' :: (inner ++ name)).getLast? = some 'w' := by simp [name, List.getLast?_cons]
    have hcore : Text.trim (outer ++ '-' :: (inner ++ name) ++ (inner' ++ outer')) = '-' :: (inner ++ name) :=
      trim_between houter hright rfl hlast' (by decide) (by decide)
    have htrim : Text.trim (outer ++ ['-'] ++ inner ++ name ++ inner' ++ [] ++ outer') =
        '-' :: (inner ++ name) := by
      simpa [name] using hcore
    have hhyphens : (dropLastHyphen (dropHyphen ('-' :: (inner ++ name))).2).2 = inner ++ name :=
      dropLastHyphen_of_last hlast (by decide)
    have htext : Text.trim (inner ++ name) = name := by simpa using hname hinner hnone
    exact closesRaw_of_trim htrim hhyphens htext
  · have hlast : ('-' :: (inner ++ name ++ inner' ++ ['-'])).getLast? = some '-' := by
      rw [← List.cons_append]
      exact List.getLast?_concat
    have hcore : Text.trim (outer ++ '-' :: (inner ++ name ++ inner' ++ ['-']) ++ outer') =
        '-' :: (inner ++ name ++ inner' ++ ['-']) :=
      trim_between houter houter' rfl hlast (by decide) (by decide)
    have htrim : Text.trim (outer ++ ['-'] ++ inner ++ name ++ inner' ++ ['-'] ++ outer') =
        '-' :: (inner ++ name ++ inner' ++ ['-']) := by
      simpa [name] using hcore
    have hhyphens : (dropLastHyphen (dropHyphen ('-' :: (inner ++ name ++ inner' ++ ['-']))).2).2 =
        inner ++ name ++ inner' := dropLastHyphen_append (inner ++ name ++ inner')
    exact closesRaw_of_trim htrim hhyphens (hname hinner hinner')

theorem closesRaw_iff : (TagText.ofContent content).closesRaw = true ↔ IsEndraw content :=
  ⟨isEndraw_of_closesRaw, closesRaw_of_isEndraw⟩

instance (content : List Char) : Decidable (IsEndraw content) := decidable_of_iff _ closesRaw_iff

theorem IsEndraw.not_mem (h : IsEndraw content) {c : Char} (hblank : Text.isBlank c = false)
    (hc : c ∉ ['-', 'e', 'n', 'd', 'r', 'a', 'w']) : c ∉ content := by
  obtain ⟨before, hbefore, after, hafter, outer, inner, inner', outer', hblanks, rfl⟩ := h
  have hhyphen : ∀ {hyphen : List Char}, hyphen ∈ [[], ['-']] → c ∉ hyphen := by
    intro hyphen hmem
    simp only [List.mem_cons, List.not_mem_nil, or_false] at hmem
    rcases hmem with rfl | rfl
    · exact List.not_mem_nil
    · simp only [List.mem_cons, not_or] at hc ⊢
      exact ⟨hc.1, List.not_mem_nil⟩
  have houter : c ∉ outer ++ inner ++ inner' ++ outer' := fun hmem => by simp [hblanks c hmem] at hblank
  have hname : c ∉ ['e', 'n', 'd', 'r', 'a', 'w'] := List.not_mem_of_not_mem_cons hc
  simp only [List.mem_append, not_or] at houter ⊢
  exact ⟨⟨⟨⟨⟨⟨houter.1.1.1, hhyphen hbefore⟩, houter.1.1.2⟩, hname⟩, houter.1.2⟩, hhyphen hafter⟩, houter.2⟩

end Stencil.Source
