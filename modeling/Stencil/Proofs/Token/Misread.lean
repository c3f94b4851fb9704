import Stencil.Proofs.Token.Places

/-!
Why a source has no tokens. The first segment that cannot be read is to blame, or what was never ended; the
complaint bears the line of the place where that tag begins, and that of an end tag without the tag it names
also bears the line of the tag that is open there.
-/
namespace Stencil

open Source (Segment TagText lineAt)

theorem Source.blames_words (text : List Char) : BlamesTag (words text) := by
  unfold words
  split
  · exact .ok _
  · exact .error rfl
  · exact .error rfl

namespace TokenTree

variable {tags : Tags} {tree : TokenTree} {segments : List Segment}

theorem blames_malformed {α : Type} (message : String) : BlamesTag (malformed message : Except Complaint α) :=
  .error rfl

theorem blames_filterTexts (content : List Char) (parts : List (List Char)) :
    BlamesTag (filterTexts content parts) := by
  induction parts with
  | nil => exact .ok _
  | cons part parts ih =>
    rw [filterTexts]
    dsimp only
    split
    · exact (blames_malformed _).bind fun _ => ih.bind fun _ => .ok _
    · exact ih.bind fun _ => .ok _

theorem blames_outputTag (escape : Option EscapeKind) (content : List Char) (line : Nat) :
    BlamesTag (outputTag escape content line) := by
  unfold outputTag
  dsimp only
  refine BlamesTag.ite (.error rfl) <| (Source.blames_words _).bind fun _ => ?_
  split
  · exact blames_malformed _
  · exact BlamesTag.ite (.error rfl) <| (blames_filterTexts _ _).bind fun _ => .ok _

theorem blames_checkBlock (name : String) (words : List String) : BlamesTag (tree.checkBlock name words) := by
  unfold checkBlock
  split
  · exact .error rfl
  · split
    · exact BlamesTag.ite (.ok _) (.error rfl)
    · exact .error rfl

theorem blames_checkPlace (name : String) (kind : Tag) (words : List String) :
    BlamesTag (tree.checkPlace name kind words) := by
  unfold checkPlace
  split
  · exact BlamesTag.ite (.ok _) (.error rfl)
  · exact blames_checkBlock name words
  · exact BlamesTag.ite (.ok _) (.error rfl)
  · exact .ok _

theorem blames_escapeOf (words : List String) : BlamesTag (escapeOf words) := by
  unfold escapeOf
  split
  · refine BlamesTag.ite (.ok _) <| BlamesTag.ite (.ok _) ?_
    split
    · exact .ok _
    · exact .error rfl
  · exact .error rfl

theorem blames_begin (tag : LogicTag) (entry : TagEntry) : BlamesTag (tree.begin tag entry) := by
  unfold begin
  refine BlamesTag.ite (.ok _) ?_
  dsimp only
  exact BlamesTag.ite ((blames_escapeOf _).bind fun _ => .ok _) (.ok _)

/-- The complaint about a segment is about it alone, unless it is an end tag and another tag is open. -/
theorem addSegment_eq_error {segment : Segment} {complaint : Complaint}
    (h : tree.addSegment tags segment = .error complaint) :
    complaint.aboutTag = true ∨ ∃ block opened found closed, tree.opened = block :: opened ∧
      segment.Closes tags found closed ∧ block.tag.name ≠ closed ∧
      complaint = .mismatchedEnd block.tag.name block.tag.line found := by
  cases segment with
  | text text line => cases h
  | raw content line body closer => cases h
  | output content line =>
    have hblames : BlamesTag (tree.addSegment tags (.output content line)) :=
      (blames_outputTag tree.escape content line).bind fun _ => .ok _
    exact Or.inl (hblames complaint h)
  | logic content line =>
    rw [addSegment, addLogic] at h
    split at h
    · exact Or.inl (blames_malformed _ complaint h)
    · split at h
      · rename_i closed hnone hclosed
        unfold close at h
        split at h
        · cases h
          exact Or.inl rfl
        · rename_i block opened hopened
          split at h
          · rename_i hother
            cases h
            exact Or.inr ⟨block, opened, _, closed, hopened, ⟨rfl, hnone, hclosed⟩, hother, rfl⟩
          · cases h
      · cases h
        exact Or.inl rfl
      · rename_i entry _ hentry
        have hwords := Source.blames_words (TagText.ofContent content).arguments
        exact Or.inl ((hwords.bind fun _ => (blames_checkPlace _ _ _).bind fun _ => blames_begin _ _)
          complaint h)

theorem addSegments_eq_error {error : TemplateError} (h : addSegments tags tree segments = .error error) :
    ∃ front segment back tree' complaint, segments = front ++ segment :: back ∧
      addSegments tags tree front = .ok tree' ∧ tree'.addSegment tags segment = .error complaint ∧
      error = .located segment.line complaint := by
  induction segments generalizing tree with
  | nil => cases h
  | cons segment rest ih =>
    rw [addSegments, bind_eq_error] at h
    rcases h with h | ⟨next, hnext, h⟩
    · obtain ⟨complaint, hcomplaint, rfl⟩ := located_eq_error.mp h
      exact ⟨[], segment, rest, tree, complaint, rfl, rfl, hcomplaint, rfl⟩
    · obtain ⟨front, other, back, tree', complaint, rfl, htree, hcomplaint, rfl⟩ := ih h
      exact ⟨segment :: front, other, back, tree', complaint, rfl, bind_eq_ok.mpr ⟨next, hnext, htree⟩,
        hcomplaint, rfl⟩

end TokenTree

/-- What keeps a source from having tokens, and the place of the tag that is to blame. -/
inductive Misread (tags : Tags) (escape : Option EscapeKind) (source : String) (place : Nat) :
    Complaint → Prop
  /-- The tag is not ended, or the body of the raw tag is not. -/
  | neverEnds {complaint : Complaint} (h : Source.NeverEnds source.toList place complaint) :
      Misread tags escape source place complaint
  /-- The tag is the innermost one that is open at the end. -/
  | leftOpen {opening : Segment} {name : String}
      (hopen : Source.InnermostOpen tags (Source.segments source).segments opening)
      (hname : opening.Opens tags name) (hplace : opening.StandsAt source.toList place) :
      Misread tags escape source place (.unclosedTag name)
  /-- The tag is an end tag, and the innermost tag that is open there has another name. -/
  | mismatched {front back : List Segment} {opening closing : Segment} {name found closed : String}
      {opened : Nat} (hsegments : (Source.segments source).segments = front ++ closing :: back)
      (hopen : Source.InnermostOpen tags front opening) (hname : opening.Opens tags name)
      (hopened : opening.StandsAt source.toList opened) (hclosing : closing.Closes tags found closed)
      (hother : name ≠ closed) (hplace : closing.StandsAt source.toList place) :
      Misread tags escape source place (.mismatchedEnd name (lineAt source.toList opened) found)
  /-- The tag by itself cannot stand where it does, behind the segments before it. -/
  | rejected {front back : List Segment} {segment : Segment} {tree : TokenTree} {complaint : Complaint}
      (hsegments : (Source.segments source).segments = front ++ segment :: back)
      (htree : TokenTree.addSegments tags (.start escape) front = .ok tree)
      (hrejected : tree.addSegment tags segment = .error complaint) (habout : complaint.aboutTag = true)
      (hplace : segment.StandsAt source.toList place) : Misread tags escape source place complaint

theorem Misread.begins {tags : Tags} {escape : Option EscapeKind} {source : String} {place : Nat}
    {complaint : Complaint} (h : Misread tags escape source place complaint) :
    ∃ delimiter, Source.Begins source.toList delimiter place := by
  cases h with
  | neverEnds h => exact h.begins
  | leftOpen _ _ hplace => exact hplace.begins
  | mismatched _ _ _ _ _ _ hplace => exact hplace.begins
  | rejected _ _ _ _ hplace => exact hplace.begins

section Open

variable {tags : Tags} {segments : List Segment} {source : List Char}

theorem Source.InnermostOpen.mem {opening : Segment} (h : InnermostOpen tags segments opening) :
    opening ∈ segments := by
  obtain ⟨front, body, rfl, -⟩ := h
  exact List.mem_append_right _ List.mem_cons_self

/-- A segment that is no text begins at a place. -/
theorem Source.Segment.IsPlaced.exists_place {segment : Segment} (h : segment.IsPlaced source)
    (hplain : ∀ text line, segment ≠ .text text line) :
    ∃ place, segment.StandsAt source place ∧ segment.line = lineAt source place := by
  rcases h with ⟨text, line, htext⟩ | ⟨place, hplace⟩
  · exact absurd htext (hplain text line)
  · exact ⟨place, hplace, hplace.line_eq⟩

/-- The innermost open tag begins at a place. -/
theorem TokenTree.exists_place_of_opened {escape : Option EscapeKind} {tree : TokenTree}
    (hproper : ∀ segment ∈ segments, segment.Proper)
    (hplaced : ∀ segment ∈ segments, segment.IsPlaced source)
    (h : addSegments tags (.start escape) segments = .ok tree) {block : OpenTag} {opened : List OpenTag}
    (hopened : tree.opened = block :: opened) :
    ∃ opening place, Source.InnermostOpen tags segments opening ∧ opening.Opens tags block.tag.name ∧
      opening.StandsAt source place ∧ block.tag.line = lineAt source place := by
  obtain ⟨content, hopen, hname⟩ := innermostOpen_of_opened hproper h hopened
  obtain ⟨place, hplace, hline⟩ := (hplaced _ hopen.mem).exists_place nofun
  exact ⟨_, place, hopen, hname, hplace, hline⟩

end Open

/-- A source without tokens has an error about a tag, with the line of the place where that tag begins. -/
theorem Token.exists_misread {tags : Tags} {escape : Option EscapeKind} {source : String}
    {error : TemplateError} (h : ofSource tags escape source = .error error) :
    ∃ place complaint, error = .located (lineAt source.toList place) complaint ∧
      Misread tags escape source place complaint := by
  have hproper := Source.proper_segments source
  have hplaced := Source.isPlaced_segments source
  rcases bind_eq_error.mp h with h | ⟨tree, htree, h⟩
  · obtain ⟨front, segment, back, tree, complaint, hsegments, htree, hrejected, rfl⟩ :=
      TokenTree.addSegments_eq_error h
    rw [hsegments] at hproper hplaced
    have hfront {P : Segment → Prop} (hall : ∀ part ∈ front ++ segment :: back, P part) :
        ∀ part ∈ front, P part := fun part hpart => hall part (List.mem_append_left _ hpart)
    have htext : ∀ text line, segment ≠ .text text line := by
      rintro _ _ rfl
      cases hrejected
    obtain ⟨place, hplace, hline⟩ :=
      (hplaced segment (List.mem_append_right _ List.mem_cons_self)).exists_place htext
    rw [hline]
    refine ⟨place, complaint, rfl, ?_⟩
    rcases TokenTree.addSegment_eq_error hrejected with
      habout | ⟨block, opened, found, closed, hopened, hclosing, hother, rfl⟩
    · exact .rejected hsegments htree hrejected habout hplace
    · obtain ⟨opening, place', hopen, hname, hplace', hline'⟩ :=
        TokenTree.exists_place_of_opened (hfront hproper) (hfront hplaced) htree hopened
      rw [hline']
      exact .mismatched hsegments hopen hname hplace' hclosing hother hplace
  · split at h
    · rename_i line complaint hfault
      cases h
      obtain ⟨place, rfl, hends⟩ := Source.neverEnds_of_fault hfault
      exact ⟨place, complaint, rfl, .neverEnds hends⟩
    · unfold TokenTree.finish at h
      split at h
      · cases h
      · rename_i block opened hopened
        cases h
        obtain ⟨opening, place, hopen, hname, hplace, hline⟩ :=
          TokenTree.exists_place_of_opened hproper hplaced htree hopened
        rw [hline]
        exact ⟨place, _, rfl, .leftOpen hopen hname hplace⟩

end Stencil
