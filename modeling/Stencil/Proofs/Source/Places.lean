import Stencil.Proofs.Source.Scanning

/-!
The places of the tags of a source. A tag opens at the first opening behind the start of the source or
behind another tag, a comment or a raw body, so that what looks like an opening inside one of these does not
count. Every segment but a text is such a tag, and its line is that of its opening.
-/
namespace Stencil.Source

/-- Whether the content is that of a raw tag. -/
def isRawTag (content : List Char) : Bool := (TagText.ofContent content).opensRaw

/-- The start of the source, or the place right behind a tag, a comment or a raw body. -/
inductive Cut (source : List Char) : Nat → Prop
  | start : Cut source 0
  | tag {p q r : Nat} {delimiter : Delimiter} (h : Cut source p) (hq : FirstOpening source p delimiter q)
      (hr : IsFirst (ClosesAt source delimiter) (q + 2) r)
      (hraw : delimiter = .logic → isRawTag (between source (q + 2) r) = false) : Cut source (r + 2)
  | raw {p q r e f : Nat} (h : Cut source p) (hq : FirstOpening source p .logic q)
      (hr : IsFirst (ClosesAt source .logic) (q + 2) r) (hraw : isRawTag (between source (q + 2) r) = true)
      (he : IsFirst (fun e => ∃ f, RawEnds source e f) (r + 2) e) (hf : RawEnds source e f) :
      Cut source (f + 2)

/-- A tag or a comment of the source begins at the place. -/
def Begins (source : List Char) (delimiter : Delimiter) (place : Nat) : Prop :=
  ∃ p, Cut source p ∧ FirstOpening source p delimiter place

/-- The tag that begins at the place ends, and has the content. -/
def HasTag (source : List Char) (delimiter : Delimiter) (place : Nat) (content : List Char) : Prop :=
  Begins source delimiter place ∧
    ∃ r, IsFirst (ClosesAt source delimiter) (place + 2) r ∧ content = between source (place + 2) r

/-- The segment is the tag that begins at the place. -/
def Segment.StandsAt (source : List Char) (place : Nat) : Segment → Prop
  | text _ _ => False
  | output content line => HasTag source .output place content ∧ line = lineAt source place
  | logic content line => HasTag source .logic place content ∧ line = lineAt source place
  | raw content line _ _ => HasTag source .logic place content ∧ line = lineAt source place

/-- The tag at the place does not end, or is a raw tag whose body does not. -/
inductive NeverEnds (source : List Char) (place : Nat) : Complaint → Prop
  | delimiter {delimiter : Delimiter} (hbegins : Begins source delimiter place)
      (h : ∀ r, place + 2 ≤ r → ¬ ClosesAt source delimiter r) :
      NeverEnds source place (.unclosedDelimiter delimiter.opening)
  | raw {r : Nat} (hbegins : Begins source .logic place)
      (hr : IsFirst (ClosesAt source .logic) (place + 2) r)
      (hraw : isRawTag (between source (place + 2) r) = true)
      (h : ∀ e f, r + 2 ≤ e → ¬ RawEnds source e f) : NeverEnds source place .unclosedRaw

variable {source : List Char} {place : Nat}

theorem Segment.StandsAt.line_eq {segment : Segment} (h : segment.StandsAt source place) :
    segment.line = lineAt source place := by
  cases segment with
  | text => exact h.elim
  | output | logic | raw => exact h.2

theorem Segment.StandsAt.begins {segment : Segment} (h : segment.StandsAt source place) :
    ∃ delimiter, Begins source delimiter place := by
  cases segment with
  | text => exact h.elim
  | output | logic | raw => exact ⟨_, h.1.1⟩

theorem NeverEnds.begins {complaint : Complaint} (h : NeverEnds source place complaint) :
    ∃ delimiter, Begins source delimiter place := by
  cases h with
  | delimiter hbegins | raw hbegins => exact ⟨_, hbegins⟩

/-- The segment is a text or one of the tags of the source. -/
def Segment.IsPlaced (source : List Char) (segment : Segment) : Prop :=
  (∃ text line, segment = .text text line) ∨ ∃ place, segment.StandsAt source place

theorem isPlaced_textSegment (source text : List Char) (line : Nat) :
    ∀ segment ∈ textSegment text line, segment.IsPlaced source := by
  unfold textSegment
  split
  · exact List.forall_mem_nil _
  · exact List.forall_mem_singleton.mpr (Or.inl ⟨text, line, rfl⟩)

/-- What the splitting makes of a source from a place on, where text begins. -/
theorem placed_of_splits {p : Nat} {segments : Segments} (h : Splits isRawTag source p segments)
    (hcut : Cut source p) :
    (∀ segment ∈ segments.segments, segment.IsPlaced source) ∧
      ∀ line complaint, segments.fault = some (line, complaint) →
        ∃ place, line = lineAt source place ∧ NeverEnds source place complaint := by
  have hbefore {text : List Char} {line : Nat} {segment : Segment} {rest : Segments}
      (hsegment : segment.IsPlaced source) (hrest : ∀ segment ∈ rest.segments, segment.IsPlaced source) :
      ∀ part ∈ (rest.before (textSegment text line ++ [segment])).segments, part.IsPlaced source :=
    List.forall_mem_append.mpr ⟨List.forall_mem_append.mpr
      ⟨isPlaced_textSegment source text line, List.forall_mem_singleton.mpr hsegment⟩, hrest⟩
  induction h with
  | rest h => exact ⟨isPlaced_textSegment _ _ _, nofun⟩
  | @unclosed p q delimiter hq h =>
    refine ⟨isPlaced_textSegment _ _ _, ?_⟩
    rintro _ _ ⟨⟩
    exact ⟨q, rfl, .delimiter ⟨p, hcut, hq⟩ h⟩
  | @comment p q r segments hq hr h ih =>
    obtain ⟨hsegments, hfault⟩ := ih (hcut.tag hq hr nofun)
    exact ⟨List.forall_mem_append.mpr ⟨isPlaced_textSegment _ _ _, hsegments⟩, hfault⟩
  | @output p q r segments hq hr h ih =>
    obtain ⟨hsegments, hfault⟩ := ih (hcut.tag hq hr nofun)
    exact ⟨hbefore (Or.inr ⟨q, ⟨⟨p, hcut, hq⟩, r, hr, rfl⟩, rfl⟩) hsegments, hfault⟩
  | @logic p q r segments hq hr hraw h ih =>
    obtain ⟨hsegments, hfault⟩ := ih (hcut.tag hq hr fun _ => hraw)
    exact ⟨hbefore (Or.inr ⟨q, ⟨⟨p, hcut, hq⟩, r, hr, rfl⟩, rfl⟩) hsegments, hfault⟩
  | @raw p q r e f segments hq hr hraw he hf h ih =>
    obtain ⟨hsegments, hfault⟩ := ih (hcut.raw hq hr hraw he hf)
    exact ⟨hbefore (Or.inr ⟨q, ⟨⟨p, hcut, hq⟩, r, hr, rfl⟩, rfl⟩) hsegments, hfault⟩
  | @unclosedRaw p q r hq hr hraw h =>
    refine ⟨isPlaced_textSegment _ _ _, ?_⟩
    rintro _ _ ⟨⟩
    exact ⟨q, rfl, .raw ⟨p, hcut, hq⟩ hr hraw h⟩

theorem splits_segments (source : String) : Splits isRawTag source.toList 0 (segments source) := by
  obtain ⟨found, hfound⟩ := exists_splits isRawTag source.toList 0
  have hcollect := Scanner.collect_of_splits hfound
  rw [← Scanner.start_eq_inText] at hcollect
  have hsegments : segments source = found := hcollect
  rwa [hsegments]

theorem isPlaced_segments (source : String) :
    ∀ segment ∈ (segments source).segments, segment.IsPlaced source.toList :=
  (placed_of_splits (splits_segments source) .start).1

theorem neverEnds_of_fault {source : String} {line : Nat} {complaint : Complaint}
    (h : (segments source).fault = some (line, complaint)) :
    ∃ place, line = lineAt source.toList place ∧ NeverEnds source.toList place complaint :=
  (placed_of_splits (splits_segments source) .start).2 line complaint h

end Stencil.Source
