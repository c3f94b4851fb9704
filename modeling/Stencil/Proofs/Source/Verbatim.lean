import Mathlib.Data.List.Infix
import Stencil.Proofs.Source.Endraw

/-!
Sources that stand for themselves. Such a source is put together from plain texts, comments and the bodies
of raw tags. It is cut into segments that hold its texts and bodies, one after the other, and nothing else;
texts that follow one another become one segment.
-/
namespace Stencil.Source

/-- A part of a source. -/
inductive Piece where
  | text (content : List Char)
  | comment (content : List Char)
  | raw (body : List Char)
deriving DecidableEq, Repr

namespace Piece

/-- The inside of the tag before a body. -/
def rawContent : List Char := [' ', 'r', 'a', 'w', ' ']

/-- The inside of the tag behind a body. -/
def endrawContent : List Char := [' ', 'e', 'n', 'd', 'r', 'a', 'w', ' ']

def source : Piece → List Char
  | .text content => content
  | .comment content => '\x7b' :: '#' :: (content ++ ['#', '\x7d'])
  | .raw body =>
    '\x7b' :: '%' :: (rawContent ++ '%' :: '\x7d' ::
      (body ++ '\x7b' :: '%' :: (endrawContent ++ ['%', '\x7d'])))

/-- What is left of the piece in the output. -/
def output : Piece → List Char
  | .text content => content
  | .comment _ => []
  | .raw body => body

/-- Nothing in the piece is taken for an opening or for its end, with the other pieces behind it. -/
def Stands (rest : List Piece) : Piece → Prop
  | .text content =>
    (∀ delimiter : Delimiter, ¬ ['\x7b', delimiter.mark] <:+: content) ∧
      (rest ≠ [] → content.getLast? ≠ some '\x7b')
  | .comment content => ¬ ['#', '\x7d'] <:+: content
  | .raw body => ∀ content, IsEndraw content → ¬ '\x7b' :: '%' :: (content ++ ['%', '\x7d']) <:+: body

def AllStand : List Piece → Prop
  | [] => True
  | piece :: rest => piece.Stands rest ∧ AllStand rest

end Piece

/-! The runs of a source made of pieces. -/

section Runs

variable {front text content body rest : List Char} {closing : Char}

/-- A text in which no tag opens is a run by itself. -/
theorem textRun_of_plain (h : ∀ delimiter : Delimiter, ¬ ['\x7b', delimiter.mark] <:+: text) :
    textRun text = (text, none) := by
  fun_induction textRun text with
  | case1 c rest delimiter hmark =>
    have hopening : ['\x7b', delimiter.mark] <:+: '\x7b' :: c :: rest :=
      ⟨[], rest, by rw [Delimiter.ofMark?_eq_some.mp hmark]; rfl⟩
    exact absurd hopening (h delimiter)
  | case2 c rest _ text tag? hrun ih =>
    have hrest := ih fun delimiter hwithin => h delimiter (List.infix_cons hwithin)
    cases hrun.symm.trans hrest
    rfl
  | case3 c rest _ text tag? hrun ih =>
    have hrest := ih fun delimiter hwithin => h delimiter (List.infix_cons hwithin)
    cases hrun.symm.trans hrest
    rfl
  | case4 => rfl

/-- A plain text goes on with the run behind it, unless its last character could open a tag. -/
theorem textRun_append (h : textRun front = (front, none)) (hlast : front.getLast? ≠ some '\x7b')
    (rest : List Char) : textRun (front ++ rest) = (front ++ (textRun rest).1, (textRun rest).2) := by
  fun_induction textRun front with
  | case1 c tail delimiter hmark => cases h
  | case2 c tail hmark text tag? hrun ih =>
    cases h
    rw [List.getLast?_cons_cons] at hlast
    have htail := ih hrun hlast
    rw [List.cons_append, List.cons_append] at htail ⊢
    rw [textRun, hmark, htail]
    rfl
  | case3 c tail hopens text tag? hrun ih =>
    cases h
    cases tail with
    | nil =>
      have hbrace : c ≠ '\x7b' := by simpa using hlast
      rw [List.singleton_append, textRun]
      · rfl
      · exact fun c rest hc _ => hbrace hc
    | cons d tail =>
      rw [List.getLast?_cons_cons] at hlast
      have htail := ih hrun hlast
      rw [List.cons_append] at htail ⊢
      rw [List.cons_append, textRun, htail]
      · rfl
      · exact fun c rest hc hrest => hopens d tail hc rfl
  | case4 => rfl

/-- A tag that opens before a brace ends before it too, or the brace is a part of its content. -/
theorem tagRun_before_brace {after : List Char}
    (h : tagRun '%' (front ++ '\x7b' :: rest) = some (content, after)) :
    (∃ back, front = content ++ '%' :: '\x7d' :: back) ∨ '\x7b' ∈ content := by
  induction front generalizing content with
  | nil =>
    rw [List.nil_append, tagRun, if_neg (by simp)] at h
    obtain ⟨⟨content, after⟩, -, hpair⟩ := Option.map_eq_some_iff.mp h
    cases hpair
    exact Or.inr List.mem_cons_self
  | cons c front ih =>
    rw [List.cons_append, tagRun] at h
    by_cases hcloses : (c = '%' && (front ++ '\x7b' :: rest).head? = some '\x7d') = true
    · rw [if_pos hcloses] at h
      cases h
      obtain ⟨hc, hhead⟩ := (Bool.and_eq_true _ _).mp hcloses
      obtain rfl := of_decide_eq_true hc
      have hhead' : (front ++ '\x7b' :: rest).head? = some '\x7d' := of_decide_eq_true hhead
      cases front with
      | nil => cases hhead'
      | cons d front =>
        obtain rfl : d = '\x7d' := Option.some.inj hhead'
        exact Or.inl ⟨front, rfl⟩
    · rw [if_neg hcloses] at h
      obtain ⟨⟨content, after⟩, hrun, hpair⟩ := Option.map_eq_some_iff.mp h
      cases hpair
      rcases ih hrun with ⟨back, rfl⟩ | hbrace
      · exact Or.inl ⟨back, rfl⟩
      · exact Or.inr (List.mem_cons_of_mem _ hbrace)

theorem tagRun_ne_none (front rest : List Char) :
    tagRun closing (front ++ closing :: '\x7d' :: rest) ≠ none := by
  induction front with
  | nil =>
    rw [List.nil_append, tagRun, if_pos (by simp)]
    exact Option.some_ne_none _
  | cons c front ih =>
    rw [List.cons_append, tagRun]
    split
    · exact Option.some_ne_none _
    · simpa using ih

/-- What stands behind the body of a raw tag, up to its end and further. -/
def rawEnd (rest : List Char) : List Char :=
  '\x7b' :: '%' :: (Piece.endrawContent ++ '%' :: '\x7d' :: rest)

/-- No place in the body of a raw tag, with the end tag behind it, is taken for an end. -/
theorem rawStep_body {c : Char} (h : (Piece.raw (c :: body)).Stands []) (rest : List Char) :
    rawStep (c :: (body ++ rawEnd rest)) = .plain := by
  unfold rawStep
  split
  · rename_i behind hsource
    obtain ⟨rfl, hbehind⟩ := List.cons.inj hsource
    cases body with
    | nil => cases hbehind
    | cons d body =>
      obtain ⟨rfl, rfl⟩ := List.cons.inj hbehind
      cases hrun : tagRun '%' (body ++ rawEnd rest) with
      | none =>
        have hclosed : body ++ rawEnd rest =
            (body ++ '\x7b' :: '%' :: Piece.endrawContent) ++ '%' :: '\x7d' :: rest := by
          simp [rawEnd]
        rw [hclosed] at hrun
        exact absurd hrun (tagRun_ne_none _ _)
      | some pair =>
        obtain ⟨content, after⟩ := pair
        have hnot : ¬ (TagText.ofContent content).closesRaw = true := by
          intro hcloses
          have hendraw := isEndraw_of_closesRaw hcloses
          rcases tagRun_before_brace hrun with ⟨back, rfl⟩ | hbrace
          · refine h content hendraw ⟨[], back, ?_⟩
            simp
          · exact hendraw.not_mem (by decide) (by decide) hbrace
        exact if_neg hnot
  · rfl

theorem rawStep_rawEnd (rest : List Char) : rawStep (rawEnd rest) = .closer Piece.endrawContent rest := by
  have hrun : tagRun '%' (Piece.endrawContent ++ '%' :: '\x7d' :: rest) = some (Piece.endrawContent, rest) :=
    tagRun_append (by decide) (by decide) rest
  have hcloses : (TagText.ofContent Piece.endrawContent).closesRaw = true := by decide
  rw [rawEnd, rawStep_tag, hrun]
  exact if_pos hcloses

/-- The body of a raw tag is taken as it stands. -/
theorem rawRun_body (h : (Piece.raw body).Stands []) (rest : List Char) :
    rawRun (body ++ rawEnd rest) = some ⟨body, Piece.endrawContent, rest⟩ := by
  induction body with
  | nil =>
    have hstep := rawStep_rawEnd rest
    rw [List.nil_append, rawEnd] at *
    rw [rawRun, hstep]
  | cons c body ih =>
    have hbody := ih fun content hendraw hwithin => h content hendraw (List.infix_cons hwithin)
    rw [List.cons_append, rawRun, rawStep_body h rest]
    dsimp only
    rw [hbody]
    rfl

theorem IsEndraw.tagRun (h : IsEndraw content) (rest : List Char) :
    tagRun '%' (content ++ '%' :: '\x7d' :: rest) = some (content, rest) := by
  refine tagRun_append (fun hwithin => ?_) (by decide) rest
  exact h.not_mem (by decide) (by decide) (hwithin.mem List.mem_cons_self)

/-- The body of a raw tag goes no further than to an end tag of raw. -/
theorem length_rawRun_le {run : RawBody} (h : IsEndraw content)
    (hrun : rawRun (front ++ '\x7b' :: '%' :: (content ++ '%' :: '\x7d' :: rest)) = some run) :
    run.body.length ≤ front.length := by
  induction front generalizing run with
  | nil =>
    have hstep : rawStep ('\x7b' :: '%' :: (content ++ '%' :: '\x7d' :: rest)) = .closer content rest := by
      rw [rawStep_tag, h.tagRun rest]
      exact if_pos (closesRaw_of_isEndraw h)
    rw [List.nil_append, rawRun, hstep] at hrun
    cases hrun
    exact Nat.le_refl 0
  | cons c front ih =>
    rw [List.cons_append, rawRun] at hrun
    split at hrun
    · cases hrun
      exact Nat.zero_le _
    · cases hrun
    · obtain ⟨inner, hinner, rfl⟩ := Option.map_eq_some_iff.mp hrun
      exact Nat.succ_le_succ (ih hinner)

/-- The body of a raw tag is taken as it stands if and only if it stands for itself. -/
theorem stands_raw_iff {pieces : List Piece} :
    (Piece.raw body).Stands pieces ↔ (rawRun (body ++ rawEnd [])).map (·.body) = some body := by
  constructor
  · intro h
    rw [rawRun_body h]
    rfl
  · intro h content hendraw hwithin
    obtain ⟨front, back, rfl⟩ := hwithin
    obtain ⟨run, hrun, hbody⟩ := Option.map_eq_some_iff.mp h
    have hsplit : front ++ '\x7b' :: '%' :: (content ++ ['%', '\x7d']) ++ back ++ rawEnd [] =
        front ++ '\x7b' :: '%' :: (content ++ '%' :: '\x7d' :: (back ++ rawEnd [])) := by
      simp
    rw [hsplit] at hrun
    have hle := length_rawRun_le hendraw hrun
    rw [hbody] at hle
    simp only [List.length_append, List.length_cons, List.length_nil] at hle
    omega

end Runs

instance Piece.decidableStands (rest : List Piece) : (piece : Piece) → Decidable (piece.Stands rest)
  | .text content =>
    have hall : ((¬ ['\x7b', Delimiter.output.mark] <:+: content ∧
        ¬ ['\x7b', Delimiter.logic.mark] <:+: content ∧ ¬ ['\x7b', Delimiter.comment.mark] <:+: content) ∧
        (rest ≠ [] → content.getLast? ≠ some '\x7b')) ↔ (Piece.text content).Stands rest := by
      refine and_congr_left' ⟨?_, fun h => ⟨h .output, h .logic, h .comment⟩⟩
      rintro ⟨houtput, hlogic, hcomment⟩ (_ | _ | _)
      · exact houtput
      · exact hlogic
      · exact hcomment
    decidable_of_iff _ hall
  | .comment content => inferInstanceAs (Decidable (¬ ['#', '\x7d'] <:+: content))
  | .raw _ => decidable_of_iff _ stands_raw_iff.symm

instance Piece.decidableAllStand : (pieces : List Piece) → Decidable (Piece.AllStand pieces)
  | [] => isTrue True.intro
  | piece :: rest =>
    have := decidableAllStand rest
    inferInstanceAs (Decidable (piece.Stands rest ∧ Piece.AllStand rest))

/-! The segments of a source made of pieces. -/

/-- The segments hold the text, and tags that leave nothing else. -/
inductive Verbatim : List Segment → List Char → Prop
  | nil : Verbatim [] []
  | text {segments : List Segment} {output : List Char} (content : List Char) (line : Nat)
      (h : Verbatim segments output) : Verbatim (.text content line :: segments) (content ++ output)
  | raw {segments : List Segment} {output : List Char} (line : Nat) (body : List Char)
      (h : Verbatim segments output) :
      Verbatim (.raw Piece.rawContent line body Piece.endrawContent :: segments) (body ++ output)

theorem Verbatim.textSegment {segments : List Segment} {output : List Char} (h : Verbatim segments output)
    (text : List Char) (line : Nat) :
    Verbatim (Source.textSegment text line ++ segments) (text ++ output) := by
  cases text with
  | nil => exact h
  | cons c text => exact .text (c :: text) line h

theorem Verbatim.singleton {segments : List Segment} {output : List Char} (h : Verbatim segments output)
    (line : Nat) (body : List Char) :
    Verbatim ([.raw Piece.rawContent line body Piece.endrawContent] ++ segments) (body ++ output) :=
  .raw line body h

/-- A text that waits to be handed out: no tag opens in it, or could with what follows. -/
structure Pending (front : List Char) : Prop where
  run : textRun front = (front, none)
  last : front.getLast? ≠ some '\x7b'

theorem pending_nil : Pending [] := ⟨rfl, nofun⟩

/-- The source is cut into segments that hold the output, and no error ends it. -/
def CutsTo (line : Nat) (source output : List Char) : Prop :=
  (segmentsFrom line source).fault = none ∧ Verbatim (segmentsFrom line source).segments output

/-- A source without tags is one text. -/
theorem cutsTo_of_run {source : List Char} (h : textRun source = (source, none)) (line : Nat) :
    CutsTo line source source := by
  unfold CutsTo
  rw [segmentsFrom_eq, h]
  refine ⟨rfl, ?_⟩
  simpa using Verbatim.nil.textSegment source line

namespace Pending

variable {front text content body rest output : List Char}

/-- A plain text joins the text that waits. -/
theorem append (h : Pending front) (hplain : ∀ delimiter : Delimiter, ¬ ['\x7b', delimiter.mark] <:+: text) :
    textRun (front ++ text) = (front ++ text, none) := by
  rw [textRun_append h.run h.last, textRun_of_plain hplain]

theorem getLast?_append (h : Pending front) (hlast : text.getLast? ≠ some '\x7b') :
    (front ++ text).getLast? ≠ some '\x7b' := by
  rw [List.getLast?_append]
  cases htext : text.getLast? with
  | none => exact h.last
  | some c =>
    rw [htext] at hlast
    exact hlast

/-- The run up to an opening. -/
theorem run_opening (h : Pending front) (delimiter : Delimiter) (rest : List Char) :
    textRun (front ++ '\x7b' :: delimiter.mark :: rest) = (front, some (delimiter, rest)) := by
  have hrun : textRun ('\x7b' :: delimiter.mark :: rest) = ([], some (delimiter, rest)) := by
    rw [textRun, Delimiter.ofMark?_eq_some.mpr rfl]
  rw [textRun_append h.run h.last, hrun, List.append_nil]

/-- A comment ends the text that waits, and leaves nothing. -/
theorem cutsTo_comment (h : Pending front) (hcontent : ¬ ['#', '\x7d'] <:+: content)
    (hrest : ∀ line, CutsTo line rest output) (line : Nat) :
    CutsTo line (front ++ ((Piece.comment content).source ++ rest)) (front ++ output) := by
  have hsource : front ++ ((Piece.comment content).source ++ rest) =
      front ++ '\x7b' :: Delimiter.comment.mark :: (content ++ '#' :: '\x7d' :: rest) := by
    simp [Piece.source, Delimiter.mark]
  have htag : tagRun Delimiter.comment.closing _ = _ := tagRun_append hcontent (by decide) rest
  unfold CutsTo
  rw [hsource, segmentsFrom_eq, h.run_opening]
  dsimp only
  rw [htag]
  obtain ⟨hfault, hverbatim⟩ := hrest (line + lineEnds front + lineEnds content)
  exact ⟨hfault, hverbatim.textSegment front line⟩

/-- A raw tag ends the text that waits, and leaves its body. -/
theorem cutsTo_raw (h : Pending front) (hbody : (Piece.raw body).Stands [])
    (hrest : ∀ line, CutsTo line rest output) (line : Nat) :
    CutsTo line (front ++ ((Piece.raw body).source ++ rest)) (front ++ (body ++ output)) := by
  have hsource : front ++ ((Piece.raw body).source ++ rest) = front ++ '\x7b' :: Delimiter.logic.mark ::
      (Piece.rawContent ++ '%' :: '\x7d' :: (body ++ rawEnd rest)) := by
    simp [Piece.source, Delimiter.mark, rawEnd]
  have htag : tagRun Delimiter.logic.closing _ = _ :=
    tagRun_append (by decide : ¬ ['%', '\x7d'] <:+: Piece.rawContent) (by decide) (body ++ rawEnd rest)
  have hopens : (TagText.ofContent Piece.rawContent).opensRaw = true := by decide
  unfold CutsTo
  rw [hsource, segmentsFrom_eq, h.run_opening]
  dsimp only
  rw [htag]
  dsimp only
  rw [if_pos hopens, rawRun_body hbody rest]
  obtain ⟨hfault, hverbatim⟩ := hrest (line + lineEnds front + lineEnds Piece.rawContent + lineEnds body +
    lineEnds Piece.endrawContent)
  refine ⟨hfault, ?_⟩
  have hsegments := (hverbatim.singleton (line + lineEnds front) body).textSegment front line
  rw [← List.append_assoc] at hsegments
  exact hsegments

end Pending

/-- With the text before them that is not handed out yet, pieces that stand for themselves are cut into
segments that hold their output. -/
theorem cutsTo_pieces (pieces : List Piece) (h : Piece.AllStand pieces) {front : List Char}
    (hfront : Pending front) (line : Nat) :
    CutsTo line (front ++ pieces.flatMap Piece.source) (front ++ pieces.flatMap Piece.output) := by
  induction pieces generalizing line front with
  | nil =>
    rw [List.flatMap_nil, List.flatMap_nil, List.append_nil]
    exact cutsTo_of_run hfront.run line
  | cons piece pieces ih =>
    obtain ⟨hpiece, hpieces⟩ := h
    rw [List.flatMap_cons, List.flatMap_cons]
    cases piece with
    | text content =>
      obtain ⟨hplain, hend⟩ := hpiece
      have hrun := hfront.append hplain
      rw [← List.append_assoc, ← List.append_assoc]
      -- Only the last piece may end where a tag could begin.
      by_cases hlast : pieces = []
      · rw [hlast, List.flatMap_nil, List.flatMap_nil, List.append_nil, List.append_nil]
        exact cutsTo_of_run hrun line
      · exact ih hpieces ⟨hrun, hfront.getLast?_append (hend hlast)⟩ line
    | comment content => exact hfront.cutsTo_comment hpiece (ih hpieces pending_nil) line
    | raw body => exact hfront.cutsTo_raw hpiece (ih hpieces pending_nil) line

/-- The segments of pieces that stand for themselves. -/
theorem verbatim_segments {pieces : List Piece} (h : Piece.AllStand pieces) :
    (segments (String.ofList (pieces.flatMap Piece.source))).fault = none ∧
      Verbatim (segments (String.ofList (pieces.flatMap Piece.source))).segments
        (pieces.flatMap Piece.output) := by
  rw [segments_eq, String.toList_ofList]
  exact cutsTo_pieces pieces h pending_nil 1

end Stencil.Source
