import Stencil.Proofs.Location

/-!
Paths as walks. A name leads down, `..` leads up, and `.` and repeated slashes lead nowhere; above the root
is the root itself, and a walk that is not rooted can climb above its start. Two paths have one normal form
exactly when they lead to the same place, which is exactly when no directory to start in tells them apart.
-/
namespace Stencil.Location

/-- Where a walk has led. Names that lead down come with the last one first. -/
inductive Place where
  | fromRoot (down : List (List Char))
  /-- So many directories above the start, and down from there. -/
  | fromStart (above : Nat) (down : List (List Char))
deriving DecidableEq, Repr

/-- What a directory can be called. -/
structure IsName (name : List Char) : Prop where
  ne_nil : name ≠ []
  ne_here : name ≠ ['.']
  ne_up : name ≠ ['.', '.']
  no_slash : '/' ∉ name

namespace Place

def down : Place → List (List Char)
  | fromRoot down => down
  | fromStart _ down => down

def ascend : Place → Place
  | fromRoot down => fromRoot down.tail
  | fromStart above [] => fromStart (above + 1) []
  | fromStart above (_ :: down) => fromStart above down

def descend (place : Place) (name : List Char) : Place :=
  match place with
  | fromRoot down => fromRoot (name :: down)
  | fromStart above down => fromStart above (name :: down)

/-- Where what stands between two slashes leads. -/
def walk (place : Place) (part : List Char) : Place :=
  if part = [] ∨ part = ['.'] then place
  else if part = ['.', '.'] then place.ascend
  else place.descend part

/-- The shortest path to the place. -/
def path : Place → List Component
  | fromRoot down => .root :: down.reverse.map .name
  | fromStart above down => List.replicate above .up ++ down.reverse.map .name

/-- The place seen from a directory that the walk began in. -/
def seenFrom (directory : List (List Char)) : Place → List (List Char)
  | fromRoot down => down
  | fromStart above down => down ++ directory.drop above

end Place

/-- The place that a path leads to. -/
def destination (path : String) : Place :=
  (splitSlash path.toList).foldl Place.walk (if isRooted path then .fromRoot [] else .fromStart 0 [])

/-- Where what stands between two slashes leads from a directory. -/
def enter (directory : List (List Char)) (part : List Char) : List (List Char) :=
  if part = [] ∨ part = ['.'] then directory
  else if part = ['.', '.'] then directory.tail
  else part :: directory

/-- The directory that a path leads to from a directory. -/
def arrive (directory : List (List Char)) (path : String) : List (List Char) :=
  (splitSlash path.toList).foldl enter (if isRooted path then [] else directory)

/-- The normal form of a path. -/
def normal (path : String) : String := write (normalise (components path))

section Walks

variable {place : Place}

/-- The stack of components that normal form is built on, at a place. -/
def Place.stack (place : Place) : List Component := place.path.reverse

theorem Place.stack_fromRoot (down : List (List Char)) :
    (fromRoot down).stack = down.map .name ++ [.root] := by
  simp [stack, path]

theorem Place.stack_fromStart (above : Nat) (down : List (List Char)) :
    (fromStart above down).stack = down.map .name ++ List.replicate above .up := by
  simp [stack, path]

theorem Place.push_up (place : Place) : push place.stack .up = place.ascend.stack := by
  cases place with
  | fromRoot down =>
    cases down with
    | nil => rfl
    | cons name down =>
      rw [ascend, stack_fromRoot, stack_fromRoot]
      rfl
  | fromStart above down =>
    cases down with
    | nil =>
      rw [ascend, stack_fromStart, stack_fromStart, List.replicate_succ]
      cases above <;> rfl
    | cons name down =>
      rw [ascend, stack_fromStart, stack_fromStart]
      rfl

theorem Place.push_name (place : Place) (name : List Char) :
    push place.stack (.name name) = (place.descend name).stack := by
  cases place with
  | fromRoot down =>
    rw [descend, stack_fromRoot, stack_fromRoot]
    rfl
  | fromStart above down =>
    rw [descend, stack_fromStart, stack_fromStart]
    rfl

/-- A step of the walk is a step of normal form. -/
theorem Place.foldl_push_part (place : Place) (part : List Char) :
    (ofPart part).toList.foldl push place.stack = (place.walk part).stack := by
  unfold walk ofPart
  by_cases hnone : part = [] ∨ part = ['.']
  · rw [if_pos hnone, if_pos (by simpa using hnone)]
    rfl
  · rw [if_neg hnone, if_neg (by simpa using hnone)]
    by_cases hup : part = ['.', '.']
    · rw [if_pos hup, if_pos hup]
      exact place.push_up
    · rw [if_neg hup, if_neg hup]
      exact place.push_name part

theorem foldl_push_parts (parts : List (List Char)) (place : Place) :
    (parts.filterMap ofPart).foldl push place.stack = (parts.foldl Place.walk place).stack := by
  induction parts generalizing place with
  | nil => rfl
  | cons part parts ih =>
    have hstep := place.foldl_push_part part
    rw [List.filterMap_cons, List.foldl_cons, ← ih, ← hstep]
    cases ofPart part <;> rfl

theorem foldl_push_relative {name : String} (h : isRooted name = false) (place : Place) :
    (components name).foldl push place.stack = ((splitSlash name.toList).foldl Place.walk place).stack := by
  rw [← foldl_push_parts]
  unfold components
  dsimp only
  split
  · rename_i rest hname
    simp [isRooted, hname] at h
  · split <;> rfl

theorem components_of_isRooted {path : String} (h : isRooted path = true) :
    components path = .root :: (splitSlash path.toList).filterMap ofPart := by
  unfold components
  dsimp only
  split
  · rfl
  · rename_i hpath
    unfold isRooted at h
    cases hchars : path.toList with
    | nil => simp [hchars] at h
    | cons c rest =>
      rw [hchars, List.head?_cons, decide_eq_true_eq, Option.some.injEq] at h
      exact absurd (h ▸ hchars) (hpath rest)

theorem foldl_push_components (path : String) :
    (components path).foldl push [] = (destination path).stack := by
  unfold destination
  cases hrooted : isRooted path with
  | false => exact foldl_push_relative hrooted (.fromStart 0 [])
  | true =>
    rw [if_pos rfl, ← foldl_push_parts, components_of_isRooted hrooted]
    rfl

theorem normalise_components (path : String) : normalise (components path) = (destination path).path := by
  rw [normalise, foldl_push_components, Place.stack, List.reverse_reverse]

theorem normal_eq_write (path : String) : normal path = write (destination path).path :=
  congrArg write (normalise_components path)

theorem components_normal (path : String) : components (normal path) = (destination path).path :=
  (proper_components path).components_write.trans (normalise_components path)

theorem isKey_normal (path : String) : IsKey (normal path) := ⟨_, proper_components path, rfl⟩

theorem normal_normal (path : String) : normal (normal path) = normal path := by
  have hkey := isKey_normal path
  rw [normal, hkey.normalise_components, hkey.write_components]

theorem Place.count_up (above : Nat) (down : List (List Char)) :
    (fromStart above down).path.count .up = above := by
  have hnone : (down.reverse.map Component.name).count .up = 0 := by simp [List.count_eq_zero]
  rw [path, List.count_append, List.count_replicate_self, hnone, Nat.add_zero]

theorem Place.path_injective {other : Place} (h : place.path = other.path) : place = other := by
  have hnames {down down' : List (List Char)}
      (h : down.reverse.map Component.name = down'.reverse.map Component.name) : down = down' :=
    List.reverse_inj.mp ((List.map_inj_right fun _ _ => Component.name.inj).mp h)
  have hroot : ∀ above down, .root ∉ (fromStart above down).path := by simp [path]
  cases place with
  | fromRoot down =>
    cases other with
    | fromRoot down' => rw [hnames (List.cons.inj h).2]
    | fromStart above down' => exact absurd (h ▸ List.mem_cons_self) (hroot above down')
  | fromStart above down =>
    cases other with
    | fromRoot down' => exact absurd (h ▸ List.mem_cons_self) (hroot above down)
    | fromStart above' down' =>
      obtain rfl : above = above' := by rw [← count_up above down, h, count_up]
      rw [hnames (List.append_cancel_left h)]

theorem normal_eq_iff {path other : String} :
    normal path = normal other ↔ destination path = destination other := by
  constructor
  · intro h
    apply Place.path_injective
    rw [← components_normal, ← components_normal, h]
  · intro h
    rw [normal_eq_write, normal_eq_write, h]

theorem destination_normal (path : String) : destination (normal path) = destination path :=
  normal_eq_iff.mp (normal_normal path)

end Walks

section Directories

variable {place other : Place} {directory : List (List Char)}

theorem Place.seenFrom_walk (place : Place) (part : List Char) :
    (place.walk part).seenFrom directory = enter (place.seenFrom directory) part := by
  unfold walk enter
  split
  · rfl
  · split
    · cases place with
      | fromRoot down => rfl
      | fromStart above down =>
        cases down with
        | nil => exact (List.tail_drop).symm
        | cons name down => rfl
    · cases place <;> rfl

theorem Place.seenFrom_foldl_walk (parts : List (List Char)) (place : Place) :
    (parts.foldl walk place).seenFrom directory = parts.foldl enter (place.seenFrom directory) := by
  induction parts generalizing place with
  | nil => rfl
  | cons part parts ih => rw [List.foldl_cons, List.foldl_cons, ih, seenFrom_walk]

theorem arrive_eq (directory : List (List Char)) (path : String) :
    arrive directory path = (destination path).seenFrom directory := by
  unfold arrive destination
  rw [Place.seenFrom_foldl_walk]
  split <;> rfl

theorem Place.isName_walk {part : List Char} (h : ∀ name ∈ place.down, IsName name) (hpart : '/' ∉ part) :
    ∀ name ∈ (place.walk part).down, IsName name := by
  unfold walk
  split
  · exact h
  · rename_i hsome
    rw [not_or] at hsome
    split
    · cases place with
      | fromRoot down => exact fun name hname => h name (List.mem_of_mem_tail hname)
      | fromStart above down =>
        cases down with
        | nil => exact List.forall_mem_nil _
        | cons first down => exact fun name hname => h name (List.mem_cons_of_mem first hname)
    · rename_i hup
      have hname : IsName part := ⟨hsome.1, hsome.2, hup, hpart⟩
      cases place <;> exact List.forall_mem_cons.mpr ⟨hname, h⟩

theorem isName_destination (path : String) : ∀ name ∈ (destination path).down, IsName name := by
  have hfold (parts : List (List Char)) (hparts : ∀ part ∈ parts, '/' ∉ part) (place : Place)
      (hplace : ∀ name ∈ place.down, IsName name) :
      ∀ name ∈ (parts.foldl Place.walk place).down, IsName name := by
    induction parts generalizing place with
    | nil => exact hplace
    | cons part parts ih =>
      obtain ⟨hpart, hrest⟩ := List.forall_mem_cons.mp hparts
      exact ih hrest _ (Place.isName_walk hplace hpart)
  refine hfold _ (fun part hpart => not_mem_splitSlash hpart) _ ?_
  split <;> exact List.forall_mem_nil _

/-- Some name is none of these. -/
theorem exists_isName_not_mem (names : List (List Char)) : ∃ name, IsName name ∧ name ∉ names := by
  obtain ⟨bound, hbound⟩ : ∃ bound, ∀ name ∈ names, name.length ≤ bound := by
    induction names with
    | nil => exact ⟨0, List.forall_mem_nil _⟩
    | cons first names ih =>
      obtain ⟨bound, hbound⟩ := ih
      refine ⟨max first.length bound, List.forall_mem_cons.mpr ⟨Nat.le_max_left _ _, fun name hname => ?_⟩⟩
      exact Nat.le_trans (hbound name hname) (Nat.le_max_right _ _)
  have hletters : ∀ c ∈ List.replicate (bound + 1) 'a', c = 'a' := fun c hc => List.eq_of_mem_replicate hc
  refine ⟨List.replicate (bound + 1) 'a', ⟨nofun, ?_, ?_, ?_⟩, ?_⟩
  · intro h
    exact absurd (hletters '.' (h ▸ List.mem_cons_self)) (by decide)
  · intro h
    exact absurd (hletters '.' (h ▸ List.mem_cons_self)) (by decide)
  · intro h
    exact absurd (hletters '/' h) (by decide)
  · intro h
    have hlength := hbound _ h
    rw [List.length_replicate] at hlength
    omega

/-- What stands before a name that does not occur in it is found again. -/
theorem append_replicate_inj {name : List Char} {down down' : List (List Char)} {n m : Nat}
    (hdown : name ∉ down) (hdown' : name ∉ down')
    (h : down ++ List.replicate n name = down' ++ List.replicate m name) : down = down' ∧ n = m := by
  have hfront {down : List (List Char)} (hdown : name ∉ down) (n : Nat) :
      (down ++ List.replicate n name).takeWhile (· != name) = down := by
    rw [List.takeWhile_append_of_pos, List.takeWhile_replicate]
    · simp
    · intro other hother
      rw [bne_iff_ne]
      exact fun heq => hdown (heq ▸ hother)
  obtain rfl : down = down' := by rw [← hfront hdown n, h, hfront hdown' m]
  have hlength := congrArg List.length (List.append_cancel_left h)
  rw [List.length_replicate, List.length_replicate] at hlength
  exact ⟨rfl, hlength⟩

/-- Different places are seen as different directories from somewhere far below the root. -/
theorem Place.eq_of_seenFrom
    (h : ∀ directory, (∀ name ∈ directory, IsName name) →
      place.seenFrom directory = other.seenFrom directory) : place = other := by
  obtain ⟨fresh, hname, hfresh⟩ := exists_isName_not_mem (place.down ++ other.down)
  rw [List.mem_append, not_or] at hfresh
  have hsame (depth : Nat) : place.seenFrom (List.replicate depth fresh) =
      other.seenFrom (List.replicate depth fresh) :=
    h _ fun name hmem => List.eq_of_mem_replicate hmem ▸ hname
  have hmem (down : List (List Char)) {depth above : Nat} (hlt : above < depth) :
      fresh ∈ (fromStart above down).seenFrom (List.replicate depth fresh) := by
    refine List.mem_append_right down ?_
    rw [List.drop_replicate, List.mem_replicate]
    exact ⟨by omega, rfl⟩
  cases place with
  | fromRoot down =>
    cases other with
    | fromRoot down' => exact congrArg fromRoot (hsame 0)
    | fromStart above down' =>
      have hin := hmem down' (Nat.lt_succ_self above)
      rw [← hsame] at hin
      exact absurd hin hfresh.1
  | fromStart above down =>
    cases other with
    | fromRoot down' =>
      have hin := hmem down (Nat.lt_succ_self above)
      rw [hsame] at hin
      exact absurd hin hfresh.2
    | fromStart above' down' =>
      have hseen := hsame (above + above')
      simp only [seenFrom, List.drop_replicate, Nat.add_sub_cancel_left, Nat.add_sub_cancel] at hseen
      obtain ⟨rfl, rfl⟩ := append_replicate_inj hfresh.1 hfresh.2 hseen
      rfl

/-- The place is all that matters of a path, wherever the walk begins. -/
theorem destination_eq_iff {path other : String} :
    destination path = destination other ↔
      ∀ directory, (∀ name ∈ directory, IsName name) → arrive directory path = arrive directory other := by
  constructor
  · intro h directory _
    rw [arrive_eq, arrive_eq, h]
  · intro h
    refine Place.eq_of_seenFrom fun directory hnames => ?_
    rw [← arrive_eq, ← arrive_eq]
    exact h directory hnames

end Directories

end Stencil.Location
