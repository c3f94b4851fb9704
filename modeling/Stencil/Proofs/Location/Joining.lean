import Stencil.Proofs.Location.Walk
import Stencil.Proofs.Result

/-!
Names looked up in directories. A relative name leads from the place of its directory to the place of the
path that is put together from the two, so that keys do not depend on how directories are spelled, nor on
whether a name is looked up at once or in several steps.
-/
namespace Stencil.Location

/-- The path of a name in a directory. -/
def within (directory name : String) : String :=
  if directory = "" ∨ directory.toList.getLast? = some '/' then directory ++ name
  else directory ++ "/" ++ name

/-- The path of the directory where a relative name is looked up; it is empty if there is none. -/
def basePath (root from? : Option String) : String :=
  match root, from?.bind (fun path => directory? (components path)) with
  | some root, _ => root
  | none, some directory => write directory
  | none, none => ""

variable {root from? : Option String} {directory name : String}

theorem foldl_walk_within (directory name : String) (place : Place) :
    (splitSlash (within directory name).toList).foldl Place.walk place =
      (splitSlash name.toList).foldl Place.walk ((splitSlash directory.toList).foldl Place.walk place) := by
  have hnil (place : Place) : place.walk [] = place := if_pos (Or.inl rfl)
  unfold within
  split
  · rename_i hends
    rcases hends with rfl | hends
    · rw [String.empty_append]
      exact congrArg (List.foldl Place.walk · (splitSlash name.toList)) (hnil place).symm
    · obtain ⟨front, hfront⟩ := List.getLast?_eq_some_iff.mp hends
      rw [String.toList_append, hfront, List.append_assoc, List.singleton_append, splitSlash_append_slash,
        splitSlash_append_slash, List.foldl_append, List.foldl_append]
      exact congrArg (List.foldl Place.walk · (splitSlash name.toList)) (hnil _).symm
  · have htext : (directory ++ "/" ++ name).toList = directory.toList ++ '/' :: name.toList := by simp
    rw [htext, splitSlash_append_slash, List.foldl_append]

theorem isRooted_within (hname : isRooted name = false) :
    isRooted (within directory name) = isRooted directory := by
  unfold within
  split
  · rename_i hends
    rcases hends with rfl | hends
    · rw [String.empty_append, hname]
      rfl
    · cases hchars : directory.toList with
      | nil => simp [hchars] at hends
      | cons c rest => simp [isRooted, hchars]
  · rename_i hends
    cases hchars : directory.toList with
    | nil => exact absurd (Or.inl (String.toList_eq_nil_iff.mp hchars)) hends
    | cons c rest => simp [isRooted, hchars]

theorem destination_within (hname : isRooted name = false) :
    destination (within directory name) =
      (splitSlash name.toList).foldl Place.walk (destination directory) := by
  unfold destination
  rw [foldl_walk_within, isRooted_within hname]

/-- The first two characters tell whether a name is absolute. -/
theorem isAbsolute_eq (name : String) :
    isAbsolute name = (name.toList.head? = some '/' || name.toList.head? = some '\\' ||
      (name.toList.head?.any Char.isAlpha && name.toList[1]? = some ':')) := by
  unfold isAbsolute
  split
  · simp_all
  · simp_all
  · simp_all
  · rename_i hslash hback hdrive
    cases hchars : name.toList with
    | nil => rfl
    | cons c rest =>
      have hc : c ≠ '/' ∧ c ≠ '\\' := ⟨fun h => hslash rest (h ▸ hchars), fun h => hback rest (h ▸ hchars)⟩
      have hd : rest[0]? ≠ some ':' := by
        intro h
        cases rest with
        | nil => cases h
        | cons d tail => exact hdrive c tail (Option.some.inj h ▸ hchars)
      simp [hc, hd]

theorem isAbsolute_within (hdirectory : directory ≠ "") :
    (isAbsolute (within directory name) || isRooted (within directory name)) =
      (isAbsolute directory || isRooted directory) := by
  have htail : ∃ tail, (within directory name).toList = directory.toList ++ tail ∧
      (directory.toList.getLast? = some '/' ∨ tail.head? = some '/') := by
    unfold within
    split
    · rename_i hends
      exact ⟨_, String.toList_append, Or.inl (hends.resolve_left hdirectory)⟩
    · exact ⟨'/' :: name.toList, by simp, Or.inr rfl⟩
  obtain ⟨tail, hwithin, hslash⟩ := htail
  rw [isAbsolute_eq, isAbsolute_eq, isRooted, isRooted, hwithin]
  cases hchars : directory.toList with
  | nil => exact absurd (String.toList_eq_nil_iff.mp hchars) hdirectory
  | cons c rest =>
    cases rest with
    | nil =>
      -- a slash behind a single letter is no colon
      rw [hchars] at hslash
      rcases hslash with hc | htail
      · obtain rfl : c = '/' := Option.some.inj hc
        rfl
      · have hcolon : tail[0]? ≠ some ':' := by simp [← List.head?_eq_getElem?, htail]
        simp [hcolon]
    | cons d rest => simp

theorem splitSlash_write {path : List Component} (h : ∀ component ∈ path, component.Goes ∨ component = .here)
    (hpath : path ≠ []) : splitSlash (write path).toList = path.map Component.text := by
  have hwrite : write path = String.ofList (List.intercalate ['/'] (path.map Component.text)) := by
    unfold write
    split
    · have hroot := h .root List.mem_cons_self
      rcases hroot with ⟨hread, -⟩ | hhere <;> contradiction
    · rfl
  have hslash : ∀ part ∈ path.map Component.text, '/' ∉ part := by
    intro part hpart
    obtain ⟨component, hmem, rfl⟩ := List.mem_map.mp hpart
    rcases h component hmem with hgoes | rfl
    · exact hgoes.2
    · decide
  rw [hwrite, String.toList_ofList]
  cases path with
  | nil => exact absurd rfl hpath
  | cons first rest => exact splitSlash_intercalate hslash

theorem foldl_push_text {path : List Component} (h : ∀ component ∈ path, component.Goes ∨ component = .here)
    (stack : List Component) :
    ((path.map Component.text).filterMap ofPart).foldl push stack = path.foldl push stack := by
  induction path generalizing stack with
  | nil => rfl
  | cons component path ih =>
    obtain ⟨hcomponent, hpath⟩ := List.forall_mem_cons.mp h
    rw [List.foldl_cons, ← ih hpath, List.map_cons, List.filterMap_cons]
    rcases hcomponent with hgoes | rfl
    · rw [hgoes.1]
      rfl
    · rfl

/-- Components that are no root lead where their text leads. -/
theorem stack_destination_write {path : List Component}
    (h : ∀ component ∈ path, component.Goes ∨ component = .here) :
    (destination (write path)).stack = path.foldl push [] := by
  cases path with
  | nil => rfl
  | cons first rest =>
    have hsplit := splitSlash_write h (by simp)
    have hrooted : isRooted (write (first :: rest)) = false := by
      cases hchars : (write (first :: rest)).toList with
      | nil => simp [isRooted, hchars]
      | cons c text =>
        have hc : c ≠ '/' := by
          -- a slash at the start would end an empty part
          rintro rfl
          rw [hchars, splitSlash_cons, List.map_cons] at hsplit
          have hempty := (List.cons.inj hsplit).1
          rcases h first List.mem_cons_self with hgoes | rfl
          · exact hgoes.text_ne_nil hempty.symm
          · cases hempty
        simp [isRooted, hchars, hc]
    rw [destination, hrooted, hsplit, ← foldl_push_parts]
    exact foldl_push_text h []

theorem stack_destination_basePath (root from? : Option String) :
    (destination (basePath root from?)).stack = (base root from?).foldl push [] := by
  unfold basePath base
  cases root with
  | some root => exact (foldl_push_components root).symm
  | none =>
    cases hdirectory : from?.bind (fun path => directory? (components path)) with
    | none => rfl
    | some directory =>
      obtain ⟨path, -, hpath⟩ := Option.bind_eq_some_iff.mp hdirectory
      unfold directory? at hpath
      split at hpath
      · cases hpath
      · cases hpath
      · rename_i last hroot hlast
        cases hpath
        cases hrooted : isRooted path with
        | false =>
          exact stack_destination_write fun component hmem =>
            components_of_not_isRooted hrooted component ((List.dropLast_sublist _).subset hmem)
        | true =>
          have hgoes : ∀ component ∈ (splitSlash path.toList).filterMap ofPart, component.Goes :=
            fun component hmem => goes_of_mem_filterMap hmem
          rw [components_of_isRooted hrooted] at hlast ⊢
          cases hrest : (splitSlash path.toList).filterMap ofPart with
          | nil =>
            rw [hrest] at hlast
            exact absurd (Option.some.inj hlast).symm hroot
          | cons first rest =>
            rw [List.dropLast_cons_cons, ← foldl_push_components, components_write_root]
            exact fun component hmem => hgoes component (hrest ▸ (List.dropLast_sublist _).subset hmem)

theorem resolve_relative (hblank : Text.isBlankText name.toList = false)
    (hrelative : (isAbsolute name || isRooted name) = false)
    {directory : String} (hdirectory : destination directory = destination (basePath root from?)) :
    resolve root from? name = .ok (normal (within directory name)) := by
  have hrooted : isRooted name = false := (Bool.or_eq_false_iff.mp hrelative).2
  have hnormal : normalise (base root from? ++ components name) =
      (destination (within directory name)).path := by
    rw [normalise, List.foldl_append, ← stack_destination_basePath, ← hdirectory, foldl_push_relative hrooted,
      destination_within hrooted, Place.stack, List.reverse_reverse]
  rw [resolve, hblank, hrelative, normal_eq_write, hnormal]
  rfl

theorem resolve_absolute (hblank : Text.isBlankText name.toList = false)
    (habsolute : (isAbsolute name || isRooted name) = true) :
    resolve root from? name = .ok (normal name) := by
  rw [resolve, hblank, habsolute]
  rfl

/-- What is looked up in a template below another name is looked up from there. -/
theorem resolve_within {first key : String} (from'? : Option String)
    (hblank : Text.isBlankText name.toList = false) (hrelative : (isAbsolute name || isRooted name) = false)
    (hfirst : resolve root from? first = .ok key) :
    resolve root from? (within first name) = resolve (some key) from'? name := by
  have hrooted : isRooted name = false := (Bool.or_eq_false_iff.mp hrelative).2
  have hwithin : Text.isBlankText (within first name).toList = false := by
    obtain ⟨front, hfront⟩ : ∃ front, (within first name).toList = front ++ name.toList := by
      unfold within
      split
      · exact ⟨first.toList, String.toList_append⟩
      · exact ⟨first.toList ++ ['/'], by simp⟩
    unfold Text.isBlankText at hblank ⊢
    rw [hfront, List.all_append, hblank, Bool.and_false]
  have hkey : ∀ {directory : String}, key = normal directory →
      resolve (some key) from'? name = .ok (normal (within directory name)) := by
    rintro directory rfl
    exact resolve_relative hblank hrelative (destination_normal directory).symm
  have hsome : first ≠ "" := by
    rintro rfl
    cases hfirst
  have hfirstBlank : Text.isBlankText first.toList = false := by
    cases hb : Text.isBlankText first.toList with
    | false => rfl
    | true =>
      rw [resolve, hb] at hfirst
      cases hfirst
  cases hkind : (isAbsolute first || isRooted first) with
  | true =>
    rw [resolve_absolute hfirstBlank hkind] at hfirst
    rw [hkey (Except.ok.inj hfirst).symm]
    exact resolve_absolute hwithin ((isAbsolute_within hsome).trans hkind)
  | false =>
    rw [resolve_relative hfirstBlank hkind rfl] at hfirst
    rw [hkey (Except.ok.inj hfirst).symm,
      resolve_relative hwithin ((isAbsolute_within hsome).trans hkind) rfl]
    have hfirstRooted : isRooted first = false := (Bool.or_eq_false_iff.mp hkind).2
    refine congrArg Except.ok (normal_eq_iff.mpr ?_)
    rw [destination_within hrooted, destination_within hfirstRooted, destination_within, foldl_walk_within]
    rw [isRooted_within hrooted, hfirstRooted]

/-- Keys are places. Paths have one normal form exactly when they lead to one place, that is, to one directory
from wherever they start; the normal form is the shortest path to the place, with steps up at the start of a
relative path alone. A relative name is looked up in its directory, however that is spelled, and what is
looked up below another name is looked up from where that name leads. -/
theorem keys_are_places :
    (∀ path other : String, normal path = normal other ↔ destination path = destination other) ∧
    (∀ path other : String, destination path = destination other ↔
      ∀ start, (∀ name ∈ start, IsName name) → arrive start path = arrive start other) ∧
    (∀ path : String, normal path = write (destination path).path ∧
      components (normal path) = (destination path).path ∧
      (∀ name ∈ (destination path).down, IsName name) ∧ normal (normal path) = normal path) ∧
    ∀ (root from? : Option String) (name : String), Text.isBlankText name.toList = false →
      (isAbsolute name || isRooted name) = false →
      (∀ directory, destination directory = destination (basePath root from?) →
        resolve root from? name = .ok (normal (within directory name))) ∧
      ∀ (first key : String) (from'? : Option String), resolve root from? first = .ok key →
        resolve root from? (within first name) = resolve (some key) from'? name := by
  refine ⟨fun _ _ => normal_eq_iff, fun _ _ => destination_eq_iff, fun path => ?_,
    fun root from? name hblank hrelative => ⟨fun directory hdirectory => ?_, fun first key from'? hfirst => ?_⟩⟩
  · exact ⟨normal_eq_write path, components_normal path, isName_destination path, normal_normal path⟩
  · exact resolve_relative hblank hrelative hdirectory
  · exact resolve_within from'? hblank hrelative hfirst

theorem keys_are_places_nested :
    Text.isBlankText "../layout".toList = false ∧ (isAbsolute "../layout" || isRooted "../layout") = false ∧
    destination "views/old/../pages" = destination (basePath none (some "views//pages/./index")) ∧
    resolve none (some "views//pages/./index") "../layout" =
      .ok (normal (within "views/old/../pages" "../layout")) ∧
    resolve none (some "views//pages/./index") "parts/nav" = .ok "views/pages/parts/nav" ∧
    resolve none (some "views//pages/./index") (within "parts/nav" "../layout") =
      resolve (some "views/pages/parts/nav") none "../layout" := by
  have hblank : Text.isBlankText "../layout".toList = false := by decide
  have hrelative : (isAbsolute "../layout" || isRooted "../layout") = false := by decide
  have hplace : destination "views/old/../pages" =
      destination (basePath none (some "views//pages/./index")) := by
    decide +kernel
  have hfirst : resolve none (some "views//pages/./index") "parts/nav" = .ok "views/pages/parts/nav" :=
    eq_ok_of_toOption (by decide +kernel)
  obtain ⟨-, -, -, hlooked⟩ := keys_are_places
  obtain ⟨hdirect, hsteps⟩ := hlooked none (some "views//pages/./index") "../layout" hblank hrelative
  exact ⟨hblank, hrelative, hplace, hdirect _ hplace, hfirst, hsteps _ _ none hfirst⟩

end Stencil.Location
