import Stencil.Location

/-!
Keys of templates. A key is written from a path in normal form, and reading it gives that path back, so
that different keys are different paths.
-/
namespace Stencil.Location

/-- A component that is read back from its text. -/
def Component.Goes (component : Component) : Prop :=
  ofPart component.text = some component ∧ '/' ∉ component.text

theorem Component.goes_up : Component.up.Goes := by
  constructor <;> decide

theorem Component.Goes.text_ne_nil {component : Component} (h : component.Goes) :
    component.text ≠ [] := by
  intro hnil
  have hread := h.1
  rw [hnil] at hread
  cases hread

section Split

theorem splitSlash_ne_nil (text : List Char) : splitSlash text ≠ [] := by
  cases text with
  | nil => simp [splitSlash]
  | cons c rest =>
    rw [splitSlash]
    split
    · simp
    · split <;> simp

theorem not_mem_splitSlash {text part : List Char} (h : part ∈ splitSlash text) : '/' ∉ part := by
  induction text generalizing part with
  | nil =>
    cases List.mem_singleton.mp h
    exact List.not_mem_nil
  | cons c rest ih =>
    rw [splitSlash] at h
    split at h
    · rename_i hnil
      exact absurd hnil (splitSlash_ne_nil rest)
    · rename_i first parts hsplit
      rw [hsplit] at ih
      split at h
      · rcases List.mem_cons.mp h with rfl | h
        · exact List.not_mem_nil
        · exact ih h
      · rename_i hc
        rcases List.mem_cons.mp h with rfl | h
        · exact List.not_mem_cons_of_ne_of_not_mem (Ne.symm hc) (ih List.mem_cons_self)
        · exact ih (List.mem_cons_of_mem _ h)

theorem splitSlash_cons (rest : List Char) : splitSlash ('/' :: rest) = [] :: splitSlash rest := by
  rw [splitSlash]
  split
  · rename_i hnil
    exact absurd hnil (splitSlash_ne_nil rest)
  · rename_i part parts hsplit
    rw [hsplit]
    rfl

theorem splitSlash_of_not_mem {part : List Char} (h : '/' ∉ part) : splitSlash part = [part] := by
  induction part with
  | nil => rfl
  | cons c part ih =>
    have hc := List.ne_of_not_mem_cons h
    have hpart := List.not_mem_of_not_mem_cons h
    rw [splitSlash, ih hpart]
    exact if_neg fun heq => hc heq.symm

theorem splitSlash_append_slash (text rest : List Char) :
    splitSlash (text ++ '/' :: rest) = splitSlash text ++ splitSlash rest := by
  induction text with
  | nil => exact splitSlash_cons rest
  | cons c text ih =>
    rw [List.cons_append, splitSlash, ih, splitSlash]
    cases hsplit : splitSlash text with
    | nil => exact absurd hsplit (splitSlash_ne_nil text)
    | cons part parts =>
      dsimp only [List.cons_append]
      split <;> rfl

/-- Parts with slashes between them are found again. -/
theorem splitSlash_intercalate {part : List Char} {parts : List (List Char)}
    (h : ∀ other ∈ part :: parts, '/' ∉ other) :
    splitSlash (List.intercalate ['/'] (part :: parts)) = part :: parts := by
  induction parts generalizing part with
  | nil =>
    rw [List.intercalate_singleton]
    exact splitSlash_of_not_mem (h part List.mem_cons_self)
  | cons next parts ih =>
    obtain ⟨hpart, hrest⟩ := List.forall_mem_cons.mp h
    rw [List.intercalate_cons_cons, List.append_assoc, List.singleton_append,
      splitSlash_append_slash, splitSlash_of_not_mem hpart, List.singleton_append, ih hrest]

end Split

/-- A root at the very start at most, and otherwise components that are read back, or `.`. -/
def Proper (path : List Component) : Prop :=
  ∃ rest, (∀ component ∈ rest, component.Goes ∨ component = .here) ∧
    (path = rest ∨ path = .root :: rest)

theorem goes_of_ofPart {part : List Char} {component : Component} (hslash : '/' ∉ part)
    (h : ofPart part = some component) : component.Goes := by
  have hread := h
  unfold ofPart at h
  split at h
  · cases h
  · split at h
    · cases h
      exact Component.goes_up
    · cases h
      exact ⟨hread, hslash⟩

theorem goes_of_mem_filterMap {text : List Char} {component : Component}
    (h : component ∈ (splitSlash text).filterMap ofPart) : component.Goes := by
  obtain ⟨part, hpart, hread⟩ := List.mem_filterMap.mp h
  exact goes_of_ofPart (not_mem_splitSlash hpart) hread

/-- Only a slash at the start gives a root. -/
theorem components_of_not_isRooted {path : String} (h : isRooted path = false) :
    ∀ component ∈ components path, component.Goes ∨ component = .here := by
  intro component hmem
  unfold components at hmem
  dsimp only at hmem
  split at hmem
  · rename_i rest hpath
    simp [isRooted, hpath] at h
  · split at hmem
    · rcases List.mem_cons.mp hmem with rfl | hmem
      · exact Or.inr rfl
      · exact Or.inl (goes_of_mem_filterMap hmem)
    · exact Or.inl (goes_of_mem_filterMap hmem)

theorem proper_components (path : String) : Proper (components path) := by
  cases hrooted : isRooted path with
  | false => exact ⟨_, components_of_not_isRooted hrooted, Or.inl rfl⟩
  | true =>
    unfold components
    dsimp only
    split
    · exact ⟨_, fun _ hmem => Or.inl (goes_of_mem_filterMap hmem), Or.inr rfl⟩
    · rename_i hpath
      unfold isRooted at hrooted
      cases hchars : path.toList with
      | nil => simp [hchars] at hrooted
      | cons c rest =>
        rw [hchars] at hrooted
        simp only [List.head?_cons, decide_eq_true_eq, Option.some.injEq] at hrooted
        exact absurd (hrooted ▸ hchars) (hpath rest)

theorem Proper.append {path more : List Component} (h : Proper path)
    (hmore : ∀ component ∈ more, component.Goes ∨ component = .here) : Proper (path ++ more) := by
  obtain ⟨rest, hrest, hpath⟩ := h
  have hall : ∀ component ∈ rest ++ more, component.Goes ∨ component = .here :=
    List.forall_mem_append.mpr ⟨hrest, hmore⟩
  rcases hpath with rfl | rfl
  · exact ⟨_, hall, Or.inl rfl⟩
  · exact ⟨_, hall, Or.inr rfl⟩

theorem proper_nil : Proper [] := ⟨[], by simp, Or.inl rfl⟩

theorem Proper.dropLast {path : List Component} (h : Proper path) : Proper path.dropLast := by
  obtain ⟨rest, hrest, hpath⟩ := h
  have hall : ∀ component ∈ rest.dropLast, component.Goes ∨ component = .here :=
    fun component hmem => hrest component ((List.dropLast_sublist rest).subset hmem)
  rcases hpath with rfl | rfl
  · exact ⟨_, hall, Or.inl rfl⟩
  · cases rest with
    | nil => exact proper_nil
    | cons first more => exact ⟨_, hall, Or.inr rfl⟩

theorem proper_base (root from? : Option String) : Proper (base root from?) := by
  unfold base
  split
  · exact proper_components _
  · rename_i directory hdirectory
    obtain ⟨path, -, hdir⟩ := Option.bind_eq_some_iff.mp hdirectory
    unfold directory? at hdir
    split at hdir
    · cases hdir
    · cases hdir
    · cases hdir
      exact (proper_components path).dropLast
  · exact proper_nil

/-- A path in normal form, from its end: names, and below them a root or steps up. -/
def IsStack : List Component → Prop
  | [] => True
  | [.root] => True
  | .up :: below => ∀ component ∈ below, component = .up
  | .name text :: below => Component.Goes (.name text) ∧ IsStack below
  | _ => False

theorem isStack_of_all_up {path : List Component} (h : ∀ component ∈ path, component = .up) :
    IsStack path := by
  cases path with
  | nil => exact True.intro
  | cons first below =>
    obtain ⟨rfl, hbelow⟩ := List.forall_mem_cons.mp h
    exact hbelow

theorem IsStack.push {path : List Component} {component : Component} (h : IsStack path)
    (hcomponent : component.Goes ∨ component = .here) : IsStack (push path component) := by
  cases component with
  | here => exact h
  | root => rcases hcomponent with ⟨hread, -⟩ | hhere <;> contradiction
  | name text => exact ⟨hcomponent.resolve_right (by simp), h⟩
  | up =>
    unfold Location.push
    dsimp only
    split
    · exact h.2
    · exact h
    · rename_i hname hroot
      refine isStack_of_all_up ?_
      cases path with
      | nil => simp
      | cons first below =>
        cases first with
        | name text => exact absurd rfl (hname text below)
        | root => exact absurd rfl (hroot below)
        | here => exact h.elim
        | up => exact List.forall_mem_cons.mpr ⟨rfl, List.forall_mem_cons.mpr ⟨rfl, h⟩⟩

theorem isStack_foldl {path rest : List Component} (h : IsStack path)
    (hrest : ∀ component ∈ rest, component.Goes ∨ component = .here) :
    IsStack (rest.foldl push path) := by
  induction rest generalizing path with
  | nil => exact h
  | cons first rest ih =>
    obtain ⟨hfirst, hothers⟩ := List.forall_mem_cons.mp hrest
    exact ih (h.push hfirst) hothers

theorem Proper.isStack {path : List Component} (h : Proper path) : IsStack (path.foldl push []) := by
  obtain ⟨rest, hrest, rfl | rfl⟩ := h
  · exact isStack_foldl True.intro hrest
  · have hstack : IsStack (rest.foldl push [.root]) := isStack_foldl True.intro hrest
    exact hstack

/-- Nothing is folded away from a normal form. -/
theorem IsStack.foldl_reverse {path : List Component} (h : IsStack path) :
    path.reverse.foldl Location.push [] = path := by
  induction path with
  | nil => rfl
  | cons first below ih =>
    rw [List.reverse_cons, List.foldl_append]
    cases first with
    | name text =>
      rw [ih h.2]
      rfl
    | here => cases below <;> exact h.elim
    | root =>
      cases below with
      | nil => rfl
      | cons next below => exact h.elim
    | up =>
      rw [ih (isStack_of_all_up h)]
      cases below with
      | nil => rfl
      | cons next below =>
        obtain ⟨rfl, -⟩ := List.forall_mem_cons.mp h
        rfl

/-- A normal form has a root in front at most, and is read back otherwise. -/
theorem IsStack.goes {path : List Component} (h : IsStack path) :
    ∃ rest, (∀ component ∈ rest, component.Goes) ∧
      (path.reverse = rest ∨ path.reverse = .root :: rest) := by
  induction path with
  | nil => exact ⟨[], by simp, Or.inl rfl⟩
  | cons first below ih =>
    cases first with
    | name text =>
      obtain ⟨rest, hrest, hpath⟩ := ih h.2
      have hall : ∀ component ∈ rest ++ [.name text], component.Goes :=
        List.forall_mem_append.mpr ⟨hrest, List.forall_mem_singleton.mpr h.1⟩
      rw [List.reverse_cons]
      rcases hpath with hpath | hpath
      · exact ⟨_, hall, Or.inl (by rw [hpath])⟩
      · exact ⟨_, hall, Or.inr (by rw [hpath]; rfl)⟩
    | here => cases below <;> exact h.elim
    | root =>
      cases below with
      | nil => exact ⟨[], by simp, Or.inr rfl⟩
      | cons next below => exact h.elim
    | up =>
      refine ⟨_, fun component hmem => ?_, Or.inl rfl⟩
      have hall : ∀ component ∈ Component.up :: below, component = .up :=
        List.forall_mem_cons.mpr ⟨rfl, h⟩
      rw [hall component (List.mem_reverse.mp hmem)]
      exact Component.goes_up

theorem filterMap_text {path : List Component} (h : ∀ component ∈ path, component.Goes) :
    (path.map Component.text).filterMap ofPart = path := by
  induction path with
  | nil => rfl
  | cons first rest ih =>
    obtain ⟨hfirst, hrest⟩ := List.forall_mem_cons.mp h
    rw [List.map_cons, List.filterMap_cons, hfirst.1]
    exact congrArg (first :: ·) (ih hrest)

theorem not_mem_of_goes {path : List Component} (h : ∀ component ∈ path, component.Goes) :
    ∀ part ∈ path.map Component.text, '/' ∉ part := by
  intro part hpart
  obtain ⟨component, hmem, rfl⟩ := List.mem_map.mp hpart
  exact (h component hmem).2

theorem write_of_goes {path : List Component} (h : ∀ component ∈ path, component.Goes) :
    write path = String.ofList (List.intercalate ['/'] (path.map Component.text)) := by
  unfold write
  split
  · have hroot := h .root List.mem_cons_self
    cases hroot.1
  · rfl

theorem components_write_of_goes {path : List Component} (h : ∀ component ∈ path, component.Goes) :
    components (write path) = path := by
  rw [write_of_goes h]
  cases path with
  | nil => rfl
  | cons first rest =>
    have hfirst := h first List.mem_cons_self
    have hsplit := splitSlash_intercalate (not_mem_of_goes h)
    have hread := filterMap_text h
    unfold components
    simp only [String.toList_ofList, List.map_cons] at hsplit hread ⊢
    rw [hsplit, hread]
    split
    · rename_i rest' hslash
      -- a slash at the start would end an empty part
      rw [hslash, splitSlash_cons] at hsplit
      exact absurd (List.cons.inj hsplit).1.symm hfirst.text_ne_nil
    · rw [if_neg]
      intro hdot
      have hread := hfirst.1
      rw [Option.some.inj hdot] at hread
      cases hread

theorem components_write_root {path : List Component} (h : ∀ component ∈ path, component.Goes) :
    components (write (.root :: path)) = .root :: path := by
  cases path with
  | nil => rfl
  | cons first rest =>
    have hsplit := splitSlash_intercalate (not_mem_of_goes h)
    have hread := filterMap_text h
    have hwrite : write (.root :: first :: rest) = String.ofList
        ('/' :: List.intercalate ['/'] ((first :: rest).map Component.text)) := by
      simp only [write, List.map_cons, List.intercalate_cons_cons]
      rfl
    rw [hwrite]
    unfold components
    simp only [String.toList_ofList, List.map_cons] at hsplit hread ⊢
    rw [splitSlash_cons, hsplit, List.filterMap_cons, hread]
    rfl

/-- The key of some template. -/
def IsKey (key : String) : Prop := ∃ path, Proper path ∧ key = write (normalise path)

theorem isKey_of_resolve {root from? : Option String} {name key : String}
    (h : resolve root from? name = .ok key) : IsKey key := by
  unfold resolve at h
  split at h
  · cases h
  · split at h
    · cases h
      exact ⟨_, proper_components name, rfl⟩
    · rename_i hrooted
      cases h
      have hname : isRooted name = false := by simp_all
      exact ⟨_, (proper_base root from?).append (components_of_not_isRooted hname), rfl⟩

/-- A normal form is read back from its text. -/
theorem Proper.components_write {path : List Component} (h : Proper path) :
    components (write (normalise path)) = normalise path := by
  unfold normalise
  obtain ⟨rest, hrest, hpath | hpath⟩ := h.isStack.goes
  · rw [hpath]
    exact components_write_of_goes hrest
  · rw [hpath]
    exact components_write_root hrest

theorem IsKey.components {key : String} (h : IsKey key) :
    ∃ path, IsStack path ∧ key = write path.reverse ∧ components key = path.reverse := by
  obtain ⟨path, hproper, rfl⟩ := h
  exact ⟨_, hproper.isStack, rfl, hproper.components_write⟩

theorem IsKey.write_components {key : String} (h : IsKey key) :
    write (Location.components key) = key := by
  obtain ⟨path, -, hkey, hcomponents⟩ := h.components
  rw [hcomponents, hkey]

theorem IsKey.normalise_components {key : String} (h : IsKey key) :
    normalise (Location.components key) = Location.components key := by
  obtain ⟨path, hstack, hkey, hcomponents⟩ := h.components
  rw [hcomponents, normalise, hstack.foldl_reverse]

/-- A step down adds to the normal form. -/
theorem normalise_append_name (path : List Component) (text : List Char) :
    normalise (path ++ [.name text]) = normalise path ++ [.name text] := by
  simp [normalise, push]

/-- A key follows from the normal form of the directory. -/
theorem resolve_congr {root from₁ from₂ : Option String}
    (h : normalise (base root from₁) = normalise (base root from₂)) (name : String) :
    resolve root from₁ name = resolve root from₂ name := by
  have hfold : (base root from₁).foldl push [] = (base root from₂).foldl push [] :=
    List.reverse_inj.mp h
  simp only [resolve, normalise, List.foldl_append, hfold]

/-- A name that leads one step down leads to different keys from different directories. -/
theorem base_eq_of_resolve {root from₁ from₂ : Option String} {name : String} {text : List Char}
    (hblank : Text.isBlankText name.toList = false)
    (hrelative : (isAbsolute name || isRooted name) = false)
    (hname : components name = [.name text])
    (h : resolve root from₁ name = resolve root from₂ name) :
    normalise (base root from₁) = normalise (base root from₂) := by
  have hgoes : ∀ component ∈ [Component.name text], component.Goes ∨ component = .here := by
    have hrooted : isRooted name = false := (Bool.or_eq_false_iff.mp hrelative).2
    exact hname ▸ components_of_not_isRooted hrooted
  have hread : ∀ from?, components (write (normalise (base root from? ++ [.name text]))) =
      normalise (base root from?) ++ [.name text] := by
    intro from?
    rw [((proper_base root from?).append hgoes).components_write, normalise_append_name]
  simp only [resolve, hblank, hrelative, hname, Bool.false_eq_true, if_false, Except.ok.injEq] at h
  have happend := (hread from₁).symm.trans ((congrArg components h).trans (hread from₂))
  exact List.append_cancel_right happend

end Stencil.Location
