import Stencil.Proofs.Engine.Files
import Stencil.Proofs.Render.Covered

/-!
Programs with every layout looked up late. Such a program only depends on the pages of the files, and not
on which of the layouts were known when the templates were compiled: loading a template and working out
its program agrees with it.
-/
namespace Stencil

/-- The name of the layout of a file. -/
def Layout.nameIn (jump : Jump) (env : Environment) (context : Context) (key : String) :
    Layout → EvalM String
  | .named name => return name
  | .computed expr =>
    Template.layoutName jump env ⟨key, some key, none, .ready ⟨[], []⟩⟩ expr context

namespace Environment

/-- The program of a file, with less than so many layouts above it. The keys of the chain so far are
given. -/
def late (jump : Jump) (env : Environment) (context : Context) :
    Nat → List String → String → EvalM Program
  | 0, _, _ => throw .tooDeep
  | bound + 1, chain, key => do
    match ← LoadM.ofExcept (env.page key) with
    | (tokens, none) => LoadM.ofExcept (Program.ofTokens env.scope tokens)
    | (tokens, some (layout, line)) => do
      let name ← layout.nameIn jump env context key
      let above ← LoadM.ofExcept (env.resolve name (some key))
      if chain.contains above then
        LoadM.fail (.located line (.circularExtends above))
      let program ← late jump env context bound (chain ++ [above]) above
      LoadM.ofExcept (Program.extend env.scope tokens program)

/-- The program of a file over the layout at a key, with less than so many layouts above the file. -/
def lateOver (jump : Jump) (env : Environment) (context : Context) (bound : Nat) (chain : List String)
    (tokens : List Token) (line : Nat) (above : String) : EvalM Program :=
  if chain.contains above = true then LoadM.fail (.located line (.circularExtends above))
  else env.late jump context bound (chain ++ [above]) above >>= fun program =>
    LoadM.ofExcept (Program.extend env.scope tokens program)

variable {jump : Jump} {env : Environment} {context : Context} {bound : Nat}
  {chain around : List String} {key above : String} {tokens : List Token} {line : Nat}

theorem late_alone (h : env.page key = .ok (tokens, none)) :
    env.late jump context (bound + 1) chain key =
      LoadM.ofExcept (Program.ofTokens env.scope tokens) := by
  rw [late, LoadM.ofExcept_bind h]

theorem late_over {layout : Layout} (h : env.page key = .ok (tokens, some (layout, line))) :
    env.late jump context (bound + 1) chain key =
      layout.nameIn jump env context key >>= fun name =>
        LoadM.ofExcept (env.resolve name (some key)) >>=
          env.lateOver jump context bound chain tokens line := by
  rw [late, LoadM.ofExcept_bind h]
  rfl

theorem lateOver_of_new (hnew : above ∉ chain) :
    env.lateOver jump context bound chain tokens line above =
      env.late jump context bound (chain ++ [above]) above >>= fun program =>
        LoadM.ofExcept (Program.extend env.scope tokens program) :=
  if_neg (mt List.contains_iff_mem.mp hnew)

/-- Over a layout without a late program there is none either. -/
theorem lateOver_fails {store : Store}
    (h : above ∉ chain → ∃ error,
      env.late jump context bound (chain ++ [above]) above store = .error (.error error) store) :
    ∃ error, env.lateOver jump context bound chain tokens line above store =
      .error (.error error) store := by
  by_cases hnew : above ∈ chain
  · exact ⟨_, congrFun (if_pos (List.contains_iff_mem.mpr hnew)) store⟩
  · obtain ⟨error, hrest⟩ := h hnew
    rw [lateOver_of_new hnew]
    exact ⟨error, run_bind_of_error hrest⟩

/-- There is room for the layout of a page, if it is new. -/
theorem Room.over {layout? : Option (Layout × Nat)} {name : String} {from? : Option String}
    (hroom : env.Room (bound + 1) around key) (hpage : env.page key = .ok (tokens, layout?))
    (habove : env.resolve name from? = .ok above) (hnew : above ∉ key :: around) :
    env.Room bound (key :: around) above := by
  obtain ⟨source, hsource, -⟩ := page_eq_ok.mp hpage
  exact hroom.above ⟨source, hsource⟩ (isKey_of_resolve habove) hnew

theorem Room.mem_chain (hchain : ∀ other, other ∈ chain ↔ other ∈ key :: around) (above : String) :
    ∀ other, other ∈ chain ++ [above] ↔ other ∈ above :: key :: around := by
  intro other
  rw [List.mem_append, hchain, List.mem_singleton, List.mem_cons (l := key :: around)]
  exact or_comm

/-- A program that is known at once is the late one. -/
theorem late_ready {least : Nat} {template : Template} {program : Program}
    (hroom : env.Room bound around key) (hchain : ∀ other, other ∈ chain ↔ other ∈ key :: around)
    (hcompiles : env.CompilesWithin (least + 1) key template) (hready : template.body = .ready program)
    (hleast : ∀ other ∈ key :: around, ∀ found below, env.CompilesWithin least other found →
      found.body ≠ .ready below) (store : Store) :
    env.late jump context bound chain key store = .ok program store := by
  induction least using Nat.strongRecOn generalizing bound chain around key template program with
  | _ least ih =>
    cases bound with
    | zero => exact absurd rfl hroom.bound_ne_zero
    | succ bound =>
      rcases hcompiles.ready hready with ⟨tokens, hpage, hprogram⟩ |
        ⟨tokens, name, line, above, layout, below, hpage, habove, hne, hlayout, hbelow, hextend⟩
      · rw [late_alone hpage, hprogram]
        rfl
      · have hnew : above ∉ key :: around := fun hmem => hleast above hmem layout below hlayout hbelow
        obtain ⟨lower, hlower, hlayout, hlowest⟩ := hlayout.exists_least
        have hroom' := hroom.over hpage habove hnew
        have hrest := ih lower hlower hroom' (Room.mem_chain hchain above) hlayout hbelow
          (List.forall_mem_cons.mpr ⟨fun found _ hfound => absurd hfound (hlowest found),
            fun other hother found result hfound =>
              hleast other hother found result (hfound.mono (Nat.le_of_lt hlower))⟩)
        rw [late_over hpage]
        change (LoadM.ofExcept (env.resolve name (some key)) >>= _) store = _
        rw [LoadM.ofExcept_bind habove, lateOver_of_new (mt (hchain above).mp hnew)]
        refine run_bind_eq_ok.mpr ⟨below, store, hrest, ?_⟩
        rw [hextend]
        rfl

/-- A file that does not compile has no late program either, and nothing else happens. -/
theorem late_fails (hroom : env.Room bound around key)
    (hchain : ∀ other, other ∈ chain ↔ other ∈ key :: around)
    (hnone : ¬ ∃ template, env.Compiles key template) (store : Store) :
    ∃ error, env.late jump context bound chain key store = .error (.error error) store := by
  induction bound generalizing chain around key with
  | zero => exact absurd rfl hroom.bound_ne_zero
  | succ bound ih =>
    cases hpage : env.page key with
    | error error =>
      rw [late, hpage]
      exact ⟨error, rfl⟩
    | ok page =>
      match page with
      | (tokens, none) => exact absurd (compiles_alone hpage) hnone
      | (tokens, some (.computed expr, line)) => exact absurd (compiles_computed hpage) hnone
      | (tokens, some (.named name, line)) =>
        rw [late_over hpage]
        change ∃ error, (LoadM.ofExcept (env.resolve name (some key)) >>= _) store = _
        cases habove : env.resolve name (some key) with
        | error error => exact ⟨error, rfl⟩
        | ok above =>
          rw [LoadM.ofExcept_bind rfl]
          refine lateOver_fails fun hnew => ?_
          replace hnew : above ∉ key :: around := mt (hchain above).mpr hnew
          exact ih (hroom.over hpage habove hnew) (Room.mem_chain hchain above) fun ⟨layout, hlayout⟩ =>
            hnone (compiles_named hpage habove (List.ne_of_not_mem_cons hnew) hlayout)

/-- The key of a template and its late program, with at most so many layouts above the template, unless it is
being rendered already. -/
def latePrepared (jump : Jump) (env : Environment) (size : Nat) (ancestors : List String) (name : String)
    (from? : Option String) (context : Context) : EvalM (String × Program) := do
  let key ← LoadM.ofExcept (env.resolve name from?)
  if ancestors.contains key then
    LoadM.fail (.render "The template is being rendered already")
  return (key, ← env.late jump context (size + 1) [key] key)

/-- Stores of files on both sides. -/
def Files (env₁ env₂ : Environment) (s t : Store) : Prop := env₁.KeepsFiles s ∧ env₂.KeepsFiles t

/-- What follows a load agrees with what follows from the key alone, if the latter fails for a file that
does not compile. -/
theorem agree_load {size : Nat} (hholds : env.HoldsAtMost size) {α β : Type} {V : α → β → Prop}
    {name : String} {from? : Option String}
    {next : Compiled → LoadM α} {next' : String → LoadM β}
    (hsome : ∀ key compiled, env.resolve name from? = .ok key → env.Compiles key compiled.template →
      Agree (env.Files env) (Fault.Alike fun _ _ => True) V (next compiled) (next' key))
    (hnone : ∀ key, env.resolve name from? = .ok key → (¬ ∃ template, env.Compiles key template) →
      ∀ store, ∃ error, next' key store = .error (.error error) store) :
    Agree (env.Files env) (Fault.Alike fun _ _ => True) V (env.load name from? >>= next)
      (LoadM.ofExcept (env.resolve name from?) >>= next') := by
  refine .of ?_
  rintro s t ⟨hs, ht⟩
  rcases load_cases hholds hs name from? with ⟨key, compiled, after, hkey, hcompiles, hafter, hrun⟩ |
    ⟨error, after, hafter, hrun, hfails⟩
  · rw [run_bind_of_ok hrun, LoadM.ofExcept_bind hkey]
    exact (hsome key compiled hkey hcompiles).run ⟨hafter, ht⟩
  · rw [run_bind_of_error hrun]
    cases hkey : env.resolve name from? with
    | error error' => exact ⟨True.intro, hafter, ht⟩
    | ok key =>
      obtain ⟨error', herror⟩ := hnone key hkey (hfails key hkey) t
      rw [LoadM.ofExcept_bind rfl, herror]
      exact ⟨True.intro, hafter, ht⟩

/-- The same result on both sides, or some error. -/
theorem alike_ofExcept {S : Comparison Store Store} (result : Except TemplateError Program) :
    Agree S (Fault.Alike fun _ _ => True) (EqualWith Guarantee.vacuous.KnownProgram)
      (LoadM.ofExcept result) (LoadM.ofExcept result) := by
  cases result with
  | ok program => exact Agree.pure ⟨rfl, Guarantee.knownProgram_vacuous program⟩
  | error error => exact Agree.throw True.intro

section Agreement

variable (h : Guarantee.vacuous.Alike (env.Files env) (fun _ _ => True) env env jump jump)

include h

theorem agree_nameIn {template : Template} (hid : template.id = key)
    (horigin : template.origin = some key) {expr : Expr} {layout : Layout} (hlayout : layout.IsGivenBy expr) :
    Agree (env.Files env) (Fault.Alike fun _ _ => True) Equal
      (Template.layoutName jump env template expr context) (layout.nameIn jump env context key) := by
  cases layout with
  | named name =>
    obtain rfl := hlayout
    exact Agree.pure (Equal.refl name)
  | computed other =>
    obtain rfl := hlayout
    exact h.layoutName (Guarantee.knownContext_vacuous context) hid horigin expr

/-- The program of a template that waits for its layout is the late program of its file, if this is so for
the layouts that are new to the chain. -/
theorem program_late_of_deferred {steps more : Nat} {template : Template} {expr : Expr}
    (hwithin : env.CompilesWithin steps key template) (hbody : template.body = .deferred expr line tokens)
    (hroom : env.Room (bound + 1) around key) (hmore : env.Room (more + 1) around key)
    (hchain : ∀ other, other ∈ chain ↔ other ∈ key :: around)
    (hrest : ∀ above found lower, bound = lower + 1 → env.Compiles above found →
      env.Room bound (key :: around) above → env.Room more (key :: around) above →
      Agree (env.Files env) (Fault.Alike fun _ _ => True) (EqualWith Guarantee.vacuous.KnownProgram)
        (found.program jump env context lower (chain ++ [above]))
        (env.late jump context more (chain ++ [above]) above)) :
    Agree (env.Files env) (Fault.Alike fun _ _ => True) (EqualWith Guarantee.vacuous.KnownProgram)
      (template.program jump env context bound chain) (env.late jump context (more + 1) chain key) := by
  obtain ⟨layout, hpage, hlayout⟩ := hwithin.deferred hbody
  rw [Template.program_deferred _ _ _ _ _ hbody, late_over hpage]
  unfold Template.layout
  rw [bind_assoc, hwithin.origin_eq]
  refine (agree_nameIn h hwithin.id_eq hwithin.origin_eq hlayout).bindWith fun name _ => ?_
  rw [bind_assoc]
  obtain ⟨size, hholds, -⟩ := hroom.bound
  refine agree_load hholds (fun above compiled habove hcompiled => ?_) fun above habove hnone store => ?_
  · obtain ⟨found, hfound⟩ := hcompiled
    dsimp only
    rw [hfound.id_eq]
    unfold lateOver
    split
    · exact Agree.throw True.intro
    · rename_i hnew
      rw [List.contains_iff_mem, hchain] at hnew
      replace hroom := hroom.over hpage habove hnew
      rw [pure_bind]
      cases bound with
      | zero => exact absurd rfl hroom.bound_ne_zero
      | succ lower =>
        dsimp only
        rw [hfound.id_eq]
        exact (hrest above _ lower rfl ⟨found, hfound⟩ hroom (hmore.over hpage habove hnew)).bindWith
          fun program _ => alike_ofExcept _
  · refine lateOver_fails fun hnew => ?_
    have hroom := hmore.over hpage habove (mt (hchain above).mpr hnew)
    exact late_fails hroom (Room.mem_chain hchain above) hnone store

/-- The program of a template is the late program of its file. -/
theorem program_late {more : Nat} {template : Template} (hcompiles : env.Compiles key template)
    (hroom : env.Room (bound + 1) around key) (hmore : env.Room more around key)
    (hchain : ∀ other, other ∈ chain ↔ other ∈ key :: around)
    (hwaits : ∀ other ∈ around, ∀ found below, env.Compiles other found → found.body ≠ .ready below) :
    Agree (env.Files env) (Fault.Alike fun _ _ => True) (EqualWith Guarantee.vacuous.KnownProgram)
      (template.program jump env context bound chain) (env.late jump context more chain key) := by
  induction bound using Nat.strongRecOn generalizing more chain around key template with
  | _ bound ih =>
    obtain ⟨steps, hwithin⟩ := hcompiles
    cases hbody : template.body with
    | failed error => exact absurd hbody (hwithin.settled error)
    | ready program =>
      rw [Template.program_ready _ _ _ _ _ hbody]
      obtain ⟨least, -, hwithin, hleast⟩ := hwithin.exists_least
      refine .of fun s t hstores => ?_
      rw [late_ready hmore hchain hwithin hbody (List.forall_mem_cons.mpr
        ⟨fun found _ hfound => absurd hfound (hleast found),
          fun other hother found below hfound => hwaits other hother found below ⟨least, hfound⟩⟩) t]
      exact ⟨⟨rfl, Guarantee.knownProgram_vacuous program⟩, hstores⟩
    | deferred expr line tokens =>
      cases more with
      | zero => exact absurd rfl hmore.bound_ne_zero
      | succ more =>
        refine program_late_of_deferred h hwithin hbody hroom hmore hchain
          fun above found lower hlower hfound hroom hmore => ?_
        obtain rfl := hlower
        refine ih lower (Nat.lt_succ_self lower) hfound hroom hmore (Room.mem_chain hchain above)
          (List.forall_mem_cons.mpr ⟨fun other below ⟨_, hother⟩ => ?_, hwaits⟩)
        rw [hother.unique hwithin, hbody]
        exact nofun

variable {size : Nat} (hholds : env.HoldsAtMost size)

include hholds

theorem wholeProgram_late {template : Template} (hcompiles : env.Compiles key template)
    (hkey : Location.IsKey key) (context : Context) :
    Agree (env.Files env) (Fault.Alike fun _ _ => True) (EqualWith Guarantee.vacuous.KnownProgram)
      (template.wholeProgram jump env context) (env.late jump context (size + 1) [key] key) := by
  refine .of fun s t hstores => ?_
  have hprogram {bound : Nat} (hroom : env.Room (bound + 1) [] key) :
      EndAlike (env.Files env) (Fault.Alike fun _ _ => True) (EqualWith Guarantee.vacuous.KnownProgram)
        (template.program jump env context bound [template.id] s)
        (env.late jump context (size + 1) [key] key t) := by
    obtain ⟨steps, hwithin⟩ := hcompiles
    rw [hwithin.id_eq]
    exact (program_late h ⟨steps, hwithin⟩ hroom (.start hholds hkey (Nat.lt_succ_self _))
      (fun _ => Iff.rfl) nofun).run hstores
  by_cases hstored : env.loader.isStored = true
  · rw [Template.wholeProgram_of_stored hstored]
    exact hprogram (.start (holdsAtMost_size hstored) hkey (by omega))
  · have hgrows := Template.grows_program jump env context [template.id] template
    unfold Template.wholeProgram
    rw [if_neg hstored]
    rcases LoadM.unbounded_cases (fun bound => template.program jump env context bound [template.id]) s with
      ⟨room, hrun, hends⟩ | ⟨hrun, hnever⟩
    · rw [hrun, ← (hgrows.deepens (Nat.le_add_left room size) s).resolve_left hends]
      exact hprogram (.start hholds hkey (by omega))
    · obtain ⟨after, hdeep⟩ := hnever size
      have hlate := hprogram (.start hholds hkey (Nat.lt_succ_self _))
      rw [hdeep] at hlate
      obtain ⟨fault, final, hfinal, hfault, -, hfiles⟩ := hlate.of_error
      rw [hrun, hfinal]
      exact ⟨hfault, hstores.1, hfiles⟩

/-- Loading a template and working out its program agrees with the late program of its file. -/
theorem prepared_late (ancestors : List String) (name : String) (from? : Option String)
    (context : Context) :
    Agree (env.Files env) (Fault.Alike fun _ _ => True)
      (fun ready late => ready.1.id = late.1 ∧ ready.1.origin = some late.1 ∧
        EqualWith Guarantee.vacuous.KnownProgram ready.2 late.2)
      (prepared jump env ancestors name from? context)
      (env.latePrepared jump size ancestors name from? context) := by
  unfold prepared latePrepared
  refine agree_load hholds (fun key compiled hkey hcompiles => ?_) fun key hkey hnone store => ?_
  · obtain ⟨steps, hwithin⟩ := hcompiles
    dsimp only
    unfold Template.circularMessage?
    rw [hwithin.id_eq]
    by_cases hcircular : ancestors.contains key = true
    · simp only [hcircular, if_true]
      exact Agree.throw True.intro
    · simp only [hcircular, if_false, Bool.false_eq_true]
      refine (wholeProgram_late h hholds ⟨steps, hwithin⟩ (isKey_of_resolve hkey) context).bindWith
        fun program hprogram => ?_
      exact Agree.pure ⟨hwithin.id_eq, hwithin.origin_eq, rfl, hprogram⟩
  · split
    · exact ⟨_, rfl⟩
    · have hroom : env.Room (size + 1) [] key :=
        Room.start hholds (isKey_of_resolve hkey) (Nat.lt_succ_self _)
      obtain ⟨error, hfails⟩ := late_fails hroom (fun _ => Iff.rfl) hnone store
      exact ⟨error, run_bind_of_error hfails⟩

end Agreement

end Environment

end Stencil
