import Stencil.Engine.Basic
import Stencil.Proofs.Engine.Unbounded
import Stencil.Proofs.Fields
import Stencil.Proofs.Result

/-!
What loading brings into a store. If a property of templates passes from layouts to the templates that
are compiled over them, then all templates that are kept or loaded have it, whatever fails on the way.
-/
namespace Stencil

/-- Not the template that renders why a source did not compile. -/
def Template.Settled (template : Template) : Prop := ∀ error, template.body ≠ .failed error

theorem Template.settled_or_failed (template : Template) :
    template.Settled ∨ ∃ error, template.body = .failed error := by
  cases hbody : template.body with
  | failed error => exact Or.inr ⟨error, rfl⟩
  | _ =>
    refine Or.inl fun error hfailed => ?_
    rw [hbody] at hfailed
    cases hfailed

/-- Every template that is kept has the property, which may speak of its key. -/
def Store.All (P : String → Template → Prop) (store : Store) : Prop :=
  ∀ key kept, store.get? key = some kept → P key kept.template

theorem Store.All.empty (P : String → Template → Prop) : Store.All P {} :=
  fun _ _ h => by simp [Store.get?] at h

/-- The templates that a source compiles to, over layouts that have the property. -/
inductive Environment.Built (env : Environment) (P : String → Template → Prop)
    (id source : String) (origin : Option String) : Template → Prop
  | alone {tokens : List Token} {program : Program}
      (htokens : Token.ofSource env.settings.tags env.settings.autoescape source = .ok tokens)
      (hlayout : Token.layout? env.scope tokens = .ok none)
      (hprogram : Program.ofTokens env.scope tokens = .ok program) :
      Built env P id source origin ⟨id, origin, none, .ready program⟩
  | computed {tokens : List Token} {layout : Expr} {line : Nat}
      (htokens : Token.ofSource env.settings.tags env.settings.autoescape source = .ok tokens)
      (hlayout : Token.layout? env.scope tokens = .ok (some (.computed layout, line)))
      (hcheck : Program.check env.scope tokens = .ok ()) :
      Built env P id source origin ⟨id, origin, none, .deferred layout line tokens⟩
  | named {tokens : List Token} {name key : String} {line : Nat} {layout : Template} {body : Body}
      (htokens : Token.ofSource env.settings.tags env.settings.autoescape source = .ok tokens)
      (hlayout : Token.layout? env.scope tokens = .ok (some (.named name, line)))
      (hkey : env.resolve name origin = .ok key) (hne : key ≠ id) (hparent : P key layout)
      (hbody : env.bodyOver tokens name line layout = .ok body) :
      Built env P id source origin ⟨id, origin, some key, body⟩

/-- The source names the layout at the key. -/
def Environment.Names (env : Environment) (source : String) (origin : Option String) (key : String) :
    Prop :=
  ∃ tokens name line,
    Token.ofSource env.settings.tags env.settings.autoescape source = .ok tokens ∧
      Token.layout? env.scope tokens = .ok (some (.named name, line)) ∧
      env.resolve name origin = .ok key

/-- A template over its layout is ready if the layout is, and waits if the layout does. -/
theorem Environment.bodyOver_eq_ok {env : Environment} {tokens : List Token} {name : String}
    {line : Nat} {layout : Template} {body : Body}
    (h : env.bodyOver tokens name line layout = .ok body) :
    (∃ program result, layout.body = .ready program ∧
      Program.extend env.scope tokens program = .ok result ∧ body = .ready result) ∨
    ∃ expr place above, layout.body = .deferred expr place above ∧
      Program.check env.scope tokens = .ok () ∧
      body = .deferred (.literal (.string name)) line tokens := by
  unfold bodyOver at h
  split at h
  · rename_i program hlayout
    cases hextend : Program.extend env.scope tokens program with
    | error error =>
      rw [hextend] at h
      cases h
    | ok result =>
      rw [hextend] at h
      exact Or.inl ⟨program, result, hlayout, hextend, (Except.ok.inj h).symm⟩
  · rename_i expr place above hlayout
    cases hcheck : Program.check env.scope tokens with
    | error error =>
      rw [hcheck] at h
      cases h
    | ok _ =>
      rw [hcheck] at h
      exact Or.inr ⟨expr, place, above, hlayout, rfl, (Except.ok.inj h).symm⟩
  · cases h

namespace Environment.Built

variable {env : Environment} {P Q : String → Template → Prop} {id source : String}
  {origin : Option String} {template : Template}

/-- What is known of the layout that the source names can be changed. -/
theorem imp (hPQ : ∀ key layout, env.Names source origin key → P key layout → Q key layout)
    (h : env.Built P id source origin template) : env.Built Q id source origin template := by
  cases h with
  | alone htokens hlayout hprogram => exact .alone htokens hlayout hprogram
  | computed htokens hlayout hcheck => exact .computed htokens hlayout hcheck
  | named htokens hlayout hkey hne hparent hbody =>
    exact .named htokens hlayout hkey hne (hPQ _ _ ⟨_, _, _, htokens, hlayout, hkey⟩ hparent) hbody

theorem mono (hPQ : ∀ key layout, P key layout → Q key layout)
    (h : env.Built P id source origin template) : env.Built Q id source origin template :=
  h.imp fun key layout _ => hPQ key layout

/-- A source compiles over the layout that it names, or else by itself. -/
theorem alone_or_over (h : env.Built P id source origin template) :
    env.Built (fun _ _ => False) id source origin template ∨
      ∃ key, env.Names source origin key ∧ key ≠ id := by
  cases h with
  | alone htokens hlayout hprogram => exact Or.inl (.alone htokens hlayout hprogram)
  | computed htokens hlayout hcheck => exact Or.inl (.computed htokens hlayout hcheck)
  | named htokens hlayout hkey hne hparent hbody =>
    exact Or.inr ⟨_, ⟨_, _, _, htokens, hlayout, hkey⟩, hne⟩

/-- What holds of the layout within some bound does so within one bound. -/
theorem exists_bound {W : Nat → String → Template → Prop}
    (h : env.Built (fun key layout => ∃ bound, W bound key layout) id source origin template) :
    ∃ bound, env.Built (W bound) id source origin template := by
  cases h with
  | alone htokens hlayout hprogram => exact ⟨0, .alone htokens hlayout hprogram⟩
  | computed htokens hlayout hcheck => exact ⟨0, .computed htokens hlayout hcheck⟩
  | named htokens hlayout hkey hne hparent hbody =>
    obtain ⟨bound, hparent⟩ := hparent
    exact ⟨bound, .named htokens hlayout hkey hne hparent hbody⟩

theorem settled (h : env.Built P id source origin template) : template.Settled := by
  intro error hfailed
  cases h with
  | alone htokens hlayout hprogram => cases hfailed
  | computed htokens hlayout hcheck => cases hfailed
  | named htokens hlayout hkey hne hparent hbody =>
    rcases bodyOver_eq_ok hbody with ⟨_, _, -, -, rfl⟩ | ⟨_, _, _, -, -, rfl⟩ <;> cases hfailed

theorem id_eq (h : env.Built P id source origin template) : template.id = id := by
  cases h <;> rfl

theorem origin_eq (h : env.Built P id source origin template) : template.origin = origin := by
  cases h <;> rfl

theorem exists_tokens (h : env.Built P id source origin template) :
    ∃ tokens, Token.ofSource env.settings.tags env.settings.autoescape source = .ok tokens := by
  cases h with
  | alone htokens => exact ⟨_, htokens⟩
  | computed htokens => exact ⟨_, htokens⟩
  | named htokens => exact ⟨_, htokens⟩

section Inversion

variable {tokens : List Token} {line : Nat} (h : env.Built P id source origin template)
  (htokens : Token.ofSource env.settings.tags env.settings.autoescape source = .ok tokens)

include h htokens

/-- What a source compiles to, by the layout that its tokens have. -/
theorem of_layout {layout? : Option (Layout × Nat)}
    (hlayout : Token.layout? env.scope tokens = .ok layout?) :
    match layout? with
    | none => ∃ program, Program.ofTokens env.scope tokens = .ok program ∧
        template = ⟨id, origin, none, .ready program⟩
    | some (.computed layout, line) => template = ⟨id, origin, none, .deferred layout line tokens⟩
    | some (.named name, line) => ∃ key layout body, env.resolve name origin = .ok key ∧ P key layout ∧
        env.bodyOver tokens name line layout = .ok body ∧ template = ⟨id, origin, some key, body⟩ := by
  cases h with
  | alone htokens' hlayout' hprogram =>
    cases htokens.symm.trans htokens'
    cases hlayout.symm.trans hlayout'
    exact ⟨_, hprogram, rfl⟩
  | computed htokens' hlayout' hcheck =>
    cases htokens.symm.trans htokens'
    cases hlayout.symm.trans hlayout'
    rfl
  | named htokens' hlayout' hkey hne hparent hbody =>
    cases htokens.symm.trans htokens'
    cases hlayout.symm.trans hlayout'
    exact ⟨_, _, _, hkey, hparent, hbody, rfl⟩

/-- What a source without a layout compiles to. -/
theorem of_alone (hlayout : Token.layout? env.scope tokens = .ok none) :
    ∃ program, Program.ofTokens env.scope tokens = .ok program ∧
      template = ⟨id, origin, none, .ready program⟩ :=
  h.of_layout htokens hlayout

/-- What a source with a computed layout compiles to. -/
theorem of_computed {layout : Expr}
    (hlayout : Token.layout? env.scope tokens = .ok (some (.computed layout, line))) :
    template = ⟨id, origin, none, .deferred layout line tokens⟩ :=
  h.of_layout htokens hlayout

/-- What a source that names its layout compiles to. -/
theorem of_named {name : String}
    (hlayout : Token.layout? env.scope tokens = .ok (some (.named name, line))) :
    ∃ key layout body, env.resolve name origin = .ok key ∧ P key layout ∧
      env.bodyOver tokens name line layout = .ok body ∧
      template = ⟨id, origin, some key, body⟩ :=
  h.of_layout htokens hlayout

end Inversion

end Environment.Built

/-- What is compiled from the source at a path, over layouts with the property, has it too. -/
def Environment.Closed (env : Environment) (P : String → Template → Prop) : Prop :=
  ∀ path source template, env.source path = .ok source →
    env.Built P path source (some path) template → P path template

namespace LoadM

theorem ofExcept_bind {α β : Type} {result : Except TemplateError α} {a : α} {next : α → LoadM β}
    (h : result = .ok a) : (ofExcept result >>= next) = next a := by
  subst h
  rfl

variable {key : String} {compiled kept : Compiled} {store : Store}

theorem keep_eq : keep key compiled store =
    match store.get? key with
    | some kept => .ok kept store
    | none => .ok compiled { store with cache := Fields.put store.cache key compiled } := by
  unfold keep
  change EStateM.modifyGet _ store = _
  delta EStateM.modifyGet
  dsimp only
  cases store.get? key <;> rfl

theorem keep_of_some (h : store.get? key = some kept) : keep key compiled store = .ok kept store := by
  rw [keep_eq, h]

theorem keep_of_none (h : store.get? key = none) :
    keep key compiled store =
      .ok compiled { store with cache := Fields.put store.cache key compiled } := by
  rw [keep_eq, h]

section ThroughStore

variable {compile : LoadM Template} {caching : Bool} {between : Store} {template : Template}

/-- What is kept is not compiled again. -/
theorem throughStore_of_kept (h : store.get? key = some kept) :
    throughStore true key compile store = .ok kept store := by
  have hget : (get : LoadM Store) store = .ok store store := rfl
  unfold throughStore
  simp only [if_true]
  rw [run_bind_of_ok hget, h]
  rfl

/-- What is not kept, or needs not be, is compiled. -/
theorem throughStore_of_error {fault : Fault} (hfree : caching = true → store.get? key = none)
    (h : compile store = .error fault between) :
    throughStore caching key compile store = .error fault between := by
  unfold throughStore
  cases caching with
  | false => exact run_bind_of_error h
  | true =>
    have hget : (get : LoadM Store) store = .ok store store := rfl
    simp only [if_true]
    rw [run_bind_of_ok hget, hfree rfl]
    exact run_bind_of_error h

theorem throughStore_of_ok (h : compile store = .ok template between) :
    throughStore false key compile store =
      .ok ⟨between.nextStamp, template⟩ { between with nextStamp := between.nextStamp + 1 } :=
  run_bind_of_ok h

theorem throughStore_of_new (hfree : store.get? key = none) (h : compile store = .ok template between)
    (hstill : between.get? key = none) :
    throughStore true key compile store =
      .ok ⟨between.nextStamp, template⟩
        { between with
          nextStamp := between.nextStamp + 1
          cache := Fields.put between.cache key ⟨between.nextStamp, template⟩ } := by
  have hget : (get : LoadM Store) store = .ok store store := rfl
  have hstamp : stamp template between =
      .ok ⟨between.nextStamp, template⟩ { between with nextStamp := between.nextStamp + 1 } := rfl
  have hkeep : keep key ⟨between.nextStamp, template⟩
      { between with nextStamp := between.nextStamp + 1 } = _ := keep_of_none hstill
  unfold throughStore
  simp only [if_true]
  rw [run_bind_of_ok hget, hfree]
  dsimp only
  rw [run_bind_of_ok h, run_bind_of_ok hstamp, hkeep]

end ThroughStore

end LoadM

section Store

variable {I : Store → Prop} {P : String → Template → Prop} {α : Type}

/-- The same result on both sides. -/
theorem agree_ofExcept {S : Comparison Store Store} {F : Fault → Fault → Prop} (hF : ∀ fault, F fault fault)
    (result : Except TemplateError α) :
    Agree S F (EqualWith fun a => result = .ok a) (LoadM.ofExcept result) (LoadM.ofExcept result) := by
  cases result with
  | ok a => exact Agree.pure ⟨rfl, rfl⟩
  | error e => exact Agree.throw (hF _)

theorem keeps_ofExcept (result : Except TemplateError α) :
    Keeps I (fun a => result = .ok a) (LoadM.ofExcept result) :=
  agree_ofExcept (fun _ => rfl) result

theorem keeps_get : Keeps I I (get : LoadM Store) := by
  refine .of ?_
  rintro store _ ⟨rfl, hstore⟩
  exact ⟨⟨rfl, hstore⟩, rfl, hstore⟩

/-- What a store keeps of itself when a template is asked for at the key, numbered and put under it. -/
structure Store.Admits (I : Store → Prop) (Q : Template → Prop) (key : String) : Prop where
  ask : ∀ store, I store → I { store with asked := key :: store.asked }
  stamp : ∀ store, I store → I { store with nextStamp := store.nextStamp + 1 }
  put : ∀ store compiled, I store → Q compiled.template →
    I { store with cache := Fields.put store.cache key compiled }
  kept : ∀ store compiled, I store → store.get? key = some compiled → Q compiled.template

theorem Store.All.admits (P : String → Template → Prop) (key : String) :
    Store.Admits (Store.All P) (P key) key where
  ask _ hstore := hstore
  stamp _ hstore := hstore
  put store compiled hstore hcompiled other kept hother := by
    by_cases hkey : other = key
    · subst hkey
      simp only [Store.get?, Fields.get?_put_self, Option.some.injEq] at hother
      exact hother ▸ hcompiled
    · simp only [Store.get?, Fields.get?_put_of_ne _ _ hkey] at hother
      exact hstore other kept hother
  kept _ compiled hstore hget := hstore key compiled hget

theorem Store.Admits.absent {id key : String} (hne : key ≠ id) :
    Store.Admits (fun store => store.get? id = none) (fun _ => True) key where
  ask _ hstore := hstore
  stamp _ hstore := hstore
  put store compiled hstore _ := by
    simp only [Store.get?, Fields.get?_put_of_ne _ _ hne.symm]
    exact hstore
  kept _ _ _ _ := True.intro

/-- What was asked for is not forgotten. -/
theorem Store.Admits.asked (path key : String) :
    Store.Admits (fun store => path ∈ store.asked) (fun _ => True) key where
  ask _ hstore := List.mem_cons_of_mem _ hstore
  stamp _ hstore := hstore
  put _ _ hstore _ := hstore
  kept _ _ _ _ := True.intro

theorem keeps_ask {path : String} (hask : ∀ store, I store → I { store with asked := path :: store.asked }) :
    Keeps I (fun _ => True) (LoadM.ask path) := by
  refine .of ?_
  rintro store _ ⟨rfl, hstore⟩
  exact ⟨⟨rfl, True.intro⟩, rfl, hask store hstore⟩

/-- After a path was asked for this is known of the store. -/
theorem keeps_ask_bind {path : String} {Q : α → Prop} {load : LoadM α}
    (hask : ∀ store, I store → I { store with asked := path :: store.asked })
    (h : Keeps (fun store => I store ∧ path ∈ store.asked) Q load) :
    Keeps I Q (LoadM.ask path >>= fun _ => load) := by
  refine .of ?_
  rintro store _ ⟨rfl, hstore⟩
  have hends := h.run ⟨rfl, hask store hstore, List.mem_cons_self⟩
  exact hends.weaken fun _ _ hrelated => ⟨hrelated.1, hrelated.2.1⟩

section Stamp

variable (hstamp : ∀ store, I store → I { store with nextStamp := store.nextStamp + 1 })

include hstamp

theorem keeps_stamp (template : Template) :
    Keeps I (fun compiled => compiled.template = template) (LoadM.stamp template) := by
  refine .of ?_
  rintro store _ ⟨rfl, hstore⟩
  exact ⟨⟨rfl, rfl⟩, rfl, hstamp store hstore⟩

/-- Without caching nothing is put into the store. -/
theorem keeps_throughStore_false {Q : Template → Prop} {key : String} {compile : LoadM Template}
    (h : Keeps I Q compile) :
    Keeps I (fun compiled => Q compiled.template) (LoadM.throughStore false key compile) := by
  change Keeps I (fun compiled => Q compiled.template) (compile >>= LoadM.stamp)
  exact h.bindWith fun template htemplate => (keeps_stamp hstamp template).mono
    fun _ _ hab => ⟨hab.1, (congrArg Q hab.2).mpr htemplate⟩

end Stamp

section Through

variable {Q : Template → Prop} {key : String} (hadmits : Store.Admits I Q key)

include hadmits

theorem keeps_keep {compiled : Compiled} (h : Q compiled.template) :
    Keeps I (fun kept => Q kept.template) (LoadM.keep key compiled) := by
  refine .of ?_
  rintro store _ ⟨rfl, hstore⟩
  cases hget : store.get? key with
  | some kept =>
    rw [LoadM.keep_of_some hget]
    exact ⟨⟨rfl, hadmits.kept store kept hstore hget⟩, rfl, hstore⟩
  | none =>
    rw [LoadM.keep_of_none hget]
    exact ⟨⟨rfl, h⟩, rfl, hadmits.put store compiled hstore h⟩

theorem keeps_throughStore {compile : LoadM Template} (caching : Bool) (h : Keeps I Q compile) :
    Keeps I (fun compiled => Q compiled.template) (LoadM.throughStore caching key compile) := by
  unfold LoadM.throughStore
  cases caching with
  | false => exact keeps_throughStore_false hadmits.stamp h
  | true =>
    simp only [if_true]
    refine keeps_get.bindWith fun store hstore => ?_
    cases hget : store.get? key with
    | some kept => exact Keeps.pure (hadmits.kept store kept hstore hget)
    | none =>
      refine h.bindWith fun template htemplate => ?_
      refine (keeps_stamp hadmits.stamp template).bindWith fun compiled hcompiled => ?_
      exact keeps_keep hadmits (hcompiled ▸ htemplate)

end Through

/-- With a free key the template is the one that is compiled. -/
theorem throughStore_eq_ok {key : String} {compile : LoadM Template} {caching : Bool}
    {Q : Template → Prop} {store after : Store} {compiled : Compiled}
    (h : Keeps (fun store => I store ∧ store.get? key = none) Q compile) (hI : I store)
    (hfree : store.get? key = none)
    (hrun : LoadM.throughStore caching key compile store = .ok compiled after) :
    Q compiled.template := by
  unfold LoadM.throughStore at hrun
  cases caching with
  | false =>
    obtain ⟨template, between, hcompile, hstamp⟩ := run_bind_eq_ok.mp hrun
    cases hstamp
    exact (Keeps.ok h ⟨hI, hfree⟩ hcompile).1
  | true =>
    simp only [if_true] at hrun
    obtain ⟨_, _, hget, hrest⟩ := run_bind_eq_ok.mp hrun
    cases hget
    rw [hfree] at hrest
    obtain ⟨template, between, hcompile, hrest⟩ := run_bind_eq_ok.mp hrest
    obtain ⟨hQ, -, hfree'⟩ := Keeps.ok h ⟨hI, hfree⟩ hcompile
    obtain ⟨stamped, _, hstamp, hkeep⟩ := run_bind_eq_ok.mp hrest
    cases hstamp
    have hkept : LoadM.keep key ⟨between.nextStamp, template⟩
        { between with nextStamp := between.nextStamp + 1 } = _ := LoadM.keep_of_none hfree'
    cases hkept.symm.trans hkeep
    exact hQ

end Store

namespace Environment

variable {env : Environment} {P : String → Template → Prop}

/-- Loads of layouts that agree make compilations that agree. -/
theorem agree_build {S : Comparison Store Store} {F : Fault → Fault → Prop} (hF : ∀ fault, F fault fault)
    {load load' : String → LoadM Compiled} {around : List String} {id source : String}
    {origin : Option String} (hload : ∀ key, env.Names source origin key → key ≠ id → key ∉ around →
      Agree S F (fun layout layout' => layout.template = layout'.template ∧ P key layout.template)
        (load key) (load' key)) :
    Agree S F (EqualWith (env.Built P id source origin)) (env.build load around id source origin)
      (env.build load' around id source origin) := by
  unfold build
  refine (agree_ofExcept hF _).bindWith fun tokens htokens => ?_
  refine (agree_ofExcept hF _).bindWith fun layout? hlayout => ?_
  match layout? with
  | none =>
    refine (agree_ofExcept hF _).bindWith fun program hprogram => ?_
    exact Agree.pure ⟨rfl, .alone htokens hlayout hprogram⟩
  | some (.computed layout, line) =>
    refine (agree_ofExcept hF _).bindWith fun _ hcheck => ?_
    exact Agree.pure ⟨rfl, .computed htokens hlayout hcheck⟩
  | some (.named name, line) =>
    refine (agree_ofExcept hF _).bindWith fun key hkey => ?_
    dsimp only
    split
    · exact Agree.bind (V := fun _ _ => False) (Agree.throw (hF _)) fun _ _ hfalse => hfalse.elim
    · rename_i hcircle
      simp only [Bool.or_eq_true, decide_eq_true_eq, not_or, List.contains_iff_mem] at hcircle
      have hnames : env.Names source origin key := ⟨tokens, name, line, htokens, hlayout, hkey⟩
      refine (hload key hnames hcircle.1 hcircle.2).bind fun layout layout' ⟨hsame, hparent⟩ => ?_
      rw [← hsame]
      refine (agree_ofExcept hF _).bindWith fun body hbody => ?_
      exact Agree.pure ⟨rfl, .named htokens hlayout hkey hcircle.1 hparent hbody⟩

theorem keeps_build {I : Store → Prop} {load : String → LoadM Compiled} {around : List String}
    {id : String} (hload : ∀ key, key ≠ id → key ∉ around →
      Keeps I (fun layout => P key layout.template) (load key))
    (source : String) (origin : Option String) :
    Keeps I (env.Built P id source origin) (env.build load around id source origin) :=
  agree_build (fun _ => rfl) fun key _ hne hnew =>
    (hload key hne hnew).mono fun _ _ hab => ⟨congrArg Compiled.template hab.1, hab.2⟩

section Names

variable {load : String → LoadM Compiled} {around : List String} {id source key : String}
  {origin : Option String} {tokens : List Token}

/-- A source without a layout is the program that its tokens make. -/
theorem build_alone {program : Program}
    (htokens : Token.ofSource env.settings.tags env.settings.autoescape source = .ok tokens)
    (hlayout : Token.layout? env.scope tokens = .ok none)
    (hprogram : Program.ofTokens env.scope tokens = .ok program) :
    env.build load around id source origin = pure ⟨id, origin, none, .ready program⟩ := by
  unfold build
  rw [LoadM.ofExcept_bind htokens, LoadM.ofExcept_bind hlayout]
  dsimp only
  rw [LoadM.ofExcept_bind hprogram]

/-- A source with a layout that is computed waits for it, if its tokens are a program. -/
theorem build_computed {layout : Expr} {line : Nat}
    (htokens : Token.ofSource env.settings.tags env.settings.autoescape source = .ok tokens)
    (hlayout : Token.layout? env.scope tokens = .ok (some (.computed layout, line)))
    (hcheck : Program.check env.scope tokens = .ok ()) :
    env.build load around id source origin = pure ⟨id, origin, none, .deferred layout line tokens⟩ := by
  unfold build
  rw [LoadM.ofExcept_bind htokens, LoadM.ofExcept_bind hlayout]
  dsimp only
  rw [LoadM.ofExcept_bind hcheck]

/-- A source over a layout that it names is the layout with the blocks of its tokens. -/
theorem build_named {name : String} {line : Nat}
    (htokens : Token.ofSource env.settings.tags env.settings.autoescape source = .ok tokens)
    (hlayout : Token.layout? env.scope tokens = .ok (some (.named name, line)))
    (hkey : env.resolve name origin = .ok key) :
    env.build load around id source origin =
      if key = id || around.contains key then LoadM.fail (.located line (.circularExtends key))
      else load key >>= fun layout =>
        LoadM.ofExcept (env.bodyOver tokens name line layout.template) >>= fun body =>
          return ⟨id, origin, some key, body⟩ := by
  unfold build
  rw [LoadM.ofExcept_bind htokens, LoadM.ofExcept_bind hlayout]
  dsimp only
  rw [LoadM.ofExcept_bind hkey]
  split <;> rfl

/-- What becomes of a source that names a layout. -/
theorem build_of_names (hnames : env.Names source origin key) :
    ∃ tokens name line, env.build load around id source origin =
      if key = id || around.contains key then LoadM.fail (.located line (.circularExtends key))
      else load key >>= fun layout =>
        LoadM.ofExcept (env.bodyOver tokens name line layout.template) >>= fun body =>
          return ⟨id, origin, some key, body⟩ := by
  obtain ⟨tokens, name, line, htokens, hlayout, hkey⟩ := hnames
  exact ⟨tokens, name, line, build_named htokens hlayout hkey⟩

/-- What compiles over a layout has loaded it, and done nothing else. -/
theorem load_of_build {store after : Store} {template : Template} (hnames : env.Names source origin key)
    (h : env.build load around id source origin store = .ok template after) :
    ∃ layout, load key store = .ok layout after := by
  obtain ⟨tokens, name, line, hbuild⟩ := @build_of_names env load around id source key origin hnames
  rw [hbuild] at h
  split at h
  · cases h
  · obtain ⟨layout, between, hload, h⟩ := run_bind_eq_ok.mp h
    cases hbody : env.bodyOver tokens name line layout.template with
    | ok body =>
      rw [hbody] at h
      cases h
      exact ⟨layout, hload⟩
    | error error =>
      rw [hbody] at h
      cases h

end Names

section Files

variable {I : Store → Prop}

/-- The template of the file at a path, compiled anew. -/
def buildFile (env : Environment) (bound : Nat) (around : List String) (path : String) : LoadM Template :=
  LoadM.ofExcept (env.source path) >>= fun source =>
    env.build (env.loadPath bound (path :: around)) around path source (some path)

theorem loadPath_succ (bound : Nat) (around : List String) (path : String) (store : Store) :
    env.loadPath (bound + 1) around path store =
      LoadM.throughStore env.settings.cache path (env.buildFile bound around path)
        { store with asked := path :: store.asked } := rfl

theorem keeps_buildFile {bound : Nat} {around : List String} {path : String}
    (hload : ∀ key, key ≠ path → key ∉ around →
      Keeps I (fun layout => P key layout.template) (env.loadPath bound (path :: around) key)) :
    Keeps I (fun template => ∃ source, env.source path = .ok source ∧
      env.Built P path source (some path) template) (env.buildFile bound around path) :=
  (keeps_ofExcept _).bindWith fun source hsource =>
    (keeps_build hload source (some path)).mono fun _ _ hab => ⟨hab.1, source, hsource, hab.2⟩

/-- A load keeps what templates with the property leave alone under all keys. -/
theorem keeps_loadPath_of_admits (hadmits : ∀ key, Store.Admits I (P key) key) (hclosed : env.Closed P)
    (bound : Nat) (around : List String) (path : String) :
    Keeps I (fun compiled => P path compiled.template) (env.loadPath bound around path) := by
  induction bound generalizing around path with
  | zero => exact Keeps.throw _
  | succ bound ih =>
    refine (keeps_ask (hadmits path).ask).bindWith fun _ _ => keeps_throughStore (hadmits path) _ ?_
    refine (keeps_buildFile fun key _ _ => ih (path :: around) key).mono fun template _ hab => ⟨hab.1, ?_⟩
    obtain ⟨source, hsource, hbuilt⟩ := hab.2
    exact hclosed path source template hsource hbuilt

theorem keeps_loadPath (hclosed : env.Closed P) (bound : Nat) (around : List String) (path : String) :
    Keeps (Store.All P) (fun compiled => P path compiled.template) (env.loadPath bound around path) :=
  keeps_loadPath_of_admits (Store.All.admits P) hclosed bound around path

/-- What is loaded by name has the property. -/
theorem keeps_load (hclosed : env.Closed P) (name : String) (from? : Option String) :
    Keeps (Store.All P)
      (fun compiled => ∃ path, env.resolve name from? = .ok path ∧ P path compiled.template)
      (env.load name from?) :=
  (keeps_ofExcept _).bindWith fun path hpath =>
    (keeps_loadFile fun room => keeps_loadPath hclosed room [] path).mono
      fun _ _ hab => ⟨hab.1, path, hpath, hab.2⟩

theorem keeps_compile (hclosed : env.Closed P) (id source : String) (origin : Option String) :
    Keeps (Store.All P) (env.Built P id source origin) (env.compile id source origin) :=
  keeps_build (fun key _ _ => keeps_loadFile fun room => keeps_loadPath hclosed room [id] key) source origin

end Files

/-- Nothing is kept under a key while the layouts above it are loaded. -/
theorem keeps_absent {id : String} (bound : Nat) {around : List String} (hid : id ∈ around)
    {path : String} (hne : path ≠ id) :
    Keeps (fun store : Store => store.get? id = none) (fun _ => True)
      (env.loadPath bound around path) := by
  induction bound generalizing around path with
  | zero => exact Keeps.throw _
  | succ bound ih =>
    refine (keeps_ask (Store.Admits.absent hne).ask).bindWith fun _ _ =>
      keeps_throughStore (Store.Admits.absent hne) _ ?_
    refine (keeps_buildFile (P := fun _ _ => True) fun key _ hkey => ?_).mono
      fun _ _ hab => ⟨hab.1, True.intro⟩
    exact ih (List.mem_cons_of_mem _ hid) fun heq => hkey (heq ▸ hid)

/-- A source whose key is free is compiled anew. -/
theorem keeps_compile_absent (id source : String) (origin : Option String) :
    Keeps (fun store : Store => store.get? id = none) (fun _ => True)
      (env.compile id source origin) :=
  (keeps_build (P := fun _ _ => True)
    (fun _ hne _ => keeps_loadFile fun room => keeps_absent room List.mem_cons_self hne) source origin).mono
    fun _ _ hab => ⟨hab.1, True.intro⟩

end Environment

end Stencil
