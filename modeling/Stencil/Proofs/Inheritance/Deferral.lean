import Stencil.Proofs.Engine.Deferral
import Stencil.Proofs.Expr.Variable
import Stencil.Proofs.Inheritance.Late
import Stencil.Proofs.Token.Front

/-!
Layouts named in the sources and layouts looked up when a template is rendered. A loader of which some
sources name their layouts by variables of the globals renders every file as the loader does that names
them directly.
-/
namespace Stencil

namespace Token

variable {scope : Scope} {word : List Char} {tokens : List Token}

theorem layoutOf_quoted {name : String} (h : IsPlainName name) :
    layoutOf scope (.extending ('"' :: name.toList ++ ['"'])) = .ok (.named name) := by
  unfold layoutOf LogicTag.extending
  dsimp only
  rw [String.toList_ofList, Source.unquote?_quoted h]
  dsimp only
  rw [String.ofList_toList]

theorem layoutOf_variable {global : String} (h : IsVariable global) :
    layoutOf scope (.extending global.toList) = .ok (.computed (.path global [])) := by
  unfold layoutOf LogicTag.extending Scope.expr
  dsimp only
  rw [String.ofList_toList, Source.unquote?_variable h]
  dsimp only
  rw [Expr.ofText_variable h]
  rfl

/-- Behind an extends tag at the front there may be no other one. -/
theorem layout?_extending :
    layout? scope (.logic (.extending word) [] :: tokens) =
      match firstExtends? (tokens.filter (!·.isBlankText)) with
      | some misplaced => .error (.located misplaced.line .extendsNotFirst)
      | none => (layoutOf scope (.extending word)).map fun layout => some (layout, 1) := by
  rfl

end Token

/-- A variable that the globals bind to a text names the layout of that name. -/
theorem Template.layoutName_of_global {jump : Jump} {env : Environment} {global name : String}
    (h : Fields.get? env.settings.globals global = some (.string name)) (template : Template)
    (context : Context) :
    layoutName jump env template (.path global []) context = pure name := by
  have hfind : Eval.find env.settings.globals context global [] = .string name := by
    unfold Eval.find
    dsimp only
    rw [h]
    rfl
  unfold layoutName Eval.expr Eval.keys
  change (pure (Eval.find env.settings.globals context global []) >>= _) = _
  rw [hfind]
  rfl

/-- The same page, or one with the same content that names its layout by a variable of the globals. -/
inductive Environment.PagesDefer (scope : Scope) (globals : Fields Value) :
    Except TemplateError (List Token × Option (Layout × Nat)) →
      Except TemplateError (List Token × Option (Layout × Nat)) → Prop
  | same (page) : PagesDefer scope globals page page
  | layout {global name : String} {line : Nat} {tokens₁ tokens₂ : List Token}
      (hbound : Fields.get? globals global = some (.string name))
      (hextend : Program.extend scope tokens₁ = Program.extend scope tokens₂) :
      PagesDefer scope globals (.ok (tokens₁, some (.named name, line)))
        (.ok (tokens₂, some (.computed (.path global []), line)))

/-- The same settings, which debug, and loaders with finitely many sources of which one names some layouts by
variables of the globals. -/
structure Environment.Defers (env₁ env₂ : Environment) : Prop where
  settings : env₁.settings = env₂.settings
  debugs : env₁.settings.debug = true
  tag : env₁.settings.tags.get? "extends" = some ⟨.extends, false⟩
  load (path : String) :
    Source.AnswersDefer env₁.settings.globals (env₁.loader.load path) (env₂.loader.load path)
  finite : ∃ size, env₁.HoldsAtMost size

namespace Environment

variable {env env₁ env₂ : Environment}

/-- The page of a source that begins with an extends tag. -/
theorem pageOf_extending (htag : env.settings.tags.get? "extends" = some ⟨.extends, false⟩)
    {word : List Char} (hword : Source.IsArgument word) (rest : List Char) :
    env.pageOf (String.ofList (Source.extendsSource word rest)) = (do
      let tokens ← Token.ofSource env.settings.tags env.settings.autoescape (String.ofList rest)
      match Token.firstExtends? (tokens.filter (!·.isBlankText)) with
      | some misplaced => .error (.located misplaced.line .extendsNotFirst)
      | none =>
        let layout ← Token.layoutOf env.scope (.extending word)
        Program.check env.scope tokens
        return (.logic (.extending word) [] :: tokens, some (layout, 1))) := by
  unfold pageOf
  rw [Token.ofSource_extends htag hword]
  cases Token.ofSource env.settings.tags env.settings.autoescape (String.ofList rest) with
  | error error => rfl
  | ok tokens =>
    change (Token.layout? env.scope (.logic (.extending word) [] :: tokens) >>= _) = _
    rw [Token.layout?_extending]
    dsimp only [bind, Except.bind]
    cases Token.firstExtends? (tokens.filter (!·.isBlankText)) with
    | some misplaced => rfl
    | none =>
      cases Token.layoutOf env.scope (.extending word) with
      | error error => rfl
      | ok layout =>
        dsimp only [Except.map, review]
        rw [Program.check_extends rfl]

namespace Defers

variable (h : Defers env₁ env₂)

include h

theorem sameRuntime : env₁.SameRuntime env₂ := by
  constructor <;> rw [h.settings]

theorem scope_eq : env₁.scope = env₂.scope := by
  unfold scope
  rw [h.settings]

theorem resolve_eq (name : String) (from? : Option String) :
    env₁.resolve name from? = env₂.resolve name from? := by
  unfold resolve
  rw [h.settings]

/-- The sources at a path, or the same error. -/
theorem source (path : String) :
    (∃ source₁ source₂, env₁.source path = .ok source₁ ∧ env₂.source path = .ok source₂ ∧
      Source.Defers env₁.settings.globals source₁ source₂) ∨
    ∃ error, env₁.source path = .error error ∧ env₂.source path = .error error := by
  have hanswers := h.load path
  unfold Environment.source
  generalize env₁.loader.load path = answer₁ at hanswers ⊢
  generalize env₂.loader.load path = answer₂ at hanswers ⊢
  cases hanswers with
  | ok hsource => exact Or.inl ⟨_, _, rfl, rfl, hsource⟩
  | error message => exact Or.inr ⟨_, rfl, rfl⟩

/-- There are no more sources on the right. -/
theorem holdsAtMost {size : Nat} (hholds : env₁.HoldsAtMost size) : env₂.HoldsAtMost size := by
  refine fun keys hnodup hkeys => hholds keys hnodup fun key hkey => ⟨(hkeys key hkey).isKey, ?_⟩
  obtain ⟨found, hfound⟩ := (hkeys key hkey).source
  rcases h.source key with ⟨source, _, hsource, -, -⟩ | ⟨error, -, hmissing⟩
  · exact ⟨source, hsource⟩
  · cases hmissing.symm.trans hfound

theorem left : Defers env₁ env₁ where
  settings := rfl
  debugs := h.debugs
  tag := h.tag
  load _ := .refl _ _
  finite := h.finite

theorem right : Defers env₂ env₂ where
  settings := rfl
  debugs := h.settings ▸ h.debugs
  tag := h.settings ▸ h.tag
  load _ := .refl _ _
  finite := h.finite.imp fun _ => h.holdsAtMost

theorem pageOf_eq (source : String) : env₁.pageOf source = env₂.pageOf source := by
  unfold pageOf review
  rw [h.scope_eq, h.settings]

/-- A source that names its layout by a variable has the page of the source that names it directly. -/
theorem pageOf_layout {global name : String} (hglobal : IsVariable global) (hname : IsPlainName name)
    (hbound : Fields.get? env₁.settings.globals global = some (.string name)) (rest : List Char) :
    PagesDefer env₁.scope env₁.settings.globals
      (env₁.pageOf (String.ofList (Source.extendsSource ('"' :: name.toList ++ ['"']) rest)))
      (env₁.pageOf (String.ofList (Source.extendsSource global.toList rest))) := by
  rw [pageOf_extending h.tag (Source.isArgument_quoted hname),
    pageOf_extending h.tag (Source.isArgument_variable hglobal), Token.layoutOf_quoted hname,
    Token.layoutOf_variable hglobal]
  dsimp only [bind, Except.bind]
  cases Token.ofSource env₁.settings.tags env₁.settings.autoescape (String.ofList rest) with
  | error error => exact .same (.error error)
  | ok tokens =>
    dsimp only
    cases Token.firstExtends? (tokens.filter (!·.isBlankText)) with
    | some misplaced => exact .same (.error _)
    | none =>
      dsimp only
      cases Program.check env₁.scope tokens with
      | error error => exact .same (.error error)
      | ok _ =>
        refine .layout hbound (funext fun layout => ?_)
        rw [Program.extend_extends rfl, Program.extend_extends rfl]

/-- The pages of a file. -/
theorem page (key : String) :
    PagesDefer env₁.scope env₁.settings.globals (env₁.page key) (env₂.page key) := by
  unfold Environment.page
  rcases h.source key with ⟨source₁, source₂, hsource₁, hsource₂, hsource⟩ |
    ⟨error, hsource₁, hsource₂⟩
  · rw [hsource₁, hsource₂]
    change PagesDefer _ _ (env₁.pageOf source₁) (env₂.pageOf source₂)
    rw [← h.pageOf_eq]
    cases hsource with
    | same => exact .same _
    | layout hglobal hname hbound rest => exact h.pageOf_layout hglobal hname hbound rest
  · rw [hsource₁, hsource₂]
    exact .same (.error error)

section Rendering

variable {jump : Jump}
  (halike : Guarantee.vacuous.Alike (Files env₁ env₂) (fun _ _ => True) env₁ env₂ jump jump)
  (context : Context)

include halike

omit h in
theorem agree_nameIn (key : String) (layout : Layout) :
    Agree (Files env₁ env₂) (Fault.Alike fun _ _ => True) Equal
      (layout.nameIn jump env₁ context key) (layout.nameIn jump env₂ context key) := by
  cases layout with
  | named name => exact Agree.pure (Equal.refl name)
  | computed expr =>
    exact halike.layoutName (Guarantee.knownContext_vacuous context) rfl rfl expr

omit halike in
/-- The late programs of two pages, if their layouts have one name and they extend these in the same way. -/
theorem late_of_layouts {bound : Nat} {key : String} {layout₁ layout₂ : Layout} {line : Nat}
    {tokens₁ tokens₂ : List Token}
    (hlate : ∀ chain above, Agree (Files env₁ env₂) (Fault.Alike fun _ _ => True)
      (EqualWith Guarantee.vacuous.KnownProgram) (env₁.late jump context bound chain above)
      (env₂.late jump context bound chain above))
    (hpage₁ : env₁.page key = .ok (tokens₁, some (layout₁, line)))
    (hpage₂ : env₂.page key = .ok (tokens₂, some (layout₂, line)))
    (hname : Agree (Files env₁ env₂) (Fault.Alike fun _ _ => True) Equal
      (layout₁.nameIn jump env₁ context key) (layout₂.nameIn jump env₂ context key))
    (hextend : Program.extend env₁.scope tokens₁ = Program.extend env₁.scope tokens₂) (chain : List String) :
    Agree (Files env₁ env₂) (Fault.Alike fun _ _ => True) (EqualWith Guarantee.vacuous.KnownProgram)
      (env₁.late jump context (bound + 1) chain key) (env₂.late jump context (bound + 1) chain key) := by
  rw [late_over hpage₁, late_over hpage₂]
  refine hname.bindWith fun name _ => ?_
  rw [h.resolve_eq]
  cases env₂.resolve name (some key) with
  | error error => exact Agree.throw True.intro
  | ok above =>
    rw [LoadM.ofExcept_bind rfl, LoadM.ofExcept_bind rfl]
    unfold lateOver
    rw [hextend, ← h.scope_eq]
    split
    · exact Agree.throw True.intro
    · exact (hlate _ above).bindWith fun program _ => alike_ofExcept _

/-- The late programs of a file. -/
theorem late (bound : Nat) (chain : List String) (key : String) :
    Agree (Files env₁ env₂) (Fault.Alike fun _ _ => True) (EqualWith Guarantee.vacuous.KnownProgram)
      (env₁.late jump context bound chain key) (env₂.late jump context bound chain key) := by
  induction bound generalizing chain key with
  | zero => exact Agree.throw True.intro
  | succ bound ih =>
    have hpages := h.page key
    generalize hpage₁ : env₁.page key = page₁ at hpages
    generalize hpage₂ : env₂.page key = page₂ at hpages
    cases hpages with
    | layout hbound hextend =>
      refine h.late_of_layouts context ih hpage₁ hpage₂ ?_ hextend chain
      rw [h.settings] at hbound
      unfold Layout.nameIn
      dsimp only
      rw [Template.layoutName_of_global hbound]
      exact Agree.pure (Equal.refl _)
    | same =>
      match page₁ with
      | .error error =>
        rw [Environment.late, Environment.late, hpage₁, hpage₂]
        exact Agree.throw True.intro
      | .ok (tokens, none) =>
        rw [late_alone hpage₁, late_alone hpage₂, ← h.scope_eq]
        exact alike_ofExcept _
      | .ok (tokens, some (layout, line)) =>
        exact h.late_of_layouts context ih hpage₁ hpage₂ (agree_nameIn halike context key layout) rfl chain

theorem latePrepared (size : Nat) (ancestors : List String) (name : String) (from? : Option String) :
    Agree (Files env₁ env₂) (Fault.Alike fun _ _ => True)
      (fun late₁ late₂ => late₁.1 = late₂.1 ∧ EqualWith Guarantee.vacuous.KnownProgram late₁.2 late₂.2)
      (env₁.latePrepared jump size ancestors name from? context)
      (env₂.latePrepared jump size ancestors name from? context) := by
  unfold Environment.latePrepared
  rw [h.resolve_eq]
  cases env₂.resolve name from? with
  | error error => exact Agree.throw True.intro
  | ok key =>
    rw [LoadM.ofExcept_bind rfl, LoadM.ofExcept_bind rfl]
    split
    · exact Agree.throw True.intro
    · exact (h.late halike context _ [key] key).bindWith fun program hprogram =>
        Agree.pure ⟨rfl, rfl, hprogram⟩

end Rendering

/-- What is prepared agrees by way of the late programs. -/
theorem preparesAlike {jump : Jump}
    (halike : ∀ {env env'}, Defers env env' →
      Guarantee.vacuous.Alike (Files env env') (fun _ _ => True) env env' jump jump) :
    Guarantee.vacuous.PreparesAlike (Files env₁ env₂) (fun _ _ => True) env₁ env₂ jump jump := by
  intro ancestors name from? context _
  obtain ⟨size, hholds⟩ := h.finite
  have hfirst := prepared_late (halike h.left) hholds ancestors name from? context
  have hsecond := h.latePrepared (halike h) context size ancestors name from?
  have hlast := prepared_late (halike h.right) (h.holdsAtMost hholds) ancestors name from? context
  have hthird := hlast.symm.monoFault fun _ _ => Fault.Alike.symm fun _ _ _ => True.intro
  have htrans : ∀ e f g, Fault.Alike (fun _ _ => True) e f → Fault.Alike (fun _ _ => True) f g →
      Fault.Alike (fun _ _ => True) e g := fun _ _ _ => Fault.Alike.trans fun _ _ _ _ _ => True.intro
  have hlate : Agree (Files env₁ env₂) (Fault.Alike fun _ _ => True)
      (fun late ready => ready.1.id = late.1 ∧ ready.1.origin = some late.1 ∧
        EqualWith Guarantee.vacuous.KnownProgram late.2 ready.2)
      (env₁.latePrepared jump size ancestors name from? context)
      (prepared jump env₂ ancestors name from? context) := by
    refine hsecond.trans hthird (fun _ t ⟨hs, ht⟩ => ⟨t, ⟨hs, ht⟩, ht, ht⟩)
      (fun _ _ _ ⟨hs, _⟩ ⟨hu, _⟩ => ⟨hs, hu⟩) htrans ?_
    rintro ⟨key, program⟩ ⟨_, _⟩ ready ⟨rfl, rfl, -⟩ ⟨hid, horigin, hprogram, hknown⟩
    exact ⟨hid, horigin, hprogram.symm, hprogram ▸ hknown⟩
  refine hfirst.trans hlate (fun s _ ⟨hs, ht⟩ => ⟨s, ⟨hs, hs⟩, hs, ht⟩)
    (fun _ _ _ ⟨hs, _⟩ ⟨_, hu⟩ => ⟨hs, hu⟩) htrans ?_
  rintro ready₁ ⟨key, program⟩ ready₂ ⟨hid, horigin, hprogram, hknown⟩ ⟨hid', horigin', hprogram', -⟩
  exact ⟨hid.trans hid'.symm, horigin.trans horigin'.symm, hprogram.trans hprogram', hknown⟩

/-- Renderings of every depth agree. -/
theorem alike (depth : Nat) :
    Guarantee.vacuous.Alike (Files env₁ env₂) (fun _ _ => True) env₁ env₂ (Render.upToDepth depth)
      (Render.upToDepth depth) := by
  refine Guarantee.alike_upToDepth (K := Defers) (R := fun env env' => Files env env') (fun _ => True.intro)
    (fun _ _ hdefers => hdefers.sameRuntime) (fun jump halike env env' hdefers => ?_) depth env₁ env₂ h
  exact (halike env env' hdefers).visits hdefers.debugs
    (fun _ _ ⟨hs, ht⟩ => ⟨settles_of_files hs, settles_of_files ht⟩)
    (hdefers.preparesAlike fun hother => halike _ _ hother)

end Defers

end Environment

section Sample

end Sample

end Stencil
