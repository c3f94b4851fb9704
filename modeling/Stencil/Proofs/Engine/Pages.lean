import Mathlib.Logic.Relation
import Stencil.Proofs.Engine.Loads
import Stencil.Proofs.Engine.Sources
import Stencil.Proofs.Inheritance.Checks

/-!
Files and what they compile to, whatever a store keeps. The page of a file is what its source says by
itself: the tokens and the layout that they name. A file compiles if there is nothing wrong in its page
and the layouts above it compile.
-/
namespace Stencil

/-- The layout is the one that a template with this expression for its name waits for. -/
def Layout.IsGivenBy (expr : Expr) : Layout → Prop
  | .named name => expr = .literal (.string name)
  | .computed other => expr = other

namespace Environment

variable {env : Environment}

/-- Whether there is anything wrong in a file itself. -/
def review (env : Environment) (tokens : List Token) :
    Option (Layout × Nat) → Except TemplateError Unit
  | none => ending (Program.ofTokens env.scope tokens)
  | some _ => Program.check env.scope tokens

/-- The tokens of a source and its layout, if there is nothing wrong in the source itself. -/
def pageOf (env : Environment) (source : String) :
    Except TemplateError (List Token × Option (Layout × Nat)) := do
  let tokens ← Token.ofSource env.settings.tags env.settings.autoescape source
  let layout ← Token.layout? env.scope tokens
  env.review tokens layout
  return (tokens, layout)

/-- The page of a file. -/
def page (env : Environment) (key : String) :
    Except TemplateError (List Token × Option (Layout × Nat)) := do
  let source ← env.source key
  env.pageOf source

/-- What the page of a file says of its source. -/
theorem page_eq_ok {key : String} {tokens : List Token} {layout : Option (Layout × Nat)} :
    env.page key = .ok (tokens, layout) ↔
      ∃ source, env.source key = .ok source ∧
        Token.ofSource env.settings.tags env.settings.autoescape source = .ok tokens ∧
        Token.layout? env.scope tokens = .ok layout ∧ env.review tokens layout = .ok () := by
  unfold page pageOf
  constructor
  · intro h
    obtain ⟨source, hsource, h⟩ := bind_eq_ok.mp h
    obtain ⟨tokens', htokens, h⟩ := bind_eq_ok.mp h
    obtain ⟨layout', hlayout, h⟩ := bind_eq_ok.mp h
    obtain ⟨_, hreview, h⟩ := bind_eq_ok.mp h
    cases h
    exact ⟨source, hsource, htokens, hlayout, hreview⟩
  · rintro ⟨source, hsource, htokens, hlayout, hreview⟩
    exact bind_eq_ok.mpr ⟨source, hsource, bind_eq_ok.mpr ⟨tokens, htokens,
      bind_eq_ok.mpr ⟨layout, hlayout, bind_eq_ok.mpr ⟨(), hreview, rfl⟩⟩⟩⟩

/-- The template that a file compiles to, with less than so many layouts above it that are known from the
sources. -/
def CompilesWithin (env : Environment) : Nat → String → Template → Prop
  | 0, _, _ => False
  | more + 1, key, template => ∃ source, env.source key = .ok source ∧
      env.Built (env.CompilesWithin more) key source (some key) template

/-- The template that a file compiles to. -/
def Compiles (env : Environment) (key : String) (template : Template) : Prop :=
  ∃ bound, env.CompilesWithin bound key template

namespace CompilesWithin

variable {bound more : Nat} {key : String} {template template' : Template}

theorem step (h : env.CompilesWithin bound key template) :
    env.CompilesWithin (bound + 1) key template := by
  induction bound generalizing key template with
  | zero => exact h.elim
  | succ bound ih =>
    obtain ⟨source, hsource, hbuilt⟩ := h
    exact ⟨source, hsource, hbuilt.mono fun _ _ => ih⟩

theorem mono (h : env.CompilesWithin bound key template) (hle : bound ≤ more) :
    env.CompilesWithin more key template := by
  induction hle with
  | refl => exact h
  | step _ ih => exact ih.step

/-- A file compiles to one template only. -/
theorem unique (h : env.CompilesWithin bound key template)
    (h' : env.CompilesWithin more key template') : template = template' := by
  induction bound generalizing more key template template' with
  | zero => exact h.elim
  | succ bound ih =>
    cases more with
    | zero => exact h'.elim
    | succ more =>
      obtain ⟨source, hsource, hbuilt⟩ := h
      obtain ⟨source', hsource', hbuilt'⟩ := h'
      cases hsource.symm.trans hsource'
      cases hbuilt with
      | alone htokens hlayout hprogram =>
        obtain ⟨program, hprogram', rfl⟩ := hbuilt'.of_alone htokens hlayout
        cases hprogram.symm.trans hprogram'
        rfl
      | computed htokens hlayout hcheck => exact (hbuilt'.of_computed htokens hlayout).symm
      | named htokens hlayout hkey hne hparent hbody =>
        obtain ⟨key', layout', body', hkey', hparent', hbody', rfl⟩ := hbuilt'.of_named htokens hlayout
        cases hkey.symm.trans hkey'
        cases ih hparent hparent'
        cases hbody.symm.trans hbody'
        rfl

/-- The template is compiled from the source of the file, whatever is known of the layout. -/
theorem exists_built (h : env.CompilesWithin bound key template) :
    ∃ P source, env.source key = .ok source ∧ env.Built P key source (some key) template := by
  cases bound with
  | zero => exact h.elim
  | succ bound => exact ⟨env.CompilesWithin bound, h⟩

theorem id_eq (h : env.CompilesWithin bound key template) : template.id = key := by
  obtain ⟨_, _, -, hbuilt⟩ := h.exists_built
  exact hbuilt.id_eq

theorem origin_eq (h : env.CompilesWithin bound key template) : template.origin = some key := by
  obtain ⟨_, _, -, hbuilt⟩ := h.exists_built
  exact hbuilt.origin_eq

theorem settled (h : env.CompilesWithin bound key template) : template.Settled := by
  obtain ⟨_, _, -, hbuilt⟩ := h.exists_built
  exact hbuilt.settled

/-- The template of a file is compiled within some bound and within no smaller one. -/
theorem exists_least (h : env.CompilesWithin bound key template) :
    ∃ least < bound, env.CompilesWithin (least + 1) key template ∧
      ∀ other, ¬ env.CompilesWithin least key other := by
  induction bound with
  | zero => exact h.elim
  | succ bound ih =>
    by_cases hless : ∃ other, env.CompilesWithin bound key other
    · obtain ⟨other, hother⟩ := hless
      cases h.unique hother
      obtain ⟨least, hlt, hleast⟩ := ih hother
      exact ⟨least, by omega, hleast⟩
    · exact ⟨bound, Nat.lt_succ_self bound, h, fun other hother => hless ⟨other, hother⟩⟩

/-- Where a program that is known at once comes from. -/
theorem ready {program : Program} (h : env.CompilesWithin (bound + 1) key template)
    (hready : template.body = .ready program) :
    (∃ tokens, env.page key = .ok (tokens, none) ∧
      Program.ofTokens env.scope tokens = .ok program) ∨
    ∃ tokens name line above layout below, env.page key = .ok (tokens, some (.named name, line)) ∧
      env.resolve name (some key) = .ok above ∧ above ≠ key ∧
      env.CompilesWithin bound above layout ∧ layout.body = .ready below ∧
      Program.extend env.scope tokens below = .ok program := by
  obtain ⟨source, hsource, hbuilt⟩ := h
  cases hbuilt with
  | @alone tokens _ htokens hlayout hprogram =>
    cases hready
    have hreview : env.review tokens none = .ok () := ending_eq_ok.mpr ⟨_, hprogram⟩
    exact Or.inl ⟨tokens, page_eq_ok.mpr ⟨source, hsource, htokens, hlayout, hreview⟩, hprogram⟩
  | computed htokens hlayout hcheck => cases hready
  | @named tokens name above line layout _ htokens hlayout hkey hne hparent hbody =>
    rcases bodyOver_eq_ok hbody with ⟨below, result, hbelow, hextend, rfl⟩ | ⟨_, _, _, -, -, rfl⟩
    · cases hready
      have hreview : env.review tokens (some (.named name, line)) = .ok () :=
        (Program.check_eq_ok below).mpr ⟨_, hextend⟩
      exact Or.inr ⟨tokens, name, line, above, layout, below,
        page_eq_ok.mpr ⟨source, hsource, htokens, hlayout, hreview⟩, hkey, hne, hparent, hbelow,
        hextend⟩
    · cases hready

/-- A template that waits for its layout comes from a page that gives this layout. -/
theorem deferred {expr : Expr} {line : Nat} {tokens : List Token}
    (h : env.CompilesWithin bound key template) (hdeferred : template.body = .deferred expr line tokens) :
    ∃ layout : Layout, env.page key = .ok (tokens, some (layout, line)) ∧ layout.IsGivenBy expr := by
  obtain ⟨_, source, hsource, hbuilt⟩ := h.exists_built
  cases hbuilt with
  | alone htokens hlayout hprogram => cases hdeferred
  | computed htokens hlayout hcheck =>
    cases hdeferred
    exact ⟨_, page_eq_ok.mpr ⟨source, hsource, htokens, hlayout, hcheck⟩, rfl⟩
  | named htokens hlayout hkey hne hparent hbody =>
    rcases bodyOver_eq_ok hbody with ⟨_, _, -, -, rfl⟩ | ⟨_, _, _, -, hcheck, rfl⟩
    · cases hdeferred
    · cases hdeferred
      exact ⟨_, page_eq_ok.mpr ⟨source, hsource, htokens, hlayout, hcheck⟩, rfl⟩

end CompilesWithin

/-- The file at the key names the one above it as its layout. -/
def Extends (env : Environment) (key above : String) : Prop :=
  ∃ source, env.source key = .ok source ∧ env.Names source (some key) above

theorem Names.isKey {source key : String} {origin : Option String} (h : env.Names source origin key) :
    Location.IsKey key := by
  obtain ⟨_, _, _, -, -, hkey⟩ := h
  exact isKey_of_resolve hkey

theorem Extends.exists_source {key above : String} (h : env.Extends key above) :
    ∃ source, env.source key = .ok source := by
  obtain ⟨source, hsource, -⟩ := h
  exact ⟨source, hsource⟩

theorem Extends.isKey {key above : String} (h : env.Extends key above) : Location.IsKey above := by
  obtain ⟨_, -, hnames⟩ := h
  exact hnames.isKey

/-- What a page says of the layout that its file extends. -/
theorem Extends.of_page {key above : String} {tokens : List Token} {layout : Option (Layout × Nat)}
    (h : env.Extends key above) (hpage : env.page key = .ok (tokens, layout)) :
    ∃ name line, layout = some (.named name, line) ∧ env.resolve name (some key) = .ok above := by
  obtain ⟨source, hsource, tokens', name, line, htokens, hlayout, habove⟩ := h
  obtain ⟨source', hsource', htokens', hlayout', -⟩ := page_eq_ok.mp hpage
  cases hsource.symm.trans hsource'
  cases htokens.symm.trans htokens'
  cases hlayout.symm.trans hlayout'
  exact ⟨name, line, rfl, habove⟩

/-- The layout of a file that compiles does so within fewer steps. -/
theorem CompilesWithin.above {bound : Nat} {key above : String} {template : Template}
    (h : env.CompilesWithin (bound + 1) key template) (habove : env.Extends key above) :
    ∃ layout, env.CompilesWithin bound above layout := by
  obtain ⟨source, hsource, hbuilt⟩ := h
  obtain ⟨source', hsource', tokens, name, line, htokens, hlayout, hkey⟩ := habove
  cases hsource.symm.trans hsource'
  obtain ⟨found, layout, -, hfound, hparent, -⟩ := hbuilt.of_named htokens hlayout
  cases hkey.symm.trans hfound
  exact ⟨layout, hparent⟩

/-- No file that compiles is above itself. -/
theorem CompilesWithin.not_circular {bound : Nat} {key : String} {template : Template}
    (h : env.CompilesWithin bound key template) : ¬ Relation.TransGen env.Extends key key := by
  induction bound generalizing key template with
  | zero => exact h.elim
  | succ bound ih =>
    intro hcircle
    obtain ⟨above, habove, hback⟩ := Relation.TransGen.head'_iff.mp hcircle
    obtain ⟨layout, hlayout⟩ := h.above habove
    exact ih hlayout (Relation.TransGen.tail' hback habove)

theorem compiles_closed : env.Closed env.Compiles := by
  intro path source template hsource hbuilt
  obtain ⟨bound, hbuilt⟩ := hbuilt.exists_bound
  exact ⟨bound + 1, source, hsource, hbuilt⟩

/-- A file without a layout compiles. -/
theorem compiles_alone {key : String} {tokens : List Token}
    (h : env.page key = .ok (tokens, none)) : ∃ template, env.Compiles key template := by
  obtain ⟨source, hsource, htokens, hlayout, hreview⟩ := page_eq_ok.mp h
  obtain ⟨program, hprogram⟩ := ending_eq_ok.mp hreview
  exact ⟨_, compiles_closed _ _ _ hsource (.alone htokens hlayout hprogram)⟩

/-- A file with a computed layout compiles. -/
theorem compiles_computed {key : String} {tokens : List Token} {expr : Expr} {line : Nat}
    (h : env.page key = .ok (tokens, some (.computed expr, line))) :
    ∃ template, env.Compiles key template := by
  obtain ⟨source, hsource, htokens, hlayout, hcheck⟩ := page_eq_ok.mp h
  exact ⟨_, compiles_closed _ _ _ hsource (.computed htokens hlayout hcheck)⟩

/-- A source in which nothing is wrong has a body over any layout that compiled. -/
theorem bodyOver_of_review {tokens : List Token} {given : Layout} {name : String} {line : Nat}
    {layout : Template} (hlayout : layout.Settled)
    (hreview : env.review tokens (some (given, line)) = .ok ()) :
    ∃ body, env.bodyOver tokens name line layout = .ok body := by
  unfold bodyOver
  split
  · rename_i program hready
    obtain ⟨result, hresult⟩ := (Program.check_eq_ok program).mp hreview
    rw [hresult]
    exact ⟨_, rfl⟩
  · have hcheck : Program.check env.scope tokens = .ok () := hreview
    rw [hcheck]
    exact ⟨_, rfl⟩
  · rename_i error hfailed
    exact absurd hfailed (hlayout error)

/-- A file compiles if the layout that it names does. -/
theorem compiles_named {key name above : String} {tokens : List Token} {line : Nat}
    {layout : Template} (h : env.page key = .ok (tokens, some (.named name, line)))
    (habove : env.resolve name (some key) = .ok above) (hne : above ≠ key)
    (hlayout : env.Compiles above layout) : ∃ template, env.Compiles key template := by
  obtain ⟨source, hsource, htokens, hnamed, hreview⟩ := page_eq_ok.mp h
  obtain ⟨body, hbody⟩ := bodyOver_of_review (hlayout.elim fun _ hwithin => hwithin.settled) hreview
  exact ⟨_, compiles_closed _ _ _ hsource (.named htokens hnamed habove hne hlayout hbody)⟩

end Environment

end Stencil
