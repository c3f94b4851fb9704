import Stencil.Proofs.Node.Origin
import Stencil.Proofs.Render.Visits

/-!
Guarantees from sources. If what is known of the tokens of all sources covers a guarantee, then all
compiled nodes are known, so that every rendering keeps the guarantee.
-/
namespace Stencil

namespace Guarantee

/-- What is known of tokens tells what a guarantee needs to know of the nodes they make. -/
structure Covers (G : Guarantee) (T : Token → Prop) : Prop where
  makes : ∀ scope token node, T token → token.Makes scope node → G.node node
  fragment : ∀ nodes, G.node (.fragment nodes)

/-- Everything is known of the tokens and of all tokens inside them. -/
def KnownTokens (T : Token → Prop) (tokens : List Token) : Prop :=
  ∀ token ∈ Token.partsOf tokens, T token

/-- The program is known, or it will be compiled from known tokens. -/
def KnownTemplate (G : Guarantee) (T : Token → Prop) (template : Template) : Prop :=
  match template.body with
  | .ready program => G.KnownProgram program
  | .deferred _ _ tokens => KnownTokens T tokens
  | .failed _ => False

variable {G : Guarantee} {T : Token → Prop}

theorem KnownTemplate.settled {template : Template} (h : G.KnownTemplate T template) :
    template.Settled := by
  intro error hbody
  simp [KnownTemplate, hbody] at h

theorem KnownTokens.subset {tokens tokens' : List Token} (h : KnownTokens T tokens)
    (hsubset : tokens' ⊆ tokens) : KnownTokens T tokens' := by
  intro part hpart
  obtain ⟨token, htoken, hpart⟩ := Token.mem_partsOf.mp hpart
  exact h part (Token.mem_partsOf.mpr ⟨token, hsubset htoken, hpart⟩)

theorem Covers.knownNodes (hcovers : G.Covers T) {scope : Scope} {start finish : Bool} {tokens : List Token}
    {nodes : List Node} (htokens : KnownTokens T tokens)
    (hparent : ∀ parent, scope.parent = some parent → G.KnownNodes parent)
    (h : compileTokens scope start finish tokens = .ok nodes) : G.KnownNodes nodes := by
  intro part hpart
  rcases madeOf_of_compileTokens tokens h hpart with ⟨token, htoken, hmakes⟩ | ⟨-, hgives⟩
  · exact hcovers.makes scope token part (htokens token (Token.mem_partsOf_of_bodyPartsOf tokens htoken))
      hmakes
  · obtain ⟨parent, hscope, hpart⟩ := hgives
    simp only [Node.parts, List.mem_cons] at hpart
    rcases hpart with rfl | hpart
    · exact hcovers.fragment parent
    · exact hparent parent hscope part hpart

mutual

theorem Covers.knownBlock (hcovers : G.Covers T) {scope : Scope} {inherited : Blocks}
    (hinherited : G.KnownBlocks inherited)
    {blocks blocks' : Blocks} (hblocks : G.KnownBlocks blocks) :
    (token : Token) → (∀ part ∈ Token.parts token, T part) →
      compileBlock scope inherited token blocks = .ok blocks' → G.KnownBlocks blocks'
  | .literal text, _, h => by
    cases h
    exact hblocks
  | .output tag, _, h => by
    cases h
    exact hblocks
  | .logic tag children, htoken, h => by
    simp only [Token.parts, List.mem_cons, forall_eq_or_imp] at htoken
    simp only [compileBlock] at h
    split at h
    · obtain ⟨body, hbody, hrest⟩ := bind_eq_ok.mp h
      have hknown : G.KnownNodes body :=
        hcovers.knownNodes htoken.2 (fun parent hparent => hinherited.get? hparent) hbody
      exact hcovers.knownBlocks hinherited (hblocks.put _ hknown) children htoken.2 hrest
    · cases h
      exact hblocks

theorem Covers.knownBlocks (hcovers : G.Covers T) {scope : Scope} {inherited : Blocks}
    (hinherited : G.KnownBlocks inherited) {blocks blocks' : Blocks}
    (hblocks : G.KnownBlocks blocks) :
    (tokens : List Token) → KnownTokens T tokens →
      compileBlocks scope inherited tokens blocks = .ok blocks' → G.KnownBlocks blocks'
  | [], _, h => by
    cases h
    exact hblocks
  | token :: rest, htokens, h => by
    simp only [KnownTokens, Token.partsOf_cons, List.mem_append, or_imp, forall_and] at htokens
    obtain ⟨next, hnext, hrest⟩ := bind_eq_ok.mp h
    exact hcovers.knownBlocks hinherited
      (hcovers.knownBlock hinherited hblocks token htokens.1 hnext) rest htokens.2 hrest

end

variable {env : Environment} {tokens : List Token}

theorem Covers.knownOfTokens (hcovers : G.Covers T) {program : Program} (htokens : KnownTokens T tokens)
    (h : Program.ofTokens env.scope tokens = .ok program) : G.KnownProgram program := by
  obtain ⟨nodes, hnodes, h⟩ := bind_eq_ok.mp h
  obtain ⟨blocks, hblocks, h⟩ := bind_eq_ok.mp h
  cases h
  have hempty : G.KnownBlocks [] := Fields.AllValues.nil _
  refine ⟨hcovers.knownNodes htokens (fun _ hparent => ?_) hnodes,
    hcovers.knownBlocks hempty hempty tokens htokens hblocks⟩
  simp [Environment.scope] at hparent

theorem Covers.knownExtend (hcovers : G.Covers T) {program layout : Program}
    (htokens : KnownTokens T tokens)
    (hlayout : G.KnownProgram layout) (h : Program.extend env.scope tokens layout = .ok program) :
    G.KnownProgram program := by
  obtain ⟨blocks, hblocks, h⟩ := bind_eq_ok.mp h
  obtain ⟨nodes, hnodes, h⟩ := bind_eq_ok.mp h
  cases h
  refine ⟨?_, hcovers.knownBlocks hlayout.2 hlayout.2 tokens htokens hblocks⟩
  have hassignments : KnownTokens T (Token.assignments tokens) :=
    htokens.subset List.filter_sublist.subset
  have hknown := hcovers.knownNodes hassignments (fun _ hparent => by
    simp [Environment.scope] at hparent) hnodes
  intro part hpart
  simp only [Node.partsOf_append, Node.partsOf_cons, Node.parts, Node.partsOf_nil, List.append_nil,
    List.mem_append, List.mem_cons] at hpart
  rcases hpart with hpart | rfl | hpart
  · exact hknown part hpart
  · exact hcovers.fragment _
  · exact hlayout.1 part hpart

theorem Covers.knownBuilt (hcovers : G.Covers T) {id source : String} {origin : Option String} {template : Template}
    (hsource : ∀ tokens, Token.ofSource env.settings.tags env.settings.autoescape source = .ok tokens →
      KnownTokens T tokens)
    (h : env.Built (fun _ => G.KnownTemplate T) id source origin template) :
    G.KnownTemplate T template := by
  cases h with
  | alone htokens hlayout hprogram => exact hcovers.knownOfTokens (hsource _ htokens) hprogram
  | computed htokens hlayout hcheck => exact hsource _ htokens
  | named htokens hlayout hkey hne hparent hbody =>
    have hknown := hsource _ htokens
    rcases Environment.bodyOver_eq_ok hbody with ⟨program, result, hready, hextend, rfl⟩ |
      ⟨_, _, _, -, -, rfl⟩
    · simp only [KnownTemplate, hready] at hparent
      exact hcovers.knownExtend hknown hparent hextend
    · exact hknown

/-- Stores in which all templates are known. -/
def KnownStore (G : Guarantee) (T : Token → Prop) : Store → Prop :=
  Store.All fun _ => G.KnownTemplate T

/-- All sources of the loader are known. -/
def KnownLoader (T : Token → Prop) (env : Environment) : Prop :=
  ∀ path source tokens, env.source path = .ok source →
    Token.ofSource env.settings.tags env.settings.autoescape source = .ok tokens →
    KnownTokens T tokens

theorem Covers.closed (hcovers : G.Covers T) (hloader : KnownLoader T env) :
    env.Closed fun _ => G.KnownTemplate T :=
  fun path source _ hsource hbuilt =>
    hcovers.knownBuilt (fun tokens => hloader path source tokens hsource) hbuilt

/-- Loading keeps the store as it should be, and gives known templates. -/
def LoadsKnown (G : Guarantee) (T : Token → Prop) (I : Store → Prop) (env : Environment) : Prop :=
  ∀ name from?, Keeps I (fun compiled => G.KnownTemplate T compiled.template) (env.load name from?)

theorem Covers.loadsKnown (hcovers : G.Covers T) (hloader : KnownLoader T env) :
    G.LoadsKnown T (G.KnownStore T) env := fun name from? =>
  (Environment.keeps_load (hcovers.closed hloader) name from?).mono
    fun _ _ hab => ⟨hab.1, hab.2.elim fun _ h => h.2⟩

section Render

variable {E : TemplateError → TemplateError → Prop} {I : Store → Prop} {jump : Jump}

theorem agree_of_keeps {Q : α → Prop} {m : LoadM α} (hrefl : ∀ e, E e e) (h : Keeps I Q m) :
    Agree (EqualWith I) (Fault.Alike E) (EqualWith Q) m m := h.alike hrefl

/-- What names a layout is evaluated in a frame of its own, without blocks. -/
theorem AlikeAt.layoutName {S : Comparison Store Store} {env₁ env₂ : Environment} {jump₁ jump₂ : Jump}
    {template₁ template₂ : Template}
    (h : G.AlikeAt S E env₁ env₂ jump₁ jump₂ ⟨env₁, [], [], template₂.origin, 0⟩) {context : Context}
    (hcontext : G.KnownContext context) (hid : template₁.id = template₂.id)
    (horigin : template₁.origin = template₂.origin) (layout : Expr) :
    Agree S (Fault.Alike E) Equal (Template.layoutName jump₁ env₁ template₁ layout context)
      (Template.layoutName jump₂ env₂ template₂ layout context) := by
  unfold Template.layoutName
  rw [horigin, show template₁.label = template₂.label by simp [Template.label, hid, horigin]]
  refine (h.expr hcontext layout).bindWith fun name _ => ?_
  dsimp only
  split
  · exact Agree.bind (V := fun _ _ => False) (agree_renderFault h.refl _) fun _ _ hfalse => hfalse.elim
  · exact Agree.pure (Equal.refl _)

theorem Alike.layoutName {S : Comparison Store Store} {env₁ env₂ : Environment} {jump₁ jump₂ : Jump}
    (h : G.Alike S E env₁ env₂ jump₁ jump₂) {context : Context} (hcontext : G.KnownContext context)
    {template₁ template₂ : Template} (hid : template₁.id = template₂.id)
    (horigin : template₁.origin = template₂.origin) (layout : Expr) :
    Agree S (Fault.Alike E) Equal (Template.layoutName jump₁ env₁ template₁ layout context)
      (Template.layoutName jump₂ env₂ template₂ layout context) :=
  AlikeAt.layoutName (h.at (Fields.AllValues.nil _)) hcontext hid horigin layout

/-- What is known of all templates that are loaded is known of layouts. -/
theorem Alike.layout {P : Template → Prop}
    (hloads : ∀ name from?, Keeps I (fun compiled => P compiled.template) (env.load name from?))
    (h : G.Alike (EqualWith I) E env env jump jump) {context : Context}
    (hcontext : G.KnownContext context) (chain : List String) (template : Template) (name : Expr)
    (line : Nat) :
    Agree (EqualWith I) (Fault.Alike E) (EqualWith P) (template.layout jump env context chain name line)
      (template.layout jump env context chain name line) := by
  unfold Template.layout
  refine (h.layoutName hcontext rfl rfl name).bindWith fun name _ => ?_
  refine (agree_of_keeps h.refl (hloads name template.origin)).bindWith fun compiled hcompiled => ?_
  dsimp only
  split
  · exact Agree.bind (V := fun _ _ => False) (Agree.throw (h.refl _)) fun _ _ hfalse => hfalse.elim
  · exact Agree.pure ⟨rfl, hcompiled⟩

variable (hcovers : G.Covers T) (hloads : G.LoadsKnown T I env)
  (h : G.Alike (EqualWith I) E env env jump jump)

include hcovers hloads h

theorem Covers.program {context : Context} (hcontext : G.KnownContext context) (bound : Nat)
    (chain : List String) (template : Template) (htemplate : G.KnownTemplate T template) :
    Agree (EqualWith I) (Fault.Alike E) (EqualWith G.KnownProgram)
      (template.program jump env context bound chain)
      (template.program jump env context bound chain) := by
  induction bound using Nat.strongRecOn generalizing chain template with
  | _ bound ih =>
    cases hbody : template.body with
    | ready program =>
      rw [Template.program_ready _ _ _ _ _ hbody]
      simp only [KnownTemplate, hbody] at htemplate
      exact Agree.pure ⟨rfl, htemplate⟩
    | failed error => exact absurd hbody (htemplate.settled error)
    | deferred name line tokens =>
      rw [Template.program_deferred _ _ _ _ _ hbody]
      simp only [KnownTemplate, hbody] at htemplate
      refine (h.layout hloads hcontext chain template name line).bindWith fun parent hparent => ?_
      cases bound with
      | zero => exact Agree.throw True.intro
      | succ bound =>
        refine (ih bound (Nat.lt_succ_self bound) (chain ++ [parent.id]) parent hparent).bindWith
          fun layout hlayout => ?_
        refine agree_of_keeps h.refl ((keeps_ofExcept _).mono fun _ _ hab => ⟨hab.1, ?_⟩)
        exact hcovers.knownExtend htemplate hlayout hab.2

theorem Covers.execute {template : Template} (htemplate : G.KnownTemplate T template)
    (ancestors : List String) :
    Agree (G.Related (EqualWith I)) (Fault.Alike E) (EqualWith G.text)
      (template.execute jump env ancestors) (template.execute jump env ancestors) := by
  refine agree_execute h.refl (fun error hfailed => absurd hfailed (htemplate.settled error)) ?_ ?_
  · exact fun context hcontext => Template.agree_wholeProgram fun bound =>
      hcovers.program hloads h hcontext bound _ template htemplate
  · intro _ program hprogram
    exact h.jumps ⟨env, program.blocks, ancestors ++ [template.id], template.origin, 0⟩ _
      hprogram.2 hprogram.1

/-- Visits keep the guarantee, unless it forbids the message that a circle leaves in its place. -/
theorem Covers.visits (hcircular : env.settings.debug = true ∨ ∀ text, G.text text) :
    G.VisitsAlike (EqualWith I) E env env jump jump := by
  refine .of_at fun frame => visitsAlikeAt_of_execute h.refl rfl hcircular ?_
    fun template htemplate => hcovers.execute hloads h htemplate frame.ancestors
  intro name
  exact (agree_of_keeps h.refl (hloads name frame.origin)).mono fun _ _ hab =>
    ⟨congrArg Compiled.template hab.1, hab.2⟩

omit h in
/-- Over known sources every rendering keeps the guarantee. -/
theorem Covers.alike (hcircular : env.settings.debug = true ∨ ∀ text, G.text text)
    (hrefl : ∀ e, E e e) (depth : Nat) :
    G.Alike (EqualWith I) E env env (Render.upToDepth depth) (Render.upToDepth depth) := by
  refine alike_upToDepth (K := fun env₁ env₂ => env₁ = env ∧ env₂ = env)
    (R := fun _ _ => EqualWith I) hrefl ?_ ?_ depth env env ⟨rfl, rfl⟩
  · rintro _ _ ⟨rfl, rfl⟩
    exact ⟨rfl, rfl, rfl, rfl⟩
  · rintro jump halike _ _ ⟨rfl, rfl⟩
    exact hcovers.visits hloads (halike _ _ ⟨rfl, rfl⟩) hcircular

end Render

section Vacuous

theorem vacuous_covers : vacuous.Covers fun _ => True where
  makes _ _ _ _ _ := True.intro
  fragment _ := True.intro

theorem knownProgram_vacuous (program : Program) : vacuous.KnownProgram program :=
  ⟨fun _ _ => True.intro, fun _ _ _ _ => True.intro⟩

theorem knownTemplate_vacuous {template : Template} (h : template.Settled) :
    vacuous.KnownTemplate (fun _ => True) template := by
  unfold KnownTemplate
  split
  · exact knownProgram_vacuous _
  · exact fun _ _ => True.intro
  · rename_i error hbody
    exact h error hbody

theorem knownContext_vacuous (context : Context) : vacuous.KnownContext context := by
  intro entry _
  cases entry.2 <;> exact True.intro

end Vacuous

end Guarantee

end Stencil
