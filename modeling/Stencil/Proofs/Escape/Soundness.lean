import Stencil.Proofs.Engine.Sessions
import Stencil.Proofs.Escape.HtmlSafe
import Stencil.Proofs.Token.Escaping

/-!
Automatic escaping is sound. If the sources of an engine hold safe texts only and never turn the escaping
off, then what it renders is safe, whatever the values in the context and the filters and functions of
the host.
-/
namespace Stencil

def Tag.isHost : Tag → Bool
  | .host _ => true
  | _ => false

def Callable.isNative : Callable → Bool
  | .native _ => true
  | .macroBody .. => false

/-- A safe text, an output tag without safe filter, or a tag that neither filters its body nor changes
the escaping nor belongs to the host. -/
def Token.IsPlain : Token → Prop
  | .literal text => IsHtmlSafe text.toList
  | .output tag => ∀ filter ∈ tag.filters, Filter.isSafe filter.name = false
  | .logic tag _ => tag.kind ≠ .filter ∧ tag.kind ≠ .autoescape ∧ tag.kind.isHost = false

instance Token.IsPlain.decidable : (token : Token) → Decidable token.IsPlain
  | .literal text => IsHtmlSafe.decidable text.toList
  | .output tag => inferInstanceAs (Decidable (∀ filter ∈ tag.filters, Filter.isSafe filter.name = false))
  | .logic tag _ => inferInstanceAs (Decidable
      (tag.kind ≠ .filter ∧ tag.kind ≠ .autoescape ∧ tag.kind.isHost = false))

/-- All tokens of the source are plain, those inside others included. -/
def IsPlainSource (tags : Tags) (source : String) : Prop :=
  ∀ token ∈ Token.partsOf ((Token.ofSource tags (some .html) source).toOption.getD []),
    token.IsPlain

instance IsPlainSource.decidable (tags : Tags) (source : String) : Decidable (IsPlainSource tags source) :=
  inferInstanceAs (Decidable (∀ token ∈ _, Token.IsPlain token))

/-- The callables of the context are functions of the host. -/
def Context.IsPlain (context : Context) : Prop :=
  ∀ entry ∈ context.callables, entry.2.isNative = true

instance (context : Context) : Decidable context.IsPlain :=
  inferInstanceAs (Decidable (∀ entry ∈ context.callables, entry.2.isNative = true))

/-- Plain sources and contexts; another configuration still debugs, escapes and reads the same tags. -/
def Action.IsPlain (tags : Tags) : Action → Prop
  | .put _ source => IsPlainSource tags source
  | .compile _ source _ => IsPlainSource tags source
  | .render _ context _ => context.IsPlain
  | .renderSource source context => IsPlainSource tags source ∧ context.IsPlain
  | .renderFile _ context => context.IsPlain
  | .init config host =>
    Tags.ofHost host.tags = tags ∧ config.policy = some .html ∧ config.debug = true
  | _ => True

namespace Guarantee

/-- What is known of the nodes of plain templates. -/
def IsPlainNode : Node → Prop
  | .text text => IsHtmlSafe text.toList
  | .output _ _ escape => escape = some .html
  | .filter .. => False
  | .host .. => False
  | _ => True

def html : Guarantee where
  node := IsPlainNode
  text text := IsHtmlSafe text.toList
  body nodes := ∀ part ∈ Node.partsOf nodes, IsPlainNode part
  empty := True.intro
  append ha hb := by
    rw [String.toList_append]
    exact ha.append hb
  literal h := h
  output h := nomatch h
  escaped h value := by
    cases h
    simp only [EscapeKind.apply, String.toList_ofList]
    exact isHtmlSafe_escapeHtml _
  filtered h := h.elim
  hosted h := h.elim
  within h := h
  defined _ h := h

/-- What is known of the tokens of plain sources. -/
def IsSafeToken : Token → Prop
  | .literal text => IsHtmlSafe text.toList
  | .output tag => tag.escape = some .html
  | .logic tag _ => tag.kind ≠ .filter ∧ tag.kind.isHost = false

theorem html_covers : html.Covers IsSafeToken where
  makes scope token node htoken hmakes := by
    cases hmakes with
    | text start finish text => exact htoken.stripText start finish
    | output tag expr filters => exact htoken
    | filter hkind call body => exact absurd hkind htoken.1
    | host hkind host arguments body =>
      have hhost := htoken.2
      simp [hkind, Tag.isHost] at hhost
    | _ => exact True.intro
  fragment _ := True.intro

theorem knownSource_html {tags : Tags} {source : String} (h : IsPlainSource tags source) :
    KnownSource tags (some .html) IsSafeToken source := by
  intro tokens htokens
  unfold IsPlainSource at h
  rw [htokens] at h
  have hplain : ∀ token ∈ Token.partsOf tokens, token.IsPlain := h
  have hkind : ∀ token ∈ Token.partsOf tokens, token.isKind .autoescape = false := by
    intro token htoken
    cases token with
    | logic tag children => simpa [Token.isKind] using (hplain _ htoken).2.1
    | _ => rfl
  intro token htoken
  cases token with
  | literal text => exact hplain _ htoken
  | output tag =>
    have hescape := (Token.ofSource_escaped htokens).output_of_mem_partsOf tokens hkind htoken
    have hfilters : ∀ filter ∈ tag.filters, Filter.isSafe filter.name = false := hplain _ htoken
    have hsafe : tag.isSafe = false := by simpa [OutputTag.isSafe] using hfilters
    rw [hsafe] at hescape
    exact hescape
  | logic tag children => exact ⟨(hplain _ htoken).1, (hplain _ htoken).2.2⟩

theorem knownContext_html {context : Context} (h : context.IsPlain) : html.KnownContext context := by
  intro entry hentry
  have hnative := h entry hentry
  cases hcallable : entry.2 with
  | native function => exact True.intro
  | macroBody name parameters body => simp [hcallable, Callable.isNative] at hnative

theorem knownAction_html {tags : Tags} {action : Action} (h : action.IsPlain tags) :
    html.KnownAction tags (some .html) IsSafeToken action := by
  cases action with
  | put name source => exact knownSource_html h
  | compile handle source options => exact knownSource_html h
  | render handle context ancestors => exact knownContext_html h
  | renderSource source context => exact ⟨knownSource_html h.1, knownContext_html h.2⟩
  | renderFile name context => exact knownContext_html h
  | init config host => exact h
  | _ => exact True.intro

theorem knownSession_html {config : Config} {host : Host} {loader : Loader}
    (ownership : Ownership) (hdebug : config.debug = true) (hpolicy : config.policy = some .html)
    (hloader : loader.AllSources (IsPlainSource (.ofHost host.tags))) :
    html.KnownSession (.ofHost host.tags) (some .html) IsSafeToken
      (.ofEngine (.new config host loader) ownership) where
  engine := {
    sameTags := rfl
    samePolicy := hpolicy
    debugs := hdebug
    sources := hloader.mono fun _ => knownSource_html
    kept := Store.All.empty _ }
  handles := Fields.AllValues.nil _

end Guarantee

/-- Whatever a session did before, with plain sources all of its outputs are safe; only a source that did
not compile, and was allowed not to, renders why. -/
theorem Session.isHtmlSafe_output {config : Config} {host : Host} {loader : Loader}
    {ownership : Ownership} {before : List Action} {action : Action} {text : String}
    (hdebug : config.debug = true) (hpolicy : config.policy = some .html)
    (hloader : loader.AllSources (IsPlainSource (.ofHost host.tags)))
    (hbefore : ∀ action ∈ before, action.IsPlain (.ofHost host.tags))
    (haction : action.IsPlain (.ofHost host.tags))
    (houtput : (((Session.ofEngine (.new config host loader) ownership).after before).step action).2 =
      .output text) :
    IsHtmlSafe text.toList ∨
      ((Session.ofEngine (.new config host loader) ownership).after before).RendersFailure action
        text := by
  have hsession := Guarantee.html_covers.after (Guarantee.knownSession_html ownership hdebug hpolicy hloader)
    fun action haction => Guarantee.knownAction_html (hbefore action haction)
  exact (Guarantee.html_covers.step hsession (Guarantee.knownAction_html haction)).2 text houtput

namespace Session

/-- A macro, a layout that imports it, and a page over the layout. -/
def sampleActions : List Action := [
  .put "row" "\x7b% macro row(x) %\x7d(\x7b\x7b x \x7d\x7d)\x7b% endmacro %\x7d",
  .put "base" "\x7b% import 'row' as r %\x7d\x7b% block a %\x7d&amp;\x7b% endblock %\x7d",
  .compile "page" "\x7b% extends 'base' %\x7d\x7b% block a %\x7d\x7b% parent %\x7d\x7b\x7b r_row(x) \x7d\x7d\x7b% endblock %\x7d"
    {}]

/-- The page with markup in its context. -/
def sampleRender : Action := .render "page" { bindings := [("x", .string "<b>")] } []

theorem isHtmlSafe_sample :
    IsHtmlSafe "&amp;(&lt;b&gt;)".toList ∨
      ((ofEngine (.new { debug := true } {} (.table [])) .own).after sampleActions).RendersFailure
        sampleRender "&amp;(&lt;b&gt;)" := by
  refine isHtmlSafe_output rfl rfl (fun _ hentry => nomatch hentry) ?_
    (fun _ hentry => nomatch hentry) (eq_output_of_textOf? (by decide +kernel))
  refine List.forall_mem_cons.mpr ⟨?_, List.forall_mem_cons.mpr ⟨?_, List.forall_mem_singleton.mpr ?_⟩⟩
  all_goals
    unfold Action.IsPlain
    decide +kernel

/-- A page over a layout that is missing, compiled so that it may fail. -/
def orphanActions : List Action := [.compile "t" "\x7b% extends 'gone' %\x7d" { allowErrors := true }]

/-- The marker of an error is no safe text, so that the exception is needed. -/
theorem not_isHtmlSafe_orphan :
    (∀ action ∈ orphanActions, action.IsPlain (.ofHost [])) ∧
      ∃ text, (((ofEngine (.new { debug := true } {} (.table [])) .own).after orphanActions).step
        (.render "t" {} [])).2 = .output text ∧ ¬ IsHtmlSafe text.toList := by
  refine ⟨?_, "<pre>Unable to load template &quot;gone&quot;: Template not found: gone</pre>",
    eq_output_of_textOf? (by decide +kernel), by decide⟩
  simp only [orphanActions, List.forall_mem_singleton, Action.IsPlain]
  decide +kernel

end Session

end Stencil
