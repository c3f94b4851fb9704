import Stencil.Proofs.Engine.Kept
import Stencil.Proofs.Inheritance.Rejection
import Stencil.Proofs.Render.Places
import Stencil.Proofs.Token.Misread

/-!
The lines of compile errors. A source that names no layout fails to compile because of one of its own tags,
and the error bears the line of the place where that tag begins: one more than the line ends before it,
whatever comments, raw bodies and tags of many lines come first.
-/
namespace Stencil

open Source (lineAt)

/-- What keeps a source from compiling by itself, and the place of the tag that is to blame. -/
inductive Environment.Flaw (env : Environment) (source : String) (place : Nat) : Complaint → Prop
  | misread {complaint : Complaint}
      (h : Misread env.settings.tags env.settings.autoescape source place complaint) :
      Flaw env source place complaint
  | rejected {tokens : List Token} {token : Token} {complaint : Complaint}
      (htokens : Token.ofSource env.settings.tags env.settings.autoescape source = .ok tokens)
      (hrejected : Token.Rejected env.scope tokens token complaint)
      (hplace : token.StandsAt source.toList place) : Flaw env source place complaint

/-- The source extends no layout by name. -/
def Environment.NamesNoLayout (env : Environment) (source : String) : Prop :=
  ∀ tokens name line, Token.ofSource env.settings.tags env.settings.autoescape source = .ok tokens →
    Token.layout? env.scope tokens ≠ .ok (some (.named name, line))

namespace Environment

variable {env : Environment} {source : String} {tokens : List Token}

theorem exists_flaw_of_rejects {error : TemplateError}
    (htokens : Token.ofSource env.settings.tags env.settings.autoescape source = .ok tokens)
    (h : Token.Rejects env.scope tokens error) :
    ∃ place complaint, Fault.error error = .error (.located (lineAt source.toList place) complaint) ∧
      env.Flaw source place complaint := by
  obtain ⟨token, complaint, rfl, hrejected⟩ := h
  rcases Token.exists_place htokens hrejected.mem with ⟨text, rfl⟩ | ⟨place, hplace⟩
  · exact absurd hrejected (Token.not_rejected_literal text complaint)
  · exact ⟨place, complaint, by rw [hplace.line_eq], .rejected htokens hrejected hplace⟩

/-- What a source without a named layout fails with is one of its flaws. -/
theorem exists_flaw {id : String} {origin : Option String} {store after : Store} {fault : Fault}
    (hnames : env.NamesNoLayout source) (h : env.compile id source origin store = .error fault after) :
    ∃ place complaint, fault = .error (.located (lineAt source.toList place) complaint) ∧
      env.Flaw source place complaint := by
  unfold compile build at h
  cases htokens : Token.ofSource env.settings.tags env.settings.autoescape source with
  | error error =>
    rw [htokens] at h
    cases h
    obtain ⟨place, complaint, rfl, hmisread⟩ := Token.exists_misread htokens
    exact ⟨place, complaint, rfl, .misread hmisread⟩
  | ok tokens =>
    rw [LoadM.ofExcept_bind htokens] at h
    cases hlayout : Token.layout? env.scope tokens with
    | error error =>
      rw [hlayout] at h
      cases h
      exact exists_flaw_of_rejects htokens (Token.rejects_of_layout? hlayout)
    | ok layout =>
      rw [LoadM.ofExcept_bind hlayout] at h
      match layout with
      | none =>
        cases hprogram : Program.ofTokens env.scope tokens with
        | error error =>
          rw [hprogram] at h
          cases h
          exact exists_flaw_of_rejects htokens (Program.blamed_of_ofTokens hprogram).rejects
        | ok program =>
          rw [hprogram] at h
          cases h
      | some (.computed name, line) =>
        cases hcheck : Program.check env.scope tokens with
        | error error =>
          rw [hcheck] at h
          cases h
          exact exists_flaw_of_rejects htokens (Program.blamed_of_check hcheck).rejects
        | ok _ =>
          rw [hcheck] at h
          cases h
      | some (.named name, line) => exact absurd hlayout (hnames tokens name line htokens)

end Environment

namespace Environment.Flaw

variable {env : Environment} {source : String} {place : Nat} {complaint : Complaint}

/-- The tag that is to blame begins at the place. -/
theorem begins (h : env.Flaw source place complaint) :
    ∃ delimiter, Source.Begins source.toList delimiter place := by
  cases h with
  | misread h => exact h.begins
  | rejected _ _ hplace => exact hplace.begins

/-- The tag that an end tag does not match begins on the other line. -/
theorem exists_opened {name found : String} {line : Nat}
    (h : env.Flaw source place (.mismatchedEnd name line found)) :
    ∃ opened, Source.Begins source.toList .logic opened ∧ line = lineAt source.toList opened := by
  cases h with
  | misread h =>
    cases h with
    | neverEnds h => cases h
    | mismatched _ _ hname hopened _ _ _ => exact ⟨_, hopened.begins_of_opens hname, rfl⟩
    | rejected _ _ _ habout => cases habout
  | rejected _ hrejected => cases hrejected.aboutTag

end Environment.Flaw

/-- A source that names no layout fails to compile because of one of its tags. The error bears the line of
the place where that tag begins; if it is an end tag that does not match, the error also bears the line of
the place where the innermost open tag begins. -/
theorem Engine.compile_fails_at_tag {engine : Engine} {source : String} {options : CompileOptions}
    {fault : Fault} (hnames : engine.env.NamesNoLayout source)
    (h : (engine.compile source options).1 = .error fault) :
    ∃ place complaint, fault = .error (.located (lineAt source.toList place) complaint) ∧
      (∃ delimiter, Source.Begins source.toList delimiter place) ∧
      (∀ name line found, complaint = .mismatchedEnd name line found →
        ∃ opened, Source.Begins source.toList .logic opened ∧ line = lineAt source.toList opened) ∧
      engine.env.Flaw source place complaint := by
  have hflaw : ∃ place complaint, fault = .error (.located (lineAt source.toList place) complaint) ∧
      engine.env.Flaw source place complaint := by
    rw [compile, run] at h
    rcases compileSource_cases engine.env source options engine.store with
      ⟨kept, -, -, hrun⟩ | ⟨other, between, after, hfails, -, hrun | ⟨compiled, hrun⟩⟩ |
      ⟨template, between, -, -, hrun⟩
    · rw [hrun] at h
      cases h
    · rw [hrun] at h
      cases h
      exact Environment.exists_flaw hnames hfails
    · rw [hrun] at h
      cases h
    · rw [hrun] at h
      cases h
  obtain ⟨place, complaint, rfl, hflaw⟩ := hflaw
  refine ⟨place, complaint, rfl, hflaw.begins, ?_, hflaw⟩
  rintro name line found rfl
  obtain ⟨opened, hopened, hline⟩ := hflaw.exists_opened
  exact ⟨opened, hopened, hline⟩

section Sample

/-- A comment and a raw body over two lines each, and two tags that end in the wrong order. -/
def tangledSource : String :=
  "\x7b# a\n#\x7d\x7b% raw %\x7d\n\x7b% if %\x7d\x7b% endraw %\x7d\n\x7b% if x\n%\x7d" ++
    "\x7b% for y in x %\x7d\n\x7b% endif %\x7d"

def tangledEngine : Engine := .new {} {} (.table [])

theorem tangled_fails_at_tags :
    (tangledEngine.compile tangledSource {}).1 =
        .error (.error (.located 6 (.mismatchedEnd "for" 5 "endif"))) ∧
      (∃ place delimiter, Source.Begins tangledSource.toList delimiter place ∧
        lineAt tangledSource.toList place = 6) ∧
      ∃ opened, Source.Begins tangledSource.toList .logic opened ∧
        lineAt tangledSource.toList opened = 5 := by
  have hfails : (tangledEngine.compile tangledSource {}).1
      = .error (.error (.located 6 (.mismatchedEnd "for" 5 "endif"))) := by
    have hshown : (tangledEngine.compile tangledSource {}).1.map (fun _ => "")
        = .error (.error (.located 6 (.mismatchedEnd "for" 5 "endif"))) :=
      Engine.eq_error_of_errorOf? (by decide +kernel)
    exact map_eq_error.mp hshown
  have hnames : tangledEngine.env.NamesNoLayout tangledSource := by
    intro tokens name line htokens
    have hfails : (Token.ofSource tangledEngine.env.settings.tags tangledEngine.env.settings.autoescape
        tangledSource).isOk = false := by decide +kernel
    rw [htokens] at hfails
    cases hfails
  obtain ⟨place, complaint, hfault, ⟨delimiter, hbegins⟩, hopened, -⟩ :=
    Engine.compile_fails_at_tag hnames hfails
  simp only [Fault.error.injEq, TemplateError.located.injEq] at hfault
  obtain ⟨hline, rfl⟩ := hfault
  obtain ⟨opened, hopens, hopened⟩ := hopened _ _ _ rfl
  exact ⟨hfails, ⟨place, delimiter, hbegins, hline.symm⟩, opened, hopens, hopened.symm⟩

end Sample

end Stencil
