import Stencil.Node.Arguments
import Stencil.Proofs.Result

/-!
What the text of a tag can be blamed for. Whatever is wrong with an expression or with the arguments of a
tag, the complaint is about that text, and not about an end that is missing somewhere in the source.
-/
namespace Stencil

/-- Whether a complaint is about one tag by itself, and not about what is left open or closed by it. -/
def Complaint.aboutTag : Complaint → Bool
  | unclosedDelimiter _ | mismatchedEnd .. | unclosedTag _ | unclosedRaw => false
  | _ => true

/-- Complaints are about one tag by itself. -/
def BlamesTag {α : Type} (result : Except Complaint α) : Prop :=
  ∀ complaint, result = .error complaint → complaint.aboutTag = true

section Results

variable {α β : Type} {result : Except Complaint α}

theorem BlamesTag.ok (a : α) : BlamesTag (.ok a : Except Complaint α) := nofun

theorem BlamesTag.error {complaint : Complaint} (h : complaint.aboutTag = true) :
    BlamesTag (.error complaint : Except Complaint α) := by
  rintro _ ⟨⟩
  exact h

theorem BlamesTag.bind {next : α → Except Complaint β} (h : BlamesTag result)
    (hnext : ∀ a, BlamesTag (next a)) : BlamesTag (result >>= next) := by
  cases result with
  | ok a => exact hnext a
  | error complaint => exact .error (h complaint rfl)

theorem BlamesTag.ite {other : Except Complaint α} {condition : Prop} [Decidable condition]
    (h : BlamesTag result) (hother : BlamesTag other) :
    BlamesTag (if condition then result else other) := by
  split
  · exact h
  · exact hother

theorem blames_checkName (name : String) : BlamesTag (checkName name) := by
  unfold checkName
  split
  · exact .error rfl
  · exact .ok ()

theorem blames_lexemes (text : List Char) : BlamesTag (Lexeme.ofText text) := by
  unfold Lexeme.ofText
  split
  · exact .ok _
  · exact .error rfl
  · exact .error rfl

end Results

namespace Parser

variable {α β : Type} {p : Parser α}

/-- The complaints of a parser are about one tag by itself. -/
def Blames (p : Parser α) : Prop := ∀ lexemes, BlamesTag (p.run lexemes)

theorem Blames.bind {next : α → Parser β} (h : Blames p) (hnext : ∀ a, Blames (next a)) :
    Blames (p >>= next) := by
  intro lexemes
  rw [StateT.run_bind]
  exact (h lexemes).bind fun result => hnext result.1 result.2

theorem blames_pure (a : α) : Blames (pure a) := fun _ => .ok _

theorem blames_throw {complaint : Complaint} (h : complaint.aboutTag = true) :
    Blames (throw complaint : Parser α) := fun _ => .error h

theorem blames_lift {result : Except Complaint α} (h : BlamesTag result) :
    Blames (liftM result : Parser α) := by
  intro lexemes
  cases result with
  | ok a => exact .ok _
  | error complaint => exact .error (h complaint rfl)

theorem blames_malformed (message : String) : Blames (malformed message : Parser α) := blames_throw rfl

theorem blames_get : Blames get := fun _ => .ok _

theorem blames_set (lexemes : List Lexeme) : Blames (set lexemes) := fun _ => .ok _

theorem blames_modifyGet (f : List Lexeme → α × List Lexeme) : Blames (modifyGet f) := fun _ => .ok _

theorem blames_peek : Blames peek := blames_get.bind fun _ => blames_pure _

theorem blames_isDone : Blames isDone := blames_get.bind fun _ => blames_pure _

theorem blames_remaining : Blames remaining := blames_get.bind fun _ => blames_pure _

theorem blames_acceptMark (c : Char) : Blames (acceptMark c) := blames_modifyGet _

theorem blames_acceptWord (word : String) : Blames (acceptWord word) := blames_modifyGet _

theorem Blames.ite {q : Parser α} {condition : Prop} [Decidable condition] (hp : Blames p)
    (hq : Blames q) : Blames (if condition then p else q) := by
  split
  · exact hp
  · exact hq

theorem blames_expectMark (c : Char) : Blames (expectMark c) :=
  (blames_acceptMark c).bind fun _ => (blames_malformed _).ite (blames_pure _)

theorem blames_bindableName : Blames bindableName := by
  refine (blames_modifyGet _).bind fun lexeme? => ?_
  split
  · exact (blames_lift (blames_checkName _)).bind fun _ => blames_pure _
  · exact blames_malformed _

theorem blames_finish : Blames finish := by
  refine blames_peek.bind fun lexeme? => ?_
  split
  · exact blames_pure _
  · exact blames_malformed _
  · exact blames_malformed _

theorem Blames.runOn (h : Blames p) (text : List Char) : BlamesTag (p.runOn text) := by
  refine (blames_lexemes text).bind fun lexemes => ?_
  have hall : Blames (do let result ← p; finish; return result : Parser α) :=
    h.bind fun _ => blames_finish.bind fun _ => blames_pure _
  exact (hall lexemes).bind fun _ => .ok _

theorem blames_unclosed (closer : Char) : Blames (unclosed closer : Parser α) := by
  unfold unclosed
  exact (blames_malformed _).ite (blames_malformed _)

section Inner

variable {inner : Parser Expr} (hinner : Blames inner)

include hinner

theorem blames_itemsUpTo (closer : Char) (more : Nat) : Blames (itemsUpTo inner closer more) := by
  induction more with
  | zero => exact blames_unclosed closer
  | succ more ih =>
    refine (blames_acceptMark closer).bind fun _ => (blames_pure _).ite ?_
    refine blames_isDone.bind fun _ => (blames_unclosed closer).ite ?_
    refine hinner.bind fun item => (blames_acceptMark ',').bind fun _ => ?_
    refine (ih.bind fun _ => blames_pure _).ite ?_
    exact (blames_acceptMark closer).bind fun _ => (blames_pure _).ite (blames_unclosed closer)

theorem blames_bracketed (closer : Char) : Blames (bracketed inner closer) :=
  blames_remaining.bind fun _ => blames_itemsUpTo hinner closer _

omit hinner in
theorem blames_memberKey : Blames memberKey := by
  refine (blames_modifyGet _).bind fun lexeme? => ?_
  split
  · exact blames_pure _
  · exact blames_pure _
  · exact blames_pure _
  · exact blames_malformed _

theorem blames_membersUpTo (more : Nat) : Blames (membersUpTo inner more) := by
  induction more with
  | zero => exact blames_malformed _
  | succ more ih =>
    refine (blames_acceptMark _).bind fun _ => (blames_pure _).ite ?_
    refine blames_memberKey.bind fun key => (blames_expectMark _).bind fun _ => ?_
    refine hinner.bind fun value => (blames_acceptMark ',').bind fun _ => ?_
    exact (ih.bind fun _ => blames_pure _).ite ((blames_expectMark _).bind fun _ => blames_pure _)

theorem blames_filterCall (filters : Filters) : Blames (filterCall filters inner) := by
  refine (blames_modifyGet _).bind fun lexeme? => ?_
  split
  · refine (blames_acceptMark '(').bind fun _ => ?_
    exact ((blames_bracketed hinner _).bind fun _ => blames_pure _).ite
      ((blames_pure _).bind fun _ => blames_pure _)
  · exact blames_malformed _

theorem blames_chainFrom (root : String) (more : Nat) (steps : List Step) :
    Blames (chainFrom inner root more steps) := by
  induction more generalizing steps with
  | zero => exact blames_pure _
  | succ more ih =>
    refine (blames_acceptMark '.').bind fun _ => Blames.ite ?_ ?_
    · refine (blames_modifyGet _).bind fun lexeme? => ?_
      split
      · exact ((blames_lift (blames_checkName _)).bind fun _ => ih _).ite ((blames_pure _).bind fun _ => ih _)
      · exact blames_malformed _
    · refine (blames_acceptMark '[').bind fun _ => Blames.ite ?_ ?_
      · exact hinner.bind fun index => (blames_expectMark _).bind fun _ => ih _
      · exact (blames_acceptMark '(').bind fun _ =>
          ((blames_bracketed hinner _).bind fun _ => blames_pure _).ite (blames_pure _)

theorem blames_wordExpr (word : String) : Blames (wordExpr inner word) := by
  unfold wordExpr
  refine (blames_pure _).ite <| (blames_pure _).ite <| (blames_pure _).ite ?_
  exact (blames_lift (blames_checkName word)).bind fun _ =>
    blames_remaining.bind fun _ => blames_chainFrom hinner word _ _

theorem blames_primary : Blames (primary inner) := by
  refine (blames_modifyGet _).bind fun lexeme? => ?_
  split
  · exact blames_pure _
  · exact blames_pure _
  · exact hinner.bind fun expr => (blames_acceptMark ')').bind fun _ =>
      (blames_pure _).ite (blames_malformed _)
  · exact (blames_bracketed hinner _).bind fun _ => blames_pure _
  · exact blames_remaining.bind fun _ => (blames_membersUpTo hinner _).bind fun _ => blames_pure _
  · exact blames_wordExpr hinner _
  · exact blames_malformed _
  · exact blames_malformed _
  · exact blames_malformed _

theorem blames_filterCalls (filters : Filters) (more : Nat) : Blames (filterCalls filters inner more) := by
  induction more with
  | zero => exact blames_pure _
  | succ more ih =>
    refine (blames_acceptMark '|').bind fun _ => Blames.ite ?_ (blames_pure _)
    exact (blames_filterCall hinner filters).bind fun call => ih.bind fun _ => blames_pure _

theorem blames_filtered (filters : Filters) : Blames (filtered filters inner) := by
  refine (blames_primary hinner).bind fun base => blames_remaining.bind fun size => ?_
  refine (blames_filterCalls hinner filters _).bind fun calls => ?_
  split
  · exact blames_pure _
  · exact blames_pure _

theorem blames_comparison (filters : Filters) : Blames (comparison filters inner) := by
  refine (blames_filtered hinner filters).bind fun left => blames_get.bind fun lexemes => ?_
  split
  · exact (blames_set _).bind fun _ => (blames_filtered hinner filters).bind fun _ => blames_pure _
  · exact blames_pure _

theorem blames_negation (filters : Filters) (more : Nat) : Blames (negation filters inner more) := by
  induction more with
  | zero => exact blames_comparison hinner filters
  | succ more ih =>
    refine (blames_modifyGet _).bind fun _ => Blames.ite ?_ (blames_comparison hinner filters)
    exact ih.bind fun _ => blames_pure _

omit hinner in
theorem blames_operandsFrom {op : BinaryOp} {accepted : Parser Bool} {operand : Parser Expr}
    (haccepted : Blames accepted) (hoperand : Blames operand) (more : Nat) (left : Expr) :
    Blames (operandsFrom op accepted operand more left) := by
  induction more generalizing left with
  | zero => exact blames_pure _
  | succ more ih =>
    exact haccepted.bind fun _ => (hoperand.bind fun _ => ih _).ite (blames_pure _)

theorem blames_conjunction (filters : Filters) : Blames (conjunction filters inner) := by
  have hoperand : Blames (do negation filters inner (← remaining)) :=
    blames_remaining.bind fun _ => blames_negation hinner filters _
  exact hoperand.bind fun left => blames_remaining.bind fun _ =>
    blames_operandsFrom (blames_modifyGet _) hoperand _ left

theorem blames_disjunction (filters : Filters) : Blames (disjunction filters inner) :=
  (blames_conjunction hinner filters).bind fun left => blames_remaining.bind fun _ =>
    blames_operandsFrom (blames_modifyGet _) (blames_conjunction hinner filters) _ left

end Inner

variable (filters : Filters)

theorem blames_upToDepth (depth : Nat) : Blames (upToDepth filters depth) := by
  induction depth with
  | zero => exact blames_malformed _
  | succ depth ih => exact blames_disjunction ih filters

theorem blames_expression : Blames (expression filters) :=
  blames_remaining.bind fun _ => blames_upToDepth filters _

theorem blames_expressions : Blames (expressions filters) := by
  refine blames_remaining.bind fun size => ?_
  generalize size + 1 = more
  induction more with
  | zero => exact blames_pure _
  | succ more ih =>
    refine blames_isDone.bind fun _ => (blames_pure _).ite ?_
    refine (blames_expression filters).bind fun item => (blames_acceptMark ',').bind fun _ => ?_
    exact (ih.bind fun _ => blames_pure _).ite (blames_pure _)

theorem blames_filterName : Blames (filterName filters) :=
  blames_remaining.bind fun _ => blames_filterCall (blames_upToDepth filters _) filters

end Parser

namespace Expr

theorem blames_ofText (filters : Filters) (text : List Char) : BlamesTag (ofText filters text) :=
  (Parser.blames_expression filters).runOn text

theorem blames_listOfText (filters : Filters) (text : List Char) : BlamesTag (listOfText filters text) :=
  (Parser.blames_expressions filters).runOn text

end Expr

namespace Arguments

open Stencil.Parser

variable (filters : Filters) (tag : LogicTag)

theorem blames_invalid {α : Type} (message : String) : Blames (invalid tag message : Parser α) :=
  blames_throw rfl

theorem blames_required (message : String) : Blames (required tag message) :=
  blames_isDone.bind fun _ => (blames_invalid tag message).ite (blames_pure _)

theorem blames_loop : Blames (loop filters tag) := by
  refine blames_bindableName.bind fun first => (blames_acceptMark ',').bind fun _ => ?_
  have hrest (key : Option String) (item : String) : Blames (do
      if !(← acceptWord "in") then invalid tag s!"expected \"in\" after \"{item}\""
      return (⟨key, item, ← expression filters⟩ : Loop)) := by
    refine (blames_acceptWord "in").bind fun _ => ?_
    dsimp only
    have hsource : Blames (do return (⟨key, item, ← expression filters⟩ : Loop)) :=
      (blames_expression filters).bind fun _ => blames_pure _
    exact ((blames_invalid tag _).bind fun _ => hsource).ite hsource
  dsimp only
  exact (blames_bindableName.bind fun item => (blames_pure _).bind fun _ => hrest _ _).ite
    ((blames_pure _).bind fun _ => hrest _ _)

theorem blames_alternative : Blames (alternative filters tag) := by
  have hrest (conditional : Bool) : Blames (if conditional then do
        required tag "missing condition"
        return some (← expression filters)
      else return none) :=
    ((blames_required tag _).bind fun _ => (blames_expression filters).bind fun _ => blames_pure _).ite
      (blames_pure _)
  unfold alternative
  dsimp only
  exact ((blames_pure _).bind hrest).ite ((blames_acceptWord "if").bind hrest)

theorem blames_assignment : Blames (assignment filters tag) := by
  refine blames_bindableName.bind fun name => (blames_acceptMark '=').bind fun _ => ?_
  have hrest : Blames (do return (name, ← expression filters)) :=
    (blames_expression filters).bind fun _ => blames_pure _
  dsimp only
  exact ((blames_invalid tag _).bind fun _ => hrest).ite hrest

theorem blames_filter : Blames (filter filters tag) :=
  (blames_required tag _).bind fun _ => blames_filterName filters

theorem blames_parametersUpTo (bracketed : Bool) (more : Nat) :
    Blames (parametersUpTo tag bracketed more) := by
  induction more with
  | zero => exact blames_pure _
  | succ more ih =>
    have hrest : Blames (do
        if ← isDone then
          if bracketed then throw (.unclosedArgument tag.arguments) else return []
        else
          let name ← bindableName
          let _ ← acceptMark ','
          return name :: (← parametersUpTo tag bracketed more)) := by
      refine blames_isDone.bind fun _ => Blames.ite ((blames_throw rfl).ite (blames_pure _)) ?_
      exact blames_bindableName.bind fun name => (blames_acceptMark ',').bind fun _ =>
        ih.bind fun _ => blames_pure _
    exact ((blames_acceptMark ')').ite (blames_pure _)).bind fun _ => (blames_pure _).ite hrest

theorem blames_definition : Blames (definition tag) := by
  refine (blames_required tag _).bind fun _ => blames_bindableName.bind fun name => ?_
  exact (blames_acceptMark '(').bind fun _ => blames_remaining.bind fun _ =>
    (blames_parametersUpTo tag _ _).bind fun _ => blames_pure _

theorem blames_modifiers (more : Nat) (inclusion : Inclusion) :
    Blames (modifiers filters tag more inclusion) := by
  induction more generalizing inclusion with
  | zero => exact blames_pure _
  | succ more ih =>
    refine blames_isDone.bind fun _ => (blames_pure _).ite ?_
    refine (blames_acceptWord "ignore").bind fun _ => Blames.ite ?_ ?_
    · refine (blames_acceptWord "missing").bind fun _ => ?_
      dsimp only
      exact ((blames_invalid tag _).bind fun _ => ih _).ite (ih _)
    · refine (blames_acceptWord "only").bind fun _ => (ih _).ite ?_
      refine (blames_acceptWord "with").bind fun _ => Blames.ite ?_ (blames_pure _)
      exact (blames_expression filters).bind fun _ => ih _

theorem blames_inclusion : Blames (inclusion filters tag) := by
  refine (blames_required tag _).bind fun _ => (blames_expression filters).bind fun template => ?_
  exact blames_remaining.bind fun _ => blames_modifiers filters tag _ _

theorem blames_importation : Blames (importation filters tag) := by
  refine (blames_required tag _).bind fun _ => (blames_expression filters).bind fun template => ?_
  refine (blames_acceptWord "as").bind fun _ => ?_
  have hrest : Blames (do return (template, ← bindableName)) :=
    blames_bindableName.bind fun _ => blames_pure _
  dsimp only
  exact ((blames_invalid tag _).bind fun _ => hrest).ite hrest

end Arguments

end Stencil
