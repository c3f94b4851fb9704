import Stencil.Expr.Reading
import Stencil.Proofs.Source.ExtendsTag

/-!
A variable by itself, read as an expression.
-/
namespace Stencil

namespace Lexeme

theorem isDigit_of_isNameStart {c : Char} (h : isNameStart c = true) : c.isDigit = false := by
  by_cases hdigit : c.isDigit = true
  · have hrange := toNat_of_isDigit hdigit
    rcases toNat_of_isNameStart h with hupper | hlower | rfl | rfl
    · omega
    · omega
    · decide
    · decide
  · exact Bool.eq_false_iff.mpr hdigit

theorem isSpace_of_isNamePart {c : Char} (h : isNamePart c = true) : Text.isSpace c = false := by
  have hblank := Source.isBlank_of_isNamePart h
  cases hspace : Text.isSpace c with
  | false => rfl
  | true =>
    simp only [Text.isSpace, Bool.or_eq_true, beq_iff_eq] at hspace
    rcases hspace with (((rfl | rfl) | rfl) | rfl) | rfl <;> revert hblank <;> decide

/-- A variable is one lexeme. -/
theorem scan_variable {first : Char} {rest : List Char} (hstart : isNameStart first = true)
    (hparts : ∀ c ∈ first :: rest, isNamePart c = true) :
    scan false first rest = .lexeme (.name (String.ofList (first :: rest))) (rest.length + 1) := by
  have hpart := hparts first List.mem_cons_self
  obtain ⟨hquote, -, -, -, -, -, hhyphen⟩ := Source.isNamePart_facts hpart
  have hdigit := isDigit_of_isNameStart hstart
  have hword : (first :: rest).takeWhile isNamePart = first :: rest := by
    have happend : (first :: rest ++ []).takeWhile isNamePart = first :: rest ++ [].takeWhile isNamePart :=
      List.takeWhile_append_of_pos hparts
    simpa using happend
  unfold scan
  rw [isSpace_of_isNamePart hpart, hquote, hdigit, hstart, hword]
  simp [hhyphen]

theorem ofText_variable {name : String} (h : IsVariable name) :
    ofText name.toList = .ok [.name name] := by
  obtain ⟨first, rest, hchars, hstart, hparts⟩ := h.chars
  have hscan : scan false first rest = .lexeme (.name name) (rest.length + 1) := by
    rw [scan_variable hstart hparts, ← hchars, String.ofList_toList]
  have hlist : listFrom false (first :: rest) = .ok [.name name] := by
    rw [listFrom, hscan]
    dsimp only
    rw [Nat.add_sub_cancel, List.drop_length, listFrom]
    rfl
  unfold ofText
  rw [hchars, hlist]

end Lexeme

namespace Parser

variable {name : String} (h : IsVariable name) (filters : Filters) (inner : Parser Expr)

theorem ok_bind {α β : Type} (a : α) (next : α → Except Complaint β) :
    (Except.ok a >>= next) = next a := rfl

theorem remaining_run (lexemes : List Lexeme) :
    remaining.run lexemes = .ok (lexemes.length, lexemes) := rfl

include h

/-- A variable is no literal. -/
theorem wordExpr_variable (rest : List Lexeme) :
    (wordExpr inner name).run rest = (chainFrom inner name (rest.length + 1) []).run rest := by
  obtain ⟨htrue, hfalse, hnull, hundefined⟩ : name ≠ "true" ∧ name ≠ "false" ∧ name ≠ "null" ∧
      name ≠ "undefined" := by
    simpa using h.notLiteral
  have hcheck : checkName name = .ok () := by
    unfold checkName
    rw [h.bindable]
  unfold wordExpr
  rw [if_neg htrue, if_neg hfalse, if_neg (by simp [hnull, hundefined]), hcheck]
  rfl

theorem primary_variable :
    (primary inner).run [.name name] = .ok (.path name [], []) := by
  change (wordExpr inner name).run [] = _
  rw [wordExpr_variable h]
  rfl

theorem filtered_variable :
    (filtered filters inner).run [.name name] = .ok (.path name [], []) := by
  unfold filtered
  rw [StateT.run_bind, primary_variable h inner]
  rfl

theorem comparison_variable :
    (comparison filters inner).run [.name name] = .ok (.path name [], []) := by
  unfold comparison
  rw [StateT.run_bind, filtered_variable h filters inner]
  rfl

theorem negation_variable (more : Nat) :
    (negation filters inner more).run [.name name] = .ok (.path name [], []) := by
  have hnot : (name == "not") = false := by
    refine beq_false_of_ne ?_
    rintro rfl
    exact absurd h.bindable (by decide)
  cases more with
  | zero => exact comparison_variable h filters inner
  | succ more =>
    have haccept : (acceptEither .not "not").run [.name name] = .ok (false, [.name name]) := by
      simp [acceptEither, accept, Lexeme.isOperator, Lexeme.isWord, hnot]
      rfl
    unfold negation
    rw [StateT.run_bind, haccept]
    exact comparison_variable h filters inner

theorem operand_variable :
    (do negation filters inner (← remaining) : Parser Expr).run [.name name] =
      .ok (.path name [], []) := by
  rw [StateT.run_bind, remaining_run, ok_bind]
  exact negation_variable h filters inner _

theorem conjunction_variable :
    (conjunction filters inner).run [.name name] = .ok (.path name [], []) := by
  unfold conjunction
  dsimp only
  rw [StateT.run_bind, operand_variable h filters inner, ok_bind, StateT.run_bind, remaining_run, ok_bind]
  rw [List.length_nil, operandsFrom]
  rfl

theorem disjunction_variable :
    (disjunction filters inner).run [.name name] = .ok (.path name [], []) := by
  unfold disjunction
  rw [StateT.run_bind, conjunction_variable h filters inner, ok_bind, StateT.run_bind, remaining_run, ok_bind]
  rw [List.length_nil, operandsFrom]
  rfl

theorem expression_variable :
    (expression filters).run [.name name] = .ok (.path name [], []) := by
  unfold expression
  rw [StateT.run_bind, remaining_run, ok_bind, upToDepth]
  exact disjunction_variable h filters _

end Parser

theorem Expr.ofText_variable {name : String} (h : IsVariable name) (filters : Filters) :
    Expr.ofText filters name.toList = .ok (.path name []) := by
  unfold Expr.ofText Parser.runOn
  rw [Lexeme.ofText_variable h, Parser.ok_bind]
  dsimp only
  rw [StateT.run_bind, Parser.expression_variable h filters]
  rfl

end Stencil
