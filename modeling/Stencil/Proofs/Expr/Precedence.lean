import Stencil.Proofs.Expr.Derived

/-!
Precedence. Each lexeme that can stand behind an expression goes on with the levels that bind as loosely as
it does, or more loosely; before all others the reader stops. What is read at a level is so handed on to
the looser ones, and operators of one level are read from the left.
-/
namespace Stencil

/-- How loosely the operators of the level bind. -/
def Level.binding : Level → Nat
  | .access | .primary => 0
  | .filtered => 1
  | .comparison | .negation => 2
  | .conjunction => 3
  | .disjunction => 4

/-- How loosely a lexeme binds what stands before it, if it can. -/
def Lexeme.binding? : Lexeme → Option Nat
  | .mark c => if c ∈ ['.', '[', '('] then some 0 else if c = '|' then some 1 else none
  | .operator op =>
    if op = .or then some 4 else if op = .and then some 3 else if op = .not then none else some 2
  | .name word =>
    if word = "or" then some 4 else if word = "and" then some 3
    else if word = "in" ∨ word = "not" then some 2 else none
  | _ => none

namespace Parser

variable {α β : Type} {filters : Filters} {lexemes rest : List Lexeme}

/-- What follows does not go on with an expression of the level. -/
def Stops (level : Level) (rest : List Lexeme) : Prop :=
  ∀ lexeme ∈ rest.head?, ∀ n ∈ lexeme.binding?, level.binding < n

theorem stops_nil (level : Level) : Stops level [] := by
  intro lexeme hlexeme
  cases hlexeme

theorem stops_cons {level : Level} {lexeme : Lexeme} (h : ∀ n ∈ lexeme.binding?, level.binding < n) :
    Stops level (lexeme :: rest) := by
  intro first hfirst
  cases hfirst
  exact h

theorem Stops.mono {tight loose : Level} (h : Stops loose rest) (hbinding : tight.binding ≤ loose.binding) :
    Stops tight rest := by
  intro lexeme hlexeme n hn
  exact Nat.lt_of_le_of_lt hbinding (h lexeme hlexeme n hn)

/-- A comma, and a closing bracket, ends all expressions. -/
theorem stops_mark {c : Char} (level : Level) (h : c ∈ [',', ')', ']', '\x7d']) :
    Stops level (.mark c :: rest) := by
  refine stops_cons ?_
  intro n hn
  simp only [List.mem_cons, List.not_mem_nil, or_false] at h
  rcases h with rfl | rfl | rfl | rfl <;> cases hn

theorem run_bind_of_ok {p : Parser α} {next : α → Parser β} {a : α} (h : p.run lexemes = .ok (a, rest)) :
    (p >>= next).run lexemes = (next a).run rest := by
  rw [StateT.run_bind, h]
  rfl

/-- A test that a lexeme only passes if it goes on with the level is not passed where the level stops. -/
theorem accept_of_stops {level : Level} {test : Lexeme → Bool} (h : Stops level rest)
    (htest : ∀ lexeme, test lexeme = true → ∃ n ∈ lexeme.binding?, n ≤ level.binding) :
    (accept test).run rest = .ok (false, rest) := by
  cases rest with
  | nil => rfl
  | cons lexeme rest =>
    have hfails : test lexeme = false := by
      refine Bool.eq_false_iff.mpr fun hpasses => ?_
      obtain ⟨n, hn, hle⟩ := htest lexeme hpasses
      have := h lexeme rfl n hn
      omega
    change Except.ok (if test lexeme then (true, rest) else (false, lexeme :: rest)) = _
    rw [if_neg (by simp [hfails])]

theorem acceptMark_of_stops {c : Char} {n : Nat} {level : Level} (h : Stops level rest)
    (hbinding : (Lexeme.mark c).binding? = some n) (hle : n ≤ level.binding) :
    (acceptMark c).run rest = .ok (false, rest) := by
  refine accept_of_stops h ?_
  intro lexeme htest
  cases lexeme with
  | mark d =>
    obtain rfl : d = c := by simpa [Lexeme.isMark] using htest
    exact ⟨n, hbinding, hle⟩
  | _ => cases htest

theorem acceptEither_of_stops {op : Operator} {word : String} {n : Nat} {level : Level}
    (h : Stops level rest) (hop : (Lexeme.operator op).binding? = some n)
    (hword : (Lexeme.name word).binding? = some n)
    (hle : n ≤ level.binding) : (acceptEither op word).run rest = .ok (false, rest) := by
  refine accept_of_stops h ?_
  intro lexeme htest
  cases lexeme with
  | operator other =>
    obtain rfl : other = op := by simpa [Lexeme.isOperator, Lexeme.isWord] using htest
    exact ⟨n, hop, hle⟩
  | name text =>
    obtain rfl : text = word := by simpa [Lexeme.isOperator, Lexeme.isWord] using htest
    exact ⟨n, hword, hle⟩
  | _ => simp [Lexeme.isOperator, Lexeme.isWord] at htest

theorem acceptEither_sign {op : Operator} {word : String} {sign : Lexeme} (h : sign.IsSign op word)
    (rest : List Lexeme) : (acceptEither op word).run (sign :: rest) = .ok (true, rest) := by
  have htest : (sign.isOperator op || sign.isWord word) = true := by
    rcases h with rfl | rfl <;> simp [Lexeme.isOperator, Lexeme.isWord]
  change Except.ok (if (sign.isOperator op || sign.isWord word) = true then (true, rest)
    else (false, sign :: rest)) = _
  rw [if_pos htest]

/-! Comparisons. -/

theorem comparisonAtFront?_signs {signs : List Lexeme} {op : BinaryOp} (h : (signs, op) ∈ comparisonSigns)
    (rest : List Lexeme) : comparisonAtFront? (signs ++ rest) = some (op, rest) := by
  have hall : ∀ pair ∈ comparisonSigns, comparisonAtFront? (pair.1 ++ rest) = some (pair.2, rest) := by
    simp [comparisonSigns, comparisonAtFront?, Lexeme.isWord, comparisonOf?]
  exact hall _ h

/-- A comparison binds more loosely than a filter. -/
theorem binding?_signs {signs : List Lexeme} {op : BinaryOp} (h : (signs, op) ∈ comparisonSigns) :
    ∃ first more, signs = first :: more ∧ first.binding? = some 2 := by
  simp only [comparisonSigns, List.mem_cons, Prod.mk.injEq, List.not_mem_nil, or_false] at h
  rcases h with ⟨rfl, -⟩ | ⟨rfl, -⟩ | ⟨rfl, -⟩ | ⟨rfl, -⟩ | ⟨rfl, -⟩ | ⟨rfl, -⟩ | ⟨rfl, -⟩ | ⟨rfl, -⟩ |
    ⟨rfl, -⟩ | ⟨rfl, -⟩ <;> exact ⟨_, _, rfl, rfl⟩

theorem stops_signs {signs : List Lexeme} {op : BinaryOp} (h : (signs, op) ∈ comparisonSigns)
    (rest : List Lexeme) : Stops .filtered (signs ++ rest) := by
  obtain ⟨first, more, rfl, hfirst⟩ := binding?_signs h
  refine stops_cons ?_
  rw [hfirst]
  rintro n ⟨⟩
  decide

theorem comparisonAtFront?_of_stops (h : Stops .comparison rest) : comparisonAtFront? rest = none := by
  cases hfront : comparisonAtFront? rest with
  | none => rfl
  | some pair =>
    obtain ⟨signs, rfl, hop⟩ := mem_comparisonSigns hfront
    obtain ⟨first, more, rfl, hfirst⟩ := binding?_signs hop
    have hlt := h first rfl 2 hfirst
    exact absurd hlt (Nat.lt_irrefl 2)

/-! Operands with operators between them. -/

section Operands

variable {op : BinaryOp} {sign : Operator} {word : String} {operand : Parser Expr}

theorem operandsFrom_of_stops (h : (acceptEither sign word).run rest = .ok (false, rest)) (more : Nat)
    (left : Expr) :
    (operandsFrom op (acceptEither sign word) operand more left).run rest = .ok (left, rest) := by
  cases more with
  | zero => rfl
  | succ more =>
    rw [operandsFrom, run_bind_of_ok h]
    rfl

theorem operandsFrom_sign {lexeme : Lexeme} {left right : Expr} (hsign : lexeme.IsSign sign word)
    (hright : operand.run lexemes = .ok (right, rest)) (more : Nat) :
    (operandsFrom op (acceptEither sign word) operand (more + 1) left).run (lexeme :: lexemes) =
      (operandsFrom op (acceptEither sign word) operand more (.binary op left right)).run rest := by
  rw [operandsFrom, run_bind_of_ok (acceptEither_sign hsign lexemes), if_pos rfl, run_bind_of_ok hright]

/-- Behind a sign the operands that were read go on with one more. -/
theorem operandsFrom_more {whole : Parser Expr} {front back : List Lexeme} {lexeme : Lexeme}
    {left right : Expr}
    (hleft : ∃ more, (lexeme :: (back ++ rest)).length ≤ more ∧
      whole.run (front ++ lexeme :: (back ++ rest)) =
        (operandsFrom op (acceptEither sign word) operand more left).run (lexeme :: (back ++ rest)))
    (hsign : lexeme.IsSign sign word) (hright : operand.run (back ++ rest) = .ok (right, rest)) :
    ∃ more, rest.length ≤ more ∧
      whole.run (front ++ lexeme :: back ++ rest) =
        (operandsFrom op (acceptEither sign word) operand more (.binary op left right)).run rest := by
  obtain ⟨more, hmore, hrun⟩ := hleft
  rw [List.length_cons, List.length_append] at hmore
  cases more with
  | zero => omega
  | succ more =>
    refine ⟨more, by omega, ?_⟩
    rw [List.append_assoc, List.cons_append, hrun]
    exact operandsFrom_sign hsign hright more

end Operands

/-! What is read at each level. Where operators group from the left, and in an access chain, what was read so
far is what the rest goes on with. -/

/-- The reader of a level takes the lexemes as the expression, before all that does not go on with it. -/
def Accepts (filters : Filters) (inner : Parser Expr) : Level → List Lexeme → Expr → Prop
  | .disjunction, lexemes, expr => ∀ rest, Stops .conjunction rest → ∃ more, rest.length ≤ more ∧
      (disjunction filters inner).run (lexemes ++ rest) =
        (operandsFrom .or (acceptEither .or "or") (conjunction filters inner) more expr).run rest
  | .conjunction, lexemes, expr => ∀ rest, Stops .negation rest → ∃ more, rest.length ≤ more ∧
      (conjunction filters inner).run (lexemes ++ rest) =
        (operandsFrom .and (acceptEither .and "and") (do negation filters inner (← remaining)) more expr).run
          rest
  | .negation, lexemes, expr => ∀ rest, Stops .negation rest → ∀ more, lexemes.length ≤ more →
      (negation filters inner more).run (lexemes ++ rest) = .ok (expr, rest)
  | .comparison, lexemes, expr => ∀ rest, Stops .comparison rest →
      (comparison filters inner).run (lexemes ++ rest) = .ok (expr, rest)
  | .filtered, lexemes, expr => ∀ rest, Stops .filtered rest →
      (filtered filters inner).run (lexemes ++ rest) = .ok (expr, rest)
  | .primary, lexemes, expr => ∀ rest, Stops .primary rest →
      (primary inner).run (lexemes ++ rest) = .ok (expr, rest)
  | .access, lexemes, expr => ∃ root steps, expr = .path root steps ∧ ∀ rest, ∃ more, rest.length < more ∧
      (primary inner).run (lexemes ++ rest) = (chainFrom inner root more steps.reverse).run rest

section Levels

variable {inner : Parser Expr} {front back : List Lexeme} {sign : Lexeme} {expr left right : Expr}

theorem Accepts.disjunction_eq_ok (h : Accepts filters inner .disjunction lexemes expr)
    (hstops : Stops .disjunction rest) :
    (disjunction filters inner).run (lexemes ++ rest) = .ok (expr, rest) := by
  obtain ⟨more, -, hrun⟩ := h rest (hstops.mono (by decide))
  rw [hrun]
  exact operandsFrom_of_stops (acceptEither_of_stops hstops rfl rfl (by decide)) more expr

theorem Accepts.conjunction_eq_ok (h : Accepts filters inner .conjunction lexemes expr)
    (hstops : Stops .conjunction rest) :
    (conjunction filters inner).run (lexemes ++ rest) = .ok (expr, rest) := by
  obtain ⟨more, -, hrun⟩ := h rest (hstops.mono (by decide))
  rw [hrun]
  exact operandsFrom_of_stops (acceptEither_of_stops hstops rfl rfl (by decide)) more expr

theorem Accepts.operand_eq_ok (h : Accepts filters inner .negation lexemes expr)
    (hstops : Stops .negation rest) :
    (do negation filters inner (← remaining) : Parser Expr).run (lexemes ++ rest) = .ok (expr, rest) := by
  rw [run_bind_of_ok (remaining_run (lexemes ++ rest))]
  exact h rest hstops _ (by simp)

theorem Accepts.disjunction (h : Accepts filters inner .conjunction lexemes expr) :
    Accepts filters inner .disjunction lexemes expr := by
  intro rest hstops
  refine ⟨rest.length, Nat.le_refl _, ?_⟩
  unfold Parser.disjunction
  rw [run_bind_of_ok (h.conjunction_eq_ok hstops), run_bind_of_ok (remaining_run rest)]

theorem Accepts.or (hleft : Accepts filters inner .disjunction front left) (hsign : sign.IsSign .or "or")
    (hright : Accepts filters inner .conjunction back right) :
    Accepts filters inner .disjunction (front ++ sign :: back) (.binary .or left right) := by
  intro rest hstops
  have hbinding : Stops .conjunction (sign :: (back ++ rest)) := by
    rcases hsign with rfl | rfl <;> exact stops_cons (by decide)
  exact operandsFrom_more (hleft _ hbinding) hsign (hright.conjunction_eq_ok hstops)

theorem Accepts.conjunction (h : Accepts filters inner .negation lexemes expr) :
    Accepts filters inner .conjunction lexemes expr := by
  intro rest hstops
  refine ⟨rest.length, Nat.le_refl _, ?_⟩
  unfold Parser.conjunction
  dsimp only
  rw [run_bind_of_ok (h.operand_eq_ok hstops), run_bind_of_ok (remaining_run rest)]

theorem Accepts.and (hleft : Accepts filters inner .conjunction front left) (hsign : sign.IsSign .and "and")
    (hright : Accepts filters inner .negation back right) :
    Accepts filters inner .conjunction (front ++ sign :: back) (.binary .and left right) := by
  intro rest hstops
  have hbinding : Stops .negation (sign :: (back ++ rest)) := by
    rcases hsign with rfl | rfl <;> exact stops_cons (by decide)
  exact operandsFrom_more (hleft _ hbinding) hsign (hright.operand_eq_ok hstops)

/-- No comparison begins with a negation. -/
theorem accept_not_of_comparison {result : Expr × List Lexeme}
    (h : (comparison filters inner).run lexemes = .ok result) :
    (acceptEither .not "not").run lexemes = .ok (false, lexemes) := by
  obtain ⟨left, between, hleft, -⟩ := run_bind_eq_ok.mp h
  exact accept_not_of_filtered hleft

theorem Accepts.negation (h : Accepts filters inner .comparison lexemes expr) :
    Accepts filters inner .negation lexemes expr := by
  intro rest hstops more _
  have hrun := h rest (hstops.mono (by decide))
  cases more with
  | zero => exact hrun
  | succ more =>
    rw [Parser.negation, run_bind_of_ok (accept_not_of_comparison hrun)]
    exact hrun

theorem Accepts.not (hsign : sign.IsSign .not "not") (h : Accepts filters inner .negation lexemes expr) :
    Accepts filters inner .negation (sign :: lexemes) (.not expr) := by
  intro rest hstops more hmore
  cases more with
  | zero => simp at hmore
  | succ more =>
    rw [Parser.negation, List.cons_append, run_bind_of_ok (acceptEither_sign hsign _), if_pos rfl,
      run_bind_of_ok (h rest hstops more (Nat.le_of_succ_le_succ hmore))]
    rfl

theorem Accepts.comparison (h : Accepts filters inner .filtered lexemes expr) :
    Accepts filters inner .comparison lexemes expr := by
  intro rest hstops
  have haccept : acceptComparison.run rest = .ok (none, rest) := by
    rw [acceptComparison_run, comparisonAtFront?_of_stops hstops]
  rw [comparison_eq, run_bind_of_ok (h rest (hstops.mono (by decide))), run_bind_of_ok haccept]
  rfl

theorem Accepts.compare {signs : List Lexeme} {op : BinaryOp}
    (hleft : Accepts filters inner .filtered front left) (hop : (signs, op) ∈ comparisonSigns)
    (hright : Accepts filters inner .filtered back right) :
    Accepts filters inner .comparison (front ++ signs ++ back) (.binary op left right) := by
  intro rest hstops
  have haccept : acceptComparison.run (signs ++ (back ++ rest)) = .ok (some op, back ++ rest) := by
    rw [acceptComparison_run, comparisonAtFront?_signs hop _]
  rw [comparison_eq, List.append_assoc, List.append_assoc, run_bind_of_ok (hleft _ (stops_signs hop _)),
    run_bind_of_ok haccept]
  dsimp only
  rw [run_bind_of_ok (hright rest (hstops.mono (by decide)))]
  rfl

end Levels

end Parser

end Stencil
