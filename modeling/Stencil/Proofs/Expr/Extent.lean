import Stencil.Proofs.Expr.Balanced
import Stencil.Proofs.Expr.Reads

/-!
How far the rules of the grammar read. What a rule takes from the front of the lexemes has its brackets
closed, and the rule takes the same when less of the lexemes follows.
-/
namespace Stencil

namespace Parser

variable {α : Type} {bound bound' : Nat} {p q : Parser α} {T : α → List Lexeme → Prop}

/-- What is read inside brackets: at least one lexeme, and all brackets closed. -/
def IsOperand (front : List Lexeme) : Prop := Balanced true front ∧ front ≠ []

theorem IsOperand.append {front back : List Lexeme} (hfront : IsOperand front)
    (hback : Balanced true back) : IsOperand (front ++ back) :=
  ⟨hfront.1.append hback, fun hnil => hfront.2 (List.append_eq_nil_iff.mp hnil).1⟩

/-! The rules without brackets of their own. -/

/-- Words and operators are no brackets. -/
theorem reads_acceptEither (op : Operator) (word : String) :
    Reads bound bound' (acceptEither op word) (acceptEither op word) fun passed front =>
      Balanced false front ∧ (passed = true → front ≠ []) := by
  refine (reads_accept _).imp ?_
  intro passed front htaken
  cases passed with
  | false =>
    have hnil : front = [] := htaken
    subst hnil
    exact ⟨.nil, fun heq => by cases heq⟩
  | true =>
    obtain ⟨lexeme, rfl, htest⟩ := htaken
    have hmark : ∀ c, lexeme ≠ .mark c := by
      rintro c rfl
      simp [Lexeme.isOperator, Lexeme.isWord] at htest
    exact ⟨.single (fun c _ => hmark c) (hmark '|'), fun _ => List.cons_ne_nil _ _⟩

theorem reads_memberKey :
    Reads bound bound' memberKey memberKey fun _ front => Balanced false front := by
  refine reads_next.bind ?_
  intro lexeme? front htaken
  subst htaken
  cases lexeme? with
  | none => exact Reads.malformed
  | some lexeme =>
    cases lexeme with
    | operator op => exact Reads.malformed
    | mark c => exact Reads.malformed
    | _ => exact Reads.pure (.single (by simp) (by simp))

theorem reads_unclosed (closer : Char) : Reads bound bound' (unclosed closer) q T := by
  unfold unclosed
  split
  · exact Reads.malformed
  · exact Reads.malformed

/-- If nothing is left, there is no item. -/
theorem reads_unlessDone (closer : Char) (h : Reads bound bound' p q T)
    (hne : ∀ a front, T a front → front ≠ []) :
    Reads bound bound' (isDone >>= fun done => if done then unclosed closer else p)
      (isDone >>= fun done => if done then unclosed closer else q) T := by
  intro lexemes a rest hlength hrun
  obtain ⟨done, between, hdone, hrun⟩ := run_bind_eq_ok.mp hrun
  cases hdone
  cases lexemes with
  | nil => exact reads_unclosed closer [] a rest hlength hrun
  | cons lexeme lexemes =>
    obtain ⟨front, hsplit, htaken, hkept⟩ := h _ a rest hlength hrun
    refine ⟨front, hsplit, htaken, ?_⟩
    intro kept hleads hlength'
    obtain ⟨first, front, rfl⟩ := List.exists_cons_of_ne_nil (hne a front htaken)
    exact run_bind_eq_ok.mpr ⟨false, _, rfl, hkept kept hleads hlength'⟩

/-- Take a comparison from the front of the lexemes. -/
def acceptComparison : Parser (Option BinaryOp) := modifyGet fun lexemes =>
  match comparisonAtFront? lexemes with
  | some (op, rest) => (some op, rest)
  | none => (none, lexemes)

theorem comparisonAtFront?_eq_some {lexemes rest : List Lexeme} {op : BinaryOp}
    (h : comparisonAtFront? lexemes = some (op, rest)) :
    ∃ front, lexemes = front ++ rest ∧ Balanced true front ∧
      ∀ kept, comparisonAtFront? (front ++ kept) = some (op, kept) := by
  unfold comparisonAtFront? at h
  split at h
  · rename_i operator rest'
    obtain ⟨op', hop, hpair⟩ := Option.map_eq_some_iff.mp h
    cases hpair
    refine ⟨[.operator operator], rfl, .single (by simp) (by simp), ?_⟩
    intro kept
    simp [comparisonAtFront?, hop]
  · rename_i first rest'
    by_cases hin : first = "in"
    · rw [if_pos hin] at h
      cases h
      refine ⟨[.name first], rfl, .single (by simp) (by simp), ?_⟩
      intro kept
      simp [comparisonAtFront?, hin]
    · rw [if_neg hin] at h
      split at h
      · rename_i hnot
        cases rest' with
        | nil => simp at hnot
        | cons second rest' =>
          cases h
          have hword : ∀ c, second ≠ .mark c := by
            rintro c rfl
            simp [Lexeme.isWord] at hnot
          refine ⟨[.name first, second], rfl,
            .cons (by simp) (by simp) (.single (fun c _ => hword c) (hword '|')), ?_⟩
          intro kept
          have hnot' : (decide (first = "not") &&
              (second :: kept).head?.any (·.isWord "in")) = true := hnot
          simp only [comparisonAtFront?, List.cons_append, List.nil_append, hin, if_false, hnot', if_true,
            List.tail_cons]
      · cases h
  · cases h

theorem comparisonAtFront?_eq_none {lexemes kept : List Lexeme}
    (h : comparisonAtFront? lexemes = none) (hleads : kept <+: lexemes) :
    comparisonAtFront? kept = none := by
  cases kept with
  | nil => rfl
  | cons lexeme kept =>
    cases lexemes with
    | nil => cases List.prefix_nil.mp hleads
    | cons first lexemes =>
      obtain ⟨rfl, hmore⟩ := List.cons_prefix_cons.mp hleads
      cases lexeme with
      | name word =>
        simp only [comparisonAtFront?] at h ⊢
        by_cases hin : word = "in"
        · rw [if_pos hin] at h
          cases h
        · rw [if_neg hin] at h ⊢
          by_cases hnot : (decide (word = "not") && kept.head?.any (·.isWord "in")) = true
          · have hhead : (decide (word = "not") && lexemes.head?.any (·.isWord "in")) = true := by
              obtain ⟨more, rfl⟩ := hmore
              cases kept with
              | nil => simp at hnot
              | cons second kept => exact hnot
            rw [if_pos hhead] at h
            cases h
          · rw [if_neg hnot]
      | operator op => simpa [comparisonAtFront?] using h
      | _ => rfl

theorem acceptComparison_run (lexemes : List Lexeme) : acceptComparison.run lexemes =
    .ok (match comparisonAtFront? lexemes with
      | some (op, rest) => (some op, rest)
      | none => (none, lexemes)) := rfl

theorem reads_acceptComparison : Reads bound bound' acceptComparison acceptComparison
    fun _ front => Balanced true front := by
  intro lexemes op? rest _ hrun
  cases hfront : comparisonAtFront? lexemes with
  | some pair =>
    obtain ⟨op, rest'⟩ := pair
    have haccept : acceptComparison.run lexemes = .ok (some op, rest') := by
      rw [acceptComparison_run, hfront]
    cases haccept.symm.trans hrun
    obtain ⟨front, hsplit, hbalanced, hkept⟩ := comparisonAtFront?_eq_some hfront
    refine ⟨front, hsplit, hbalanced, ?_⟩
    intro kept _ _
    rw [acceptComparison_run, hkept kept]
  | none =>
    have haccept : ∀ kept, kept <+: lexemes → acceptComparison.run kept = .ok (none, kept) := by
      intro kept hleads
      rw [acceptComparison_run, comparisonAtFront?_eq_none hfront hleads]
    cases (haccept lexemes (List.prefix_refl lexemes)).symm.trans hrun
    exact ⟨[], rfl, .nil, fun kept hleads _ => haccept kept hleads⟩

theorem comparison_eq (filters : Filters) (inner : Parser Expr) :
    comparison filters inner = (do
      let left ← filtered filters inner
      match ← acceptComparison with
      | some op => return .binary op left (← filtered filters inner)
      | none => return left) := by
  unfold comparison
  refine congrArg _ (funext fun left => ?_)
  funext lexemes
  change StateT.run (get >>= _) lexemes = StateT.run (acceptComparison >>= _) lexemes
  rw [StateT.run_bind, StateT.run_bind, acceptComparison_run]
  change StateT.run (match comparisonAtFront? lexemes with
    | some (op, rest) => _
    | none => _) lexemes = _
  cases comparisonAtFront? lexemes with
  | none => rfl
  | some pair => rfl

/-- Operands with one operator between them. -/
theorem reads_operandsFrom (op : BinaryOp) (sign : Operator) (word : String) {operand operand' : Parser Expr}
    (hoperand : Reads (bound + 1) (bound' + 1) operand operand' fun _ front => IsOperand front)
    (more more' : Nat) (left : Expr) :
    Reads (min (more + 1) (bound + 1)) (min (more' + 1) (bound' + 1))
      (operandsFrom op (acceptEither sign word) operand more left)
      (operandsFrom op (acceptEither sign word) operand' more' left)
      fun expr front => Balanced true front ∧ (front = [] → expr = left) := by
  induction more generalizing more' left with
  | zero =>
    intro lexemes a rest hlength hrun
    have hnil : lexemes = [] := List.length_eq_zero_iff.mp (by omega)
    subst hnil
    cases hrun
    refine ⟨[], rfl, ⟨.nil, fun _ => rfl⟩, ?_⟩
    intro kept hleads _
    obtain rfl := List.prefix_nil.mp hleads
    cases more' with
    | zero => rfl
    | succ more' => rfl
  | succ more ih =>
    have hstep : ∀ more', Reads (min (more + 1 + 1) (bound + 1)) (min (more' + 1 + 1) (bound' + 1))
        (operandsFrom op (acceptEither sign word) operand (more + 1) left)
        (operandsFrom op (acceptEither sign word) operand' (more' + 1) left)
        fun expr front => Balanced true front ∧ (front = [] → expr = left) := by
      intro more'
      rw [operandsFrom, operandsFrom]
      refine (reads_acceptEither sign word).bind ?_
      rintro passed front ⟨hfront, hne⟩
      cases passed with
      | true =>
        have hpos : 0 < front.length := List.length_pos_iff.mpr (hne rfl)
        refine (hoperand.mono (by omega) (by omega)).bind ?_
        intro right middle hmiddle
        refine ((ih more' (.binary op left right)).mono (by omega) (by omega)).imp ?_
        rintro expr back ⟨hback, -⟩
        refine ⟨hfront.mono.append (hmiddle.1.append hback), ?_⟩
        intro hnil
        exact absurd (List.append_eq_nil_iff.mp hnil).1 (hne rfl)
      | false => exact Reads.pure ⟨by simpa using hfront.mono, fun _ => rfl⟩
    cases more' with
    | zero =>
      intro lexemes a rest hlength hrun
      obtain ⟨front, hsplit, htaken, -⟩ := hstep 0 lexemes a rest hlength hrun
      refine ⟨front, hsplit, htaken, fun kept _ hlength' => ?_⟩
      have hnil : front ++ kept = [] := List.length_eq_zero_iff.mp (by omega)
      obtain ⟨rfl, rfl⟩ := List.append_eq_nil_iff.mp hnil
      rw [htaken.2 rfl]
      rfl
    | succ more' => exact hstep more'

/-! The rules with expressions inside brackets. -/

section Rules

variable {filters : Filters} {inner inner' : Parser Expr}
  (hinner : Reads bound bound' inner inner' fun _ front => IsOperand front)

include hinner

/-- Items with their closer. -/
theorem reads_itemsUpTo (closer : Char) (more more' : Nat) :
    Reads (min more bound) (min more' bound') (itemsUpTo inner closer more) (itemsUpTo inner' closer more')
      fun _ front => ∃ body, front = body ++ [.mark closer] ∧ Balanced true body := by
  refine Reads.upTo (p := fun more _ => itemsUpTo inner closer more)
    (q := fun more _ => itemsUpTo inner' closer more) ?_ more more' ()
  intro more more' _ ih
  rw [itemsUpTo, itemsUpTo]
  refine reads_ifMark (Reads.pure ⟨[], rfl, .nil⟩) ?_
  refine reads_unlessDone closer ?_ ?_
  · refine (hinner.mono (by omega) (by omega)).bind ?_
    intro item front hfront
    have hpos : 0 < front.length := List.length_pos_iff.mpr hfront.2
    refine reads_ifMark ?_ (reads_ifMark ?_ (reads_unclosed closer))
    · refine ((ih ()).mono (by omega) (by omega)).bind ?_
      rintro items _ ⟨body, rfl, hbody⟩
      refine Reads.pure ⟨front ++ .mark ',' :: body, by simp, ?_⟩
      exact hfront.1.append (.cons (mark_ne (by decide)) (fun _ => rfl) hbody)
    · exact Reads.pure ⟨front, rfl, hfront.1⟩
  · rintro items front ⟨body, hfront, -⟩ rfl
    simp at hfront

theorem reads_bracketed (closer : Char) :
    Reads bound bound' (bracketed inner closer) (bracketed inner' closer)
      fun _ front => ∃ body, front = body ++ [.mark closer] ∧ Balanced true body :=
  reads_remaining fun size size' => reads_itemsUpTo hinner closer (size + 1) (size' + 1)

/-- Members with the closing brace. -/
theorem reads_membersUpTo (more more' : Nat) :
    Reads (min more bound) (min more' bound') (membersUpTo inner more) (membersUpTo inner' more')
      fun _ front => ∃ body, front = body ++ [.mark '\x7d'] ∧ Balanced true body := by
  refine Reads.upTo (p := fun more _ => membersUpTo inner more)
    (q := fun more _ => membersUpTo inner' more) ?_ more more' ()
  intro more more' _ ih
  rw [membersUpTo, membersUpTo]
  refine reads_ifMark (Reads.pure ⟨[], rfl, .nil⟩) ?_
  refine reads_memberKey.bind ?_
  intro key front hkey
  refine reads_expectMark ((hinner.mono (by omega) (by omega)).bind ?_)
  intro value back hvalue
  have hmember : Balanced true (front ++ .mark ':' :: back) :=
    hkey.mono.append (.cons (mark_ne (by decide)) (fun _ => rfl) hvalue.1)
  refine reads_ifMark ?_ (reads_expectMark ?_)
  · refine ((ih ()).mono (by omega) (by omega)).bind ?_
    rintro members _ ⟨body, rfl, hbody⟩
    refine Reads.pure ⟨front ++ .mark ':' :: back ++ .mark ',' :: body, by simp, ?_⟩
    exact hmember.append (.cons (mark_ne (by decide)) (fun _ => rfl) hbody)
  · exact Reads.pure ⟨front ++ .mark ':' :: back, by simp, hmember⟩

/-- The rest of an access chain. -/
theorem reads_chainFrom (root : String) (more more' : Nat) (steps : List Step) :
    Reads (min more (bound + 1)) (min more' (bound' + 1)) (chainFrom inner root more steps)
      (chainFrom inner' root more' steps) fun _ front => Balanced false front := by
  refine Reads.upTo (p := chainFrom inner root) (q := chainFrom inner' root) ?_ more more' steps
  intro more more' steps ih
  rw [chainFrom, chainFrom]
  refine reads_ifMark ?_ (reads_ifMark ?_ (reads_ifMark ?_ (Reads.pure .nil)))
  · refine reads_next.bind ?_
    rintro lexeme? _ rfl
    cases lexeme? with
    | none => exact Reads.malformed
    | some lexeme =>
      cases lexeme with
      | name key =>
        have hnext : Reads (min (more + 1) (bound + 1) - 1 - 1) (min (more' + 1) (bound' + 1) - 1 - 1)
            (chainFrom inner root more (.key (.string key) :: steps))
            (chainFrom inner' root more' (.key (.string key) :: steps))
            fun _ back => Balanced false (.mark '.' :: .name key :: back) := by
          refine ((ih (.key (.string key) :: steps)).mono (by omega) (by omega)).imp ?_
          intro expr back hback
          exact .cons (mark_ne (by decide)) (by simp) (.cons (by simp) (by simp) hback)
        dsimp only
        by_cases hhidden : isHidden key = true
        · rw [if_pos hhidden, if_pos hhidden]
          refine (reads_lift (checkName key)).bind ?_
          rintro _ _ rfl
          exact hnext
        · rw [if_neg hhidden, if_neg hhidden]
          exact hnext
      | _ => exact Reads.malformed
  · refine (hinner.mono (by omega) (by omega)).bind ?_
    intro index front hindex
    refine reads_expectMark ?_
    refine ((ih (stepOf index :: steps)).mono (by omega) (by omega)).imp ?_
    intro expr back hback
    exact .group rfl hindex.1 hback
  · refine ((reads_bracketed hinner ')').mono (by omega) (by omega)).bind ?_
    rintro arguments _ ⟨body, rfl, hbody⟩
    have hgroup : Balanced false (.mark '(' :: body ++ [.mark ')']) := .group rfl hbody .nil
    refine Reads.pure ?_
    simpa using hgroup

theorem reads_wordExpr (word : String) :
    Reads (bound + 1) (bound' + 1) (wordExpr inner word) (wordExpr inner' word)
      fun _ front => Balanced false front := by
  unfold wordExpr
  by_cases htrue : word = "true"
  · rw [if_pos htrue, if_pos htrue]
    exact Reads.pure .nil
  rw [if_neg htrue, if_neg htrue]
  by_cases hfalse : word = "false"
  · rw [if_pos hfalse, if_pos hfalse]
    exact Reads.pure .nil
  rw [if_neg hfalse, if_neg hfalse]
  by_cases hnull : (decide (word = "null") || decide (word = "undefined")) = true
  · rw [if_pos hnull, if_pos hnull]
    exact Reads.pure .nil
  rw [if_neg hnull, if_neg hnull]
  refine (reads_lift (checkName word)).bind ?_
  intro _ front htaken
  subst htaken
  exact reads_remaining fun size size' => reads_chainFrom hinner word (size + 1) (size' + 1) []

theorem reads_primary : Reads (bound + 1) (bound' + 1) (primary inner) (primary inner')
    fun _ front => Balanced false front ∧ front ≠ [] := by
  refine reads_next.bind ?_
  intro lexeme? front htaken
  subst htaken
  split
  · exact Reads.pure ⟨.single (by simp) (by simp), List.cons_ne_nil _ _⟩
  · exact Reads.pure ⟨.single (by simp) (by simp), List.cons_ne_nil _ _⟩
  · refine (hinner.mono (by simp) (by simp)).bind ?_
    intro expr front hexpr
    refine reads_ifMark ?_ Reads.malformed
    exact Reads.pure ⟨.group rfl hexpr.1 .nil, List.cons_ne_nil _ _⟩
  · refine ((reads_bracketed hinner ']').mono (by simp) (by simp)).bind ?_
    rintro items _ ⟨body, rfl, hbody⟩
    have hgroup : Balanced false (.mark '[' :: body ++ [.mark ']']) := .group rfl hbody .nil
    exact Reads.pure ⟨by simpa using hgroup, List.cons_ne_nil _ _⟩
  · refine reads_remaining fun size size' => ?_
    refine ((reads_membersUpTo hinner (size + 1) (size' + 1)).mono (by simp) (by simp)).bind ?_
    rintro members _ ⟨body, rfl, hbody⟩
    have hgroup : Balanced false (.mark '\x7b' :: body ++ [.mark '\x7d']) := .group rfl hbody .nil
    exact Reads.pure ⟨by simpa using hgroup, List.cons_ne_nil _ _⟩
  · refine ((reads_wordExpr hinner _).mono (by simp) (by simp)).imp ?_
    intro expr back hback
    exact ⟨.cons (by simp) (by simp) hback, List.cons_ne_nil _ _⟩
  · exact Reads.malformed
  · exact Reads.malformed
  · exact Reads.malformed

theorem reads_filterCall : Reads (bound + 1) (bound' + 1) (filterCall filters inner)
    (filterCall filters inner') fun _ front => Balanced false front := by
  refine reads_next.bind ?_
  intro lexeme? front htaken
  subst htaken
  split
  · rename_i name
    refine reads_ifMark ?_ (Reads.pure (.single (by simp) (by simp)))
    refine ((reads_bracketed hinner ')').mono (by simp) (by simp)).bind ?_
    rintro arguments _ ⟨body, rfl, hbody⟩
    have hgroup : Balanced false (.mark '(' :: body ++ [.mark ')']) := .group rfl hbody .nil
    have hcall : Balanced false (.name name :: (.mark '(' :: body ++ [.mark ')'])) :=
      .cons (by simp) (by simp) hgroup
    exact Reads.pure (by simpa using hcall)
  · exact Reads.malformed

theorem reads_filterCalls (more more' : Nat) : Reads (min more (bound + 1)) (min more' (bound' + 1))
    (filterCalls filters inner more) (filterCalls filters inner' more')
    fun _ front => Balanced true front := by
  refine Reads.upTo (p := fun more _ => filterCalls filters inner more)
    (q := fun more _ => filterCalls filters inner' more) ?_ more more' ()
  intro more more' _ ih
  rw [filterCalls, filterCalls]
  refine reads_ifMark ?_ (Reads.pure .nil)
  refine ((reads_filterCall hinner).mono (by omega) (by omega)).bind ?_
  intro call front hcall
  refine ((ih ()).mono (by omega) (by omega)).bind ?_
  intro calls back hcalls
  have hback : Balanced true (.mark '|' :: (front ++ back)) :=
    .cons (mark_ne (by decide)) (fun _ => rfl) (hcall.mono.append hcalls)
  exact Reads.pure (by simpa using hback)

theorem reads_filtered : Reads (bound + 1) (bound' + 1) (filtered filters inner) (filtered filters inner')
    fun _ front => IsOperand front := by
  refine (reads_primary hinner).bind ?_
  intro base front hbase
  refine reads_remaining fun size size' => ?_
  refine ((reads_filterCalls hinner (size + 1) (size' + 1)).mono (by omega) (by omega)).bind ?_
  intro calls back hback
  have hoperand : IsOperand front := ⟨hbase.1.mono, hbase.2⟩
  have hfront : IsOperand (front ++ (back ++ [])) := hoperand.append (by simpa using hback)
  cases calls with
  | nil => exact Reads.pure hfront
  | cons call calls => exact Reads.pure hfront

theorem reads_comparison : Reads (bound + 1) (bound' + 1) (comparison filters inner)
    (comparison filters inner') fun _ front => IsOperand front := by
  rw [comparison_eq, comparison_eq]
  refine (reads_filtered hinner).bind ?_
  intro left front hleft
  refine reads_acceptComparison.bind ?_
  intro op? middle hmiddle
  cases op? with
  | some op =>
    refine ((reads_filtered hinner).mono (by omega) (by omega)).bind ?_
    intro right back hright
    refine Reads.pure (hleft.append (hmiddle.append ?_))
    simpa using hright.1
  | none => exact Reads.pure (hleft.append (by simpa using hmiddle))

theorem reads_negation (more more' : Nat) : Reads (min (more + 1) (bound + 1)) (min (more' + 1) (bound' + 1))
    (negation filters inner more) (negation filters inner' more') fun _ front => IsOperand front := by
  induction more generalizing more' with
  | zero =>
    intro lexemes a rest hlength hrun
    obtain ⟨front, hsplit, htaken, -⟩ := reads_comparison hinner lexemes a rest (by omega) hrun
    have hpos : 0 < front.length := List.length_pos_iff.mpr htaken.2
    rw [hsplit, List.length_append] at hlength
    omega
  | succ more ih =>
    have hstep : ∀ more', Reads (min (more + 1 + 1) (bound + 1)) (min (more' + 1 + 1) (bound' + 1))
        (negation filters inner (more + 1)) (negation filters inner' (more' + 1))
        fun _ front => IsOperand front := by
      intro more'
      rw [negation, negation]
      refine (reads_acceptEither .not "not").bind ?_
      rintro passed front ⟨hfront, hne⟩
      cases passed with
      | true =>
        have hpos : 0 < front.length := List.length_pos_iff.mpr (hne rfl)
        refine ((ih more').mono (by omega) (by omega)).bind ?_
        intro operand back hback
        have hboth : Balanced true (front ++ back) := hfront.mono.append hback.1
        refine Reads.pure ⟨by simpa using hboth, ?_⟩
        simp [hne]
      | false =>
        refine ((reads_comparison hinner).mono (by omega) (by omega)).imp ?_
        intro expr back hback
        refine ⟨hfront.mono.append hback.1, ?_⟩
        simp [hback.2]
    cases more' with
    | zero => exact ((hstep 0).one fun _ _ hfront => hfront.2).mono (by omega) (by omega)
    | succ more' => exact hstep more'

theorem reads_conjunction : Reads (bound + 1) (bound' + 1) (conjunction filters inner)
    (conjunction filters inner') fun _ front => IsOperand front := by
  have hoperand : Reads (bound + 1) (bound' + 1) (do negation filters inner (← remaining))
      (do negation filters inner' (← remaining)) fun _ front => IsOperand front :=
    reads_remaining fun size size' => reads_negation hinner size size'
  unfold conjunction
  refine hoperand.bind ?_
  intro left front hleft
  refine reads_remaining fun size size' => ?_
  refine ((reads_operandsFrom .and .and "and" hoperand size size' left).mono (by omega) (by omega)).imp ?_
  rintro expr back ⟨hback, -⟩
  exact hleft.append hback

theorem reads_disjunction : Reads (bound + 1) (bound' + 1) (disjunction filters inner)
    (disjunction filters inner') fun _ front => IsOperand front := by
  have hoperand : Reads (bound + 1) (bound' + 1) (conjunction filters inner) (conjunction filters inner')
      fun _ front => IsOperand front := reads_conjunction hinner
  unfold disjunction
  refine hoperand.bind ?_
  intro left front hleft
  refine reads_remaining fun size size' => ?_
  refine ((reads_operandsFrom .or .or "or" hoperand size size' left).mono (by omega) (by omega)).imp ?_
  rintro expr back ⟨hback, -⟩
  exact hleft.append hback

end Rules

theorem reads_upToDepth (filters : Filters) (depth depth' : Nat) :
    Reads depth depth' (upToDepth filters depth) (upToDepth filters depth')
      fun _ front => IsOperand front := by
  induction depth generalizing depth' with
  | zero => exact Reads.malformed
  | succ depth ih =>
    cases depth' with
    | zero => exact (reads_disjunction (ih 0)).zero
    | succ depth' => exact reads_disjunction (ih depth')

/-- A whole expression can be read in the place of one that is inside brackets. -/
theorem reads_expression (filters : Filters) (depth bound' : Nat) :
    Reads depth bound' (upToDepth filters depth) (expression filters) fun _ front => IsOperand front := by
  intro lexemes a rest hlength hrun
  obtain ⟨front, hsplit, htaken, -⟩ := reads_upToDepth filters depth 0 lexemes a rest hlength hrun
  refine ⟨front, hsplit, htaken, ?_⟩
  intro kept hleads _
  obtain ⟨front', hsplit', -, hkept⟩ :=
    reads_upToDepth filters depth ((front ++ kept).length + 1) lexemes a rest hlength hrun
  have hfront : front' = front := List.append_cancel_right (hsplit'.symm.trans hsplit)
  subst hfront
  exact run_bind_eq_ok.mpr ⟨_, _, rfl, hkept kept hleads (by omega)⟩

end Parser

end Stencil
