import Stencil.Proofs.Expr.Extent

/-!
Filter chains as expressions. The arguments of a call are a list of expressions by themselves, and what is
read with filters behind it is an expression by itself. A text whose lexemes have their brackets closed is
not cut at its pipes, if all of these stand inside brackets.
-/
namespace Stencil

/-- An expression with filters behind it, if there are any. -/
def Expr.through (base : Expr) : List FilterCall → Expr
  | [] => base
  | calls => .filtered base calls

namespace Parser

variable {filters : Filters} {lexemes rest : List Lexeme}

theorem acceptMark_eq_ok {c : Char} {passed : Bool} (h : (acceptMark c).run lexemes = .ok (passed, rest)) :
    lexemes = (if passed then [.mark c] else []) ++ rest := by
  obtain ⟨front, hsplit, rfl, -⟩ :=
    @reads_acceptMark (lexemes.length + 1) 0 c lexemes passed rest (by omega) h
  exact hsplit

theorem acceptEither_eq_ok {sign : Operator} {word : String}
    (h : (acceptEither sign word).run lexemes = .ok (false, rest)) : rest = lexemes := by
  obtain ⟨front, rfl, hfront, -⟩ :=
    @reads_accept (lexemes.length + 1) 0 _ lexemes false rest (by omega) h
  obtain rfl : front = [] := hfront
  rfl

theorem acceptMark_cons (c : Char) (rest : List Lexeme) :
    (acceptMark c).run (.mark c :: rest) = .ok (true, rest) := by
  change Except.ok (if Lexeme.isMark c (.mark c) then (true, rest) else (false, .mark c :: rest)) = _
  rw [if_pos (by simp [Lexeme.isMark])]

theorem run_unclosed {α : Type} {result : α × List Lexeme} (closer : Char) :
    (unclosed closer : Parser α).run lexemes ≠ .ok result := by
  unfold unclosed
  split
  · intro h
    cases h
  · intro h
    cases h

/-- Where items are read, something is left. -/
theorem run_unlessDone {α : Type} {closer : Char} {parser : Parser α} {result : α × List Lexeme}
    (h : (isDone >>= fun done => if done then unclosed closer else parser).run lexemes = .ok result) :
    parser.run lexemes = .ok result := by
  cases lexemes with
  | nil => exact absurd h (run_unclosed closer)
  | cons lexeme lexemes => exact h

/-- The next item of a list, with a comma and more items behind it. -/
theorem expressionsUpTo_comma {more : Nat} {item : Expr} {items : List Expr} (hne : lexemes ≠ [])
    (hitem : (expression filters).run lexemes = .ok (item, .mark ',' :: rest))
    (hitems : (expressionsUpTo filters more).run rest = .ok (items, [])) :
    (expressionsUpTo filters (more + 1)).run lexemes = .ok (item :: items, []) := by
  obtain ⟨first, lexemes, rfl⟩ := List.exists_cons_of_ne_nil hne
  rw [expressionsUpTo]
  refine run_bind_eq_ok.mpr ⟨false, first :: lexemes, rfl, ?_⟩
  refine run_bind_eq_ok.mpr ⟨item, .mark ',' :: rest, hitem, ?_⟩
  refine run_bind_eq_ok.mpr ⟨true, rest, acceptMark_cons ',' rest, ?_⟩
  exact run_bind_eq_ok.mpr ⟨items, [], hitems, rfl⟩

theorem expressionsUpTo_last {item : Expr} (more : Nat) (hne : lexemes ≠ [])
    (hitem : (expression filters).run lexemes = .ok (item, [])) :
    (expressionsUpTo filters (more + 1)).run lexemes = .ok ([item], []) := by
  obtain ⟨first, lexemes, rfl⟩ := List.exists_cons_of_ne_nil hne
  rw [expressionsUpTo]
  refine run_bind_eq_ok.mpr ⟨false, first :: lexemes, rfl, ?_⟩
  exact run_bind_eq_ok.mpr ⟨item, [], hitem, rfl⟩

/-- A list of items ends, goes on behind a comma, or has one item left. -/
theorem itemsUpTo_eq_ok {inner : Parser Expr} {more : Nat} {closer : Char} {items : List Expr}
    (h : (itemsUpTo inner closer (more + 1)).run lexemes = .ok (items, rest)) :
    lexemes = .mark closer :: rest ∧ items = [] ∨
      ∃ item middle, inner.run lexemes = .ok (item, middle) ∧
        ((∃ after items', middle = .mark ',' :: after ∧
            (itemsUpTo inner closer more).run after = .ok (items', rest) ∧ items = item :: items') ∨
          middle = .mark closer :: rest ∧ items = [item]) := by
  rw [itemsUpTo] at h
  obtain ⟨passed, between, hclosed, hrest⟩ := run_bind_eq_ok.mp h
  have hsplit := acceptMark_eq_ok hclosed
  cases passed with
  | true =>
    cases hrest
    exact Or.inl ⟨hsplit, rfl⟩
  | false =>
    obtain rfl : lexemes = between := hsplit
    rw [if_neg Bool.false_ne_true] at hrest
    obtain ⟨item, middle, hitem, hbehind⟩ := run_bind_eq_ok.mp (run_unlessDone hrest)
    refine Or.inr ⟨item, middle, hitem, ?_⟩
    obtain ⟨passed, between, hcomma, hitems⟩ := run_bind_eq_ok.mp hbehind
    have hsplit := acceptMark_eq_ok hcomma
    cases passed with
    | true =>
      obtain ⟨items', after, hitems', hpair⟩ := run_bind_eq_ok.mp hitems
      cases hpair
      exact Or.inl ⟨between, items', hsplit, hitems', rfl⟩
    | false =>
      obtain rfl : middle = between := hsplit
      obtain ⟨passed, after, hclosed, hpair⟩ := run_bind_eq_ok.mp hitems
      have hsplit := acceptMark_eq_ok hclosed
      cases passed with
      | false => exact absurd hpair (run_unclosed closer)
      | true =>
        cases hpair
        exact Or.inr ⟨hsplit, rfl⟩

/-- The items between brackets, read up to the end of the text between them. -/
theorem expressionsUpTo_of_itemsUpTo {depth more : Nat} {closer : Char} {items : List Expr}
    (hlength : lexemes.length < min more depth)
    (h : (itemsUpTo (upToDepth filters depth) closer more).run lexemes = .ok (items, rest)) :
    ∃ body, lexemes = body ++ .mark closer :: rest ∧ Balanced true body ∧
      ∀ more', body.length < more' → (expressionsUpTo filters more').run body = .ok (items, []) := by
  induction more generalizing lexemes items with
  | zero => omega
  | succ more ih =>
    rcases itemsUpTo_eq_ok h with ⟨hsplit, rfl⟩ | ⟨item, middle, hitem, hbehind⟩
    · refine ⟨[], hsplit, .nil, ?_⟩
      intro more' hmore
      cases more' with
      | zero => omega
      | succ more' => rfl
    · have hread := reads_expression filters depth (lexemes.length + 1)
      obtain ⟨front, rfl, hfront, hkept⟩ := hread lexemes item middle (by omega) hitem
      rw [List.length_append] at hlength hkept
      rcases hbehind with ⟨after, items', rfl, hitems', rfl⟩ | ⟨rfl, rfl⟩
      · rw [List.length_cons] at hlength hkept
        obtain ⟨body, rfl, hbody, hwhole⟩ := ih (by omega) hitems'
        refine ⟨front ++ .mark ',' :: body, by simp, ?_, ?_⟩
        · exact hfront.1.append (.cons (mark_ne (by decide)) (fun _ => rfl) hbody)
        · intro more' hmore
          cases more' with
          | zero => omega
          | succ more' =>
            have hexpr := hkept (.mark ',' :: body)
              (List.cons_prefix_cons.mpr ⟨rfl, List.prefix_append _ _⟩)
              (by simp only [List.length_append, List.length_cons]; omega)
            rw [List.length_append, List.length_cons] at hmore
            have hne : front ++ .mark ',' :: body ≠ [] := by simp
            exact expressionsUpTo_comma hne hexpr (hwhole more' (by omega))
      · refine ⟨front, rfl, hfront.1, ?_⟩
        intro more' hmore
        have hexpr := hkept [] List.nil_prefix (by rw [List.append_nil]; omega)
        rw [List.append_nil] at hexpr
        cases more' with
        | zero => omega
        | succ more' => exact expressionsUpTo_last more' hfront.2 hexpr

theorem expressions_of_bracketed {depth : Nat} {closer : Char} {items : List Expr}
    (hlength : lexemes.length < depth)
    (h : (bracketed (upToDepth filters depth) closer).run lexemes = .ok (items, rest)) :
    ∃ body, lexemes = body ++ .mark closer :: rest ∧ Balanced true body ∧
      (expressions filters).run body = .ok (items, []) := by
  obtain ⟨size, between, hsize, hitems⟩ := run_bind_eq_ok.mp h
  cases hsize
  obtain ⟨body, hsplit, hbody, hwhole⟩ := expressionsUpTo_of_itemsUpTo (by omega) hitems
  refine ⟨body, hsplit, hbody, ?_⟩
  exact run_bind_eq_ok.mpr ⟨body.length, body, rfl, hwhole (body.length + 1) (by omega)⟩

/-- A filter by its name, with the arguments it is given, if it is known. -/
def known (filters : Filters) (name : String) (arguments : List Expr) : Option FilterCall :=
  (Fields.get? filters name).map fun filter => .mk name filter arguments

/-- A filter is a name, or a name with a list of expressions in brackets. -/
inductive IsFilterCall (filters : Filters) : Option FilterCall → List Lexeme → Prop
  | plain (name : String) : IsFilterCall filters (known filters name []) [.name name]
  | call (name : String) {body : List Lexeme} {arguments : List Expr} (hbody : Balanced true body)
      (hread : (expressions filters).run body = .ok (arguments, [])) :
      IsFilterCall filters (known filters name arguments)
        (.name name :: .mark '(' :: (body ++ [.mark ')']))

theorem IsFilterCall.balanced {call : Option FilterCall} {front : List Lexeme}
    (h : IsFilterCall filters call front) : Balanced false front := by
  cases h with
  | plain name => exact .single (by simp) (by simp)
  | call name hbody hread => exact .cons (by simp) (by simp) (.group rfl hbody .nil)

theorem IsFilterCall.exists_name {call : Option FilterCall} {front : List Lexeme}
    (h : IsFilterCall filters call front) : ∃ name lexemes, front = .name name :: lexemes := by
  cases h with
  | plain name => exact ⟨name, [], rfl⟩
  | call name hbody hread => exact ⟨name, _, rfl⟩

theorem filterCall_eq_ok {depth : Nat} {call : Option FilterCall} (hlength : lexemes.length ≤ depth)
    (h : (filterCall filters (upToDepth filters depth)).run lexemes = .ok (call, rest)) :
    ∃ front, lexemes = front ++ rest ∧ IsFilterCall filters call front := by
  obtain ⟨lexeme?, between, hnext, hcall⟩ := run_bind_eq_ok.mp h
  cases hnext
  split at hcall
  · rename_i name hhead
    obtain ⟨more, rfl⟩ := List.head?_eq_some_iff.mp hhead
    obtain ⟨passed, between, hparen, hbehind⟩ := run_bind_eq_ok.mp hcall
    have hsplit := acceptMark_eq_ok hparen
    change more = _ at hsplit
    subst hsplit
    cases passed with
    | true =>
      obtain ⟨arguments, after, harguments, hpair⟩ := run_bind_eq_ok.mp hbehind
      cases hpair
      have hbetween : between.length < depth := by
        simp only [List.length_cons, if_true, List.cons_append, List.nil_append] at hlength
        omega
      obtain ⟨body, rfl, hbody, hread⟩ := expressions_of_bracketed hbetween harguments
      have hfront := IsFilterCall.call name hbody hread
      exact ⟨_, by simp, hfront⟩
    | false =>
      cases hbehind
      exact ⟨[.name name], rfl, .plain name⟩
  · cases hcall

section Whole

variable {inner : Parser Expr} {expr : Expr}

/-- No primary begins with a negation. -/
theorem accept_not_of_filtered {result : Expr × List Lexeme}
    (h : (filtered filters inner).run lexemes = .ok result) :
    (acceptEither .not "not").run lexemes = .ok (false, lexemes) := by
  obtain ⟨base, between, hbase, -⟩ := run_bind_eq_ok.mp h
  cases lexemes with
  | nil => rfl
  | cons lexeme lexemes =>
    cases lexeme with
    | operator op => cases hbase
    | name word =>
      by_cases hword : word = "not"
      · subst hword
        cases hbase
      · change Except.ok (if (Lexeme.name word).isOperator .not || (Lexeme.name word).isWord "not" then _
          else _) = _
        rw [if_neg (by simp [Lexeme.isOperator, Lexeme.isWord, hword])]
    | _ => rfl

theorem comparison_of_filtered (h : (filtered filters inner).run lexemes = .ok (expr, [])) :
    (comparison filters inner).run lexemes = .ok (expr, []) :=
  run_bind_eq_ok.mpr ⟨expr, [], h, rfl⟩

theorem negation_of_filtered (h : (filtered filters inner).run lexemes = .ok (expr, [])) (more : Nat) :
    (negation filters inner more).run lexemes = .ok (expr, []) := by
  cases more with
  | zero => exact comparison_of_filtered h
  | succ more =>
    exact run_bind_eq_ok.mpr ⟨false, lexemes, accept_not_of_filtered h, comparison_of_filtered h⟩

theorem operandsFrom_nil (op : BinaryOp) (sign : Operator) (word : String) (operand : Parser Expr)
    (more : Nat) (left : Expr) :
    (operandsFrom op (acceptEither sign word) operand more left).run [] = .ok (left, []) := by
  cases more <;> rfl

/-- What is read by the rule for filters up to the end is an expression. -/
theorem disjunction_of_filtered (h : (filtered filters inner).run lexemes = .ok (expr, [])) :
    (disjunction filters inner).run lexemes = .ok (expr, []) := by
  have hnegation : ∀ more, (negation filters inner more).run lexemes = .ok (expr, []) :=
    negation_of_filtered h
  have hconjunction : (conjunction filters inner).run lexemes = .ok (expr, []) := by
    refine run_bind_eq_ok.mpr ⟨expr, [], ?_, ?_⟩
    · exact run_bind_eq_ok.mpr ⟨lexemes.length, lexemes, rfl, hnegation lexemes.length⟩
    · exact run_bind_eq_ok.mpr ⟨0, [], rfl, operandsFrom_nil .and .and "and" _ 0 expr⟩
  refine run_bind_eq_ok.mpr ⟨expr, [], hconjunction, ?_⟩
  exact run_bind_eq_ok.mpr ⟨0, [], rfl, operandsFrom_nil .or .or "or" _ 0 expr⟩

/-- A primary up to the end has no filters. -/
theorem filtered_of_primary (h : (primary inner).run lexemes = .ok (expr, [])) :
    (filtered filters inner).run lexemes = .ok (expr, []) := by
  refine run_bind_eq_ok.mpr ⟨expr, [], h, ?_⟩
  exact run_bind_eq_ok.mpr ⟨0, [], rfl, run_bind_eq_ok.mpr ⟨[], [], rfl, rfl⟩⟩

/-- Operands give the first of them, or an operation. -/
theorem operandsFrom_eq_ok {op : BinaryOp} {sign : Operator} {word : String} {operand : Parser Expr}
    {more : Nat} {left : Expr}
    (h : (operandsFrom op (acceptEither sign word) operand more left).run lexemes = .ok (expr, rest)) :
    expr = left ∧ rest = lexemes ∨ ∃ first second, expr = .binary op first second := by
  induction more generalizing left lexemes with
  | zero =>
    cases h
    exact Or.inl ⟨rfl, rfl⟩
  | succ more ih =>
    rw [operandsFrom] at h
    obtain ⟨passed, between, haccept, hnext⟩ := run_bind_eq_ok.mp h
    cases passed with
    | true =>
      obtain ⟨right, middle, -, hrest⟩ := run_bind_eq_ok.mp hnext
      rcases ih hrest with ⟨rfl, -⟩ | hbinary
      · exact Or.inr ⟨left, right, rfl⟩
      · exact Or.inr hbinary
    | false =>
      cases hnext
      exact Or.inl ⟨rfl, acceptEither_eq_ok haccept⟩

theorem filtered_of_comparison {base : Expr} {calls : List FilterCall}
    (h : (comparison filters inner).run lexemes = .ok (.filtered base calls, rest)) :
    (filtered filters inner).run lexemes = .ok (.filtered base calls, rest) := by
  rw [comparison_eq] at h
  obtain ⟨left, between, hfiltered, hnext⟩ := run_bind_eq_ok.mp h
  obtain ⟨op?, middle, hop, hresult⟩ := run_bind_eq_ok.mp hnext
  cases op? with
  | some op =>
    obtain ⟨right, after, -, hpair⟩ := run_bind_eq_ok.mp hresult
    cases hpair
  | none =>
    cases hresult
    rw [acceptComparison_run] at hop
    cases hfront : comparisonAtFront? between with
    | some pair =>
      rw [hfront] at hop
      cases hop
    | none =>
      rw [hfront] at hop
      cases hop
      exact hfiltered

theorem filtered_of_negation {base : Expr} {calls : List FilterCall} {more : Nat}
    (h : (negation filters inner more).run lexemes = .ok (.filtered base calls, rest)) :
    (filtered filters inner).run lexemes = .ok (.filtered base calls, rest) := by
  cases more with
  | zero => exact filtered_of_comparison h
  | succ more =>
    obtain ⟨passed, between, haccept, hnext⟩ := run_bind_eq_ok.mp h
    cases passed with
    | true =>
      obtain ⟨operand, after, -, hpair⟩ := run_bind_eq_ok.mp hnext
      cases hpair
    | false =>
      obtain rfl := acceptEither_eq_ok haccept
      exact filtered_of_comparison hnext

/-- No rule above the one for filters gives an expression with filters of its own. -/
theorem filtered_of_disjunction {base : Expr} {calls : List FilterCall}
    (h : (disjunction filters inner).run lexemes = .ok (.filtered base calls, rest)) :
    (filtered filters inner).run lexemes = .ok (.filtered base calls, rest) := by
  obtain ⟨left, between, hconjunction, hor⟩ := run_bind_eq_ok.mp h
  obtain ⟨size, between', hsize, hor'⟩ := run_bind_eq_ok.mp hor
  cases hsize
  rcases operandsFrom_eq_ok hor' with ⟨rfl, rfl⟩ | ⟨first, second, hbinary⟩
  · obtain ⟨left, between, hoperand, hand⟩ := run_bind_eq_ok.mp hconjunction
    obtain ⟨size, between', hsize, hand'⟩ := run_bind_eq_ok.mp hand
    cases hsize
    rcases operandsFrom_eq_ok hand' with ⟨rfl, rfl⟩ | ⟨first, second, hbinary⟩
    · obtain ⟨size, between', hsize, hnegation⟩ := run_bind_eq_ok.mp hoperand
      cases hsize
      exact filtered_of_negation hnegation
    · cases hbinary
  · cases hbinary

/-- What the rule for filters reads: an expression by itself, and filters. -/
theorem filtered_eq_ok {depth : Nat} (hlength : lexemes.length ≤ depth)
    (h : (filtered filters (upToDepth filters depth)).run lexemes = .ok (expr, [])) :
    ∃ base calls front rest, lexemes = front ++ rest ∧ (Balanced false front ∧ front ≠ []) ∧
      (expression filters).run front = .ok (base, []) ∧
      (filterCalls filters (upToDepth filters depth) (rest.length + 1)).run rest = .ok (calls, []) ∧
      expr = base.through calls := by
  obtain ⟨base, rest, hprimary, hbehind⟩ := run_bind_eq_ok.mp h
  obtain ⟨size, between, hsize, hmatch⟩ := run_bind_eq_ok.mp hbehind
  cases hsize
  obtain ⟨calls, after, hcalls, hexpr⟩ := run_bind_eq_ok.mp hmatch
  have hread : ∀ size, Reads (depth + 1) (size + 1) (primary (upToDepth filters depth))
      (primary (upToDepth filters size)) fun _ front => Balanced false front ∧ front ≠ [] := fun size =>
    reads_primary (reads_upToDepth filters depth size)
  obtain ⟨front, rfl, hfront, -⟩ := hread 0 lexemes base rest (by omega) hprimary
  obtain ⟨front', hsplit, -, hkept⟩ := hread front.length _ base rest (by omega) hprimary
  obtain rfl := List.append_cancel_right hsplit
  have halone := hkept [] List.nil_prefix (by simp)
  rw [List.append_nil] at halone
  have hbase : (expression filters).run front = .ok (base, []) :=
    run_bind_eq_ok.mpr ⟨_, _, rfl, disjunction_of_filtered (filtered_of_primary halone)⟩
  refine ⟨base, calls, front, rest, rfl, hfront, hbase, ?_⟩
  cases calls with
  | nil =>
    cases hexpr
    exact ⟨hcalls, rfl⟩
  | cons call calls =>
    cases hexpr
    exact ⟨hcalls, rfl⟩

end Whole

section Texts

variable {α : Type} {parser : Parser α} {a : α} {text : List Char}

theorem finish_eq_ok {result : Unit × List Lexeme} (h : finish.run lexemes = .ok result) : lexemes = [] := by
  cases lexemes with
  | nil => rfl
  | cons lexeme lexemes =>
    obtain ⟨next?, between, hpeek, hnext⟩ := run_bind_eq_ok.mp h
    cases hpeek
    split at hnext
    · rename_i heq
      cases heq
    · cases hnext
    · cases hnext

/-- A text is read where its lexemes are, up to the last one. -/
theorem runOn_eq_ok : parser.runOn text = .ok a ↔
    ∃ lexemes, Lexeme.listFrom false text = .ok lexemes ∧ parser.run lexemes = .ok (a, []) := by
  unfold runOn Lexeme.ofText
  cases Lexeme.listFrom false text with
  | error fault =>
    constructor
    · intro h
      cases fault <;> cases h
    · rintro ⟨lexemes, ⟨⟩, -⟩
  | ok lexemes =>
    change ((do let result ← parser; finish; return result : Parser α).run lexemes >>=
      fun pair => Except.ok pair.1) = .ok a ↔ _
    constructor
    · intro h
      obtain ⟨⟨b, rest⟩, hrun, hpair⟩ := bind_eq_ok.mp h
      cases hpair
      obtain ⟨b, between, hparser, hfinish⟩ := run_bind_eq_ok.mp hrun
      obtain ⟨_, after, hdone, hpair⟩ := run_bind_eq_ok.mp hfinish
      cases hpair
      obtain rfl := finish_eq_ok hdone
      exact ⟨lexemes, rfl, hparser⟩
    · rintro ⟨_, ⟨⟩, hparser⟩
      have hrun : (do let result ← parser; finish; return result : Parser α).run lexemes = .ok (a, []) :=
        run_bind_eq_ok.mpr ⟨a, [], hparser, rfl⟩
      exact bind_eq_ok.mpr ⟨(a, []), hrun, rfl⟩

end Texts

end Parser

namespace Expr

/-- A text read by the rule for filters alone: a primary, and filters that apply to all before them. -/
def chainOfText (filters : Filters) (text : List Char) : Except Complaint Expr :=
  Parser.runOn (do Parser.filtered filters (Parser.upToDepth filters (← Parser.remaining))) text

/-- A text in which no filter stands behind an operand of something else: one that has no pipe outside of
brackets, or one in which each filter applies to all before it. -/
def BindsWhole (filters : Filters) (text : List Char) : Prop :=
  Source.IsWhole text ∨ ∃ expr, chainOfText filters text = .ok expr

variable {filters : Filters} {text : List Char} {expr : Expr}

theorem ofText_of_chainOfText (h : chainOfText filters text = .ok expr) : ofText filters text = .ok expr := by
  obtain ⟨lexemes, hlist, hrun⟩ := Parser.runOn_eq_ok.mp h
  obtain ⟨size, between, hsize, hfiltered⟩ := Parser.run_bind_eq_ok.mp hrun
  cases hsize
  refine Parser.runOn_eq_ok.mpr ⟨lexemes, hlist, ?_⟩
  exact Parser.run_bind_eq_ok.mpr ⟨lexemes.length, lexemes, rfl, Parser.disjunction_of_filtered hfiltered⟩

/-- An expression with filters of its own is a chain. -/
theorem chainOfText_of_ofText {base : Expr} {calls : List FilterCall}
    (h : ofText filters text = .ok (.filtered base calls)) :
    chainOfText filters text = .ok (.filtered base calls) := by
  obtain ⟨lexemes, hlist, hrun⟩ := Parser.runOn_eq_ok.mp h
  obtain ⟨size, between, hsize, hexpression⟩ := Parser.run_bind_eq_ok.mp hrun
  cases hsize
  refine Parser.runOn_eq_ok.mpr ⟨lexemes, hlist, ?_⟩
  exact Parser.run_bind_eq_ok.mpr ⟨_, _, rfl, Parser.filtered_of_disjunction hexpression⟩

end Expr

end Stencil
