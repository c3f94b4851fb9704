import Stencil.Proofs.Expr.Grammar

/-!
What is read is derived. Each rule of the reader takes lexemes from the front that derive its result, if
the reader of what is inside brackets does so.
-/
namespace Stencil

namespace Parser

variable {α β : Type} {p : Parser α} {T U : α → List Lexeme → Prop} {filters : Filters}

/-- What the parser takes from the front of the lexemes is as the predicate says. -/
def Takes (p : Parser α) (T : α → List Lexeme → Prop) : Prop :=
  ∀ lexemes a rest, p.run lexemes = .ok (a, rest) → ∃ front, lexemes = front ++ rest ∧ T a front

namespace Takes

theorem of_reads (h : ∀ bound, Reads bound 0 p p T) : Takes p T := by
  intro lexemes a rest hrun
  obtain ⟨front, hsplit, htaken, -⟩ := h (lexemes.length + 1) lexemes a rest (by omega) hrun
  exact ⟨front, hsplit, htaken⟩

theorem imp (h : Takes p T) (hT : ∀ a front, T a front → U a front) : Takes p U := by
  intro lexemes a rest hrun
  obtain ⟨front, hsplit, htaken⟩ := h lexemes a rest hrun
  exact ⟨front, hsplit, hT a front htaken⟩

theorem bind {next : α → Parser β} {V : β → List Lexeme → Prop} (h : Takes p T)
    (hnext : ∀ a front, T a front → Takes (next a) fun b back => V b (front ++ back)) :
    Takes (p >>= next) V := by
  intro lexemes b rest hrun
  obtain ⟨a, between, hfirst, hsecond⟩ := run_bind_eq_ok.mp hrun
  obtain ⟨front, rfl, hfront⟩ := h lexemes a between hfirst
  obtain ⟨back, rfl, hback⟩ := hnext a front hfront between b rest hsecond
  exact ⟨front ++ back, (List.append_assoc _ _ _).symm, hback⟩

theorem pure {a : α} (h : T a []) : Takes (pure a) T := of_reads fun _ => Reads.pure h

theorem malformed {message : String} : Takes (malformed message) T := of_reads fun _ => Reads.malformed

theorem unclosed (closer : Char) : Takes (unclosed closer) T := of_reads fun _ => reads_unclosed closer

/-- To look how much is left takes nothing. -/
theorem remaining {next : Nat → Parser α} (h : ∀ size, Takes (next size) T) :
    Takes (remaining >>= next) T := by
  intro lexemes a rest hrun
  obtain ⟨size, between, hsize, hnext⟩ := run_bind_eq_ok.mp hrun
  cases hsize
  exact h lexemes.length lexemes a rest hnext

theorem unlessDone {closer : Char} (h : Takes p T) :
    Takes (isDone >>= fun done => if done then Parser.unclosed closer else p) T := by
  intro lexemes a rest hrun
  exact h lexemes a rest (run_unlessDone hrun)

/-- A test for a mark, with and without it. -/
theorem ifMark {c : Char} {next : Bool → Parser α}
    (htrue : Takes (next true) fun a back => T a (.mark c :: back)) (hfalse : Takes (next false) T) :
    Takes (acceptMark c >>= next) T := by
  refine (of_reads fun _ => reads_acceptMark c).bind ?_
  rintro passed front rfl
  cases passed with
  | true => exact htrue
  | false => exact hfalse

theorem expectMark {c : Char} {next : Parser α}
    (h : Takes next fun a back => T a (.mark c :: back)) : Takes (expectMark c >>= fun _ => next) T := by
  have hexpect : Takes (Parser.expectMark c) fun _ front => front = [.mark c] :=
    ifMark (pure rfl) malformed
  refine hexpect.bind ?_
  rintro _ front rfl
  exact h

/-- A test for an operator, with and without it. -/
theorem ifSign {op : Operator} {word : String} {next : Bool → Parser α}
    (htrue : ∀ sign : Lexeme, sign.IsSign op word → Takes (next true) fun a back => T a (sign :: back))
    (hfalse : Takes (next false) T) : Takes (acceptEither op word >>= next) T := by
  refine (of_reads fun _ => reads_accept _).bind ?_
  intro passed front hfront
  cases passed with
  | true =>
    obtain ⟨sign, rfl, htest⟩ := hfront
    refine htrue sign ?_
    cases sign with
    | operator other => exact Or.inl (by simpa [Lexeme.isOperator, Lexeme.isWord] using htest)
    | name text => exact Or.inr (by simpa [Lexeme.isOperator, Lexeme.isWord] using htest)
    | _ => simp [Lexeme.isOperator, Lexeme.isWord] at htest
  | false =>
    obtain rfl : front = [] := hfront
    exact hfalse

/-- The next lexeme. -/
theorem next {next : Option Lexeme → Parser α} (hnone : Takes (next none) T)
    (hsome : ∀ lexeme, Takes (next (some lexeme)) fun a back => T a (lexeme :: back)) :
    Takes (Parser.next >>= next) T := by
  refine (of_reads fun _ => reads_next).bind ?_
  rintro (_ | lexeme) front rfl
  · exact hnone
  · exact hsome lexeme

/-- A check takes nothing, and what follows it can rely on it. -/
theorem check {result : Except Complaint Unit} {next : Parser α} (h : result = .ok () → Takes next T) :
    Takes (liftM result >>= fun _ => next) T := by
  intro lexemes a rest hrun
  obtain ⟨_, between, hcheck, hnext⟩ := run_bind_eq_ok.mp hrun
  cases result with
  | error complaint => cases hcheck
  | ok _ =>
    cases hcheck
    exact h rfl lexemes a rest hnext

end Takes

/-- A comparison at the front is one of the table. -/
theorem mem_comparisonSigns {lexemes rest : List Lexeme} {op : BinaryOp}
    (h : comparisonAtFront? lexemes = some (op, rest)) :
    ∃ signs, lexemes = signs ++ rest ∧ (signs, op) ∈ comparisonSigns := by
  unfold comparisonAtFront? at h
  split at h
  · rename_i sign rest'
    obtain ⟨op', hop, hpair⟩ := Option.map_eq_some_iff.mp h
    cases hpair
    refine ⟨[.operator sign], rfl, ?_⟩
    cases sign <;> cases hop <;> simp [comparisonSigns]
  · rename_i first rest'
    by_cases hin : first = "in"
    · subst hin
      cases h
      exact ⟨[.name "in"], rfl, by simp [comparisonSigns]⟩
    · rw [if_neg hin] at h
      split at h
      · rename_i hnot
        obtain ⟨hfirst, hsecond⟩ := (Bool.and_eq_true _ _).mp hnot
        obtain rfl := of_decide_eq_true hfirst
        cases rest' with
        | nil => cases hsecond
        | cons second rest' =>
          cases h
          cases second with
          | name word =>
            obtain rfl : word = "in" := by simpa [Lexeme.isWord] using hsecond
            exact ⟨[.name "not", .name "in"], rfl, by simp [comparisonSigns]⟩
          | _ => cases hsecond
      · cases h
  · cases h

theorem takes_acceptComparison : Takes acceptComparison fun op? front =>
    match op? with
    | some op => (front, op) ∈ comparisonSigns
    | none => front = [] := by
  intro lexemes op? rest hrun
  rw [acceptComparison_run] at hrun
  cases hfront : comparisonAtFront? lexemes with
  | some pair =>
    obtain ⟨op, rest'⟩ := pair
    rw [hfront] at hrun
    cases hrun
    exact mem_comparisonSigns hfront
  | none =>
    rw [hfront] at hrun
    cases hrun
    exact ⟨[], rfl, rfl⟩

theorem takes_memberKey :
    Takes memberKey fun key front => ∃ lexeme, front = [lexeme] ∧ lexeme.IsMemberKey key := by
  refine Takes.next Takes.malformed ?_
  intro lexeme
  cases lexeme with
  | name key => exact Takes.pure ⟨_, rfl, .name key⟩
  | literal key => exact Takes.pure ⟨_, rfl, .literal key⟩
  | number value => exact Takes.pure ⟨_, rfl, .number value⟩
  | _ => exact Takes.malformed

theorem nameFault?_of_checkName {name : String} (h : checkName name = .ok ()) : nameFault? name = none := by
  unfold checkName at h
  split at h
  · cases h
  · assumption

theorem isHidden_of_nameFault? {name : String} (h : nameFault? name = none) : isHidden name = false := by
  unfold nameFault? at h
  split at h
  · cases h
  · rename_i hhidden
    exact Bool.not_eq_true _ ▸ hhidden

/-- A key in brackets is known if it is a literal. -/
theorem derives_step {front inside : List Lexeme} {root : String} {steps : List Step} {index : Expr}
    (h : Derives filters .access front (.path root steps))
    (hindex : Derives filters .disjunction inside index) :
    Derives filters .access (front ++ .mark '[' :: (inside ++ [.mark ']']))
      (.path root (steps ++ [stepOf index])) := by
  cases index with
  | literal key => exact .key h hindex
  | _ => exact .index h hindex (by simp)

section Rules

variable {inner : Parser Expr}
  (hinner : Takes inner fun expr front => Derives filters .disjunction front expr)

include hinner

/-- Items with their closer. -/
theorem takes_itemsUpTo (closer : Char) (more : Nat) :
    Takes (itemsUpTo inner closer more) fun items front =>
      ∃ inside, front = inside ++ [.mark closer] ∧ DerivesItems filters inside items := by
  induction more with
  | zero => exact Takes.unclosed closer
  | succ more ih =>
    rw [itemsUpTo]
    refine Takes.ifMark (Takes.pure ⟨[], rfl, .nil⟩) (Takes.unlessDone ?_)
    refine hinner.bind ?_
    intro item front hitem
    refine Takes.ifMark ?_ (Takes.ifMark ?_ (Takes.unclosed closer))
    · refine ih.bind ?_
      rintro items _ ⟨inside, rfl, hitems⟩
      exact Takes.pure ⟨front ++ .mark ',' :: inside, by simp, .cons hitem hitems⟩
    · exact Takes.pure ⟨front, rfl, .last hitem⟩

theorem takes_bracketed (closer : Char) : Takes (bracketed inner closer) fun items front =>
    ∃ inside, front = inside ++ [.mark closer] ∧ DerivesItems filters inside items :=
  Takes.remaining fun size => takes_itemsUpTo hinner closer (size + 1)

/-- Members with the closing brace. -/
theorem takes_membersUpTo (more : Nat) : Takes (membersUpTo inner more) fun members front =>
    ∃ inside, front = inside ++ [.mark '\x7d'] ∧ DerivesMembers filters inside members := by
  induction more with
  | zero => exact Takes.malformed
  | succ more ih =>
    rw [membersUpTo]
    refine Takes.ifMark (Takes.pure ⟨[], rfl, .nil⟩) (takes_memberKey.bind ?_)
    rintro key _ ⟨lexeme, rfl, hkey⟩
    refine Takes.expectMark (hinner.bind ?_)
    intro value front hvalue
    refine Takes.ifMark ?_ (Takes.expectMark ?_)
    · refine ih.bind ?_
      rintro members _ ⟨inside, rfl, hmembers⟩
      exact Takes.pure ⟨lexeme :: .mark ':' :: (front ++ .mark ',' :: inside), by simp,
        .cons hkey hvalue hmembers⟩
    · exact Takes.pure ⟨lexeme :: .mark ':' :: front, by simp, .last hkey hvalue⟩

/-- The rest of an access chain, or of a call, goes on with the chain. -/
theorem takes_chainFrom (root : String) (more : Nat) {front : List Lexeme} {steps : List Step}
    (h : Derives filters .access front (.path root steps.reverse)) :
    Takes (chainFrom inner root more steps)
      fun expr back => Derives filters .primary (front ++ back) expr := by
  induction more generalizing front steps with
  | zero => exact Takes.pure ((List.append_nil front).symm ▸ .access h)
  | succ more ih =>
    have hstep : ∀ {step : Step} {taken : List Lexeme},
        Derives filters .access (front ++ taken) (.path root (steps.reverse ++ [step])) →
        Takes (chainFrom inner root more (step :: steps))
          fun expr back => Derives filters .primary (front ++ (taken ++ back)) expr := by
      intro step taken htaken
      rw [← List.reverse_cons] at htaken
      exact (ih htaken).imp fun expr back hback => List.append_assoc _ _ _ ▸ hback
    rw [chainFrom]
    refine Takes.ifMark ?_ (Takes.ifMark ?_ (Takes.ifMark ?_ ?_))
    · refine Takes.next Takes.malformed ?_
      intro lexeme
      cases lexeme with
      | name key =>
        dsimp only
        by_cases hhidden : isHidden key = true
        · rw [if_pos hhidden]
          refine Takes.check fun hcheck => ?_
          exact hstep (.property h (isHidden_of_nameFault? (nameFault?_of_checkName hcheck)))
        · rw [if_neg hhidden]
          exact hstep (.property h (Bool.not_eq_true _ ▸ hhidden))
      | _ => exact Takes.malformed
    · refine hinner.bind ?_
      intro index inside hindex
      refine Takes.expectMark ((hstep (derives_step h hindex)).imp ?_)
      intro expr back hback
      simpa using hback
    · refine (takes_bracketed hinner ')').bind ?_
      rintro arguments _ ⟨inside, rfl, harguments⟩
      exact Takes.pure (by simpa using Derives.call h harguments)
    · exact Takes.pure ((List.append_nil front).symm ▸ .access h)

theorem takes_wordExpr (word : String) :
    Takes (wordExpr inner word) fun expr back => Derives filters .primary (.name word :: back) expr := by
  unfold wordExpr
  by_cases htrue : word = "true"
  · rw [if_pos htrue]
    exact Takes.pure (.literal (by simp [literalNames, htrue]))
  rw [if_neg htrue]
  by_cases hfalse : word = "false"
  · rw [if_pos hfalse]
    exact Takes.pure (.literal (by simp [literalNames, hfalse]))
  rw [if_neg hfalse]
  by_cases hnull : word = "null" ∨ word = "undefined"
  · rw [if_pos (by simpa using hnull)]
    exact Takes.pure (.literal (by simpa [literalNames] using hnull))
  rw [if_neg (by simpa using hnull)]
  refine Takes.check fun hcheck => ?_
  have hword : IsVariable word := ⟨nameFault?_of_checkName hcheck, by simp [htrue, hfalse, hnull]⟩
  have hstart : Derives filters .access [.name word] (.path word [].reverse) := .variable hword
  exact Takes.remaining fun size => takes_chainFrom hinner word (size + 1) hstart

theorem takes_primary : Takes (primary inner) fun expr front => Derives filters .primary front expr := by
  refine Takes.next Takes.malformed ?_
  intro lexeme
  split
  · rename_i value heq
    cases heq
    exact Takes.pure (.number value)
  · rename_i text heq
    cases heq
    exact Takes.pure (.text text)
  · rename_i heq
    cases heq
    refine hinner.bind ?_
    intro expr inside hexpr
    exact Takes.ifMark (Takes.pure (.group hexpr)) Takes.malformed
  · rename_i heq
    cases heq
    refine (takes_bracketed hinner ']').bind ?_
    rintro items _ ⟨inside, rfl, hitems⟩
    exact Takes.pure ((List.append_nil _).symm ▸ .array hitems)
  · rename_i heq
    cases heq
    refine Takes.remaining fun size => (takes_membersUpTo hinner (size + 1)).bind ?_
    rintro members _ ⟨inside, rfl, hmembers⟩
    exact Takes.pure ((List.append_nil _).symm ▸ .object hmembers)
  · rename_i word heq
    cases heq
    exact takes_wordExpr hinner word
  · exact Takes.malformed
  · exact Takes.malformed
  · exact Takes.malformed

/-- A filter, with the pipe before it, comes before other filters. -/
theorem takes_filterCall : Takes (filterCall filters inner) fun call? front =>
    ∀ {rest : List Lexeme} {calls : List FilterCall}, DerivesCalls filters rest calls →
      DerivesCalls filters (.mark '|' :: (front ++ rest)) (call?.toList ++ calls) := by
  refine Takes.next Takes.malformed ?_
  intro lexeme
  split
  · rename_i name heq
    cases heq
    refine Takes.ifMark ?_ (Takes.pure fun hrest => .plain hrest)
    refine (takes_bracketed hinner ')').bind ?_
    rintro arguments _ ⟨inside, rfl, harguments⟩
    refine Takes.pure fun hrest => ?_
    have hcalls := @DerivesCalls.call filters name _ _ _ _ harguments hrest
    simpa [known] using hcalls
  · exact Takes.malformed

theorem takes_filterCalls (more : Nat) :
    Takes (filterCalls filters inner more) fun calls front => DerivesCalls filters front calls := by
  induction more with
  | zero => exact Takes.pure .nil
  | succ more ih =>
    rw [filterCalls]
    refine Takes.ifMark ((takes_filterCall hinner).bind ?_) (Takes.pure .nil)
    intro call? front hcall
    refine ih.bind ?_
    intro calls back hcalls
    exact Takes.pure (by simpa using hcall hcalls)

theorem takes_filtered :
    Takes (filtered filters inner) fun expr front => Derives filters .filtered front expr := by
  refine (takes_primary hinner).bind ?_
  intro base front hbase
  refine Takes.remaining fun size => (takes_filterCalls hinner (size + 1)).bind ?_
  intro calls back hcalls
  have hfiltered := Derives.filters hbase hcalls
  cases calls with
  | nil => exact Takes.pure ((List.append_nil back).symm ▸ hfiltered)
  | cons call calls => exact Takes.pure ((List.append_nil back).symm ▸ hfiltered)

theorem takes_comparison :
    Takes (comparison filters inner) fun expr front => Derives filters .comparison front expr := by
  rw [comparison_eq]
  refine (takes_filtered hinner).bind ?_
  intro left front hleft
  refine takes_acceptComparison.bind ?_
  intro op? signs hop
  cases op? with
  | some op =>
    refine (takes_filtered hinner).bind ?_
    intro right back hright
    exact Takes.pure (by simpa using Derives.compare hleft hop hright)
  | none =>
    obtain rfl : signs = [] := hop
    exact Takes.pure (by simpa using Derives.filtered hleft)

theorem takes_negation (more : Nat) :
    Takes (negation filters inner more) fun expr front => Derives filters .negation front expr := by
  induction more with
  | zero => exact (takes_comparison hinner).imp fun expr front h => .comparison h
  | succ more ih =>
    rw [negation]
    refine Takes.ifSign ?_ ((takes_comparison hinner).imp fun expr front h => .comparison h)
    intro sign hsign
    refine ih.bind ?_
    intro operand back hoperand
    exact Takes.pure ((List.append_nil back).symm ▸ .not hsign hoperand)

omit hinner

/-- Operands go on with what stands on their left. -/
theorem takes_operandsFrom {op : BinaryOp} {sign : Operator} {word : String} {operand : Parser Expr}
    {L R : List Lexeme → Expr → Prop} (hoperand : Takes operand fun expr front => R front expr)
    (hjoin : ∀ {front back : List Lexeme} {lexeme : Lexeme} {left right : Expr}, L front left →
      lexeme.IsSign sign word → R back right → L (front ++ lexeme :: back) (.binary op left right))
    (more : Nat) {front : List Lexeme} {left : Expr} (hleft : L front left) :
    Takes (operandsFrom op (acceptEither sign word) operand more left)
      fun expr back => L (front ++ back) expr := by
  induction more generalizing front left with
  | zero => exact Takes.pure ((List.append_nil front).symm ▸ hleft)
  | succ more ih =>
    rw [operandsFrom]
    refine Takes.ifSign ?_ (Takes.pure ((List.append_nil front).symm ▸ hleft))
    intro lexeme hlexeme
    refine hoperand.bind ?_
    intro right back hright
    exact (ih (hjoin hleft hlexeme hright)).imp fun expr rest h => by simpa using h

include hinner

theorem takes_conjunction :
    Takes (conjunction filters inner) fun expr front => Derives filters .conjunction front expr := by
  have hoperand : Takes (do negation filters inner (← remaining))
      fun expr front => Derives filters .negation front expr :=
    Takes.remaining fun size => takes_negation hinner size
  refine hoperand.bind ?_
  intro left front hleft
  exact Takes.remaining fun size =>
    takes_operandsFrom (L := Derives filters .conjunction) hoperand .and size (.negation hleft)

theorem takes_disjunction :
    Takes (disjunction filters inner) fun expr front => Derives filters .disjunction front expr := by
  refine (takes_conjunction hinner).bind ?_
  intro left front hleft
  exact Takes.remaining fun size => takes_operandsFrom (L := Derives filters .disjunction)
    (takes_conjunction hinner) .or size (.conjunction hleft)

end Rules

theorem takes_upToDepth (filters : Filters) (depth : Nat) :
    Takes (upToDepth filters depth) fun expr front => Derives filters .disjunction front expr := by
  induction depth with
  | zero => exact Takes.malformed
  | succ depth ih => exact takes_disjunction ih

/-- An expression that is read is derived. -/
theorem takes_expression (filters : Filters) :
    Takes (expression filters) fun expr front => Derives filters .disjunction front expr :=
  Takes.remaining fun size => takes_upToDepth filters (size + 1)

end Parser

end Stencil
