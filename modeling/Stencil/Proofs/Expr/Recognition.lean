import Stencil.Proofs.Expr.Precedence

/-!
What is derived is read. With the levels of the operators go the primaries, the access chains and all that
stands inside brackets, as deep as there are lexemes. So the expressions of lexemes are those that the
grammar derives, and there is at most one.
-/
namespace Stencil

namespace Parser

variable {filters : Filters} {lexemes rest : List Lexeme}

section Levels

variable {inner : Parser Expr} {front back : List Lexeme} {expr : Expr}

/-! Primaries and access chains. -/

/-- Filters that are read behind a primary. -/
def AcceptsCalls (filters : Filters) (inner : Parser Expr) (lexemes : List Lexeme) (calls : List FilterCall) :
    Prop :=
  ∀ rest, Stops .filtered rest → Stops .primary (lexemes ++ rest) ∧ ∀ more, lexemes.length < more →
    (filterCalls filters inner more).run (lexemes ++ rest) = .ok (calls, rest)

theorem Accepts.through {base : Expr} {calls : List FilterCall}
    (hbase : Accepts filters inner .primary front base) (hcalls : AcceptsCalls filters inner back calls) :
    Accepts filters inner .filtered (front ++ back) (base.through calls) := by
  intro rest hstops
  obtain ⟨hbehind, hread⟩ := hcalls rest hstops
  unfold filtered
  rw [List.append_assoc, run_bind_of_ok (hbase _ hbehind), run_bind_of_ok (remaining_run _),
    run_bind_of_ok (hread _ (by simp only [List.length_append]; omega))]
  cases calls <;> rfl

theorem Accepts.literal {name : String} {value : Value} (hname : (name, value) ∈ literalNames) :
    Accepts filters inner .primary [.name name] (.literal value) := by
  intro rest _
  simp only [literalNames, List.mem_cons, Prod.mk.injEq, List.not_mem_nil, or_false] at hname
  rcases hname with ⟨rfl, rfl⟩ | ⟨rfl, rfl⟩ | ⟨rfl, rfl⟩ | ⟨rfl, rfl⟩ <;> rfl

/-- Where an access chain stops, it is read. -/
theorem chainFrom_of_stops (h : Stops .primary rest) (root : String) (more : Nat) (steps : List Step) :
    (chainFrom inner root more steps).run rest = .ok (.path root steps.reverse, rest) := by
  cases more with
  | zero => rfl
  | succ more =>
    rw [chainFrom, run_bind_of_ok (acceptMark_of_stops (c := '.') h rfl (by decide)), if_neg (by decide),
      run_bind_of_ok (acceptMark_of_stops (c := '[') h rfl (by decide)), if_neg (by decide),
      run_bind_of_ok (acceptMark_of_stops (c := '(') h rfl (by decide))]
    rfl

theorem Accepts.access (h : Accepts filters inner .access lexemes expr) :
    Accepts filters inner .primary lexemes expr := by
  intro rest hstops
  obtain ⟨root, steps, rfl, hread⟩ := h
  obtain ⟨more, -, hrun⟩ := hread rest
  rw [hrun, chainFrom_of_stops hstops, List.reverse_reverse]

theorem Accepts.variable {name : String} (h : IsVariable name) :
    Accepts filters inner .access [.name name] (.path name []) := by
  refine ⟨name, [], rfl, fun rest => ⟨rest.length + 1, Nat.lt_succ_self _, ?_⟩⟩
  exact wordExpr_variable h inner rest

/-- A step takes an access chain further. -/
theorem Accepts.step {root : String} {steps : List Step} {step : Step} {taken : List Lexeme}
    (h : Accepts filters inner .access front (.path root steps)) (hne : taken ≠ [])
    (hstep : ∀ more rest, (chainFrom inner root (more + 1) steps.reverse).run (taken ++ rest) =
      (chainFrom inner root more (step :: steps.reverse)).run rest) :
    Accepts filters inner .access (front ++ taken) (.path root (steps ++ [step])) := by
  obtain ⟨_, _, heq, hread⟩ := h
  cases heq
  refine ⟨root, steps ++ [step], rfl, fun rest => ?_⟩
  obtain ⟨more, hmore, hrun⟩ := hread (taken ++ rest)
  have hpos : 0 < taken.length := List.length_pos_iff.mpr hne
  rw [List.length_append] at hmore
  cases more with
  | zero => omega
  | succ more =>
    refine ⟨more, by omega, ?_⟩
    rw [List.append_assoc, hrun, hstep, List.reverse_append]
    rfl

theorem Accepts.property {root key : String} {steps : List Step}
    (h : Accepts filters inner .access front (.path root steps)) (hkey : isHidden key = false) :
    Accepts filters inner .access (front ++ [.mark '.', .name key])
      (.path root (steps ++ [.key (.string key)])) := by
  refine h.step (List.cons_ne_nil _ _) ?_
  intro more rest
  have hnext : next.run (.name key :: rest) = .ok (some (.name key), rest) := rfl
  rw [chainFrom, List.cons_append, run_bind_of_ok (acceptMark_cons '.' _), if_pos rfl]
  change (next >>= _).run (.name key :: rest) = _
  rw [run_bind_of_ok hnext]
  dsimp only
  rw [if_neg (by simp [hkey])]

theorem acceptMark_of_ne {c : Char} {lexeme : Lexeme} (h : lexeme ≠ .mark c) (rest : List Lexeme) :
    (acceptMark c).run (lexeme :: rest) = .ok (false, lexeme :: rest) := by
  have hfails : lexeme.isMark c = false := by
    cases lexeme with
    | mark d => simpa [Lexeme.isMark] using h
    | _ => rfl
  change Except.ok (if lexeme.isMark c then (true, rest) else (false, lexeme :: rest)) = _
  rw [if_neg (by simp [hfails])]

theorem expectMark_cons (c : Char) (rest : List Lexeme) :
    (expectMark c).run (.mark c :: rest) = .ok ((), rest) := by
  unfold expectMark
  rw [run_bind_of_ok (acceptMark_cons c rest)]
  rfl

theorem Accepts.index {inside : List Lexeme} {root : String} {steps : List Step} {index : Expr}
    (h : Accepts filters inner .access front (.path root steps))
    (hindex : ∀ rest, inner.run (inside ++ .mark ']' :: rest) = .ok (index, .mark ']' :: rest)) :
    Accepts filters inner .access (front ++ .mark '[' :: (inside ++ [.mark ']']))
      (.path root (steps ++ [stepOf index])) := by
  refine h.step (List.cons_ne_nil _ _) ?_
  intro more rest
  rw [chainFrom, List.cons_append, List.append_assoc, List.cons_append, List.nil_append,
    run_bind_of_ok (acceptMark_of_ne (by simp) _), if_neg (by decide), run_bind_of_ok (acceptMark_cons '[' _),
    if_pos rfl, run_bind_of_ok (hindex rest), run_bind_of_ok (expectMark_cons ']' rest)]

theorem Accepts.call {inside : List Lexeme} {root : String} {steps : List Step} {arguments : List Expr}
    (h : Accepts filters inner .access front (.path root steps))
    (harguments : ∀ rest, (bracketed inner ')').run (inside ++ .mark ')' :: rest) = .ok (arguments, rest)) :
    Accepts filters inner .primary (front ++ .mark '(' :: (inside ++ [.mark ')']))
      (.call root steps arguments) := by
  intro rest _
  obtain ⟨_, _, heq, hread⟩ := h
  cases heq
  obtain ⟨more, hmore, hrun⟩ := hread (.mark '(' :: (inside ++ .mark ')' :: rest))
  cases more with
  | zero => omega
  | succ more =>
    rw [List.append_assoc, List.cons_append, List.append_assoc, List.cons_append, List.nil_append, hrun,
      chainFrom, run_bind_of_ok (acceptMark_of_ne (by simp) _), if_neg (by decide),
      run_bind_of_ok (acceptMark_of_ne (by simp) _), if_neg (by decide),
      run_bind_of_ok (acceptMark_cons '(' _), if_pos rfl, run_bind_of_ok (harguments rest),
      List.reverse_reverse]
    rfl

/-! Brackets. -/

/-- No expression begins with a mark that is no opening bracket. -/
def Opens (lexemes : List Lexeme) : Prop :=
  ∃ first rest, lexemes = first :: rest ∧ ∀ c, first = .mark c → c ∈ ['(', '[', '\x7b']

/-- An expression that is read inside brackets. -/
structure AcceptsInside (inner : Parser Expr) (lexemes : List Lexeme) (expr : Expr) : Prop where
  opens : Opens lexemes
  run : ∀ rest, Stops .disjunction rest → inner.run (lexemes ++ rest) = .ok (expr, rest)

theorem AcceptsInside.run_mark (h : AcceptsInside inner lexemes expr) {c : Char}
    (hc : c ∈ [',', ')', ']', '\x7d']) (rest : List Lexeme) :
    inner.run (lexemes ++ .mark c :: rest) = .ok (expr, .mark c :: rest) :=
  h.run _ (stops_mark _ hc)

/-- An item is not taken for the end of the list. -/
theorem AcceptsInside.itemsUpTo_item (h : AcceptsInside inner lexemes expr) {closer : Char}
    (hcloser : closer ∈ [')', ']']) (more : Nat) {c : Char} (hc : c ∈ [',', ')', ']', '\x7d']) :
    (itemsUpTo inner closer (more + 1)).run (lexemes ++ .mark c :: rest) = (do
      if ← acceptMark ',' then return expr :: (← itemsUpTo inner closer more)
      else if ← acceptMark closer then return [expr]
      else unclosed closer : Parser (List Expr)).run (.mark c :: rest) := by
  obtain ⟨first, behind, hsplit, hopens⟩ := h.opens
  have hfirst : first ≠ .mark closer := by
    rintro rfl
    have hopener := hopens closer rfl
    simp only [List.mem_cons, List.not_mem_nil, or_false] at hcloser hopener
    rcases hcloser with rfl | rfl <;> simp at hopener
  have hrun := h.run_mark hc rest
  rw [hsplit, List.cons_append] at hrun ⊢
  rw [itemsUpTo, run_bind_of_ok (acceptMark_of_ne hfirst _), if_neg (by decide)]
  have hdone : isDone.run (first :: (behind ++ .mark c :: rest)) =
      .ok (false, first :: (behind ++ .mark c :: rest)) := rfl
  rw [run_bind_of_ok hdone, if_neg (by decide), run_bind_of_ok hrun]

/-- Items that are read up to either closer. -/
def AcceptsItems (inner : Parser Expr) (lexemes : List Lexeme) (items : List Expr) : Prop :=
  ∀ closer ∈ [')', ']'], ∀ more rest, lexemes.length < more →
    (itemsUpTo inner closer more).run (lexemes ++ .mark closer :: rest) = .ok (items, rest)

theorem AcceptsItems.bracketed_eq_ok {items : List Expr} (h : AcceptsItems inner lexemes items)
    {closer : Char} (hcloser : closer ∈ [')', ']']) (rest : List Lexeme) :
    (bracketed inner closer).run (lexemes ++ .mark closer :: rest) = .ok (items, rest) := by
  unfold bracketed
  rw [run_bind_of_ok (remaining_run _)]
  exact h closer hcloser _ rest (by simp only [List.length_append]; omega)

theorem acceptsItems_nil : AcceptsItems inner [] [] := by
  intro closer _ more rest hmore
  cases more with
  | zero => simp at hmore
  | succ more =>
    rw [itemsUpTo, List.nil_append, run_bind_of_ok (acceptMark_cons closer rest)]
    rfl

theorem AcceptsInside.last (h : AcceptsInside inner lexemes expr) : AcceptsItems inner lexemes [expr] := by
  intro closer hcloser more rest hmore
  cases more with
  | zero => omega
  | succ more =>
    obtain ⟨hmark, hend⟩ : Lexeme.mark closer ≠ .mark ',' ∧ closer ∈ [',', ')', ']', '\x7d'] := by
      simp only [List.mem_cons, List.not_mem_nil, or_false] at hcloser
      rcases hcloser with rfl | rfl <;> simp
    rw [h.itemsUpTo_item hcloser more hend, run_bind_of_ok (acceptMark_of_ne hmark rest),
      if_neg (by decide), run_bind_of_ok (acceptMark_cons closer rest)]
    rfl

theorem AcceptsInside.cons {items : List Expr} (h : AcceptsInside inner front expr)
    (hitems : AcceptsItems inner back items) :
    AcceptsItems inner (front ++ .mark ',' :: back) (expr :: items) := by
  intro closer hcloser more rest hmore
  simp only [List.length_append, List.length_cons] at hmore
  cases more with
  | zero => omega
  | succ more =>
    rw [List.append_assoc, List.cons_append, h.itemsUpTo_item hcloser more (by simp),
      run_bind_of_ok (acceptMark_cons ',' _), if_pos rfl,
      run_bind_of_ok (hitems closer hcloser more rest (by omega))]
    rfl

/-- Members that are read up to the closing brace. -/
def AcceptsMembers (inner : Parser Expr) (lexemes : List Lexeme) (members : List (String × Expr)) : Prop :=
  ∀ more rest, lexemes.length < more →
    (membersUpTo inner more).run (lexemes ++ .mark '\x7d' :: rest) = .ok (members, rest)

theorem acceptsMembers_nil : AcceptsMembers inner [] [] := by
  intro more rest hmore
  cases more with
  | zero => simp at hmore
  | succ more =>
    rw [membersUpTo, List.nil_append, run_bind_of_ok (acceptMark_cons '\x7d' rest)]
    rfl

theorem memberKey_eq_ok {lexeme : Lexeme} {key : String} (h : lexeme.IsMemberKey key) (rest : List Lexeme) :
    memberKey.run (lexeme :: rest) = .ok (key, rest) := by
  cases h <;> rfl

/-- A member is not taken for the end of the object. -/
theorem AcceptsInside.membersUpTo_member (h : AcceptsInside inner lexemes expr) {lexeme : Lexeme}
    {key : String} (hkey : lexeme.IsMemberKey key) (more : Nat) {c : Char}
    (hc : c ∈ [',', ')', ']', '\x7d']) :
    (membersUpTo inner (more + 1)).run (lexeme :: .mark ':' :: (lexemes ++ .mark c :: rest)) = (do
      if ← acceptMark ',' then return (key, expr) :: (← membersUpTo inner more)
      else
        expectMark '\x7d'
        return [(key, expr)] : Parser (List (String × Expr))).run (.mark c :: rest) := by
  have hmark : lexeme ≠ .mark '\x7d' := by
    rintro rfl
    cases hkey
  rw [membersUpTo, run_bind_of_ok (acceptMark_of_ne hmark _), if_neg (by decide),
    run_bind_of_ok (memberKey_eq_ok hkey _), run_bind_of_ok (expectMark_cons ':' _),
    run_bind_of_ok (h.run_mark hc rest)]

theorem AcceptsInside.lastMember (h : AcceptsInside inner lexemes expr) {lexeme : Lexeme} {key : String}
    (hkey : lexeme.IsMemberKey key) :
    AcceptsMembers inner (lexeme :: .mark ':' :: lexemes) [(key, expr)] := by
  intro more rest hmore
  cases more with
  | zero => omega
  | succ more =>
    rw [List.cons_append, List.cons_append, h.membersUpTo_member hkey more (by simp),
      run_bind_of_ok (acceptMark_of_ne (by simp) _), if_neg (by decide),
      run_bind_of_ok (expectMark_cons '\x7d' rest)]
    rfl

theorem AcceptsInside.consMember {members : List (String × Expr)} (h : AcceptsInside inner front expr)
    {lexeme : Lexeme} {key : String} (hkey : lexeme.IsMemberKey key)
    (hmembers : AcceptsMembers inner back members) :
    AcceptsMembers inner (lexeme :: .mark ':' :: (front ++ .mark ',' :: back)) ((key, expr) :: members) := by
  intro more rest hmore
  simp only [List.length_append, List.length_cons] at hmore
  cases more with
  | zero => omega
  | succ more =>
    rw [List.cons_append, List.cons_append, List.append_assoc, List.cons_append,
      h.membersUpTo_member hkey more (by simp), run_bind_of_ok (acceptMark_cons ',' _), if_pos rfl,
      run_bind_of_ok (hmembers more rest (by omega))]
    rfl

/-! Filters. -/

theorem acceptsCalls_nil : AcceptsCalls filters inner [] [] := by
  intro rest hstops
  refine ⟨hstops.mono (by decide), ?_⟩
  intro more _
  cases more with
  | zero => rfl
  | succ more =>
    rw [filterCalls, List.nil_append, run_bind_of_ok (acceptMark_of_stops (c := '|') hstops rfl (by decide))]
    rfl

/-- The filters behind a pipe, the first of which is read. -/
theorem AcceptsCalls.pipe {call? : Option FilterCall} {calls : List FilterCall}
    (hcall : ∀ rest, Stops .primary rest →
      (filterCall filters inner).run (front ++ rest) = .ok (call?, rest))
    (hcalls : AcceptsCalls filters inner back calls) :
    AcceptsCalls filters inner (.mark '|' :: (front ++ back)) (call?.toList ++ calls) := by
  intro rest hstops
  obtain ⟨hbehind, hread⟩ := hcalls rest hstops
  refine ⟨stops_cons (by decide), ?_⟩
  intro more hmore
  simp only [List.length_append, List.length_cons] at hmore
  cases more with
  | zero => omega
  | succ more =>
    rw [filterCalls, List.cons_append, List.append_assoc, run_bind_of_ok (acceptMark_cons '|' _), if_pos rfl,
      run_bind_of_ok (hcall _ hbehind), run_bind_of_ok (hread more (by omega))]
    rfl

theorem filterCall_plain (name : String) (hstops : Stops .primary rest) :
    (filterCall filters inner).run ([.name name] ++ rest) = .ok (known filters name [], rest) := by
  have hnext : next.run (.name name :: rest) = .ok (some (.name name), rest) := rfl
  unfold filterCall
  rw [List.singleton_append, run_bind_of_ok hnext]
  dsimp only
  rw [run_bind_of_ok (acceptMark_of_stops (c := '(') hstops rfl (by decide))]
  rfl

theorem filterCall_call (name : String) {arguments : List Expr} (h : AcceptsItems inner lexemes arguments)
    (rest : List Lexeme) :
    (filterCall filters inner).run (.name name :: .mark '(' :: (lexemes ++ [.mark ')']) ++ rest) =
      .ok (known filters name arguments, rest) := by
  have hnext : ∀ rest, next.run (.name name :: rest) = .ok (some (.name name), rest) := fun rest => rfl
  unfold filterCall
  rw [List.cons_append, List.cons_append, List.append_assoc, List.singleton_append, run_bind_of_ok (hnext _)]
  dsimp only
  rw [run_bind_of_ok (acceptMark_cons '(' _), if_pos rfl,
    run_bind_of_ok (h.bracketed_eq_ok (by simp) rest)]
  rfl

theorem AcceptsInside.group (h : AcceptsInside inner lexemes expr) :
    Accepts filters inner .primary (.mark '(' :: (lexemes ++ [.mark ')'])) expr := by
  intro rest _
  have hopen : ∀ rest, (primary inner).run (.mark '(' :: rest) = (do
      let expr ← inner
      if ← acceptMark ')' then return expr else malformed "mismatched parentheses" : Parser Expr).run rest :=
    fun rest => rfl
  rw [List.cons_append, List.append_assoc, List.singleton_append, hopen,
    run_bind_of_ok (h.run_mark (by simp) rest), run_bind_of_ok (acceptMark_cons ')' rest)]
  rfl

theorem AcceptsItems.array {items : List Expr} (h : AcceptsItems inner lexemes items) :
    Accepts filters inner .primary (.mark '[' :: (lexemes ++ [.mark ']'])) (.array items) := by
  intro rest _
  have hopen : ∀ rest, (primary inner).run (.mark '[' :: rest) =
      (do return .array (← bracketed inner ']') : Parser Expr).run rest := fun rest => rfl
  rw [List.cons_append, List.append_assoc, List.singleton_append, hopen,
    run_bind_of_ok (h.bracketed_eq_ok (by simp) rest)]
  rfl

theorem AcceptsMembers.object {members : List (String × Expr)} (h : AcceptsMembers inner lexemes members) :
    Accepts filters inner .primary (.mark '\x7b' :: (lexemes ++ [.mark '\x7d'])) (.object members) := by
  intro rest _
  have hopen : ∀ rest, (primary inner).run (.mark '\x7b' :: rest) =
      (do return .object (← membersUpTo inner ((← remaining) + 1)) : Parser Expr).run rest := fun rest => rfl
  rw [List.cons_append, List.append_assoc, List.singleton_append, hopen, run_bind_of_ok (remaining_run _),
    run_bind_of_ok (h _ rest (by simp only [List.length_append]; omega))]
  rfl

end Levels

/-! All that the grammar derives. -/

theorem Opens.append (h : Opens lexemes) (rest : List Lexeme) : Opens (lexemes ++ rest) := by
  obtain ⟨first, behind, rfl, hopens⟩ := h
  exact ⟨first, behind ++ rest, rfl, hopens⟩

theorem opens_cons {lexeme : Lexeme} (h : ∀ c, lexeme = .mark c → c ∈ ['(', '[', '\x7b']) :
    Opens (lexeme :: lexemes) := ⟨lexeme, lexemes, rfl, h⟩

theorem opens_of_derives {level : Level} {lexemes : List Lexeme} {expr : Expr} :
    Derives filters level lexemes expr → Opens lexemes
  | .conjunction h | .negation h | .comparison h | .filtered h | .access h => opens_of_derives h
  | .or h _ _ | .and h _ _ | .filters h _ | .call h _ | .property h _ | .key h _ | .index h _ _ =>
    (opens_of_derives h).append _
  | .compare h _ _ => ((opens_of_derives h).append _).append _
  | .not hsign _ => opens_cons (by rcases hsign with rfl | rfl <;> simp)
  | .number _ | .text _ | .literal _ | .variable _ => opens_cons (by simp)
  | .group _ | .array _ | .object _ => opens_cons (by simp)

/-- At a greater depth than there are lexemes, an expression inside brackets is read. -/
theorem acceptsInside_of {expr : Expr} {depth : Nat} (hopens : Opens lexemes)
    (h : ∀ depth, lexemes.length ≤ depth →
      Accepts filters (upToDepth filters depth) .disjunction lexemes expr)
    (hdepth : lexemes.length < depth) : AcceptsInside (upToDepth filters depth) lexemes expr := by
  cases depth with
  | zero => omega
  | succ depth =>
    exact ⟨hopens, fun rest hstops => (h depth (Nat.le_of_lt_succ hdepth)).disjunction_eq_ok hstops⟩

mutual

theorem accepts_of_derives : {level : Level} → {lexemes : List Lexeme} → {expr : Expr} →
    Derives filters level lexemes expr → (depth : Nat) → lexemes.length ≤ depth →
    Accepts filters (upToDepth filters depth) level lexemes expr
  | _, _, _, .conjunction h, depth, hdepth => (accepts_of_derives h depth hdepth).disjunction
  | _, _, _, .or hleft hsign hright, depth, hdepth => by
    rw [List.length_append, List.length_cons] at hdepth
    exact (accepts_of_derives hleft depth (by omega)).or hsign (accepts_of_derives hright depth (by omega))
  | _, _, _, .negation h, depth, hdepth => (accepts_of_derives h depth hdepth).conjunction
  | _, _, _, .and hleft hsign hright, depth, hdepth => by
    rw [List.length_append, List.length_cons] at hdepth
    exact (accepts_of_derives hleft depth (by omega)).and hsign (accepts_of_derives hright depth (by omega))
  | _, _, _, .comparison h, depth, hdepth => (accepts_of_derives h depth hdepth).negation
  | _, _, _, .not hsign h, depth, hdepth =>
    .not hsign (accepts_of_derives h depth (Nat.le_of_succ_le hdepth))
  | _, _, _, .filtered h, depth, hdepth => (accepts_of_derives h depth hdepth).comparison
  | _, _, _, .compare hleft hop hright, depth, hdepth => by
    rw [List.length_append, List.length_append] at hdepth
    exact (accepts_of_derives hleft depth (by omega)).compare hop (accepts_of_derives hright depth (by omega))
  | _, _, _, .filters hbase hcalls, depth, hdepth => by
    rw [List.length_append] at hdepth
    exact (accepts_of_derives hbase depth (by omega)).through (acceptsCalls_of_derives hcalls depth (by omega))
  | _, _, _, .number value, depth, _ => fun rest _ => rfl
  | _, _, _, .text text, depth, _ => fun rest _ => rfl
  | _, _, _, .literal hname, depth, _ => .literal hname
  | _, _, _, .group h, depth, hdepth => by
    simp only [List.length_append, List.length_cons, List.length_nil] at hdepth
    exact (acceptsInside_of (opens_of_derives h) (accepts_of_derives h) (by omega)).group
  | _, _, _, .array h, depth, hdepth => by
    simp only [List.length_append, List.length_cons, List.length_nil] at hdepth
    exact (acceptsItems_of_derives h depth (by omega)).array
  | _, _, _, .object h, depth, hdepth => by
    simp only [List.length_append, List.length_cons, List.length_nil] at hdepth
    exact (acceptsMembers_of_derives h depth (by omega)).object
  | _, _, _, .access h, depth, hdepth => (accepts_of_derives h depth hdepth).access
  | _, _, _, .call h harguments, depth, hdepth => by
    simp only [List.length_append, List.length_cons, List.length_nil] at hdepth
    exact (accepts_of_derives h depth (by omega)).call
      ((acceptsItems_of_derives harguments depth (by omega)).bracketed_eq_ok (by simp))
  | _, _, _, .variable hname, depth, _ => .variable hname
  | _, _, _, .property h hkey, depth, hdepth => by
    rw [List.length_append] at hdepth
    exact (accepts_of_derives h depth (by omega)).property hkey
  | _, _, _, .key h hkey, depth, hdepth => by
    simp only [List.length_append, List.length_cons, List.length_nil] at hdepth
    exact (accepts_of_derives h depth (by omega)).index
      ((acceptsInside_of (opens_of_derives hkey) (accepts_of_derives hkey) (by omega)).run_mark (by simp))
  | _, _, _, @Derives.index _ _ _ _ _ index h hindex hcomputed, depth, hdepth => by
    simp only [List.length_append, List.length_cons, List.length_nil] at hdepth
    have hstep : stepOf index = .index index := by
      cases index with
      | literal key => exact absurd rfl (hcomputed key)
      | _ => rfl
    exact hstep ▸ (accepts_of_derives h depth (by omega)).index
      ((acceptsInside_of (opens_of_derives hindex) (accepts_of_derives hindex) (by omega)).run_mark (by simp))

theorem acceptsCalls_of_derives : {lexemes : List Lexeme} → {calls : List FilterCall} →
    DerivesCalls filters lexemes calls → (depth : Nat) → lexemes.length ≤ depth →
    AcceptsCalls filters (upToDepth filters depth) lexemes calls
  | _, _, .nil, depth, _ => acceptsCalls_nil
  | _, _, .plain hrest, depth, hdepth => by
    simp only [List.length_cons] at hdepth
    exact (acceptsCalls_of_derives hrest depth (by omega)).pipe fun rest => filterCall_plain _
  | _, _, @DerivesCalls.call _ name _ _ _ _ harguments hrest, depth, hdepth => by
    simp only [List.length_append, List.length_cons] at hdepth
    have hcall := acceptsItems_of_derives harguments depth (by omega)
    have hcalls := (acceptsCalls_of_derives hrest depth (by omega)).pipe
      fun rest _ => filterCall_call name hcall rest
    simpa using hcalls

theorem acceptsItems_of_derives : {lexemes : List Lexeme} → {items : List Expr} →
    DerivesItems filters lexemes items → (depth : Nat) → lexemes.length < depth →
    AcceptsItems (upToDepth filters depth) lexemes items
  | _, _, .nil, depth, _ => acceptsItems_nil
  | _, _, .last h, depth, hdepth =>
    (acceptsInside_of (opens_of_derives h) (accepts_of_derives h) hdepth).last
  | _, _, .cons h hrest, depth, hdepth => by
    simp only [List.length_append, List.length_cons] at hdepth
    exact (acceptsInside_of (opens_of_derives h) (accepts_of_derives h) (by omega)).cons
      (acceptsItems_of_derives hrest depth (by omega))

theorem acceptsMembers_of_derives : {lexemes : List Lexeme} → {members : List (String × Expr)} →
    DerivesMembers filters lexemes members → (depth : Nat) → lexemes.length < depth →
    AcceptsMembers (upToDepth filters depth) lexemes members
  | _, _, .nil, depth, _ => acceptsMembers_nil
  | _, _, .last hkey h, depth, hdepth => by
    simp only [List.length_cons] at hdepth
    exact (acceptsInside_of (opens_of_derives h) (accepts_of_derives h) (by omega)).lastMember hkey
  | _, _, .cons hkey h hrest, depth, hdepth => by
    simp only [List.length_append, List.length_cons] at hdepth
    exact (acceptsInside_of (opens_of_derives h) (accepts_of_derives h) (by omega)).consMember hkey
      (acceptsMembers_of_derives hrest depth (by omega))

end

/-- What the grammar derives is read to its end. -/
theorem expression_of_derives {expr : Expr} (h : Derives filters .disjunction lexemes expr) :
    (expression filters).run lexemes = .ok (expr, []) := by
  have hrun := (accepts_of_derives h lexemes.length (Nat.le_refl _)).disjunction_eq_ok (stops_nil _)
  rw [List.append_nil] at hrun
  unfold expression
  rw [run_bind_of_ok (remaining_run lexemes)]
  exact hrun

theorem finished_of_derives {expr : Expr} (h : Derives filters .disjunction lexemes expr) :
    (do let expr ← expression filters; finish; return expr : Parser Expr).run lexemes = .ok (expr, []) := by
  rw [run_bind_of_ok (expression_of_derives h)]
  rfl

theorem derives_of_finished {expr : Expr}
    (h : (do let expr ← expression filters; finish; return expr : Parser Expr).run lexemes =
      .ok (expr, rest)) :
    Derives filters .disjunction lexemes expr := by
  obtain ⟨_, between, hexpr, hrest⟩ := run_bind_eq_ok.mp h
  obtain ⟨_, _, hfinish, hresult⟩ := run_bind_eq_ok.mp hrest
  cases hresult
  obtain rfl := finish_eq_ok hfinish
  obtain ⟨front, rfl, hfront⟩ := takes_expression filters lexemes expr [] hexpr
  rwa [List.append_nil]

/-- Lexemes are read as an expression, up to the last of them, if and only if the grammar derives it from
them; and they have no two trees. A word of the language is no variable, but it can be a key behind a
point. -/
theorem finished_iff_derives (filters : Filters) (lexemes : List Lexeme) :
    (∀ expr, (∃ rest, (do let expr ← expression filters; finish; return expr : Parser Expr).run lexemes =
        .ok (expr, rest)) ↔ Derives filters .disjunction lexemes expr) ∧
    ∀ first second, Derives filters .disjunction lexemes first →
      Derives filters .disjunction lexemes second → first = second := by
  constructor
  · intro expr
    constructor
    · rintro ⟨rest, hrun⟩
      exact derives_of_finished hrun
    · intro h
      exact ⟨[], finished_of_derives h⟩
  · intro first second hfirst hsecond
    cases (expression_of_derives hfirst).symm.trans (expression_of_derives hsecond)
    rfl

/-- A reserved word behind a point is read as a key. -/
theorem reserved_word_read : "in" ∈ reservedWords ∧
    (do let expr ← expression []; finish; return expr : Parser Expr).run
      [.name "a", .mark '.', .name "in"] = .ok (.path "a" [.key (.string "in")], []) := by
  have hvariable : Derives [] .access [.name "a"] (.path "a" []) := .variable ⟨by decide, by decide⟩
  have hkey : Derives [] .primary [.name "a", .mark '.', .name "in"] (.path "a" [.key (.string "in")]) :=
    .access (.property hvariable (by decide))
  have hwhole : Derives [] .disjunction [.name "a", .mark '.', .name "in"] (.path "a" [.key (.string "in")]) :=
    .conjunction (.negation (.comparison (.filtered (.filters hkey .nil))))
  exact ⟨by decide, finished_of_derives hwhole⟩

end Parser

end Stencil
