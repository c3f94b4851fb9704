import Stencil.Proofs.Expr.Complaints
import Stencil.Proofs.Inheritance.Checks
import Stencil.Proofs.Token.Parts

/-!
Why tokens do not compile. The error is about one of them: either it does not compile even without its body,
or it is an alternative that the tag around it does not take. Both bear the line of that token.
-/
namespace Stencil

/-- The token without its body. -/
def Token.alone : Token → Token
  | .logic tag _ => .logic tag []
  | token => token

/-- The condition of an alternative, which a plain one does not have. -/
def LogicTag.condition? (scope : Scope) (tag : LogicTag) : Except TemplateError (Option Expr) :=
  Arguments.read tag (Arguments.alternative scope.filters tag)

/-- The alternatives of a body. -/
def Token.alternativesOf (body : List Token) : List Token := body.filter (·.isKind .alternative)

/-- One of the tokens is refused. -/
inductive Token.Refused (scope : Scope) (tokens : List Token) : Token → Complaint → Prop
  /-- It does not compile by itself. -/
  | alone {token : Token} {complaint : Complaint} (htoken : token ∈ partsOf tokens)
      (h : compileToken scope false false token.alone = .error (.located token.line complaint))
      (habout : complaint.aboutTag = true) : Refused scope tokens token complaint
  /-- In a choice it comes right behind an alternative without a condition. -/
  | afterElse {block last tag : LogicTag} {children inside inside' front back : List Token}
      (hblock : .logic block children ∈ partsOf tokens) (hkind : block.kind = .condition)
      (halternatives : alternativesOf children = front ++ .logic last inside' :: .logic tag inside :: back)
      (hlast : last.condition? scope = .ok none) :
      Refused scope tokens (.logic tag inside) (.malformed "\"else\" after the final \"else\" branch")
  /-- In a loop it has a condition. -/
  | conditional {block tag : LogicTag} {children inside back : List Token} {condition : Expr}
      (hblock : .logic block children ∈ partsOf tokens) (hkind : block.kind = .loop)
      (halternatives : alternativesOf children = .logic tag inside :: back)
      (hcondition : tag.condition? scope = .ok (some condition)) :
      Refused scope tokens (.logic tag inside) (.malformed "\"for\" takes a single plain \"else\"")
  /-- In a loop it is the second one. -/
  | second {block tag : LogicTag} {children inside back : List Token} {first : Token}
      (hblock : .logic block children ∈ partsOf tokens) (hkind : block.kind = .loop)
      (halternatives : alternativesOf children = first :: .logic tag inside :: back) :
      Refused scope tokens (.logic tag inside) (.malformed "\"for\" takes a single plain \"else\"")

/-- The errors are complaints about one tag by itself, on the line. -/
def BlamesTagOn {α : Type} (line : Nat) (result : Except TemplateError α) : Prop :=
  ∀ error, result = .error error → ∃ complaint, error = .located line complaint ∧ complaint.aboutTag = true

section Results

variable {α β : Type} {line : Nat} {result : Except TemplateError α}

theorem BlamesTagOn.ok (a : α) : BlamesTagOn line (.ok a) := nofun

theorem BlamesTagOn.bind {next : α → Except TemplateError β} (h : BlamesTagOn line result)
    (hnext : ∀ a, BlamesTagOn line (next a)) : BlamesTagOn line (result >>= next) := by
  intro error herror
  rcases bind_eq_error.mp herror with herror | ⟨a, -, herror⟩
  · exact h error herror
  · exact hnext a error herror

theorem BlamesTagOn.map {f : α → β} (h : BlamesTagOn line result) : BlamesTagOn line (result.map f) := by
  cases result with
  | ok a => exact .ok _
  | error error =>
    rintro _ ⟨⟩
    exact h error rfl

theorem BlamesTag.located {result : Except Complaint α} (h : BlamesTag result) :
    BlamesTagOn line (located line result) := by
  intro error herror
  obtain ⟨complaint, hcomplaint, rfl⟩ := located_eq_error.mp herror
  exact ⟨complaint, rfl, h complaint hcomplaint⟩

end Results

section Alone

variable {scope : Scope}

theorem Scope.blames_expr (line : Nat) (text : String) : BlamesTagOn line (scope.expr line text) :=
  (Expr.blames_ofText scope.filters text.toList).located

theorem Scope.blames_exprs (line : Nat) (words : List String) :
    BlamesTagOn line (scope.exprs line words) := by
  induction words with
  | nil => exact .ok _
  | cons word rest ih => exact (scope.blames_expr line word).bind fun _ => ih.bind fun _ => .ok _

theorem Scope.blames_filterCalls (line : Nat) (filters : List FilterText) :
    BlamesTagOn line (scope.filterCalls line filters) := by
  induction filters with
  | nil => exact .ok _
  | cons text rest ih =>
    rw [Scope.filterCalls]
    split
    · exact ih
    · have hrest (name : String) (filter : Filter) (arguments : List Expr) : BlamesTagOn line (do
          return FilterCall.mk name filter arguments :: (← scope.filterCalls line rest)) :=
        ih.bind fun _ => .ok _
      dsimp only
      split
      · exact ((Expr.blames_listOfText _ _).located).bind fun arguments => hrest _ _ arguments
      · exact hrest _ _ _

theorem Arguments.blames_read {α : Type} {tag : LogicTag} {parser : Parser α} (h : parser.Blames) :
    BlamesTagOn tag.line (Arguments.read tag parser) := (h.runOn _).located

/-- A token without a body has complaints about itself alone. -/
theorem blames_compileToken_alone (token : Token) :
    BlamesTagOn token.line (compileToken scope false false token.alone) := by
  have hnone (start finish : Bool) : compileTokens scope start finish [] = .ok [] := rfl
  cases token with
  | literal text => exact .ok _
  | output tag =>
    change BlamesTagOn tag.line (compileToken scope false false (.output tag))
    rw [compileToken]
    refine BlamesTagOn.bind ?_ fun _ => .ok _
    exact (scope.blames_expr tag.line tag.expr).bind fun _ =>
      (scope.blames_filterCalls tag.line tag.filters).bind fun _ => .ok _
  | logic tag children =>
    change BlamesTagOn tag.line (compileToken scope false false (.logic tag []))
    rw [compileToken, hnone]
    cases tag.kind with
    | loop => exact (Arguments.blames_read (Arguments.blames_loop _ tag)).bind fun _ => .ok _
    | condition =>
      dsimp only
      split
      · rintro _ ⟨⟩
        exact ⟨_, rfl, rfl⟩
      · exact (scope.blames_expr _ _).bind fun _ => .ok _
    | alternative => exact (Arguments.blames_read (Arguments.blames_alternative _ tag)).bind fun _ => .ok _
    | assignment => exact (Arguments.blames_read (Arguments.blames_assignment _ tag)).bind fun _ => .ok _
    | filter => exact (Arguments.blames_read (Arguments.blames_filter _ tag)).bind fun _ => .ok _
    | definition => exact (Arguments.blames_read (Arguments.blames_definition tag)).bind fun _ => .ok _
    | inclusion => exact (Arguments.blames_read (Arguments.blames_inclusion _ tag)).bind fun _ => .ok _
    | importation => exact (Arguments.blames_read (Arguments.blames_importation _ tag)).bind fun _ => .ok _
    | block | «extends» | parent | raw | autoescape => exact .ok _
    | host name =>
      dsimp only
      split
      · rintro _ ⟨⟩
        exact ⟨_, rfl, rfl⟩
      · refine (scope.blames_exprs _ _).bind fun arguments => ?_
        split
        · exact .ok _
        · exact .ok _

end Alone

section Bodies

variable {scope : Scope}

/-- What keeps a logic tag from compiling: the tag itself, something in its body, or where the body is cut
into branches. -/
theorem compileToken_eq_error {start finish : Bool} {tag : LogicTag} {children : List Token}
    {error : TemplateError} (h : compileToken scope start finish (.logic tag children) = .error error) :
    compileToken scope false false (.logic tag []) = .error error ∨
      compileTokens scope tag.strip.start tag.strip.finish children = .error error ∨
      ∃ nodes, compileTokens scope tag.strip.start tag.strip.finish children = .ok nodes ∧
        (tag.kind = .condition ∧ choiceBranches (splitBranches nodes).2 = .error error ∨
          tag.kind = .loop ∧ emptyBranch (splitBranches nodes).2 = .error error) := by
  have hnone (start finish : Bool) : compileTokens scope start finish [] = .ok [] := rfl
  rw [compileToken] at h
  rw [compileToken, hnone]
  cases hkind : tag.kind with
  | loop =>
    rw [hkind] at h
    dsimp only at h ⊢
    rcases bind_eq_error.mp h with h | ⟨loop, -, h⟩
    · exact Or.inl (bind_eq_error.mpr (Or.inl h))
    rcases bind_eq_error.mp h with h | ⟨nodes, hnodes, h⟩
    · exact Or.inr (Or.inl h)
    rcases bind_eq_error.mp h with h | ⟨_, _, ⟨⟩⟩
    exact Or.inr (Or.inr ⟨nodes, hnodes, Or.inr ⟨rfl, h⟩⟩)
  | condition =>
    rw [hkind] at h
    dsimp only at h ⊢
    split at h
    · rename_i hempty
      rw [if_pos hempty]
      exact Or.inl h
    · rename_i hcondition
      rw [if_neg hcondition]
      rcases bind_eq_error.mp h with h | ⟨condition, -, h⟩
      · exact Or.inl (bind_eq_error.mpr (Or.inl h))
      rcases bind_eq_error.mp h with h | ⟨nodes, hnodes, h⟩
      · exact Or.inr (Or.inl h)
      rcases bind_eq_error.mp h with h | ⟨_, _, ⟨⟩⟩
      exact Or.inr (Or.inr ⟨nodes, hnodes, Or.inl ⟨rfl, h⟩⟩)
  | filter | definition =>
    rw [hkind] at h
    rcases bind_eq_error.mp h with h | ⟨_, -, h⟩
    · exact Or.inl (bind_eq_error.mpr (Or.inl h))
    rcases bind_eq_error.mp h with h | ⟨_, _, ⟨⟩⟩
    exact Or.inr (Or.inl h)
  | raw | autoescape =>
    rw [hkind] at h
    rcases bind_eq_error.mp h with h | ⟨_, _, ⟨⟩⟩
    exact Or.inr (Or.inl h)
  | host name =>
    rw [hkind] at h
    dsimp only at h ⊢
    split at h
    · exact Or.inl h
    · rcases bind_eq_error.mp h with h | ⟨_, -, h⟩
      · exact Or.inl (bind_eq_error.mpr (Or.inl h))
      split at h
      · rcases bind_eq_error.mp h with h | ⟨_, _, ⟨⟩⟩
        exact Or.inr (Or.inl h)
      · cases h
  | alternative | assignment | inclusion | importation =>
    rw [hkind] at h
    exact Or.inl h
  | block | «extends» | parent =>
    rw [hkind] at h
    cases h

/-- An alternative as the branches see it. -/
def Token.headOf (scope : Scope) : Token → Except TemplateError (Option Expr) × Nat
  | .logic tag _ => (tag.condition? scope, tag.line)
  | _ => (.ok none, 0)

/-- The alternatives among the nodes of a token are the token, if it is one. -/
theorem alternatives_of_compileToken {start finish : Bool} {token : Token} {nodes : List Node}
    (h : compileToken scope start finish token = .ok nodes) :
    (Token.alternativesOf [token]).map (Token.headOf scope) =
      (alternatives nodes).map fun (condition, line) => (.ok condition, line) := by
  cases token with
  | literal text =>
    cases h
    split <;> rfl
  | output tag =>
    obtain ⟨expr, filters, rfl⟩ := exists_output_of_compileToken h
    rfl
  | logic tag children =>
    by_cases hkind : tag.kind = .alternative
    · rw [compileToken, hkind] at h
      obtain ⟨condition, hcondition, h⟩ := bind_eq_ok.mp h
      cases h
      have hself : Token.alternativesOf [.logic tag children] = [.logic tag children] := by
        simp [Token.alternativesOf, Token.isKind, hkind]
      rw [hself]
      exact congrArg (fun head => [(head, tag.line)]) hcondition
    · have hnone : Token.alternativesOf [.logic tag children] = [] := by
        simp [Token.alternativesOf, Token.isKind, hkind]
      have hplain : alternatives nodes = [] := by
        have hnode {node : Node} (hmakes : Token.Makes scope (.logic tag children) node) :
            alternatives [node] = [] := by
          cases hmakes <;> first | rfl | exact absurd ‹_› hkind
        cases compiledTag_of_compileToken h with
        | body _ _ hmakes _ => exact hnode hmakes
        | leaf _ hmakes _ => exact hnode hmakes
        | parent => cases scope.parent <;> rfl
        | «extends» => rfl
      rw [hnone, hplain]
      rfl

theorem alternatives_of_compileTokens {start finish : Bool} {tokens : List Token} {nodes : List Node}
    (h : compileTokens scope start finish tokens = .ok nodes) :
    (Token.alternativesOf tokens).map (Token.headOf scope) =
      (alternatives nodes).map fun (condition, line) => (.ok condition, line) := by
  induction tokens generalizing start nodes with
  | nil =>
    cases h
    rfl
  | cons token rest ih =>
    obtain ⟨first, others, hfirst, hothers, rfl⟩ := compileTokens_cons_eq_ok.mp h
    have hsplit : Token.alternativesOf (token :: rest)
        = Token.alternativesOf [token] ++ Token.alternativesOf rest := List.filter_append [token] rest
    have hnodes : alternatives (first ++ others) = alternatives first ++ alternatives others :=
      List.filterMap_append
    rw [hsplit, hnodes, List.map_append, List.map_append, alternatives_of_compileToken hfirst,
      ih hothers]

theorem choiceBranches_eq_error {branches : List Branch} {error : TemplateError}
    (h : choiceBranches branches = .error error) :
    ∃ front line condition line' back,
      headsOf branches = front ++ (none, line) :: (condition, line') :: back ∧
        error = .located line' (.malformed "\"else\" after the final \"else\" branch") := by
  fun_induction choiceBranches branches with
  | case1 => cases h
  | case2 condition line body rest ih =>
    rcases bind_eq_error.mp h with h | ⟨⟨_, _⟩, _, ⟨⟩⟩
    obtain ⟨front, line', condition', line'', back, hheads, rfl⟩ := ih h
    refine ⟨(some condition, line) :: front, line', condition', line'', back, ?_, rfl⟩
    exact congrArg _ hheads
  | case3 => cases h
  | case4 line body next others =>
    cases h
    exact ⟨[], line, next.condition, next.line, headsOf others, rfl, rfl⟩

theorem emptyBranch_eq_error {branches : List Branch} {error : TemplateError}
    (h : emptyBranch branches = .error error) :
    ∃ line, error = .located line (.malformed "\"for\" takes a single plain \"else\"") ∧
      ((∃ condition back, headsOf branches = (some condition, line) :: back) ∨
        ∃ first condition back, headsOf branches = first :: (condition, line) :: back) := by
  unfold emptyBranch at h
  split at h
  · cases h
  · rename_i condition line body rest
    cases h
    exact ⟨line, rfl, Or.inl ⟨condition, headsOf rest, rfl⟩⟩
  · cases h
  · rename_i first next rest _
    cases h
    exact ⟨next.line, rfl, Or.inr ⟨_, next.condition, headsOf rest, rfl⟩⟩

/-- The first of some alternatives, as the branches see it, is a logic tag. -/
theorem Token.exists_logic_of_heads {found : List Token} {head : Except TemplateError (Option Expr) × Nat}
    {heads : List (Except TemplateError (Option Expr) × Nat)}
    (hkind : ∀ token ∈ found, token.isKind .alternative = true)
    (h : found.map (headOf scope) = head :: heads) :
    ∃ tag inside rest, found = .logic tag inside :: rest ∧ tag.condition? scope = head.1 ∧
      tag.line = head.2 ∧ rest.map (headOf scope) = heads := by
  obtain ⟨first, rest, rfl, hfirst, hrest⟩ := List.map_eq_cons_iff.mp h
  have hfirstKind := hkind first List.mem_cons_self
  cases first with
  | logic tag inside =>
    exact ⟨tag, inside, rest, rfl, congrArg Prod.fst hfirst, congrArg Prod.snd hfirst, hrest⟩
  | literal | output => cases hfirstKind

/-- One of the alternatives is refused where the nodes of a body cannot be cut into branches. -/
theorem exists_refused_of_branches {tokens children : List Token} {tag : LogicTag} {nodes : List Node}
    {error : TemplateError} (hblock : .logic tag children ∈ Token.partsOf tokens)
    (hnodes : compileTokens scope tag.strip.start tag.strip.finish children = .ok nodes)
    (h : tag.kind = .condition ∧ choiceBranches (splitBranches nodes).2 = .error error ∨
      tag.kind = .loop ∧ emptyBranch (splitBranches nodes).2 = .error error) :
    ∃ token complaint, error = .located token.line complaint ∧
      Token.Refused scope tokens token complaint := by
  have hheads := alternatives_of_compileTokens hnodes
  rw [← headsOf_splitBranches] at hheads
  have hall : ∀ token ∈ Token.alternativesOf children, token.isKind .alternative = true :=
    fun token htoken => (List.mem_filter.mp htoken).2
  rcases h with ⟨hkind, h⟩ | ⟨hkind, h⟩
  · obtain ⟨front, line, condition, line', back, hfound, rfl⟩ := choiceBranches_eq_error h
    rw [hfound, List.map_append, List.map_cons, List.map_cons] at hheads
    obtain ⟨before, behind, hsplit, -, hbehind⟩ := List.map_eq_append_iff.mp hheads
    rw [hsplit] at hall
    obtain ⟨-, hall⟩ := List.forall_mem_append.mp hall
    obtain ⟨last, inside', behind, rfl, hlast, -, hbehind⟩ := Token.exists_logic_of_heads hall hbehind
    obtain ⟨-, hall⟩ := List.forall_mem_cons.mp hall
    obtain ⟨next, inside, behind, rfl, -, rfl, -⟩ := Token.exists_logic_of_heads hall hbehind
    exact ⟨_, _, rfl, .afterElse hblock hkind hsplit hlast⟩
  · obtain ⟨line, rfl, hfound⟩ := emptyBranch_eq_error h
    rcases hfound with ⟨condition, back, hfound⟩ | ⟨first, condition, back, hfound⟩
    · rw [hfound, List.map_cons] at hheads
      obtain ⟨next, inside, behind, hsplit, hcondition, rfl, -⟩ := Token.exists_logic_of_heads hall hheads
      exact ⟨_, _, rfl, .conditional hblock hkind hsplit hcondition⟩
    · rw [hfound, List.map_cons, List.map_cons] at hheads
      obtain ⟨first, inside', behind, hsplit, -, -, hbehind⟩ := Token.exists_logic_of_heads hall hheads
      rw [hsplit] at hall
      obtain ⟨-, hall⟩ := List.forall_mem_cons.mp hall
      obtain ⟨next, inside, behind, rfl, -, rfl, -⟩ := Token.exists_logic_of_heads hall hbehind
      exact ⟨_, _, rfl, .second hblock hkind hsplit⟩

namespace Token

theorem Refused.mono {tokens tokens' : List Token} {token : Token} {complaint : Complaint}
    (hsubset : partsOf tokens ⊆ partsOf tokens') (h : Refused scope tokens token complaint) :
    Refused scope tokens' token complaint := by
  cases h with
  | alone htoken h habout => exact .alone (hsubset htoken) h habout
  | afterElse hblock hkind halternatives hlast => exact .afterElse (hsubset hblock) hkind halternatives hlast
  | conditional hblock hkind halternatives hcondition =>
    exact .conditional (hsubset hblock) hkind halternatives hcondition
  | second hblock hkind halternatives => exact .second (hsubset hblock) hkind halternatives

/-- What parent tags stand for has no part in this. -/
theorem Refused.of_parent {parent : Option (List Node)} {tokens : List Token} {token : Token}
    {complaint : Complaint} (h : Refused { scope with parent := parent } tokens token complaint) :
    Refused scope tokens token complaint := by
  cases h with
  | alone htoken h habout =>
    refine .alone htoken ?_ habout
    have hsame : alternatives <$> compileToken { scope with parent := parent } false false token.alone =
        alternatives <$> compileToken scope false false token.alone :=
      alternatives_compileToken parent scope.parent false false token.alone
    exact eq_error_of_map hsame h
  | afterElse hblock hkind halternatives hlast => exact .afterElse hblock hkind halternatives hlast
  | conditional hblock hkind halternatives hcondition =>
    exact .conditional hblock hkind halternatives hcondition
  | second hblock hkind halternatives => exact .second hblock hkind halternatives

theorem Refused.mem {tokens : List Token} {token : Token} {complaint : Complaint}
    (h : Refused scope tokens token complaint) : token ∈ partsOf tokens := by
  have halternative {block : LogicTag} {children : List Token}
      (hblock : .logic block children ∈ partsOf tokens) (htoken : token ∈ alternativesOf children) : token ∈ partsOf tokens := by
    have hchild : token ∈ partsOf children :=
      mem_partsOf.mpr ⟨token, (List.mem_filter.mp htoken).1, mem_parts_self token⟩
    exact parts_subset_of_mem tokens hblock (List.mem_cons_of_mem _ hchild)
  cases h with
  | alone htoken => exact htoken
  | afterElse hblock _ halternatives => exact halternative hblock (by simp [halternatives])
  | conditional hblock _ halternatives => exact halternative hblock (by simp [halternatives])
  | second hblock _ halternatives => exact halternative hblock (by simp [halternatives])

/-- The error is about one of the tokens, and bears its line. -/
def Blamed (scope : Scope) (tokens : List Token) (error : TemplateError) : Prop :=
  ∃ token complaint, error = .located token.line complaint ∧ Refused scope tokens token complaint

theorem Blamed.mono {tokens tokens' : List Token} {error : TemplateError}
    (hsubset : partsOf tokens ⊆ partsOf tokens') (h : Blamed scope tokens error) :
    Blamed scope tokens' error := by
  obtain ⟨token, complaint, rfl, hrefused⟩ := h
  exact ⟨token, complaint, rfl, hrefused.mono hsubset⟩

mutual

theorem blamed_of_compileToken {start finish : Bool} {error : TemplateError} : (token : Token) →
    compileToken scope start finish token = .error error → Blamed scope [token] error
  | .literal text, h => nomatch h
  | .output tag, h => by
    have halone : compileToken scope false false (alone (.output tag)) = .error error := h
    obtain ⟨complaint, rfl, habout⟩ := blames_compileToken_alone _ error halone
    exact ⟨.output tag, complaint, rfl, .alone List.mem_cons_self halone habout⟩
  | .logic tag children, h => by
    have hself : Token.logic tag children ∈ partsOf [.logic tag children] := List.mem_cons_self
    rcases compileToken_eq_error h with halone | hbody | ⟨nodes, hnodes, hbranches⟩
    · obtain ⟨complaint, rfl, habout⟩ := blames_compileToken_alone (.logic tag children) error halone
      exact ⟨.logic tag children, complaint, rfl, .alone hself halone habout⟩
    · refine (blamed_of_compileTokens children hbody).mono ?_
      exact fun part hpart => parts_subset_of_mem _ hself (List.mem_cons_of_mem _ hpart)
    · exact exists_refused_of_branches hself hnodes hbranches

/-- Tokens do not compile only where one of them is refused. -/
theorem blamed_of_compileTokens {start finish : Bool} {error : TemplateError} : (tokens : List Token) →
    compileTokens scope start finish tokens = .error error → Blamed scope tokens error
  | [], h => nomatch h
  | token :: rest, h => by
    rw [compileTokens] at h
    rcases bind_eq_error.mp h with h | ⟨nodes, -, h⟩
    · refine (blamed_of_compileToken token h).mono fun part hpart => ?_
      exact List.mem_append_left _ (by simpa using hpart)
    · rcases bind_eq_error.mp h with h | ⟨_, _, ⟨⟩⟩
      refine (blamed_of_compileTokens rest h).mono fun part hpart => ?_
      exact List.mem_append_right _ hpart

end

end Token

end Bodies

end Stencil
