import Stencil.Node.Compile
import Stencil.Proofs.Node.Parts
import Stencil.Proofs.Result
import Stencil.Proofs.Token.Parts

/-!
Where compiled nodes come from. Every part of the nodes of a body is made by a token of that body, or
belongs to what a parent tag stands for; and nothing that tokens make is lost but the alternatives, which
only mark where branches start.
-/
namespace Stencil

/-- The nodes that a token makes, apart from those inside it. -/
inductive Token.Makes (scope : Scope) : Token → Node → Prop
  | text (start finish : Bool) (text : String) :
      Makes scope (.literal text) (.text (stripText start finish text))
  | output (tag : OutputTag) (expr : Expr) (filters : List FilterCall) :
      Makes scope (.output tag) (.output expr filters tag.escape)
  | loop {tag : LogicTag} {children : List Token} (hkind : tag.kind = .loop)
      (key : Option String) (item : String) (source : Expr) (body empty : List Node) :
      Makes scope (.logic tag children) (.loop key item source body empty)
  | choice {tag : LogicTag} {children : List Token} (hkind : tag.kind = .condition)
      (branches : List (Expr × List Node)) (otherwise : List Node) :
      Makes scope (.logic tag children) (.choice branches otherwise)
  | alternative {tag : LogicTag} {children : List Token} (hkind : tag.kind = .alternative)
      (condition : Option Expr) (line : Nat) :
      Makes scope (.logic tag children) (.alternative condition line)
  | assign {tag : LogicTag} {children : List Token} (hkind : tag.kind = .assignment)
      (name : String) (value : Expr) : Makes scope (.logic tag children) (.assign name value)
  | filter {tag : LogicTag} {children : List Token} (hkind : tag.kind = .filter)
      (call : Option FilterCall) (body : List Node) :
      Makes scope (.logic tag children) (.filter call body)
  | define {tag : LogicTag} {children : List Token} (hkind : tag.kind = .definition)
      (name : String) (parameters : List String) {start finish : Bool} {body : List Node}
      (hbody : compileTokens scope start finish children = .ok body) :
      Makes scope (.logic tag children) (.define name parameters body)
  | inclusion {tag : LogicTag} {children : List Token} (hkind : tag.kind = .inclusion)
      (template : Expr) (ignoreMissing : Bool) (bindings : Option Expr) (only : Bool) :
      Makes scope (.logic tag children) (.inclusion template ignoreMissing bindings only)
  | importation {tag : LogicTag} {children : List Token} (hkind : tag.kind = .importation)
      (template : Expr) (space : String) :
      Makes scope (.logic tag children) (.importation template space)
  | block {tag : LogicTag} {children : List Token} (hkind : tag.kind = .block) :
      Makes scope (.logic tag children) (.block tag.blockName)
  | group {tag : LogicTag} {children : List Token} (hkind : tag.kind = .raw ∨ tag.kind = .autoescape)
      (body : List Node) : Makes scope (.logic tag children) (.group body)
  | host {tag : LogicTag} {children : List Token} {name : String} (hkind : tag.kind = .host name)
      (host : HostTag) (arguments : List Expr) (body : List Node) :
      Makes scope (.logic tag children) (.host name host arguments body)

/-- Separates branches only. -/
def Node.isAlternative : Node → Bool
  | .alternative .. => true
  | _ => false

/-- The nodes inside a node: all its parts but itself come from these, and none of them is lost or moved but
for alternatives. -/
structure Node.Holds (node : Node) (inner : List Node) : Prop where
  of_mem : ∀ part, part ∈ node.parts → part = node ∨ part ∈ Node.partsOf inner
  kept : node.parts.filter (!·.isAlternative) = node :: (Node.partsOf inner).filter (!·.isAlternative)

theorem Node.Holds.mem {node : Node} {inner : List Node} (h : node.Holds inner) (part : Node)
    (hpart : part ∈ Node.partsOf inner) (hplain : part.isAlternative = false) : part ∈ node.parts := by
  have hkept : part ∈ node.parts.filter (!·.isAlternative) := by
    rw [h.kept]
    exact List.mem_cons_of_mem _ (List.mem_filter.mpr ⟨hpart, by rw [hplain]; rfl⟩)
  exact (List.mem_filter.mp hkept).1

theorem Node.Holds.of_parts {node : Node} {inner : List Node} (hplain : node.isAlternative = false)
    (h : node.parts = node :: Node.partsOf inner) : node.Holds inner where
  of_mem part hpart := by simpa [h] using hpart
  kept := by rw [h, List.filter_cons, if_pos (by rw [hplain]; rfl)]

section Branches

/-- The parts of all the branches. -/
def partsOfAll (branches : List Branch) : List Node :=
  branches.flatMap fun branch => Node.partsOf branch.body

/-- Splitting takes out alternatives, and changes the order of nothing. -/
theorem filter_partsOf_splitBranches (nodes : List Node) :
    (Node.partsOf (splitBranches nodes).1 ++ partsOfAll (splitBranches nodes).2).filter
        (!·.isAlternative) = (Node.partsOf nodes).filter (!·.isAlternative) := by
  fun_induction splitBranches nodes with
  | case1 => rfl
  | case2 condition line rest body branches hsplit ih =>
    rw [hsplit] at ih
    have hmarks : (!(Node.alternative condition line).isAlternative) = false := rfl
    rw [Node.partsOf_cons, Node.parts, List.singleton_append, List.filter_cons, hmarks,
      if_neg Bool.false_ne_true, ← ih]
    rfl
  | case3 node rest _ body branches hsplit ih =>
    rw [hsplit] at ih
    have hfront : Node.partsOf (node :: body) ++ partsOfAll branches =
        node.parts ++ (Node.partsOf body ++ partsOfAll branches) := by
      rw [Node.partsOf_cons, List.append_assoc]
    rw [hfront, List.filter_append, ih, Node.partsOf_cons, List.filter_append]

/-- Splitting leaves parts out, and adds none. -/
theorem mem_partsOf_of_splitBranches {nodes : List Node} {part : Node}
    (h : part ∈ Node.partsOf (splitBranches nodes).1 ++ partsOfAll (splitBranches nodes).2) :
    part ∈ Node.partsOf nodes := by
  fun_induction splitBranches nodes with
  | case1 => simp [partsOfAll] at h
  | case2 condition line rest body branches hsplit ih =>
    rw [hsplit] at ih
    simp only [Node.partsOf_nil, List.nil_append, partsOfAll, List.flatMap_cons] at h
    exact List.mem_append_right _ (ih h)
  | case3 node rest _ body branches hsplit ih =>
    rw [hsplit] at ih
    simp only [List.mem_append, Node.partsOf_cons] at h ih ⊢
    rcases h with (h | h) | h
    · exact Or.inl h
    · exact Or.inr (ih (Or.inl h))
    · exact Or.inr (ih (Or.inr h))

theorem partsOf_choiceBranches {branches : List Branch} {choices : List (Expr × List Node)}
    {otherwise : List Node} (h : choiceBranches branches = .ok (choices, otherwise)) :
    Node.partsOfBranches choices ++ Node.partsOf otherwise = partsOfAll branches := by
  fun_induction choiceBranches branches generalizing choices otherwise with
  | case1 =>
    cases h
    rfl
  | case2 condition line body rest ih =>
    obtain ⟨⟨inner, last⟩, hrest, hpair⟩ := bind_eq_ok.mp h
    cases hpair
    simp [Node.partsOfBranches, partsOfAll, List.append_assoc, ih hrest]
  | case3 line body =>
    cases h
    simp [Node.partsOfBranches, partsOfAll]
  | case4 => cases h

theorem partsOf_emptyBranch {branches : List Branch} {body : List Node}
    (h : emptyBranch branches = .ok body) : Node.partsOf body = partsOfAll branches := by
  unfold emptyBranch at h
  split at h
  · cases h
    rfl
  · cases h
  · cases h
    simp [partsOfAll]
  · cases h

/-- A node whose parts are those of split nodes holds the nodes before the split. -/
theorem Node.Holds.of_split {node : Node} {inner : List Node} (hplain : node.isAlternative = false)
    (h : node.parts =
      node :: (Node.partsOf (splitBranches inner).1 ++ partsOfAll (splitBranches inner).2)) :
    node.Holds inner where
  of_mem part hpart := by
    rw [h] at hpart
    rcases List.mem_cons.mp hpart with rfl | hpart
    · exact Or.inl rfl
    · exact Or.inr (mem_partsOf_of_splitBranches hpart)
  kept := by
    rw [h, List.filter_cons, if_pos (by rw [hplain]; rfl), filter_partsOf_splitBranches]

end Branches

/-- What a logic tag is compiled to. -/
inductive CompiledTag (scope : Scope) (tag : LogicTag) (children : List Token) :
    List Node → Prop
  | body {node : Node} {inner : List Node} (hbody : tag.hasBody scope.tags = true)
      (hinner : compileTokens scope tag.strip.start tag.strip.finish children = .ok inner)
      (hmakes : Token.Makes scope (.logic tag children) node) (hholds : node.Holds inner) :
      CompiledTag scope tag children [node]
  | leaf {node : Node} (hbody : tag.hasBody scope.tags = false)
      (hmakes : Token.Makes scope (.logic tag children) node) (hparts : node.parts = [node]) :
      CompiledTag scope tag children [node]
  | parent (hkind : tag.kind = .parent) :
      CompiledTag scope tag children (scope.parent.map Node.fragment).toList
  | extends (hkind : tag.kind = .extends) : CompiledTag scope tag children []

theorem compiledTag_of_compileToken {scope : Scope} {start finish : Bool} {tag : LogicTag}
    {children : List Token} {nodes : List Node}
    (h : compileToken scope start finish (.logic tag children) = .ok nodes) :
    CompiledTag scope tag children nodes := by
  simp only [compileToken] at h
  split at h
  · rename_i hkind
    obtain ⟨loop, -, h⟩ := bind_eq_ok.mp h
    obtain ⟨inner, hinner, h⟩ := bind_eq_ok.mp h
    obtain ⟨empty, hempty, h⟩ := bind_eq_ok.mp h
    cases h
    refine .body (by simp [LogicTag.hasBody, hkind]) hinner (.loop hkind _ _ _ _ _) (.of_split rfl ?_)
    simp [Node.parts, partsOf_emptyBranch hempty]
  · rename_i hkind
    split at h
    · cases h
    obtain ⟨condition, -, h⟩ := bind_eq_ok.mp h
    obtain ⟨inner, hinner, h⟩ := bind_eq_ok.mp h
    obtain ⟨⟨branches, otherwise⟩, hbranches, h⟩ := bind_eq_ok.mp h
    cases h
    refine .body (by simp [LogicTag.hasBody, hkind]) hinner (.choice hkind _ _) (.of_split rfl ?_)
    simp [Node.parts, Node.partsOfBranches, List.append_assoc, partsOf_choiceBranches hbranches]
  · rename_i hkind
    obtain ⟨condition, -, h⟩ := bind_eq_ok.mp h
    cases h
    exact .leaf (by simp [LogicTag.hasBody, hkind]) (.alternative hkind _ _) rfl
  · rename_i hkind
    obtain ⟨⟨name, value⟩, -, h⟩ := bind_eq_ok.mp h
    cases h
    exact .leaf (by simp [LogicTag.hasBody, hkind]) (.assign hkind _ _) rfl
  · rename_i hkind
    obtain ⟨call, -, h⟩ := bind_eq_ok.mp h
    obtain ⟨inner, hinner, h⟩ := bind_eq_ok.mp h
    cases h
    exact .body (by simp [LogicTag.hasBody, hkind]) hinner (.filter hkind _ _) (.of_parts rfl rfl)
  · rename_i hkind
    obtain ⟨⟨name, parameters⟩, -, h⟩ := bind_eq_ok.mp h
    obtain ⟨inner, hinner, h⟩ := bind_eq_ok.mp h
    cases h
    exact .body (by simp [LogicTag.hasBody, hkind]) hinner (.define hkind _ _ hinner) (.of_parts rfl rfl)
  · rename_i hkind
    obtain ⟨inclusion, -, h⟩ := bind_eq_ok.mp h
    cases h
    exact .leaf (by simp [LogicTag.hasBody, hkind]) (.inclusion hkind _ _ _ _) rfl
  · rename_i hkind
    obtain ⟨⟨template, space⟩, -, h⟩ := bind_eq_ok.mp h
    cases h
    exact .leaf (by simp [LogicTag.hasBody, hkind]) (.importation hkind _ _) rfl
  · rename_i hkind
    cases h
    exact .leaf (by simp [LogicTag.hasBody, hkind]) (.block hkind) rfl
  · rename_i hkind
    cases h
    exact .extends hkind
  · rename_i hkind
    cases h
    exact .parent hkind
  · rename_i hkind
    obtain ⟨inner, hinner, h⟩ := bind_eq_ok.mp h
    cases h
    exact .body (by simp [LogicTag.hasBody, hkind]) hinner (.group (Or.inl hkind) _) (.of_parts rfl rfl)
  · rename_i hkind
    obtain ⟨inner, hinner, h⟩ := bind_eq_ok.mp h
    cases h
    exact .body (by simp [LogicTag.hasBody, hkind]) hinner (.group (Or.inr hkind) _) (.of_parts rfl rfl)
  · rename_i name hkind
    split at h
    · cases h
    · rename_i host hhost
      obtain ⟨arguments, -, h⟩ := bind_eq_ok.mp h
      split at h
      · rename_i hends
        obtain ⟨inner, hinner, h⟩ := bind_eq_ok.mp h
        cases h
        exact .body (by simp [LogicTag.hasBody, hkind, hhost, hends]) hinner
          (.host hkind _ _ _) (.of_parts rfl rfl)
      · rename_i hends
        cases h
        exact .leaf (by simp [LogicTag.hasBody, hkind, hhost, hends]) (.host hkind _ _ _) rfl

theorem eq_text_of_compileToken {scope : Scope} {start finish : Bool} {text : String} {nodes : List Node}
    {node : Node} (h : compileToken scope start finish (.literal text) = .ok nodes) (hnode : node ∈ nodes) :
    node = .text (stripText start finish text) := by
  cases h
  split at hnode
  · cases hnode
  · exact List.mem_singleton.mp hnode

theorem exists_output_of_compileToken {scope : Scope} {start finish : Bool} {tag : OutputTag}
    {nodes : List Node} (h : compileToken scope start finish (.output tag) = .ok nodes) :
    ∃ expr filters, nodes = [.output expr filters tag.escape] := by
  obtain ⟨node, hnode, h⟩ := bind_eq_ok.mp h
  obtain ⟨expr, -, hnode⟩ := bind_eq_ok.mp hnode
  obtain ⟨filters, -, hnode⟩ := bind_eq_ok.mp hnode
  cases hnode
  cases h
  exact ⟨expr, filters, rfl⟩

/-- Among the nodes that a parent tag stands for. -/
def Scope.Gives (scope : Scope) (part : Node) : Prop :=
  ∃ parent, scope.parent = some parent ∧ part ∈ Node.parts (.fragment parent)

/-- Made by one of the tokens, or given to one of them that is a parent tag. -/
def MadeOf (scope : Scope) (tokens : List Token) (part : Node) : Prop :=
  (∃ token ∈ tokens, token.Makes scope part) ∨
    (∃ token ∈ tokens, token.isKind .parent = true) ∧ scope.Gives part

theorem MadeOf.mono {scope : Scope} {tokens tokens' : List Token} {part : Node}
    (hsubset : tokens ⊆ tokens') (h : MadeOf scope tokens part) : MadeOf scope tokens' part := by
  rcases h with ⟨token, hmem, hmakes⟩ | ⟨⟨token, hmem, hkind⟩, hgives⟩
  · exact Or.inl ⟨token, hsubset hmem, hmakes⟩
  · exact Or.inr ⟨⟨token, hsubset hmem, hkind⟩, hgives⟩

theorem compileTokens_cons_eq_ok {scope : Scope} {start finish : Bool} {token : Token}
    {rest : List Token} {nodes : List Node} :
    compileTokens scope start finish (token :: rest) = .ok nodes ↔
      ∃ first others, compileToken scope start (stripsEnd finish rest) token = .ok first ∧
        compileTokens scope token.stripsAfter finish rest = .ok others ∧
        nodes = first ++ others := by
  simp only [compileTokens, bind_eq_ok]
  constructor
  · rintro ⟨first, hfirst, others, hothers, h⟩
    exact ⟨first, others, hfirst, hothers, (Except.ok.inj h).symm⟩
  · rintro ⟨first, others, hfirst, hothers, rfl⟩
    exact ⟨first, hfirst, others, hothers, rfl⟩

mutual

theorem madeOf_of_compileToken {scope : Scope} {start finish : Bool} {nodes : List Node}
    {part : Node} : (token : Token) → compileToken scope start finish token = .ok nodes →
      part ∈ Node.partsOf nodes → MadeOf scope (Token.bodyParts scope.tags token) part
  | .literal text, h, hpart => by
    obtain ⟨node, hnode, hpart⟩ := Node.mem_partsOf.mp hpart
    obtain rfl := eq_text_of_compileToken h hnode
    obtain rfl := List.mem_singleton.mp hpart
    exact Or.inl ⟨_, Token.mem_bodyParts_self _ _, .text start finish text⟩
  | .output tag, h, hpart => by
    obtain ⟨expr, filters, rfl⟩ := exists_output_of_compileToken h
    obtain rfl := List.mem_singleton.mp hpart
    exact Or.inl ⟨_, Token.mem_bodyParts_self _ _, .output tag expr filters⟩
  | .logic tag children, h, hpart => by
    have hself := Token.mem_bodyParts_self scope.tags (.logic tag children)
    cases compiledTag_of_compileToken h with
    | body hbody hinner hmakes hholds =>
      simp only [Node.partsOf_cons, Node.partsOf_nil, List.append_nil] at hpart
      rcases hholds.of_mem part hpart with rfl | hpart
      · exact Or.inl ⟨_, hself, hmakes⟩
      · refine (madeOf_of_compileTokens children hinner hpart).mono fun token htoken => ?_
        simp [Token.bodyParts, hbody, htoken]
    | leaf hbody hmakes hparts =>
      simp only [Node.partsOf_cons, Node.partsOf_nil, List.append_nil, hparts,
        List.mem_singleton] at hpart
      subst hpart
      exact Or.inl ⟨_, hself, hmakes⟩
    | parent hkind =>
      cases hparent : scope.parent with
      | none => simp [hparent] at hpart
      | some parent =>
        refine Or.inr ⟨⟨_, hself, by simp [Token.isKind, hkind]⟩, parent, hparent, ?_⟩
        simpa [hparent] using hpart
    | «extends» hkind => simp at hpart

/-- The parts of compiled nodes are made by tokens of the body, or belong to what a parent tag stands
for. -/
theorem madeOf_of_compileTokens {scope : Scope} {start finish : Bool} {nodes : List Node}
    {part : Node} : (tokens : List Token) → compileTokens scope start finish tokens = .ok nodes →
      part ∈ Node.partsOf nodes → MadeOf scope (Token.bodyPartsOf scope.tags tokens) part
  | [], h, hpart => by
    cases h
    simp at hpart
  | token :: rest, h, hpart => by
    obtain ⟨first, others, hfirst, hothers, rfl⟩ := compileTokens_cons_eq_ok.mp h
    simp only [Node.partsOf_append, List.mem_append] at hpart
    rw [Token.bodyPartsOf_cons]
    rcases hpart with hpart | hpart
    · exact (madeOf_of_compileToken token hfirst hpart).mono (List.subset_append_left _ _)
    · exact (madeOf_of_compileTokens rest hothers hpart).mono (List.subset_append_right _ _)

end

/-- The node that a block or a parent tag leaves. -/
def Token.leaves (scope : Scope) : Token → List Node
  | .logic tag _ =>
    match tag.kind with
    | .block => [.block tag.blockName]
    | .parent => (scope.parent.map Node.fragment).toList
    | _ => []
  | _ => []

theorem Token.leaves_eq_nil {scope : Scope} {tag : LogicTag} {children : List Token}
    (hblock : tag.kind ≠ .block) (hparent : tag.kind ≠ .parent) :
    Token.leaves scope (.logic tag children) = [] := by
  simp only [Token.leaves]

theorem Token.Makes.kind_ne_parent {scope : Scope} {tag : LogicTag} {children : List Token}
    {node : Node} (h : Token.Makes scope (.logic tag children) node) : tag.kind ≠ .parent := by
  intro hparent
  cases h <;> simp_all

theorem Token.Makes.eq_block {scope : Scope} {tag : LogicTag} {children : List Token}
    {node : Node} (h : Token.Makes scope (.logic tag children) node) (hkind : tag.kind = .block) :
    node = .block tag.blockName := by
  cases h <;> first | rfl | simp_all

mutual

theorem mem_partsOf_compileToken {scope : Scope} {start finish : Bool} {nodes : List Node}
    {token : Token} {node part : Node} (hnode : node ∈ token.leaves scope)
    (hpart : part ∈ node.parts) (hplain : part.isAlternative = false) :
    (whole : Token) → compileToken scope start finish whole = .ok nodes →
      token ∈ Token.bodyParts scope.tags whole → part ∈ Node.partsOf nodes
  | .literal text, _, htoken => by
    simp only [Token.bodyParts, List.mem_singleton] at htoken
    subst htoken
    simp [Token.leaves] at hnode
  | .output tag, _, htoken => by
    simp only [Token.bodyParts, List.mem_singleton] at htoken
    subst htoken
    simp [Token.leaves] at hnode
  | .logic tag children, h, htoken => by
    simp only [Token.bodyParts, List.mem_cons] at htoken
    cases compiledTag_of_compileToken h with
    | body hbody hinner hmakes hholds =>
      rw [if_pos hbody] at htoken
      simp only [Node.partsOf_cons, Node.partsOf_nil, List.append_nil]
      rcases htoken with rfl | htoken
      · rw [Token.leaves_eq_nil] at hnode
        · simp at hnode
        · intro hkind
          simp [LogicTag.hasBody, hkind] at hbody
        · intro hkind
          simp [LogicTag.hasBody, hkind] at hbody
      · exact hholds.mem part (mem_partsOf_compileTokens hnode hpart hplain children hinner htoken)
          hplain
    | leaf hbody hmakes hparts =>
      rw [hbody] at htoken
      simp only [Bool.false_eq_true, if_false, List.not_mem_nil, or_false] at htoken
      subst htoken
      by_cases hblock : tag.kind = .block
      · simp only [Token.leaves, hblock, List.mem_singleton] at hnode
        rw [hmakes.eq_block hblock, ← hnode]
        simpa using hpart
      · rw [Token.leaves_eq_nil hblock hmakes.kind_ne_parent] at hnode
        simp at hnode
    | parent hkind =>
      simp only [LogicTag.hasBody, hkind, Bool.false_eq_true, if_false, List.not_mem_nil, or_false]
        at htoken
      subst htoken
      simp only [Token.leaves, hkind] at hnode
      exact Node.mem_partsOf.mpr ⟨node, hnode, hpart⟩
    | «extends» hkind =>
      simp only [LogicTag.hasBody, hkind, Bool.false_eq_true, if_false, List.not_mem_nil, or_false]
        at htoken
      subst htoken
      simp [Token.leaves, hkind] at hnode

/-- What block and parent tags leave is among the parts of the compiled nodes. -/
theorem mem_partsOf_compileTokens {scope : Scope} {start finish : Bool} {nodes : List Node}
    {token : Token} {node part : Node} (hnode : node ∈ token.leaves scope)
    (hpart : part ∈ node.parts) (hplain : part.isAlternative = false) :
    (tokens : List Token) → compileTokens scope start finish tokens = .ok nodes →
      token ∈ Token.bodyPartsOf scope.tags tokens → part ∈ Node.partsOf nodes
  | [], _, htoken => by simp at htoken
  | whole :: rest, h, htoken => by
    obtain ⟨first, others, hfirst, hothers, rfl⟩ := compileTokens_cons_eq_ok.mp h
    simp only [Token.bodyPartsOf_cons, List.mem_append] at htoken
    simp only [Node.partsOf_append, List.mem_append]
    rcases htoken with htoken | htoken
    · exact Or.inl (mem_partsOf_compileToken hnode hpart hplain whole hfirst htoken)
    · exact Or.inr (mem_partsOf_compileTokens hnode hpart hplain rest hothers htoken)

end

end Stencil
