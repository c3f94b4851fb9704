import Stencil.Proofs.Inheritance.Chain
import Stencil.Proofs.Token.Dividing

/-!
Alternatives and branches. The nodes inside a condition or a loop are parted into its branches at the
alternatives among them, which are not part of any branch; all others are in one. So of a source whose
alternatives stand directly in such tags none is left in the program, wherever a node may stand in it.
-/
namespace Stencil

/-- A branch in its place: the alternative that begins it, and the nodes behind that. -/
def Branch.marked (branch : Branch) : List Node := .alternative branch.condition branch.line :: branch.body

/-- A branch apart from the line of its alternative. -/
def Branch.entry (branch : Branch) : Option Expr × List Node := (branch.condition, branch.body)

/-- Nodes as those before the first alternative and the branches that begin with one each. -/
structure Parted (nodes first : List Node) (branches : List Branch) : Prop where
  joined : nodes = first ++ branches.flatMap Branch.marked
  first : ∀ node ∈ first, node.isAlternative = false
  bodies : ∀ branch ∈ branches, ∀ node ∈ branch.body, node.isAlternative = false

/-- The first branch of a node, and the others with their conditions. What the node has for all other cases
is the last one, or it is empty if there is no such branch. -/
inductive Node.HasBranches : Node → List Node → List (Option Expr × List Node) → Prop
  | choice {condition : Expr} {first : List Node} (branches : List (Expr × List Node)) :
      HasBranches (.choice ((condition, first) :: branches) []) first
        (branches.map (Prod.map some id))
  | choiceElse {condition : Expr} {first : List Node} (branches : List (Expr × List Node))
      (otherwise : List Node) :
      HasBranches (.choice ((condition, first) :: branches) otherwise) first
        (branches.map (Prod.map some id) ++ [(none, otherwise)])
  | loop (key : Option String) (item : String) (source : Expr) (body : List Node) :
      HasBranches (.loop key item source body []) body []
  | loopElse (key : Option String) (item : String) (source : Expr) (body empty : List Node) :
      HasBranches (.loop key item source body empty) body [(none, empty)]

/-- Neither the node nor one inside it is an alternative. -/
def Node.Resolved (node : Node) : Prop := ∀ part ∈ node.parts, part.isAlternative = false

/-- In a body there is no alternative at any depth. -/
def Node.ResolvedAll (nodes : List Node) : Prop := ∀ node ∈ nodes, node.Resolved

/-- There is no alternative in the nodes nor in the body of a block. -/
structure Program.Resolved (program : Program) : Prop where
  nodes : Node.ResolvedAll program.nodes
  blocks : program.blocks.AllValues Node.ResolvedAll

section Branches

variable {scope : Scope} {start finish : Bool} {tag : LogicTag} {children : List Token}
  {nodes first inner : List Node} {node part : Node} {branches : List Branch}
  {rest : List (Option Expr × List Node)}

theorem parted_nil : Parted [] first branches ↔ first = [] ∧ branches = [] := by
  constructor
  · rintro ⟨hjoined, -, -⟩
    obtain ⟨rfl, hbranches⟩ := List.append_eq_nil_iff.mp hjoined.symm
    cases branches with
    | nil => exact ⟨rfl, rfl⟩
    | cons branch branches => cases hbranches
  · rintro ⟨rfl, rfl⟩
    exact ⟨rfl, nofun, nofun⟩

theorem parted_alternative {condition : Option Expr} {line : Nat} :
    Parted (.alternative condition line :: nodes) first branches ↔
      ∃ body others, first = [] ∧ branches = ⟨condition, line, body⟩ :: others ∧ Parted nodes body others := by
  constructor
  · rintro ⟨hjoined, hfirst, hbodies⟩
    cases first with
    | cons node first =>
      obtain ⟨rfl, -⟩ := List.cons.inj hjoined
      cases hfirst _ List.mem_cons_self
    | nil =>
      cases branches with
      | nil => cases hjoined
      | cons branch others =>
        obtain ⟨hmark, hrest⟩ := List.cons.inj hjoined
        obtain ⟨hbody, hothers⟩ := List.forall_mem_cons.mp hbodies
        cases hmark
        exact ⟨branch.body, others, rfl, rfl, hrest, hbody, hothers⟩
  · rintro ⟨body, others, rfl, rfl, hrest, hbody, hothers⟩
    exact ⟨congrArg _ hrest, nofun, List.forall_mem_cons.mpr ⟨hbody, hothers⟩⟩

theorem parted_plain (hplain : node.isAlternative = false) : Parted (node :: nodes) first branches ↔
    ∃ body, first = node :: body ∧ Parted nodes body branches := by
  constructor
  · rintro ⟨hjoined, hfirst, hbodies⟩
    cases first with
    | cons other body =>
      obtain ⟨rfl, hrest⟩ := List.cons.inj hjoined
      exact ⟨body, rfl, hrest, (List.forall_mem_cons.mp hfirst).2, hbodies⟩
    | nil =>
      cases branches with
      | nil => cases hjoined
      | cons branch others =>
        obtain ⟨rfl, -⟩ := List.cons.inj hjoined
        cases hplain
  · rintro ⟨body, rfl, hrest, hbody, hbodies⟩
    exact ⟨congrArg _ hrest, List.forall_mem_cons.mpr ⟨hplain, hbody⟩, hbodies⟩

/-- Splitting parts nodes at their alternatives, and that can be done in one way only. -/
theorem parted_iff : Parted nodes first branches ↔ splitBranches nodes = (first, branches) := by
  fun_induction splitBranches nodes generalizing first branches with
  | case1 =>
    rw [parted_nil, Prod.mk.injEq]
    exact and_congr eq_comm eq_comm
  | case2 condition line rest body others hsplit ih =>
    rw [parted_alternative]
    constructor
    · rintro ⟨body', others', rfl, rfl, hrest⟩
      cases hsplit.symm.trans (ih.mp hrest)
      rfl
    · rintro ⟨⟩
      exact ⟨body, others, rfl, rfl, ih.mpr hsplit⟩
  | case3 node rest hnode body others hsplit ih =>
    have hplain : node.isAlternative = false := by
      cases node with
      | alternative condition line => exact absurd rfl (hnode condition line)
      | _ => rfl
    rw [parted_plain hplain]
    constructor
    · rintro ⟨body', rfl, hrest⟩
      cases hsplit.symm.trans (ih.mp hrest)
      rfl
    · rintro ⟨⟩
      exact ⟨body, rfl, ih.mpr hsplit⟩

/-- All branches of a choice behind the first one have conditions, but perhaps the last. -/
theorem entries_of_choiceBranches {conditional : List (Expr × List Node)} {otherwise : List Node}
    (h : choiceBranches branches = .ok (conditional, otherwise)) :
    branches.map Branch.entry = conditional.map (Prod.map some id) ∧ otherwise = [] ∨
      branches.map Branch.entry = conditional.map (Prod.map some id) ++ [(none, otherwise)] := by
  fun_induction choiceBranches branches generalizing conditional otherwise with
  | case1 =>
    cases h
    exact Or.inl ⟨rfl, rfl⟩
  | case2 condition line body rest ih =>
    obtain ⟨⟨others, last⟩, hrest, hpair⟩ := bind_eq_ok.mp h
    cases hpair
    exact (ih hrest).imp (And.imp_left (congrArg _)) (congrArg _)
  | case3 line body =>
    cases h
    exact Or.inr rfl
  | case4 => cases h

theorem hasBranches_of_choiceBranches {condition : Expr} {conditional : List (Expr × List Node)}
    {otherwise : List Node} (h : choiceBranches branches = .ok (conditional, otherwise)) :
    (Node.choice ((condition, first) :: conditional) otherwise).HasBranches first
      (branches.map Branch.entry) := by
  rcases entries_of_choiceBranches h with ⟨hentries, rfl⟩ | hentries <;> rw [hentries]
  · exact .choice conditional
  · exact .choiceElse conditional otherwise

theorem hasBranches_of_emptyBranch {key : Option String} {item : String} {source : Expr} {empty : List Node}
    (h : emptyBranch branches = .ok empty) : (Node.loop key item source first empty).HasBranches first
      (branches.map Branch.entry) := by
  unfold emptyBranch at h
  split at h
  · cases h
    exact .loop key item source first
  · cases h
  · cases h
    exact .loopElse key item source first empty
  · cases h

/-- The branches of a condition or a loop are all that is inside the tag, in its order, with one alternative
between any two of them. -/
theorem branches_of_compileToken (hkind : tag.kind.hasBranches = true)
    (h : compileToken scope start finish (.logic tag children) = .ok nodes) :
    ∃ node inner first branches, nodes = [node] ∧
      compileTokens scope tag.strip.start tag.strip.finish children = .ok inner ∧
      Parted inner first branches ∧
      node.HasBranches first (branches.map Branch.entry) := by
  simp only [Tag.hasBranches, Bool.or_eq_true, decide_eq_true_eq] at hkind
  rcases hkind with hkind | hkind <;> simp only [compileToken, hkind] at h
  · split at h
    · cases h
    obtain ⟨condition, -, h⟩ := bind_eq_ok.mp h
    obtain ⟨inner, hinner, h⟩ := bind_eq_ok.mp h
    obtain ⟨⟨conditional, otherwise⟩, hbranches, h⟩ := bind_eq_ok.mp h
    cases h
    exact ⟨_, inner, _, _, rfl, hinner, parted_iff.mpr rfl, hasBranches_of_choiceBranches hbranches⟩
  · obtain ⟨loop, -, h⟩ := bind_eq_ok.mp h
    obtain ⟨inner, hinner, h⟩ := bind_eq_ok.mp h
    obtain ⟨empty, hempty, h⟩ := bind_eq_ok.mp h
    cases h
    exact ⟨_, inner, _, _, rfl, hinner, parted_iff.mpr rfl, hasBranches_of_emptyBranch hempty⟩

theorem partsOfBranches_eq (branches : List (Expr × List Node)) :
    Node.partsOfBranches branches = branches.flatMap (Node.partsOf ·.2) := by
  induction branches with
  | nil => rfl
  | cons branch branches ih =>
    rw [Node.partsOfBranches, ih]
    rfl

/-- The parts of a node with branches are the node itself and those of the branches. -/
theorem Node.HasBranches.parts_eq (h : node.HasBranches first rest) :
    node.parts = node :: (Node.partsOf first ++ rest.flatMap (Node.partsOf ·.2)) := by
  cases h with
  | choice branches => simp [Node.parts, Node.partsOfBranches, partsOfBranches_eq, List.flatMap_map]
  | choiceElse branches otherwise =>
    simp [Node.parts, Node.partsOfBranches, partsOfBranches_eq, List.flatMap_map]
  | loop => simp [Node.parts]
  | loopElse => simp [Node.parts]

theorem Node.HasBranches.not_alternative (h : node.HasBranches first rest) : node.isAlternative = false := by
  cases h <;> rfl

end Branches

section Resolved

variable {nodes first inner : List Node} {node : Node} {branches : List Branch}

namespace Node

theorem resolvedAll_iff : ResolvedAll nodes ↔ ∀ part ∈ partsOf nodes, part.isAlternative = false := by
  constructor
  · intro h part hpart
    obtain ⟨node, hnode, hpart⟩ := mem_partsOf.mp hpart
    exact h node hnode part hpart
  · intro h node hnode part hpart
    exact h part (mem_partsOf.mpr ⟨node, hnode, hpart⟩)

theorem Resolved.of_leaf (h : node.parts = [node]) (hplain : node.isAlternative = false) : node.Resolved := by
  intro part hpart
  rw [h, List.mem_singleton] at hpart
  exact hpart ▸ hplain

theorem Resolved.of_holds (h : node.Holds inner) (hplain : node.isAlternative = false)
    (hinner : ResolvedAll inner) :
    node.Resolved := by
  intro part hpart
  rcases h.of_mem part hpart with rfl | hpart
  · exact hplain
  · exact resolvedAll_iff.mp hinner part hpart

theorem resolved_fragment (h : ResolvedAll nodes) : (Node.fragment nodes).Resolved := by
  intro part hpart
  rcases List.mem_cons.mp hpart with rfl | hpart
  · rfl
  · exact resolvedAll_iff.mp h part hpart

/-- A node is resolved if all the nodes of its branches are. -/
theorem HasBranches.resolved (h : node.HasBranches first (branches.map Branch.entry))
    (hfirst : ResolvedAll first) (hbodies : ∀ branch ∈ branches, ResolvedAll branch.body) : node.Resolved := by
  intro part hpart
  rw [h.parts_eq, List.flatMap_map, List.mem_cons, List.mem_append, List.mem_flatMap] at hpart
  rcases hpart with rfl | hpart | ⟨branch, hbranch, hpart⟩
  · exact h.not_alternative
  · exact resolvedAll_iff.mp hfirst part hpart
  · exact resolvedAll_iff.mp (hbodies branch hbranch) part hpart

end Node

/-- Where nodes are parted at those that are not resolved, all branches are. -/
theorem Parted.resolved {allowed : Bool} (h : Parted nodes first branches)
    (hnodes : ∀ node ∈ nodes, node.Resolved ∨ allowed = true ∧ node.isAlternative = true) :
    Node.ResolvedAll first ∧ ∀ branch ∈ branches, Node.ResolvedAll branch.body := by
  have hplain : ∀ node ∈ nodes, node.isAlternative = false → node.Resolved := fun node hnode hplain =>
    (hnodes node hnode).resolve_right fun hmark => Bool.false_ne_true (hplain.symm.trans hmark.2)
  obtain ⟨rfl, hfirst, hbodies⟩ := h
  refine ⟨fun node hnode => hplain node (List.mem_append_left _ hnode) (hfirst node hnode), ?_⟩
  intro branch hbranch node hnode
  refine hplain node (List.mem_append_right _ ?_) (hbodies branch hbranch node hnode)
  exact List.mem_flatMap.mpr ⟨branch, hbranch, List.mem_cons_of_mem _ hnode⟩

theorem Token.Makes.not_alternative {scope : Scope} {tag : LogicTag} {children : List Token}
    (h : Token.Makes scope (.logic tag children) node)
    (hkind : tag.kind ≠ .alternative) : node.isAlternative = false := by
  cases h with
  | alternative heq => exact absurd heq hkind
  | _ => rfl

mutual

theorem resolved_of_compileToken {scope : Scope} {start finish allowed : Bool} {nodes : List Node}
    (hparent : ∀ parent, scope.parent = some parent → Node.ResolvedAll parent) :
    (token : Token) → Token.Divided allowed token → compileToken scope start finish token = .ok nodes →
      ∀ node ∈ nodes, node.Resolved ∨ allowed = true ∧ node.isAlternative = true
  | .literal text, _, h, node, hnode => by
    obtain rfl := eq_text_of_compileToken h hnode
    exact Or.inl (.of_leaf rfl rfl)
  | .output tag, _, h, node, hnode => by
    obtain ⟨expr, filters, rfl⟩ := exists_output_of_compileToken h
    obtain rfl := List.mem_singleton.mp hnode
    exact Or.inl (.of_leaf rfl rfl)
  | .logic tag children, hdivided, h, node, hnode => by
    obtain ⟨hallowed, hchildren⟩ := hdivided
    -- A tag with branches takes out the alternatives inside it; inside any other tag there are none.
    by_cases hbranches : tag.kind.hasBranches = true
    · obtain ⟨made, inner, first, branches, rfl, hinner, hparted, hmade⟩ :=
        branches_of_compileToken hbranches h
      obtain rfl := List.mem_singleton.mp hnode
      have hresolved := hparted.resolved (resolved_of_compileTokens hparent children hchildren hinner)
      exact Or.inl (hmade.resolved hresolved.1 hresolved.2)
    · rw [Bool.not_eq_true] at hbranches
      rw [hbranches] at hchildren
      cases compiledTag_of_compileToken h with
      | body hbody hinner hmakes hholds =>
        obtain rfl := List.mem_singleton.mp hnode
        have hkind : tag.kind ≠ .alternative := by
          intro heq
          simp [LogicTag.hasBody, heq] at hbody
        refine Or.inl (.of_holds hholds (hmakes.not_alternative hkind) ?_)
        intro part hpart
        exact (resolved_of_compileTokens hparent children hchildren hinner part hpart).resolve_right nofun
      | leaf hbody hmakes hparts =>
        obtain rfl := List.mem_singleton.mp hnode
        by_cases hkind : tag.kind = .alternative
        · cases hmakes with
          | alternative => exact Or.inr ⟨hallowed hkind, rfl⟩
          | _ => simp_all
        · exact Or.inl (.of_leaf hparts (hmakes.not_alternative hkind))
      | parent hkind =>
        obtain ⟨nodes, hscope, rfl⟩ := Option.map_eq_some_iff.mp (Option.mem_toList.mp hnode)
        exact Or.inl (Node.resolved_fragment (hparent nodes hscope))
      | «extends» hkind => cases hnode

/-- Alternatives that stand where they may are left only there, for the tag around them to take out. -/
theorem resolved_of_compileTokens {scope : Scope} {start finish allowed : Bool} {nodes : List Node}
    (hparent : ∀ parent, scope.parent = some parent → Node.ResolvedAll parent) :
    (tokens : List Token) → Token.DividedAll allowed tokens →
      compileTokens scope start finish tokens = .ok nodes →
      ∀ node ∈ nodes, node.Resolved ∨ allowed = true ∧ node.isAlternative = true
  | [], _, h, node, hnode => by
    cases h
    cases hnode
  | token :: rest, hdivided, h, node, hnode => by
    obtain ⟨first, others, hfirst, hothers, rfl⟩ := compileTokens_cons_eq_ok.mp h
    rcases List.mem_append.mp hnode with hnode | hnode
    · exact resolved_of_compileToken hparent token hdivided.1 hfirst node hnode
    · exact resolved_of_compileTokens hparent rest hdivided.2 hothers node hnode

end

mutual

theorem allValues_of_compileBlock {P : List Node → Prop} {scope : Scope} {inherited blocks blocks' : Blocks}
    (hblocks : blocks.AllValues P) : (token : Token) →
    (∀ declaration ∈ Token.declarations token, ∀ body,
      declaration.compile scope (Fields.get? inherited declaration.name) = .ok body → P body) →
    compileBlock scope inherited token blocks = .ok blocks' → blocks'.AllValues P
  | .literal text, _, h => by
    cases h
    exact hblocks
  | .output tag, _, h => by
    cases h
    exact hblocks
  | .logic tag children, hcompile, h => by
    rw [compileBlock] at h
    split at h
    · rename_i hkind
      rw [Token.declarations, if_pos hkind] at hcompile
      obtain ⟨hself, hinside⟩ := List.forall_mem_cons.mp hcompile
      obtain ⟨body, hbody, hrest⟩ := bind_eq_ok.mp h
      exact allValues_of_compileBlocks (hblocks.put _ (hself body hbody)) children hinside hrest
    · cases h
      exact hblocks

/-- What holds of the blocks that there were, and of all bodies that are declared, holds of the blocks of a
template. -/
theorem allValues_of_compileBlocks {P : List Node → Prop} {scope : Scope} {inherited blocks blocks' : Blocks}
    (hblocks : blocks.AllValues P) : (tokens : List Token) →
    (∀ declaration ∈ Token.declarationsOf tokens, ∀ body,
      declaration.compile scope (Fields.get? inherited declaration.name) = .ok body → P body) →
    compileBlocks scope inherited tokens blocks = .ok blocks' → blocks'.AllValues P
  | [], _, h => by
    cases h
    exact hblocks
  | token :: rest, hcompile, h => by
    rw [Token.declarationsOf] at hcompile
    obtain ⟨hfirst, hothers⟩ := List.forall_mem_append.mp hcompile
    obtain ⟨between, hbetween, hrest⟩ := bind_eq_ok.mp h
    have hafter := allValues_of_compileBlock hblocks token hfirst hbetween
    exact allValues_of_compileBlocks hafter rest hothers hrest

end

/-- Where no alternatives stand at the top none is left at all. -/
theorem resolvedAll_of_compileTokens {scope : Scope} {start finish : Bool} {tokens : List Token}
    (hparent : ∀ parent, scope.parent = some parent → Node.ResolvedAll parent)
    (htokens : Token.DividedAll false tokens) (h : compileTokens scope start finish tokens = .ok nodes) :
    Node.ResolvedAll nodes := fun node hnode =>
  (resolved_of_compileTokens hparent tokens htokens h node hnode).resolve_right nofun

theorem resolved_of_compileBlocks {scope : Scope} {tokens : List Token} {inherited blocks blocks' : Blocks}
    (hinherited : inherited.AllValues Node.ResolvedAll) (hblocks : blocks.AllValues Node.ResolvedAll)
    (htokens : Token.DividedAll false tokens) (h : compileBlocks scope inherited tokens blocks = .ok blocks') :
    blocks'.AllValues Node.ResolvedAll := by
  refine allValues_of_compileBlocks hblocks tokens ?_ h
  intro declaration hmem body hbody
  refine resolvedAll_of_compileTokens ?_ (Token.dividedAll_of_declared tokens htokens hmem) hbody
  intro parent hparent
  exact hinherited.get? hparent

namespace Program

variable {scope : Scope} {tokens : List Token} {program layout : Program}

theorem resolved_of_ofTokens (hscope : scope.parent = none) (htokens : Token.DividedAll false tokens)
    (h : ofTokens scope tokens = .ok program) : program.Resolved := by
  obtain ⟨hnodes, hblocks⟩ := Chain.ofTokens_eq_ok h
  have hparent : ∀ parent, scope.parent = some parent → Node.ResolvedAll parent := by
    rw [hscope]
    exact nofun
  have hnone : Fields.AllValues Node.ResolvedAll [] := .nil _
  exact ⟨resolvedAll_of_compileTokens hparent htokens hnodes,
    resolved_of_compileBlocks hnone hnone htokens hblocks⟩

theorem resolved_of_extend (hscope : scope.parent = none) (htokens : Token.DividedAll false tokens)
    (hlayout : layout.Resolved) (h : extend scope tokens layout = .ok program) : program.Resolved := by
  obtain ⟨hblocks, assignments, hassignments, hnodes⟩ := Chain.extend_eq_ok h
  have hparent : ∀ parent, scope.parent = some parent → Node.ResolvedAll parent := by
    rw [hscope]
    exact nofun
  refine ⟨?_, resolved_of_compileBlocks hlayout.blocks hlayout.blocks htokens hblocks⟩
  rw [hnodes]
  refine List.forall_mem_append.mpr ⟨?_, List.forall_mem_singleton.mpr (Node.resolved_fragment hlayout.nodes)⟩
  exact resolvedAll_of_compileTokens hparent (htokens.subset List.filter_sublist.subset) hassignments

end Program

/-- Along a chain of layouts no alternative is left. -/
theorem Chain.Compiles.resolved {scope : Scope} {chain : Chain} {program : Program}
    (hscope : scope.parent = none) (hchain : ∀ tokens ∈ chain, Token.DividedAll false tokens)
    (h : Compiles scope chain program) : program.Resolved := by
  induction h with
  | alone h => exact Program.resolved_of_ofTokens hscope (List.forall_mem_singleton.mp hchain) h
  | extended hlayout h ih =>
    obtain ⟨htokens, holder⟩ := List.forall_mem_cons.mp hchain
    exact Program.resolved_of_extend hscope htokens (ih holder) h

end Resolved

end Stencil
