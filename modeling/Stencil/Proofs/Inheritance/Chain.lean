import Stencil.Proofs.Inheritance.Declarations
import Stencil.Proofs.Node.Origin

/-!
Chains of layouts and what they mean. The reference meaning looks at the declarations of the templates
only: the first template of the chain that declares a block gives its body, in which a parent tag stands
for what the block means further up. Programs that are compiled along a chain agree with it.
-/
namespace Stencil

/-- The tokens of a template, then those of its layout, and so on up to one without a layout. -/
abbrev Chain := List (List Token)

mutual

/-- What a fragment holds in its place; any other node is left as it is. -/
def Node.opened : Node → List Node
  | .fragment inner => Node.unwrap inner
  | node => [node]

/-- Nodes with the fragments among them opened, which render as what they hold. -/
def Node.unwrap : List Node → List Node
  | [] => []
  | node :: rest => node.opened ++ Node.unwrap rest

end

namespace Chain

/-- The body that a block has in the end, if some template of the chain declares it. -/
def effective (scope : Scope) : Chain → String → Except TemplateError (Option (List Node))
  | [], _ => .ok none
  | tokens :: older, name => do
    let inherited ← effective scope older name
    match Declaration.last? name (Token.declarationsOf tokens) with
    | none => return inherited
    | some declaration => return some (← declaration.compile scope inherited)

/-- The assignments of each template but the last, and all nodes of the last one. -/
def nodes (scope : Scope) : Chain → Except TemplateError (List Node)
  | [] => .ok []
  | [tokens] => compileTokens scope false false tokens
  | tokens :: older => do
    let assignments ← compileTokens scope false false (Token.assignments tokens)
    return assignments ++ (← nodes scope older)

/-- In the body that a template gives a block, a parent tag stands for the body of the block further up, if
there is one. There are no other fragments in it but those inside that body. -/
theorem fragment_mem_effective_iff {scope : Scope} {tokens : List Token} {older : Chain} {name : String}
    {declaration : Declaration} {body inner : List Node}
    (hlast : Declaration.last? name (Token.declarationsOf tokens) = some declaration)
    (h : effective scope (tokens :: older) name = .ok (some body)) :
    .fragment inner ∈ Node.partsOf body ↔
      (∃ token ∈ Token.bodyPartsOf scope.tags declaration.body, token.isKind .parent = true) ∧
        ∃ inherited, effective scope older name = .ok (some inherited) ∧
          .fragment inner ∈ (Node.fragment inherited).parts := by
  unfold effective at h
  obtain ⟨inherited, hinherited, h⟩ := bind_eq_ok.mp h
  rw [hlast] at h
  obtain ⟨compiled, hcompiled, h⟩ := bind_eq_ok.mp h
  cases h
  constructor
  · intro hpart
    rcases madeOf_of_compileTokens declaration.body hcompiled hpart with
      ⟨token, -, hmakes⟩ | ⟨hparent, found, hfound, hpart⟩
    · cases hmakes
    · exact ⟨hparent, found, hinherited.trans (congrArg Except.ok hfound), hpart⟩
  · rintro ⟨⟨token, htoken, hkind⟩, found, hfound, hpart⟩
    cases hinherited.symm.trans hfound
    refine mem_partsOf_compileTokens ?_ hpart rfl declaration.body hcompiled htoken
    cases token with
    | logic tag children =>
      have hkind : tag.kind = .parent := of_decide_eq_true hkind
      simp [Token.leaves, hkind]
    | _ => cases hkind

/-- The set tags outside all other tags, in the order of the source. -/
def setTags : List Token → List LogicTag
  | [] => []
  | .logic tag _ :: rest => if tag.kind = .assignment then tag :: setTags rest else setTags rest
  | _ :: rest => setTags rest

/-- The node of a set tag. -/
def assigned (scope : Scope) (tag : LogicTag) : Except TemplateError Node := do
  let (name, value) ← Arguments.read tag (Arguments.assignment scope.filters tag)
  return .assign name value

/-- The assignments of a template are one for each set tag outside all other tags, in their order. -/
theorem compile_assignments (scope : Scope) (start finish : Bool) (tokens : List Token) :
    compileTokens scope start finish (Token.assignments tokens) = (setTags tokens).mapM (assigned scope) := by
  induction tokens generalizing start with
  | nil => rfl
  | cons token rest ih =>
    cases token with
    | logic tag children =>
      by_cases hkind : tag.kind = .assignment
      · have hassignments : Token.assignments (.logic tag children :: rest) =
            .logic tag children :: Token.assignments rest :=
          List.filter_cons_of_pos (by simpa [Token.isKind] using hkind)
        rw [hassignments, setTags, if_pos hkind, List.mapM_cons, compileTokens, compileToken, hkind, ih]
        unfold assigned
        simp only [bind_assoc, pure_bind]
        rfl
      · have hassignments : Token.assignments (.logic tag children :: rest) = Token.assignments rest :=
          List.filter_cons_of_neg (by simpa [Token.isKind] using hkind)
        rw [hassignments, setTags, if_neg hkind, ih]
    | _ => exact ih start

/-- A template over a layout puts the nodes of its set tags before those of the layout. -/
theorem nodes_over (scope : Scope) (tokens layout : List Token) (older : Chain) :
    nodes scope (tokens :: layout :: older) = do
      let assignments ← (setTags tokens).mapM (assigned scope)
      return assignments ++ (← nodes scope (layout :: older)) := by
  rw [nodes, compile_assignments]
  exact nofun

/-- The program that is compiled along a chain, one template over its layout after another. -/
inductive Compiles (scope : Scope) : Chain → Program → Prop
  | alone {tokens : List Token} {program : Program}
      (h : Program.ofTokens scope tokens = .ok program) : Compiles scope [tokens] program
  | extended {tokens : List Token} {older : Chain} {layout program : Program}
      (hlayout : Compiles scope older layout)
      (h : Program.extend scope tokens layout = .ok program) :
      Compiles scope (tokens :: older) program

variable {scope : Scope} {chain : Chain} {program : Program}

theorem ofTokens_eq_ok {tokens : List Token} (h : Program.ofTokens scope tokens = .ok program) :
    compileTokens scope false false tokens = .ok program.nodes ∧
      compileBlocks scope [] tokens [] = .ok program.blocks := by
  obtain ⟨nodes, hnodes, h⟩ := bind_eq_ok.mp h
  obtain ⟨blocks, hblocks, h⟩ := bind_eq_ok.mp h
  cases h
  exact ⟨hnodes, hblocks⟩

theorem extend_eq_ok {tokens : List Token} {layout : Program}
    (h : Program.extend scope tokens layout = .ok program) :
    compileBlocks scope layout.blocks tokens layout.blocks = .ok program.blocks ∧
      ∃ assignments, compileTokens scope false false (Token.assignments tokens) = .ok assignments ∧
        program.nodes = assignments ++ [.fragment layout.nodes] := by
  obtain ⟨blocks, hblocks, h⟩ := bind_eq_ok.mp h
  obtain ⟨nodes, hnodes, h⟩ := bind_eq_ok.mp h
  cases h
  exact ⟨hblocks, nodes, hnodes, rfl⟩

/-- Every block of the program has the body that its name has in the chain. -/
theorem Compiles.effective (h : Compiles scope chain program) (name : String) :
    effective scope chain name = .ok (Fields.get? program.blocks name) := by
  induction h with
  | @alone tokens program h =>
    have hover := override_of_compileBlocks name tokens (ofTokens_eq_ok h).2
    rw [← hover]
    unfold Chain.effective Chain.effective Blocks.override
    cases Declaration.last? name (Token.declarationsOf tokens) with
    | none => rfl
    | some declaration => rfl
  | @extended tokens older layout program hlayout h ih =>
    have hover := override_of_compileBlocks name tokens (extend_eq_ok h).1
    rw [← hover]
    unfold Chain.effective Blocks.override
    rw [ih]
    cases Declaration.last? name (Token.declarationsOf tokens) with
    | none => rfl
    | some declaration => rfl

/-- Without a parent no fragments are compiled. -/
theorem not_fragment_of_mem {tokens : List Token} {start finish : Bool} {nodes : List Node}
    (hscope : scope.parent = none) (h : compileTokens scope start finish tokens = .ok nodes)
    {node : Node} (hnode : node ∈ nodes) (inner : List Node) : node ≠ .fragment inner := by
  rintro rfl
  have hpart : Node.fragment inner ∈ Node.partsOf nodes :=
    Node.mem_partsOf.mpr ⟨_, hnode, Node.mem_parts_self _⟩
  rcases madeOf_of_compileTokens tokens h hpart with ⟨token, -, hmakes⟩ | ⟨-, parent, hparent, -⟩
  · cases hmakes
  · rw [hscope] at hparent
    cases hparent

theorem unwrap_append (front back : List Node) :
    Node.unwrap (front ++ back) = Node.unwrap front ++ Node.unwrap back := by
  induction front with
  | nil => rfl
  | cons node rest ih => simp [Node.unwrap, ih]

theorem unwrap_eq_self {nodes : List Node}
    (h : ∀ node ∈ nodes, ∀ inner, node ≠ .fragment inner) : Node.unwrap nodes = nodes := by
  induction nodes with
  | nil => rfl
  | cons node rest ih =>
    obtain ⟨hnode, hrest⟩ := List.forall_mem_cons.mp h
    cases node with
    | fragment inner => exact absurd rfl (hnode inner)
    | _ => simp [Node.unwrap, Node.opened, ih hrest]

/-- The program runs the assignments of every template over a layout, and then the outermost layout. -/
theorem Compiles.nodes (hscope : scope.parent = none) (h : Compiles scope chain program) :
    nodes scope chain = .ok (Node.unwrap program.nodes) := by
  induction h with
  | alone h =>
    have hnodes := (ofTokens_eq_ok h).1
    rw [unwrap_eq_self fun node hnode => not_fragment_of_mem hscope hnodes hnode]
    exact hnodes
  | @extended tokens older layout program hlayout h ih =>
    obtain ⟨-, assignments, hassignments, hnodes⟩ := extend_eq_ok h
    rw [hnodes, unwrap_append,
      unwrap_eq_self fun node hnode => not_fragment_of_mem hscope hassignments hnode]
    cases older with
    | nil => cases hlayout
    | cons first rest =>
      simp only [Chain.nodes, hassignments, ih]
      simp [Node.unwrap, Node.opened, bind, Except.bind, pure, Except.pure]

/-- All templates of the chain have their blocks where blocks may stand. -/
def Placed (chain : Chain) : Prop := ∀ tokens ∈ chain, Token.PlacedAll true tokens

/-- What a body refers to is declared beside it, or the parent refers to it. -/
theorem block_of_mem {tokens : List Token} {start finish : Bool} {nodes : List Node}
    (hplaced : Token.PlacedAll true tokens)
    (h : compileTokens scope start finish tokens = .ok nodes) {name : String}
    (hpart : .block name ∈ Node.partsOf nodes) :
    (∃ declaration ∈ Token.declarationsOf tokens, declaration.name = name) ∨
      ∃ parent, scope.parent = some parent ∧ .block name ∈ Node.partsOf parent := by
  rcases madeOf_of_compileTokens tokens h hpart with ⟨token, htoken, hmakes⟩ | ⟨-, hgives⟩
  · left
    cases hmakes with
    | block hkind =>
      have hmem := hplaced.mem_of_block htoken (by simpa [Token.isKind] using hkind)
      exact ⟨_, Token.declared_of_mem hmem hkind, rfl⟩
  · right
    obtain ⟨parent, hparent, hpart⟩ := hgives
    simp only [Node.parts, List.mem_cons, reduceCtorEq, false_or] at hpart
    exact ⟨parent, hparent, hpart⟩

/-- The declared names have blocks, and so have those there were. -/
theorem isSome_of_override {inherited blocks blocks' : Blocks} {declarations : List Declaration}
    {name : String} (h : Blocks.override scope inherited blocks declarations name =
      .ok (Fields.get? blocks' name))
    (hname : (∃ declaration ∈ declarations, declaration.name = name) ∨
      (Fields.get? blocks name).isSome = true) : (Fields.get? blocks' name).isSome = true := by
  unfold Blocks.override at h
  split at h
  · rename_i hnone
    rcases hname with ⟨declaration, hmem, hname⟩ | hsome
    · exact absurd hname (Declaration.last?_eq_none.mp hnone declaration hmem)
    · rw [← Except.ok.inj h]
      exact hsome
  · rename_i declaration _
    cases hbody : declaration.compile scope (Fields.get? inherited name) with
    | error e =>
      rw [hbody] at h
      cases h
    | ok body =>
      rw [hbody] at h
      rw [← Except.ok.inj h]
      rfl

/-- Where the body of a block comes from: its last declaration, or the blocks there were. -/
theorem body_of_override {inherited blocks blocks' : Blocks} {declarations : List Declaration}
    {name : String} {body : List Node}
    (h : Blocks.override scope inherited blocks declarations name = .ok (Fields.get? blocks' name))
    (hbody : Fields.get? blocks' name = some body) :
    (∃ declaration, Declaration.last? name declarations = some declaration ∧
      declaration.compile scope (Fields.get? inherited name) = .ok body) ∨
    Declaration.last? name declarations = none ∧ Fields.get? blocks name = some body := by
  unfold Blocks.override at h
  rw [hbody] at h
  split at h
  · rename_i hnone
    exact Or.inr ⟨hnone, Except.ok.inj h⟩
  · rename_i declaration hlast
    refine Or.inl ⟨declaration, hlast, ?_⟩
    cases hcompile : declaration.compile scope (Fields.get? inherited name) with
    | error e =>
      rw [hcompile] at h
      cases h
    | ok result =>
      rw [hcompile] at h
      exact congrArg Except.ok (Option.some.inj (Except.ok.inj h))

theorem declarationsOf_assignments (tokens : List Token) :
    Token.declarationsOf (Token.assignments tokens) = [] := by
  refine List.eq_nil_iff_forall_not_mem.mpr fun declaration hmem => ?_
  obtain ⟨token, htoken, hdeclared⟩ := Token.mem_declarationsOf.mp hmem
  have hkind := (List.mem_filter.mp htoken).2
  cases token with
  | logic tag children =>
    have hassignment : tag.kind = .assignment := by simpa [Token.isKind] using hkind
    simp [Token.declarations, hassignment] at hdeclared
  | literal text => cases hkind
  | output tag => cases hkind

/-- Every block that the nodes or a body refer to has a body. -/
structure Complete (program : Program) : Prop where
  nodes : ∀ name, .block name ∈ Node.partsOf program.nodes →
    (Fields.get? program.blocks name).isSome = true
  bodies : ∀ other body name, Fields.get? program.blocks other = some body →
    .block name ∈ Node.partsOf body → (Fields.get? program.blocks name).isSome = true

/-- The blocks of a template over a layout refer to blocks that there are. -/
theorem complete_bodies {tokens : List Token} {inherited blocks : Blocks}
    (hplaced : Token.PlacedAll true tokens)
    (h : compileBlocks scope inherited tokens inherited = .ok blocks)
    (hinherited : ∀ other body name, Fields.get? inherited other = some body →
      .block name ∈ Node.partsOf body → (Fields.get? inherited name).isSome = true) :
    ∀ other body name, Fields.get? blocks other = some body →
      .block name ∈ Node.partsOf body → (Fields.get? blocks name).isSome = true := by
  intro other body name hbody hpart
  refine isSome_of_override (override_of_compileBlocks name tokens h) ?_
  rcases body_of_override (override_of_compileBlocks other tokens h) hbody with
    ⟨declaration, hlast, hcompile⟩ | ⟨-, hold⟩
  · obtain ⟨hmem, -⟩ := Declaration.mem_of_last? hlast
    have hinside := Token.placedAll_of_declared tokens hplaced hmem
    rcases block_of_mem hinside hcompile hpart with ⟨inner, hinner, hname⟩ | ⟨parent, hparent, hpart⟩
    · exact Or.inl ⟨inner, Token.declarationsOf_trans hinner tokens hmem, hname⟩
    · exact Or.inr (hinherited other parent name hparent hpart)
  · exact Or.inr (hinherited other body name hold hpart)

theorem Compiles.complete (hscope : scope.parent = none) (hplaced : Placed chain)
    (h : Compiles scope chain program) : Complete program := by
  induction h with
  | @alone tokens program h =>
    obtain ⟨hnodes, hblocks⟩ := ofTokens_eq_ok h
    have htokens := hplaced tokens List.mem_cons_self
    refine ⟨fun name hpart => ?_, complete_bodies htokens hblocks fun _ _ _ hbody => nomatch hbody⟩
    refine isSome_of_override (override_of_compileBlocks name tokens hblocks) ?_
    rcases block_of_mem htokens hnodes hpart with hdeclared | ⟨parent, hparent, -⟩
    · exact Or.inl hdeclared
    · rw [hscope] at hparent
      cases hparent
  | @extended tokens older layout program hlayout h ih =>
    obtain ⟨hblocks, assignments, hassignments, hnodes⟩ := extend_eq_ok h
    have htokens := hplaced tokens List.mem_cons_self
    have hlower := ih fun other hother => hplaced other (List.mem_cons_of_mem _ hother)
    refine ⟨fun name hpart => ?_, complete_bodies htokens hblocks hlower.bodies⟩
    refine isSome_of_override (override_of_compileBlocks name tokens hblocks) (Or.inr ?_)
    rw [hnodes, Node.partsOf_append, List.mem_append] at hpart
    rcases hpart with hpart | hpart
    · have hassigned : Token.PlacedAll true (Token.assignments tokens) :=
        Token.placedAll_iff.mpr fun token htoken =>
          Token.placedAll_iff.mp htokens token (List.mem_filter.mp htoken).1
      rcases block_of_mem hassigned hassignments hpart with ⟨declaration, hmem, -⟩ |
        ⟨parent, hparent, -⟩
      · rw [declarationsOf_assignments] at hmem
        exact (List.not_mem_nil hmem).elim
      · rw [hscope] at hparent
        cases hparent
    · simp only [Node.partsOf_cons, Node.parts, Node.partsOf_nil, List.append_nil, List.mem_cons,
        reduceCtorEq, false_or] at hpart
      exact hlower.nodes name hpart

end Chain

end Stencil
