import Stencil.Node.Inheritance
import Stencil.Proofs.Fields
import Stencil.Proofs.Result
import Stencil.Proofs.Token.Placement

/-!
The block declarations of a template, in the order of their opening tags. What the blocks of a template
are compiled to is told by the last declaration of each name.
-/
namespace Stencil

structure Declaration where
  tag : LogicTag
  body : List Token

namespace Declaration

def name (declaration : Declaration) : String := declaration.tag.blockName

/-- The body of a block, given what its parent tags stand for. -/
def compile (scope : Scope) (parent : Option (List Node)) (declaration : Declaration) :
    Except TemplateError (List Node) :=
  compileTokens { scope with parent } declaration.tag.strip.start declaration.tag.strip.finish
    declaration.body

/-- The last declaration of a name. -/
def last? (name : String) (declarations : List Declaration) : Option Declaration :=
  declarations.reverse.find? (·.name = name)

theorem last?_append (name : String) (front back : List Declaration) :
    last? name (front ++ back) = (last? name back).or (last? name front) := by
  simp [last?, List.find?_append]

theorem last?_cons (name : String) (declaration : Declaration) (rest : List Declaration) :
    last? name (declaration :: rest) =
      (last? name rest).or (if declaration.name = name then some declaration else none) := by
  rw [← List.singleton_append, last?_append]
  congr 1
  by_cases h : declaration.name = name <;> simp [last?, h]

theorem last?_eq_none {name : String} {declarations : List Declaration} :
    last? name declarations = none ↔ ∀ declaration ∈ declarations, declaration.name ≠ name := by
  simp [last?, List.find?_eq_none]

theorem mem_of_last? {name : String} {declarations : List Declaration} {declaration : Declaration}
    (h : last? name declarations = some declaration) :
    declaration ∈ declarations ∧ declaration.name = name := by
  have hmem := List.mem_of_find?_eq_some h
  have hname := List.find?_some h
  exact ⟨List.mem_reverse.mp hmem, by simpa using hname⟩

/-- How many declarations come after the last one of a name. -/
def behind (name : String) (declarations : List Declaration) : Nat :=
  declarations.reverse.findIdx (·.name = name)

theorem behind_le (name : String) (declarations : List Declaration) :
    behind name declarations ≤ declarations.length := by
  rw [← List.length_reverse]
  exact List.findIdx_le_length

/-- What comes after the last declaration of a name. -/
theorem exists_behind {name : String} {declarations : List Declaration} {declaration : Declaration}
    (h : last? name declarations = some declaration) :
    ∃ front back, declarations = front ++ declaration :: back ∧ behind name declarations = back.length := by
  obtain ⟨hname, back, front, heq, hnot⟩ := List.find?_eq_some_iff_append.mp h
  refine ⟨front.reverse, back.reverse, ?_, ?_⟩
  · rw [← List.reverse_reverse declarations, heq]
    simp
  · have hlength : back.findIdx (fun other => decide (other.name = name)) = back.length :=
      List.findIdx_eq_length.mpr fun other hother => by simpa using hnot other hother
    unfold behind
    rw [heq, List.findIdx_append, List.findIdx_cons, hname, hlength]
    simp

theorem behind_append_lt {name : String} {front back : List Declaration} {declaration : Declaration}
    (hmem : declaration ∈ back) (hname : declaration.name = name) :
    behind name (front ++ back) < back.length := by
  have hlt : back.reverse.findIdx (fun other => decide (other.name = name)) < back.reverse.length :=
    List.findIdx_lt_length_of_exists ⟨declaration, List.mem_reverse.mpr hmem, by simp [hname]⟩
  unfold behind
  rw [List.reverse_append, List.findIdx_append, if_pos hlt]
  simpa using hlt

end Declaration

namespace Token

mutual

/-- The declaration of a block and those inside it. -/
def declarations : Token → List Declaration
  | .logic tag children =>
    if tag.kind = .block then ⟨tag, children⟩ :: declarationsOf children else []
  | _ => []

/-- The declarations at any depth, in the order of their opening tags. -/
def declarationsOf : List Token → List Declaration
  | [] => []
  | token :: rest => declarations token ++ declarationsOf rest

end

theorem mem_declarationsOf {declaration : Declaration} {tokens : List Token} :
    declaration ∈ declarationsOf tokens ↔ ∃ token ∈ tokens, declaration ∈ declarations token := by
  induction tokens with
  | nil => simp [declarationsOf]
  | cons token rest ih => simp [declarationsOf, ih]

theorem declared_of_mem {tag : LogicTag} {children tokens : List Token}
    (hmem : .logic tag children ∈ tokens) (hkind : tag.kind = .block) :
    ⟨tag, children⟩ ∈ declarationsOf tokens :=
  mem_declarationsOf.mpr ⟨_, hmem, by simp [declarations, hkind]⟩

mutual

theorem forall_body_of_declared {P : Bool → Token → Prop} {inside allowed : Bool}
    {declaration : Declaration} (hblock : ∀ allowed tag children, P allowed (.logic tag children) →
      tag.kind = .block → ∀ token ∈ children, P inside token) :
    (token : Token) → P allowed token → declaration ∈ declarations token →
      ∀ part ∈ declaration.body, P inside part
  | .literal text, _, hmem => by simp [declarations] at hmem
  | .output tag, _, hmem => by simp [declarations] at hmem
  | .logic tag children, h, hmem => by
    rw [declarations] at hmem
    split at hmem
    · rename_i hkind
      have hchildren := hblock allowed tag children h hkind
      rcases List.mem_cons.mp hmem with rfl | hmem
      · exact hchildren
      · exact forall_body_of_declaredIn hblock children hchildren hmem
    · exact (List.not_mem_nil hmem).elim

/-- What a block hands on to its body holds in the bodies of all that are declared. -/
theorem forall_body_of_declaredIn {P : Bool → Token → Prop} {inside allowed : Bool}
    {declaration : Declaration} (hblock : ∀ allowed tag children, P allowed (.logic tag children) →
      tag.kind = .block → ∀ token ∈ children, P inside token) :
    (tokens : List Token) → (∀ token ∈ tokens, P allowed token) →
      declaration ∈ declarationsOf tokens → ∀ part ∈ declaration.body, P inside part
  | [], _, hmem => (List.not_mem_nil hmem).elim
  | token :: rest, h, hmem => by
    obtain ⟨hfirst, hrest⟩ := List.forall_mem_cons.mp h
    rw [declarationsOf, List.mem_append] at hmem
    rcases hmem with hmem | hmem
    · exact forall_body_of_declared hblock token hfirst hmem
    · exact forall_body_of_declaredIn hblock rest hrest hmem

end

/-- The bodies of declared blocks are placed like the template. -/
theorem placedAll_of_declared {allowed : Bool} {declaration : Declaration} (tokens : List Token)
    (h : PlacedAll allowed tokens) (hmem : declaration ∈ declarationsOf tokens) :
    PlacedAll true declaration.body := by
  refine placedAll_iff.mpr (forall_body_of_declaredIn ?_ tokens (placedAll_iff.mp h) hmem)
  intro allowed tag children htoken hkind
  rw [Placed, if_pos hkind] at htoken
  exact placedAll_iff.mp htoken.2

mutual

theorem declarations_trans {outer inner : Declaration} (hinner : inner ∈ declarationsOf outer.body) :
    (token : Token) → outer ∈ declarations token → inner ∈ declarations token
  | .literal text, hmem => by simp [declarations] at hmem
  | .output tag, hmem => by simp [declarations] at hmem
  | .logic tag children, hmem => by
    rw [declarations] at hmem ⊢
    split at hmem
    · rename_i hkind
      rw [if_pos hkind]
      refine List.mem_cons_of_mem _ ?_
      rcases List.mem_cons.mp hmem with rfl | hmem
      · exact hinner
      · exact declarationsOf_trans hinner children hmem
    · exact (List.not_mem_nil hmem).elim

/-- A template declares what is declared inside its blocks. -/
theorem declarationsOf_trans {outer inner : Declaration}
    (hinner : inner ∈ declarationsOf outer.body) :
    (tokens : List Token) → outer ∈ declarationsOf tokens → inner ∈ declarationsOf tokens
  | [], hmem => (List.not_mem_nil hmem).elim
  | token :: rest, hmem => by
    rw [declarationsOf, List.mem_append] at hmem ⊢
    exact hmem.imp (declarations_trans hinner token) (declarationsOf_trans hinner rest)

end

mutual

theorem behind_declarations {declaration : Declaration} {front back : List Declaration} :
    (token : Token) → declarations token = front ++ declaration :: back →
      ∃ rest, back = declarationsOf declaration.body ++ rest
  | .literal text, h => by simp [declarations] at h
  | .output tag, h => by simp [declarations] at h
  | .logic tag children, h => by
    rw [declarations] at h
    split at h
    · cases front with
      | nil =>
        obtain ⟨rfl, rfl⟩ := List.cons.inj h
        exact ⟨[], (List.append_nil _).symm⟩
      | cons first front => exact behind_declarationsOf children (List.cons.inj h).2
    · simp at h

/-- A declaration is followed by those inside it. -/
theorem behind_declarationsOf {declaration : Declaration} {front back : List Declaration} :
    (tokens : List Token) → declarationsOf tokens = front ++ declaration :: back →
      ∃ rest, back = declarationsOf declaration.body ++ rest
  | [], h => by simp [declarationsOf] at h
  | token :: others, h => by
    rw [declarationsOf] at h
    rcases List.append_eq_append_iff.mp h with ⟨middle, -, hothers⟩ | ⟨middle, htoken, hmiddle⟩
    · exact behind_declarationsOf others hothers
    · cases middle with
      | nil => exact behind_declarationsOf others (hmiddle.symm.trans (List.nil_append _).symm)
      | cons first middle =>
        obtain ⟨rfl, rfl⟩ := List.cons.inj hmiddle
        obtain ⟨rest, rfl⟩ := behind_declarations token htoken
        exact ⟨rest ++ declarationsOf others, List.append_assoc ..⟩

end

/-- The last declaration of a block comes after the last one of a block that it stands in. -/
theorem behind_lt_of_declared {tokens : List Token} {outer inner : Declaration} {name other : String}
    (hlast : Declaration.last? name (declarationsOf tokens) = some outer)
    (hinner : inner ∈ declarationsOf outer.body) (hother : inner.name = other) :
    (Declaration.last? other (declarationsOf tokens)).isSome = true ∧
      Declaration.behind other (declarationsOf tokens) <
        Declaration.behind name (declarationsOf tokens) := by
  obtain ⟨front, back, heq, hbehind⟩ := Declaration.exists_behind hlast
  obtain ⟨rest, rfl⟩ := behind_declarationsOf tokens heq
  have hmem : inner ∈ declarationsOf outer.body ++ rest := List.mem_append_left _ hinner
  have htokens : inner ∈ declarationsOf tokens := by
    rw [heq]
    exact List.mem_append_right _ (List.mem_cons_of_mem _ hmem)
  constructor
  · cases hnone : Declaration.last? other (declarationsOf tokens) with
    | none => exact absurd hother (Declaration.last?_eq_none.mp hnone inner htokens)
    | some declaration => rfl
  · rw [hbehind, heq, List.append_cons]
    exact Declaration.behind_append_lt hmem hother

end Token

/-- What a name stands for once declarations have been compiled over the blocks there were. -/
def Blocks.override (scope : Scope) (inherited blocks : Blocks) (declarations : List Declaration)
    (name : String) : Except TemplateError (Option (List Node)) :=
  match Declaration.last? name declarations with
  | none => .ok (Fields.get? blocks name)
  | some declaration => some <$> declaration.compile scope (Fields.get? inherited name)

theorem Blocks.override_append {scope : Scope} {inherited blocks between : Blocks}
    {front back : List Declaration} {name : String}
    (h : override scope inherited blocks front name = .ok (Fields.get? between name)) :
    override scope inherited between back name =
      override scope inherited blocks (front ++ back) name := by
  unfold override at h ⊢
  rw [Declaration.last?_append]
  cases Declaration.last? name back with
  | some declaration => rfl
  | none => exact h.symm

mutual

theorem override_of_compileBlock {scope : Scope} {inherited : Blocks} (name : String) :
    (token : Token) → {blocks blocks' : Blocks} →
      compileBlock scope inherited token blocks = .ok blocks' →
      Blocks.override scope inherited blocks (Token.declarations token) name =
        .ok (Fields.get? blocks' name)
  | .literal text, _, _, h => by
    cases h
    rfl
  | .output tag, _, _, h => by
    cases h
    rfl
  | .logic tag children, blocks, blocks', h => by
    rw [compileBlock] at h
    rw [Token.declarations]
    split at h
    · rename_i hkind
      rw [if_pos hkind]
      obtain ⟨body, hbody, hrest⟩ := bind_eq_ok.mp h
      have hinner := override_of_compileBlocks name children hrest
      rw [← List.singleton_append]
      refine (Blocks.override_append ?_).symm.trans hinner
      -- the block itself comes first, and what is inside it may take its place
      unfold Blocks.override
      rw [Declaration.last?_cons]
      by_cases hname : tag.blockName = name
      · subst hname
        have hself : Declaration.name ⟨tag, children⟩ = tag.blockName := rfl
        simp only [Declaration.last?, List.reverse_nil, List.find?_nil, Option.none_or, hself, if_true]
        change some <$> compileTokens _ _ _ _ = _
        rw [hbody, Fields.get?_put_self]
        rfl
      · have hself : ¬ Declaration.name ⟨tag, children⟩ = name := hname
        simp only [Declaration.last?, List.reverse_nil, List.find?_nil, Option.none_or, hself, if_false]
        rw [Fields.get?_put_of_ne _ _ (Ne.symm hname)]
    · rename_i hkind
      rw [if_neg hkind]
      cases h
      rfl

/-- The blocks of a template are compiled from the last declarations of their names. -/
theorem override_of_compileBlocks {scope : Scope} {inherited : Blocks} (name : String) :
    (tokens : List Token) → {blocks blocks' : Blocks} →
      compileBlocks scope inherited tokens blocks = .ok blocks' →
      Blocks.override scope inherited blocks (Token.declarationsOf tokens) name =
        .ok (Fields.get? blocks' name)
  | [], _, _, h => by
    cases h
    rfl
  | token :: rest, blocks, blocks', h => by
    obtain ⟨between, hfirst, hrest⟩ := bind_eq_ok.mp h
    rw [Token.declarationsOf]
    exact (Blocks.override_append (override_of_compileBlock name token hfirst)).symm.trans
      (override_of_compileBlocks name rest hrest)

end

end Stencil
