import Stencil.Tag
import Stencil.Token.Basic

/-!
The parts of a token: the token itself and all tokens inside it. The parts of a body leave out what stands
inside the blocks of the body, which is compiled apart from it, and what belongs to tags without a body.
-/
namespace Stencil

/-- Whether the tokens inside a tag are compiled with it. -/
def LogicTag.hasBody (tags : Tags) (tag : LogicTag) : Bool :=
  match tag.kind with
  | .loop => true
  | .condition => true
  | .filter => true
  | .definition => true
  | .raw => true
  | .autoescape => true
  | .host name => (tags.hostTag? name).any (·.ends)
  | _ => false

namespace Token

/-- The line of a tag. -/
def line : Token → Nat
  | literal _ => 0
  | output tag => tag.line
  | logic tag _ => tag.line

mutual

def parts : Token → List Token
  | .literal text => [.literal text]
  | .output tag => [.output tag]
  | .logic tag children => .logic tag children :: partsOf children

def partsOf : List Token → List Token
  | [] => []
  | token :: rest => parts token ++ partsOf rest

end

mutual

def bodyParts (tags : Tags) : Token → List Token
  | .literal text => [.literal text]
  | .output tag => [.output tag]
  | .logic tag children =>
    .logic tag children :: (if tag.hasBody tags then bodyPartsOf tags children else [])

def bodyPartsOf (tags : Tags) : List Token → List Token
  | [] => []
  | token :: rest => bodyParts tags token ++ bodyPartsOf tags rest

end

theorem mem_parts_self (token : Token) : token ∈ parts token := by
  cases token <;> simp [parts]

theorem mem_bodyParts_self (tags : Tags) (token : Token) : token ∈ bodyParts tags token := by
  cases token <;> simp [bodyParts]

@[simp] theorem partsOf_nil : partsOf [] = [] := rfl

@[simp] theorem partsOf_cons (token : Token) (rest : List Token) :
    partsOf (token :: rest) = parts token ++ partsOf rest := rfl

theorem partsOf_append (front back : List Token) : partsOf (front ++ back) = partsOf front ++ partsOf back := by
  induction front with
  | nil => rfl
  | cons token rest ih => rw [List.cons_append, partsOf_cons, partsOf_cons, ih, List.append_assoc]

@[simp] theorem bodyPartsOf_nil (tags : Tags) : bodyPartsOf tags [] = [] := rfl

@[simp] theorem bodyPartsOf_cons (tags : Tags) (token : Token) (rest : List Token) :
    bodyPartsOf tags (token :: rest) = bodyParts tags token ++ bodyPartsOf tags rest := rfl

theorem mem_partsOf {part : Token} {tokens : List Token} :
    part ∈ partsOf tokens ↔ ∃ token ∈ tokens, part ∈ parts token := by
  induction tokens with
  | nil => simp
  | cons token rest ih => simp [ih]

theorem mem_bodyPartsOf {tags : Tags} {part : Token} {tokens : List Token} :
    part ∈ bodyPartsOf tags tokens ↔ ∃ token ∈ tokens, part ∈ bodyParts tags token := by
  induction tokens with
  | nil => simp
  | cons token rest ih => simp [ih]

mutual

theorem mem_parts_of_bodyParts {tags : Tags} {part : Token} (token : Token)
    (h : part ∈ bodyParts tags token) : part ∈ parts token := by
  match token with
  | .literal text => exact h
  | .output tag => exact h
  | .logic tag children =>
    simp only [bodyParts, List.mem_cons] at h
    simp only [parts, List.mem_cons]
    rcases h with h | h
    · exact Or.inl h
    · split at h
      · exact Or.inr (mem_partsOf_of_bodyPartsOf children h)
      · exact (List.not_mem_nil h).elim

theorem mem_partsOf_of_bodyPartsOf {tags : Tags} {part : Token} (tokens : List Token)
    (h : part ∈ bodyPartsOf tags tokens) : part ∈ partsOf tokens := by
  match tokens with
  | [] => exact h
  | token :: rest =>
    simp only [bodyPartsOf_cons, partsOf_cons, List.mem_append] at h ⊢
    exact h.imp (mem_parts_of_bodyParts token) (mem_partsOf_of_bodyPartsOf rest)

end

mutual

theorem parts_subset_of_mem_parts {part : Token} : (token : Token) → part ∈ parts token →
    parts part ⊆ parts token
  | .literal text, hpart => by
    obtain rfl := List.mem_singleton.mp hpart
    exact List.Subset.refl _
  | .output tag, hpart => by
    obtain rfl := List.mem_singleton.mp hpart
    exact List.Subset.refl _
  | .logic tag children, hpart => by
    rw [parts] at hpart
    rcases List.mem_cons.mp hpart with rfl | hinside
    · exact List.Subset.refl _
    · rw [parts]
      exact List.Subset.trans (parts_subset_of_mem children hinside) (List.subset_cons_self _ _)

/-- The parts of a part are parts. -/
theorem parts_subset_of_mem {part : Token} : (tokens : List Token) → part ∈ partsOf tokens →
    parts part ⊆ partsOf tokens
  | [], hpart => (List.not_mem_nil hpart).elim
  | token :: rest, hpart => by
    rcases List.mem_append.mp hpart with hfirst | hrest
    · exact List.Subset.trans (parts_subset_of_mem_parts token hfirst) (List.subset_append_left _ _)
    · exact List.Subset.trans (parts_subset_of_mem rest hrest) (List.subset_append_right _ _)

end

end Token

end Stencil
