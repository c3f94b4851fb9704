import Stencil.Proofs.Expr.Chain
import Stencil.Proofs.Source.ExtendsTag

/-!
The grammar of expressions, as a relation between lexemes and trees. Operators of one level group from the
left, a comparison has one operator at most, and filters stand behind primaries only. Items, members and
arguments may have a comma behind the last of them.
-/
namespace Stencil

/-- How tightly an expression binds, from the loosest to the tightest. -/
inductive Level where
  | disjunction
  | conjunction
  | negation
  | comparison
  | filtered
  | primary
  /-- A variable with the keys behind it. -/
  | access
deriving DecidableEq, Repr

/-- An operator by its sign or by its word. -/
def Lexeme.IsSign (op : Operator) (word : String) (lexeme : Lexeme) : Prop :=
  lexeme = .operator op ∨ lexeme = .name word

/-- The comparisons, of which one has two words. -/
def comparisonSigns : List (List Lexeme × BinaryOp) := [
  ([.operator .eq], .eq), ([.operator .ne], .ne),
  ([.operator .strictEq], .strictEq), ([.operator .strictNe], .strictNe),
  ([.operator .lt], .lt), ([.operator .gt], .gt),
  ([.operator .le], .le), ([.operator .ge], .ge),
  ([.name "in"], .member), ([.name "not", .name "in"], .notMember)]

/-- The names that are values. -/
def literalNames : List (String × Value) :=
  [("true", .bool true), ("false", .bool false), ("null", .null), ("undefined", .null)]

/-- A lexeme that can name a member of an object. -/
inductive Lexeme.IsMemberKey : Lexeme → String → Prop
  | name (key : String) : IsMemberKey (.name key) key
  | literal (key : String) : IsMemberKey (.literal key) key
  | number (value : Value) : IsMemberKey (.number value) value.json

mutual

/-- The lexemes are an expression of the level. -/
inductive Derives (filters : Filters) : Level → List Lexeme → Expr → Prop
  | conjunction {lexemes : List Lexeme} {expr : Expr} (h : Derives filters .conjunction lexemes expr) :
      Derives filters .disjunction lexemes expr
  | or {front back : List Lexeme} {sign : Lexeme} {left right : Expr}
      (hleft : Derives filters .disjunction front left) (hsign : sign.IsSign .or "or")
      (hright : Derives filters .conjunction back right) :
      Derives filters .disjunction (front ++ sign :: back) (.binary .or left right)
  | negation {lexemes : List Lexeme} {expr : Expr} (h : Derives filters .negation lexemes expr) :
      Derives filters .conjunction lexemes expr
  | and {front back : List Lexeme} {sign : Lexeme} {left right : Expr}
      (hleft : Derives filters .conjunction front left) (hsign : sign.IsSign .and "and")
      (hright : Derives filters .negation back right) :
      Derives filters .conjunction (front ++ sign :: back) (.binary .and left right)
  | comparison {lexemes : List Lexeme} {expr : Expr} (h : Derives filters .comparison lexemes expr) :
      Derives filters .negation lexemes expr
  | not {sign : Lexeme} {lexemes : List Lexeme} {expr : Expr} (hsign : sign.IsSign .not "not")
      (h : Derives filters .negation lexemes expr) :
      Derives filters .negation (sign :: lexemes) (.not expr)
  | filtered {lexemes : List Lexeme} {expr : Expr} (h : Derives filters .filtered lexemes expr) :
      Derives filters .comparison lexemes expr
  | compare {front signs back : List Lexeme} {op : BinaryOp} {left right : Expr}
      (hleft : Derives filters .filtered front left) (hop : (signs, op) ∈ comparisonSigns)
      (hright : Derives filters .filtered back right) :
      Derives filters .comparison (front ++ signs ++ back) (.binary op left right)
  | filters {front back : List Lexeme} {base : Expr} {calls : List FilterCall}
      (hbase : Derives filters .primary front base) (hcalls : DerivesCalls filters back calls) :
      Derives filters .filtered (front ++ back) (base.through calls)
  | number (value : Value) : Derives filters .primary [.number value] (.literal value)
  | text (text : String) : Derives filters .primary [.literal text] (.literal (.string text))
  | literal {name : String} {value : Value} (hname : (name, value) ∈ literalNames) :
      Derives filters .primary [.name name] (.literal value)
  | group {inside : List Lexeme} {expr : Expr} (h : Derives filters .disjunction inside expr) :
      Derives filters .primary (.mark '(' :: (inside ++ [.mark ')'])) expr
  | array {inside : List Lexeme} {items : List Expr} (h : DerivesItems filters inside items) :
      Derives filters .primary (.mark '[' :: (inside ++ [.mark ']'])) (.array items)
  | object {inside : List Lexeme} {members : List (String × Expr)}
      (h : DerivesMembers filters inside members) :
      Derives filters .primary (.mark '\x7b' :: (inside ++ [.mark '\x7d'])) (.object members)
  | access {lexemes : List Lexeme} {expr : Expr} (h : Derives filters .access lexemes expr) :
      Derives filters .primary lexemes expr
  | call {front inside : List Lexeme} {root : String} {steps : List Step} {arguments : List Expr}
      (h : Derives filters .access front (.path root steps))
      (harguments : DerivesItems filters inside arguments) :
      Derives filters .primary (front ++ .mark '(' :: (inside ++ [.mark ')']))
        (.call root steps arguments)
  | variable {name : String} (hname : IsVariable name) :
      Derives filters .access [.name name] (.path name [])
  | property {front : List Lexeme} {root key : String} {steps : List Step}
      (h : Derives filters .access front (.path root steps)) (hkey : isHidden key = false) :
      Derives filters .access (front ++ [.mark '.', .name key])
        (.path root (steps ++ [.key (.string key)]))
  /-- A key that is a literal is known. -/
  | key {front inside : List Lexeme} {root : String} {steps : List Step} {key : Value}
      (h : Derives filters .access front (.path root steps))
      (hkey : Derives filters .disjunction inside (.literal key)) :
      Derives filters .access (front ++ .mark '[' :: (inside ++ [.mark ']']))
        (.path root (steps ++ [.key key]))
  /-- All other keys are computed. -/
  | index {front inside : List Lexeme} {root : String} {steps : List Step} {index : Expr}
      (h : Derives filters .access front (.path root steps))
      (hindex : Derives filters .disjunction inside index) (hcomputed : ∀ key, index ≠ .literal key) :
      Derives filters .access (front ++ .mark '[' :: (inside ++ [.mark ']']))
        (.path root (steps ++ [.index index]))

/-- The filters behind a primary, each with its arguments if it has any; one that is unknown is left out. -/
inductive DerivesCalls (filters : Filters) : List Lexeme → List FilterCall → Prop
  | nil : DerivesCalls filters [] []
  | plain {name : String} {rest : List Lexeme} {calls : List FilterCall}
      (hrest : DerivesCalls filters rest calls) :
      DerivesCalls filters (.mark '|' :: .name name :: rest)
        ((Parser.known filters name []).toList ++ calls)
  | call {name : String} {inside rest : List Lexeme} {arguments : List Expr} {calls : List FilterCall}
      (harguments : DerivesItems filters inside arguments) (hrest : DerivesCalls filters rest calls) :
      DerivesCalls filters (.mark '|' :: .name name :: .mark '(' :: (inside ++ .mark ')' :: rest))
        ((Parser.known filters name arguments).toList ++ calls)

/-- Expressions with commas between them, and maybe one at the end. -/
inductive DerivesItems (filters : Filters) : List Lexeme → List Expr → Prop
  | nil : DerivesItems filters [] []
  | last {lexemes : List Lexeme} {item : Expr} (h : Derives filters .disjunction lexemes item) :
      DerivesItems filters lexemes [item]
  | cons {front rest : List Lexeme} {item : Expr} {items : List Expr}
      (h : Derives filters .disjunction front item) (hrest : DerivesItems filters rest items) :
      DerivesItems filters (front ++ .mark ',' :: rest) (item :: items)

/-- Members with commas between them, and maybe one at the end. -/
inductive DerivesMembers (filters : Filters) : List Lexeme → List (String × Expr) → Prop
  | nil : DerivesMembers filters [] []
  | last {lexeme : Lexeme} {key : String} {lexemes : List Lexeme} {value : Expr}
      (hkey : lexeme.IsMemberKey key) (h : Derives filters .disjunction lexemes value) :
      DerivesMembers filters (lexeme :: .mark ':' :: lexemes) [(key, value)]
  | cons {lexeme : Lexeme} {key : String} {front rest : List Lexeme} {value : Expr}
      {members : List (String × Expr)} (hkey : lexeme.IsMemberKey key)
      (h : Derives filters .disjunction front value) (hrest : DerivesMembers filters rest members) :
      DerivesMembers filters (lexeme :: .mark ':' :: (front ++ .mark ',' :: rest))
        ((key, value) :: members)

end

end Stencil
