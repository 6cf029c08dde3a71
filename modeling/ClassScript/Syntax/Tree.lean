import ClassScript.Token.Basic

namespace ClassScript

structure DefaultClause where
  has : Token
  default : Token
  literal : Token
  deriving DecidableEq

structure FieldDecl where
  owner : Token
  has : Token
  field : Token
  name : Token
  default? : Option DefaultClause
  deriving DecidableEq

structure ClassDecl where
  define : Token
  name : Token
  fields : List FieldDecl
  deriving DecidableEq

namespace DefaultClause

def tokens (clause : DefaultClause) : List Token := [clause.has, clause.default, clause.literal]

def WellKinded (clause : DefaultClause) : Prop :=
  clause.has.kind = .keyword .has ∧ clause.default.kind = .keyword .default ∧ clause.literal.kind = .string

instance (clause : DefaultClause) : Decidable clause.WellKinded := inferInstanceAs (Decidable (_ ∧ _ ∧ _))

end DefaultClause

namespace FieldDecl

def tokens (decl : FieldDecl) : List Token :=
  decl.owner :: decl.has :: decl.field :: decl.name :: decl.default?.elim [] DefaultClause.tokens

def WellKinded (decl : FieldDecl) : Prop :=
  decl.owner.kind = .identifier ∧ decl.has.kind = .keyword .has ∧ decl.field.kind = .keyword .field ∧
    decl.name.kind = .string ∧ ∀ clause ∈ decl.default?, clause.WellKinded

instance (decl : FieldDecl) : Decidable decl.WellKinded := inferInstanceAs (Decidable (_ ∧ _ ∧ _ ∧ _ ∧ ∀ _ ∈ _, _))

end FieldDecl

namespace ClassDecl

def tokens (decl : ClassDecl) : List Token :=
  decl.define :: decl.name :: decl.fields.flatMap FieldDecl.tokens

def WellKinded (decl : ClassDecl) : Prop :=
  decl.define.kind = .keyword .define ∧ decl.name.kind = .identifier ∧ ∀ field ∈ decl.fields, field.WellKinded

instance (decl : ClassDecl) : Decidable decl.WellKinded := inferInstanceAs (Decidable (_ ∧ _ ∧ ∀ _ ∈ _, _))

end ClassDecl

end ClassScript
