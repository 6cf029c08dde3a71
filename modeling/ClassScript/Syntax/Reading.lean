import ClassScript.Syntax.Failure
import ClassScript.Syntax.Tree

namespace ClassScript

def nextIs (kind : Kind) (tokens : List Token) : Bool := tokens.head?.any fun token => token.kind == kind

def take (rule : Rule) (kind : Kind) : List Token → Except Failure (Token × List Token)
  | token :: rest => if token.kind = kind then .ok (token, rest) else .error ⟨rule, kind, token :: rest⟩
  | [] => .error ⟨rule, kind, []⟩

def DefaultClause.read (tokens : List Token) : Except Failure (DefaultClause × List Token) := do
  let (has, tokens) ← take .defaultValue (.keyword .has) tokens
  let (default, tokens) ← take .defaultValue (.keyword .default) tokens
  let (literal, tokens) ← take .literal .string tokens
  return (⟨has, default, literal⟩, tokens)

def DefaultClause.read? (tokens : List Token) : Except Failure (Option DefaultClause × List Token) :=
  if nextIs (.keyword .has) tokens then do
    let (clause, tokens) ← DefaultClause.read tokens
    return (some clause, tokens)
  else return (none, tokens)

def FieldDecl.read (tokens : List Token) : Except Failure (FieldDecl × List Token) := do
  let (owner, tokens) ← take .fieldDeclaration .identifier tokens
  let (has, tokens) ← take .fieldDeclaration (.keyword .has) tokens
  let (field, tokens) ← take .fieldDeclaration (.keyword .field) tokens
  let (name, tokens) ← take .fieldDeclaration .string tokens
  let (default?, tokens) ← DefaultClause.read? tokens
  return (⟨owner, has, field, name, default?⟩, tokens)

theorem take_eq_ok {rule : Rule} {kind : Kind} {tokens rest : List Token} {token : Token}
    (ran : take rule kind tokens = .ok (token, rest)) : tokens = token :: rest ∧ token.kind = kind := by
  cases tokens with
  | nil => cases ran
  | cons head tail =>
    by_cases same : head.kind = kind
    · simp only [take, same, if_true] at ran
      cases ran
      exact ⟨rfl, same⟩
    · simp only [take, same, if_false] at ran
      cases ran

theorem ok_of_bind_ok {ε α β : Type} {first : Except ε α} {next : α → Except ε β} {result : β}
    (run : (first >>= next) = .ok result) : ∃ value, first = .ok value ∧ next value = .ok result := by
  cases first with
  | error failure => cases run
  | ok value => exact ⟨value, rfl, run⟩

theorem DefaultClause.read_eq_ok {tokens rest : List Token} {clause : DefaultClause}
    (ran : DefaultClause.read tokens = .ok (clause, rest)) :
    tokens = clause.tokens ++ rest ∧ clause.WellKinded := by
  obtain ⟨⟨has, afterHas⟩, readHas, ran⟩ := ok_of_bind_ok ran
  obtain ⟨⟨default, afterDefault⟩, readDefault, ran⟩ := ok_of_bind_ok ran
  obtain ⟨⟨literal, afterLiteral⟩, readLiteral, ran⟩ := ok_of_bind_ok ran
  cases ran
  obtain ⟨rfl, hasKind⟩ := take_eq_ok readHas
  obtain ⟨rfl, defaultKind⟩ := take_eq_ok readDefault
  obtain ⟨rfl, literalKind⟩ := take_eq_ok readLiteral
  exact ⟨rfl, hasKind, defaultKind, literalKind⟩

theorem DefaultClause.read?_eq_ok {tokens rest : List Token} {clause? : Option DefaultClause}
    (ran : DefaultClause.read? tokens = .ok (clause?, rest)) :
    tokens = clause?.elim [] DefaultClause.tokens ++ rest ∧ ∀ clause ∈ clause?, clause.WellKinded := by
  unfold DefaultClause.read? at ran
  split at ran
  · obtain ⟨⟨clause, after⟩, readClause, ran⟩ := ok_of_bind_ok ran
    cases ran
    obtain ⟨split, kinds⟩ := DefaultClause.read_eq_ok readClause
    refine ⟨split, ?_⟩
    rintro _ ⟨⟩
    exact kinds
  · cases ran
    exact ⟨rfl, by simp⟩

theorem FieldDecl.read_eq_ok {tokens rest : List Token} {decl : FieldDecl}
    (ran : FieldDecl.read tokens = .ok (decl, rest)) : tokens = decl.tokens ++ rest ∧ decl.WellKinded := by
  obtain ⟨⟨owner, afterOwner⟩, readOwner, ran⟩ := ok_of_bind_ok ran
  obtain ⟨⟨has, afterHas⟩, readHas, ran⟩ := ok_of_bind_ok ran
  obtain ⟨⟨field, afterField⟩, readField, ran⟩ := ok_of_bind_ok ran
  obtain ⟨⟨name, afterName⟩, readName, ran⟩ := ok_of_bind_ok ran
  obtain ⟨⟨default?, afterDefault⟩, readDefault, ran⟩ := ok_of_bind_ok ran
  cases ran
  obtain ⟨rfl, ownerKind⟩ := take_eq_ok readOwner
  obtain ⟨rfl, hasKind⟩ := take_eq_ok readHas
  obtain ⟨rfl, fieldKind⟩ := take_eq_ok readField
  obtain ⟨rfl, nameKind⟩ := take_eq_ok readName
  obtain ⟨rfl, defaultKinds⟩ := DefaultClause.read?_eq_ok readDefault
  exact ⟨rfl, ownerKind, hasKind, fieldKind, nameKind, defaultKinds⟩

theorem FieldDecl.read_length {tokens rest : List Token} {decl : FieldDecl}
    (ran : FieldDecl.read tokens = .ok (decl, rest)) : rest.length < tokens.length := by
  obtain ⟨rfl, _⟩ := FieldDecl.read_eq_ok ran
  simp only [FieldDecl.tokens, List.cons_append, List.length_cons, List.length_append]
  omega

/-- One entry of a class body; field declarations are all there are. -/
def FieldDecl.readBody (tokens : List Token) : Except Failure (FieldDecl × List Token) :=
  if nextIs .identifier tokens then FieldDecl.read tokens else .error ⟨.classBody, .identifier, tokens⟩

theorem FieldDecl.readBody_of_next {tokens : List Token} (starts : nextIs .identifier tokens = true) :
    FieldDecl.readBody tokens = FieldDecl.read tokens := if_pos starts

theorem FieldDecl.readBody_eq_ok {tokens rest : List Token} {decl : FieldDecl}
    (ran : FieldDecl.readBody tokens = .ok (decl, rest)) : FieldDecl.read tokens = .ok (decl, rest) := by
  unfold FieldDecl.readBody at ran
  split at ran
  · exact ran
  · cases ran

def FieldDecl.readAll (tokens : List Token) : Except Failure (List FieldDecl × List Token) :=
  if nextIs .identifier tokens then
    match _ : FieldDecl.readBody tokens with
    | .error failure => .error failure
    | .ok (field, rest) => do
      let (fields, rest) ← FieldDecl.readAll rest
      return (field :: fields, rest)
  else return ([], tokens)
termination_by tokens.length
decreasing_by exact FieldDecl.read_length (FieldDecl.readBody_eq_ok (by assumption))

def ClassDecl.read (tokens : List Token) : Except Failure (ClassDecl × List Token) := do
  let (define, tokens) ← take .classDefinition (.keyword .define) tokens
  let (name, tokens) ← take .classDefinition .identifier tokens
  let (fields, tokens) ← FieldDecl.readAll tokens
  return (⟨define, name, fields⟩, tokens)

def readStatement (tokens : List Token) : Except Failure (ClassDecl × List Token) :=
  if nextIs (.keyword .define) tokens then ClassDecl.read tokens
  else .error ⟨.statement, .keyword .define, tokens⟩

theorem FieldDecl.readAll_eq_ok {tokens rest : List Token} {decls : List FieldDecl}
    (ran : FieldDecl.readAll tokens = .ok (decls, rest)) :
    tokens = decls.flatMap FieldDecl.tokens ++ rest ∧ (∀ decl ∈ decls, decl.WellKinded) ∧
      nextIs .identifier rest = false := by
  fun_induction FieldDecl.readAll tokens generalizing decls rest with
  | case1 tokens next failure failed => cases ran
  | case2 tokens next decl after readDecl ih =>
    obtain ⟨⟨later, afterAll⟩, readLater, ran⟩ := ok_of_bind_ok ran
    cases ran
    obtain ⟨rfl, kinds⟩ := FieldDecl.read_eq_ok (FieldDecl.readBody_eq_ok readDecl)
    obtain ⟨rfl, laterKinds, stops⟩ := ih readLater
    exact ⟨by simp, by simpa using ⟨kinds, laterKinds⟩, stops⟩
  | case3 tokens next =>
    cases ran
    exact ⟨rfl, by simp, by simpa using next⟩

theorem ClassDecl.read_eq_ok {tokens rest : List Token} {decl : ClassDecl}
    (ran : ClassDecl.read tokens = .ok (decl, rest)) :
    tokens = decl.tokens ++ rest ∧ decl.WellKinded ∧ nextIs .identifier rest = false := by
  obtain ⟨⟨define, afterDefine⟩, readDefine, ran⟩ := ok_of_bind_ok ran
  obtain ⟨⟨name, afterName⟩, readName, ran⟩ := ok_of_bind_ok ran
  obtain ⟨⟨fields, afterFields⟩, readFields, ran⟩ := ok_of_bind_ok ran
  cases ran
  obtain ⟨rfl, defineKind⟩ := take_eq_ok readDefine
  obtain ⟨rfl, nameKind⟩ := take_eq_ok readName
  obtain ⟨rfl, fieldKinds, stops⟩ := FieldDecl.readAll_eq_ok readFields
  exact ⟨rfl, ⟨defineKind, nameKind, fieldKinds⟩, stops⟩

theorem take_eq_error {rule : Rule} {kind : Kind} {tokens : List Token} {failure : Failure}
    (ran : take rule kind tokens = .error failure) :
    failure = ⟨rule, kind, tokens⟩ ∧ nextIs kind tokens = false := by
  cases tokens with
  | nil =>
    cases ran
    exact ⟨rfl, rfl⟩
  | cons head tail =>
    by_cases same : head.kind = kind
    · simp only [take, same, if_true] at ran
      cases ran
    · simp only [take, same, if_false] at ran
      cases ran
      exact ⟨rfl, by simpa [nextIs] using same⟩

theorem take_cons {rule : Rule} {kind : Kind} {token : Token} (same : token.kind = kind) (rest : List Token) :
    take rule kind (token :: rest) = .ok (token, rest) := by
  simp [take, same]

theorem ClassDecl.read_cons {define : Token} (same : define.kind = .keyword .define) (rest : List Token) :
    ClassDecl.read (define :: rest) = do
      let found ← take .classDefinition .identifier rest
      let later ← FieldDecl.readAll found.2
      return (⟨define, found.1, later.1⟩, later.2) := by
  rw [ClassDecl.read, take_cons same]
  rfl

/-- Readers only go forward: what they leave, behind a tree or at a failure, is the end of what they were given. -/
def Leaves {Tree : Type} (tokens : List Token) : Except Failure (Tree × List Token) → Prop
  | .ok (_, rest) => rest <:+ tokens
  | .error failure => failure.rest <:+ tokens

namespace Leaves

variable {Mid Tree : Type} {tokens rest : List Token}

theorem take (rule : Rule) (kind : Kind) (tokens : List Token) : Leaves tokens (take rule kind tokens) := by
  cases ran : ClassScript.take rule kind tokens with
  | error failure =>
    obtain ⟨rfl, _⟩ := take_eq_error ran
    exact List.suffix_rfl
  | ok result =>
    obtain ⟨rfl, _⟩ := take_eq_ok ran
    exact List.suffix_cons _ _

theorem pure (tree : Tree) (tokens : List Token) : Leaves tokens (Pure.pure (tree, tokens)) := List.suffix_rfl

theorem of_suffix {result : Except Failure (Tree × List Token)} (here : Leaves rest result) (within : rest <:+ tokens) :
    Leaves tokens result :=
  match result, here with
  | .ok _, here => here.trans within
  | .error _, here => here.trans within

theorem bind {first : Except Failure (Mid × List Token)} {next : Mid × List Token → Except Failure (Tree × List Token)}
    (here : Leaves tokens first) (behind : ∀ mid rest, Leaves rest (next (mid, rest))) :
    Leaves tokens (first >>= next) :=
  match first, here with
  | .ok (mid, rest), here => (behind mid rest).of_suffix here
  | .error _, here => here

end Leaves

theorem DefaultClause.read_leaves (tokens : List Token) : Leaves tokens (DefaultClause.read tokens) := by
  refine .bind (.take _ _ tokens) fun has rest => ?_
  refine .bind (.take _ _ rest) fun default rest => ?_
  exact .bind (.take _ _ rest) fun literal rest => .pure _ rest

theorem DefaultClause.read?_leaves (tokens : List Token) : Leaves tokens (DefaultClause.read? tokens) := by
  unfold DefaultClause.read?
  split
  · exact .bind (DefaultClause.read_leaves tokens) fun clause rest => .pure _ rest
  · exact .pure _ tokens

theorem FieldDecl.read_leaves (tokens : List Token) : Leaves tokens (FieldDecl.read tokens) := by
  refine .bind (.take _ _ tokens) fun owner rest => ?_
  refine .bind (.take _ _ rest) fun has rest => ?_
  refine .bind (.take _ _ rest) fun field rest => ?_
  refine .bind (.take _ _ rest) fun name rest => ?_
  exact .bind (DefaultClause.read?_leaves rest) fun default? rest => .pure _ rest

theorem FieldDecl.readBody_leaves (tokens : List Token) : Leaves tokens (FieldDecl.readBody tokens) := by
  unfold FieldDecl.readBody
  split
  · exact FieldDecl.read_leaves tokens
  · exact List.suffix_rfl

theorem FieldDecl.readAll_leaves (tokens : List Token) : Leaves tokens (FieldDecl.readAll tokens) := by
  fun_induction FieldDecl.readAll tokens with
  | case1 tokens starts failure failed =>
    have within := FieldDecl.readBody_leaves tokens
    rw [failed] at within
    exact within
  | case2 tokens starts decl rest ran ih =>
    have within := FieldDecl.readBody_leaves tokens
    rw [ran] at within
    exact .of_suffix (.bind ih fun later rest => .pure _ rest) within
  | case3 tokens stops => exact .pure _ tokens

theorem ClassDecl.read_leaves {define : Token} (same : define.kind = .keyword .define) (tokens : List Token) :
    Leaves tokens (ClassDecl.read (define :: tokens)) := by
  rw [ClassDecl.read_cons same]
  refine .bind (.take _ _ tokens) fun name rest => ?_
  exact .bind (FieldDecl.readAll_leaves rest) fun fields rest => .pure _ rest

end ClassScript
