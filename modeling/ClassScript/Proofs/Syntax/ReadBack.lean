import ClassScript.Syntax.Parse

namespace ClassScript

/-- No class declaration can go on here: the tokens are used up, or a `define` comes next. -/
def AtStatement (tokens : List Token) : Prop := ∀ token ∈ tokens.head?, token.kind = .keyword .define

theorem AtStatement.nil : AtStatement [] := by simp [AtStatement]

theorem AtStatement.cons {token : Token} {tokens : List Token} (define : token.kind = .keyword .define) :
    AtStatement (token :: tokens) := by
  intro head member
  cases member
  exact define

theorem AtStatement.not_next {tokens : List Token} (boundary : AtStatement tokens) {kind : Kind}
    (other : kind ≠ .keyword .define) : nextIs kind tokens = false := by
  cases tokens with
  | nil => rfl
  | cons token tokens =>
    have define : token.kind = .keyword .define := boundary token rfl
    simpa [nextIs, define] using other.symm

@[simp] theorem nextIs_cons (kind : Kind) (token : Token) (tokens : List Token) :
    nextIs kind (token :: tokens) = (token.kind == kind) := rfl

theorem DefaultClause.read_tokens {clause : DefaultClause} (kinds : clause.WellKinded) (rest : List Token) :
    DefaultClause.read (clause.tokens ++ rest) = .ok (clause, rest) := by
  obtain ⟨has, default, literal⟩ := kinds
  simp only [DefaultClause.read, DefaultClause.tokens, List.cons_append, List.nil_append, take_cons has,
    take_cons default, take_cons literal, Bind.bind, Except.bind, Pure.pure, Except.pure]

theorem DefaultClause.read?_tokens {clause? : Option DefaultClause} (kinds : ∀ clause ∈ clause?, clause.WellKinded)
    {rest : List Token} (stops : nextIs (.keyword .has) rest = false) :
    DefaultClause.read? (clause?.elim [] DefaultClause.tokens ++ rest) = .ok (clause?, rest) := by
  cases clause? with
  | none => simp [DefaultClause.read?, stops, Pure.pure, Except.pure]
  | some clause =>
    have clauseKinds : clause.WellKinded := kinds clause rfl
    have starts : nextIs (.keyword .has) (clause.tokens ++ rest) = true := by
      simp [DefaultClause.tokens, clauseKinds.1]
    simp only [DefaultClause.read?, Option.elim_some, starts, if_true, DefaultClause.read_tokens clauseKinds,
      Bind.bind, Except.bind, Pure.pure, Except.pure]

theorem FieldDecl.read_tokens {decl : FieldDecl} (kinds : decl.WellKinded) {rest : List Token}
    (stops : nextIs (.keyword .has) rest = false) : FieldDecl.read (decl.tokens ++ rest) = .ok (decl, rest) := by
  obtain ⟨owner, has, field, name, clause⟩ := kinds
  simp only [FieldDecl.read, FieldDecl.tokens, List.cons_append, take_cons owner, take_cons has, take_cons field,
    take_cons name, DefaultClause.read?_tokens clause stops, Bind.bind, Except.bind, Pure.pure, Except.pure]

theorem FieldDecl.readAll_eq : FieldDecl.readAll = fun tokens =>
    if nextIs .identifier tokens then do
      let found ← FieldDecl.read tokens
      let later ← FieldDecl.readAll found.2
      return (found.1 :: later.1, later.2)
    else return ([], tokens) := by
  funext tokens
  rw [FieldDecl.readAll]
  split
  · rename_i starts
    rw [← FieldDecl.readBody_of_next starts]
    split
    · rename_i failed
      rw [failed]
      rfl
    · rename_i ran
      rw [ran]
      rfl
  · rfl

theorem FieldDecl.readAll_of_not_next {tokens : List Token} (stops : nextIs .identifier tokens = false) :
    FieldDecl.readAll tokens = .ok ([], tokens) := by
  rw [FieldDecl.readAll_eq]
  simp [stops, Pure.pure, Except.pure]

theorem FieldDecl.readAll_of_read {tokens rest : List Token} {decl : FieldDecl}
    (starts : nextIs .identifier tokens = true) (ran : FieldDecl.read tokens = .ok (decl, rest)) :
    FieldDecl.readAll tokens = do
      let (later, rest) ← FieldDecl.readAll rest
      return (decl :: later, rest) := by
  have step := congrFun FieldDecl.readAll_eq tokens
  simp only [starts, if_true, ran] at step
  exact step

/-- What stands behind a field declaration is the next one or the end of the class, so a `has` never follows. -/
theorem FieldDecl.not_next_has {decls : List FieldDecl} (kinds : ∀ decl ∈ decls, decl.WellKinded) {rest : List Token}
    (boundary : AtStatement rest) :
    nextIs (.keyword .has) (decls.flatMap FieldDecl.tokens ++ rest) = false := by
  cases decls with
  | nil => exact boundary.not_next (by decide)
  | cons decl later =>
    have owner : decl.owner.kind = .identifier := (kinds decl (List.mem_cons_self ..)).1
    simp [FieldDecl.tokens, owner]

theorem FieldDecl.readAll_tokens {decls : List FieldDecl} (kinds : ∀ decl ∈ decls, decl.WellKinded)
    {rest : List Token} (boundary : AtStatement rest) :
    FieldDecl.readAll (decls.flatMap FieldDecl.tokens ++ rest) = .ok (decls, rest) := by
  induction decls with
  | nil => exact FieldDecl.readAll_of_not_next (boundary.not_next (by decide))
  | cons decl later ih =>
    obtain ⟨declKinds, laterKinds⟩ := List.forall_mem_cons.mp kinds
    have owner : decl.owner.kind = .identifier := declKinds.1
    have starts : nextIs .identifier ((decl :: later).flatMap FieldDecl.tokens ++ rest) = true := by
      simp [FieldDecl.tokens, owner]
    have ran : FieldDecl.read ((decl :: later).flatMap FieldDecl.tokens ++ rest) =
        .ok (decl, later.flatMap FieldDecl.tokens ++ rest) := by
      rw [List.flatMap_cons, List.append_assoc]
      exact FieldDecl.read_tokens declKinds (FieldDecl.not_next_has laterKinds boundary)
    rw [FieldDecl.readAll_of_read starts ran, ih laterKinds]
    rfl

theorem ClassDecl.read_tokens {decl : ClassDecl} (kinds : decl.WellKinded) {rest : List Token}
    (boundary : AtStatement rest) : ClassDecl.read (decl.tokens ++ rest) = .ok (decl, rest) := by
  obtain ⟨define, name, fields⟩ := kinds
  simp only [ClassDecl.read, ClassDecl.tokens, List.cons_append, take_cons define, take_cons name,
    FieldDecl.readAll_tokens fields boundary, Bind.bind, Except.bind, Pure.pure, Except.pure]

theorem AtStatement.classes {classes : List ClassDecl} (kinds : ∀ decl ∈ classes, decl.WellKinded) {rest : List Token}
    (boundary : AtStatement rest) : AtStatement (classes.flatMap ClassDecl.tokens ++ rest) := by
  cases classes with
  | nil => exact boundary
  | cons decl later => exact .cons (kinds decl (List.mem_cons_self ..)).1

theorem nextOutcome_tokens {decl : ClassDecl} (kinds : decl.WellKinded) {rest : List Token}
    (boundary : AtStatement rest) : nextOutcome (decl.tokens ++ rest) = (.ok decl, rest) := by
  have starts : nextIs (.keyword .define) (decl.tokens ++ rest) = true := by
    simp [ClassDecl.tokens, kinds.1]
  simp only [nextOutcome, readStatement, starts, if_true, ClassDecl.read_tokens kinds boundary]

@[simp] theorem outcomes_nil (limit : Limit) : outcomes limit [] = [] := by rw [outcomes]

theorem outcomes_of_ok {limit : Limit} {tokens rest : List Token} {decl : ClassDecl} (unread : tokens ≠ [])
    (ran : nextOutcome tokens = (.ok decl, rest)) : outcomes limit tokens = .ok decl :: outcomes limit rest := by
  cases tokens with
  | nil => exact absurd rfl unread
  | cons token tokens =>
    rw [outcomes]
    simp only [ran]

theorem outcomes_of_error {limit : Limit} {tokens rest : List Token} {failure : Failure} (unread : tokens ≠ [])
    (ran : nextOutcome tokens = (.error failure, rest)) :
    outcomes limit tokens =
      .error failure :: if limit.isLast then [] else outcomes limit.lower rest := by
  cases tokens with
  | nil => exact absurd rfl unread
  | cons token tokens =>
    rw [outcomes]
    simp only [ran]

theorem outcomes_tokens_append {classes : List ClassDecl} (kinds : ∀ decl ∈ classes, decl.WellKinded)
    {rest : List Token} (boundary : AtStatement rest) (limit : Limit) :
    outcomes limit (classes.flatMap ClassDecl.tokens ++ rest) = classes.map .ok ++ outcomes limit rest := by
  induction classes with
  | nil => rfl
  | cons decl later ih =>
    obtain ⟨declKinds, laterKinds⟩ := List.forall_mem_cons.mp kinds
    have step := nextOutcome_tokens declKinds (AtStatement.classes laterKinds boundary)
    rw [List.flatMap_cons, List.append_assoc, outcomes_of_ok (by simp [ClassDecl.tokens]) step, ih laterKinds,
      List.map_cons, List.cons_append]

theorem outcomes_tokens {classes : List ClassDecl} (kinds : ∀ decl ∈ classes, decl.WellKinded) (limit : Limit) :
    outcomes limit (classes.flatMap ClassDecl.tokens) = classes.map .ok := by
  simpa using outcomes_tokens_append kinds .nil limit

end ClassScript
