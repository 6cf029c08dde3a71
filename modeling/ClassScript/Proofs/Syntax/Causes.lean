import ClassScript.Proofs.Syntax.Run

namespace ClassScript

variable {Mid Tree : Type} {tokens : List Token} {allowed : List (Rule × Kind)}

/-- If the result is a failure, it is for one of the allowed causes, and not for a kind that does come next. -/
def FailsFor (allowed : List (Rule × Kind)) (result : Except Failure Tree) : Prop :=
  ∀ failure, result = .error failure →
    (failure.rule, failure.expected) ∈ allowed ∧ nextIs failure.expected failure.rest = false

namespace FailsFor

theorem take {rule : Rule} {kind : Kind} (listed : nextIs kind tokens = false → (rule, kind) ∈ allowed) :
    FailsFor allowed (take rule kind tokens) := by
  intro failure ran
  obtain ⟨rfl, other⟩ := take_eq_error ran
  exact ⟨listed other, other⟩

theorem pure (tree : Tree) : FailsFor allowed (Pure.pure tree) := nofun

theorem bind {first : Except Failure Mid} {next : Mid → Except Failure Tree} (here : FailsFor allowed first)
    (behind : ∀ mid, FailsFor allowed (next mid)) : FailsFor allowed (first >>= next) := by
  intro failure ran
  cases first with
  | error cause =>
    cases ran
    exact here failure rfl
  | ok mid => exact behind mid failure ran

theorem mono {result : Except Failure Tree} {more : List (Rule × Kind)} (here : FailsFor allowed result)
    (fewer : allowed ⊆ more) : FailsFor more result := by
  intro failure ran
  obtain ⟨listed, other⟩ := here failure ran
  exact ⟨fewer listed, other⟩

end FailsFor

def DefaultClause.causes : List (Rule × Kind) := [(.defaultValue, .keyword .default), (.literal, .string)]

def FieldDecl.causes : List (Rule × Kind) :=
  [(.fieldDeclaration, .keyword .has), (.fieldDeclaration, .keyword .field), (.fieldDeclaration, .string)] ++
    DefaultClause.causes

def ClassDecl.causes : List (Rule × Kind) := (.classDefinition, .identifier) :: FieldDecl.causes

theorem DefaultClause.read_failsFor (starts : nextIs (.keyword .has) tokens = true) :
    FailsFor DefaultClause.causes (DefaultClause.read tokens) := by
  refine .bind (.take (by simp [starts])) fun has => ?_
  refine .bind (.take (by simp [causes])) fun default => ?_
  exact .bind (.take (by simp [causes])) fun literal => .pure _

theorem DefaultClause.read?_failsFor (tokens : List Token) :
    FailsFor DefaultClause.causes (DefaultClause.read? tokens) := by
  unfold DefaultClause.read?
  split
  · rename_i starts
    exact .bind (DefaultClause.read_failsFor starts) fun clause => .pure _
  · exact .pure _

theorem FieldDecl.read_failsFor (starts : nextIs .identifier tokens = true) :
    FailsFor FieldDecl.causes (FieldDecl.read tokens) := by
  refine .bind (.take (by simp [starts])) fun owner => ?_
  refine .bind (.take (by simp [causes])) fun has => ?_
  refine .bind (.take (by simp [causes])) fun field => ?_
  refine .bind (.take (by simp [causes])) fun name => ?_
  exact .bind ((DefaultClause.read?_failsFor name.2).mono (List.subset_append_right _ _)) fun default? => .pure _

theorem FieldDecl.readAll_failsFor (tokens : List Token) : FailsFor FieldDecl.causes (FieldDecl.readAll tokens) := by
  fun_induction FieldDecl.readAll tokens with
  | case1 tokens starts failure failed =>
    intro other same
    cases same
    rw [FieldDecl.readBody_of_next starts] at failed
    exact FieldDecl.read_failsFor starts failure failed
  | case2 tokens starts decl rest ran ih => exact .bind ih fun later => .pure _
  | case3 tokens stops => exact .pure _

theorem ClassDecl.read_failsFor (starts : nextIs (.keyword .define) tokens = true) :
    FailsFor ClassDecl.causes (ClassDecl.read tokens) := by
  refine .bind (.take (by simp [starts])) fun define => ?_
  refine .bind (.take (by simp [causes])) fun name => ?_
  exact .bind ((FieldDecl.readAll_failsFor name.2).mono (List.subset_cons_self _ _)) fun fields => .pure _

theorem readStatement_failsFor (starts : nextIs (.keyword .define) tokens = true) :
    FailsFor ClassDecl.causes (readStatement tokens) := by
  rw [readStatement, if_pos starts]
  exact ClassDecl.read_failsFor starts

end ClassScript
