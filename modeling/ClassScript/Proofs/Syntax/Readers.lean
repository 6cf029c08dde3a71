import ClassScript.Proofs.Syntax.Grammar

namespace ClassScript

open RegularExpression
open scoped Computability

variable {Mid Tree : Type} {left right : Language Kind} {tokens : List Token}

/-- Tokens that no reader inside of a statement tells apart by the next one: it is the same, or with both the statement
    is over. -/
def Alike (here other : List Token) : Prop := here.head? = other.head? ∨ AtStatement here ∧ AtStatement other

theorem Alike.refl (here : List Token) : Alike here here := Or.inl rfl

theorem Alike.nextIs {here other : List Token} (alike : Alike here other) {kind : Kind}
    (inner : kind ≠ .keyword .define) : nextIs kind here = nextIs kind other := by
  rcases alike with same | ⟨hereBoundary, otherBoundary⟩
  · rw [ClassScript.nextIs, same, ClassScript.nextIs]
  · rw [hereBoundary.not_next inner, otherBoundary.not_next inner]

theorem Alike.append {here other : List Token} (alike : Alike here other) (used : List Token) :
    Alike (used ++ here) (used ++ other) := by
  cases used with
  | nil => exact alike
  | cons token used => exact Or.inl rfl

theorem AtStatement.alike_append {later : List Token} (boundary : AtStatement later) (rest : List Token) :
    Alike rest (rest ++ later) := by
  cases rest with
  | nil => exact Or.inr ⟨.nil, boundary⟩
  | cons token rest => exact Or.inl rfl

/-- What was used up is a word of the language or, before a failure, begins one that goes on with the expected kind. In
    front of other tokens the reader gives the same. -/
inductive Reads (language : Language Kind) (read : List Token → Except Failure (Tree × List Token)) :
    List Token → Prop
  | ok (used rest : List Token) (tree : Tree) (fits : used.map Token.kind ∈ language)
      (gives : ∀ other, Alike rest other → read (used ++ other) = .ok (tree, other)) :
      Reads language read (used ++ rest)
  | error (used rest : List Token) (rule : Rule) (expected : Kind)
      (fits : ∃ later, used.map Token.kind ++ expected :: later ∈ language)
      (gives : ∀ other, Alike rest other → read (used ++ other) = .error ⟨rule, expected, other⟩) :
      Reads language read (used ++ rest)

class Possible (language : Language Kind) : Prop where
  word : ∃ word, word ∈ language

instance (kind : Kind) : Possible (char kind).matches' := ⟨[kind], rfl⟩

instance [leftWord : Possible left] [rightWord : Possible right] : Possible (left * right) := by
  obtain ⟨first, firstMember⟩ := leftWord
  obtain ⟨second, secondMember⟩ := rightWord
  exact ⟨first ++ second, Language.append_mem_mul firstMember secondMember⟩

instance : Possible 1 := ⟨[], Language.nil_mem_one⟩

instance : Possible (1 + right) := ⟨[], Or.inl Language.nil_mem_one⟩

instance : Possible left∗ := ⟨[], Language.nil_mem_kstar left⟩

theorem take_of_not_next {rule : Rule} {kind : Kind} (stops : nextIs kind tokens = false) :
    take rule kind tokens = .error ⟨rule, kind, tokens⟩ := by
  cases ran : take rule kind tokens with
  | error failure => rw [(take_eq_error ran).1]
  | ok result =>
    obtain ⟨rfl, same⟩ := take_eq_ok ran
    simp [same] at stops

namespace Reads

variable {read whole : List Token → Except Failure (Tree × List Token)}

theorem take (rule : Rule) {kind : Kind} (inner : kind ≠ .keyword .define) (tokens : List Token) :
    Reads (char kind).matches' (take rule kind) tokens := by
  cases next : nextIs kind tokens with
  | false =>
    refine .error [] tokens rule kind ⟨[], rfl⟩ fun other alike => ?_
    exact take_of_not_next ((alike.nextIs inner).symm.trans next)
  | true =>
    cases tokens with
    | nil => cases next
    | cons token rest =>
      have same : token.kind = kind := by simpa using next
      refine .ok [token] rest token ?_ fun other _ => take_cons same other
      rw [matches'_char, ← same]
      rfl

theorem pure (tree : Tree) (tokens : List Token) : Reads 1 (fun tokens => Pure.pure (tree, tokens)) tokens :=
  .ok [] tokens tree rfl fun _ _ => rfl

theorem bind {first : List Token → Except Failure (Mid × List Token)}
    {next : Mid × List Token → Except Failure (Tree × List Token)} [possible : Possible right]
    (here : Reads left first tokens)
    (behind : ∀ mid rest, first tokens = .ok (mid, rest) → Reads right (fun rest => next (mid, rest)) rest) :
    Reads (left * right) (fun tokens => first tokens >>= next) tokens := by
  cases here with
  | error used rest rule expected fits gives =>
    obtain ⟨later, begun⟩ := fits
    obtain ⟨word, member⟩ := possible
    refine .error used rest rule expected ⟨later ++ word, ?_⟩ fun other alike => ?_
    · simpa using Language.append_mem_mul begun member
    · rw [gives other alike]
      rfl
  | ok used rest mid fits gives =>
    cases behind mid rest (gives rest (.refl rest)) with
    | ok more rest tree laterFits laterGives =>
      rw [← List.append_assoc]
      refine .ok (used ++ more) rest tree ?_ fun other alike => ?_
      · simpa using Language.append_mem_mul fits laterFits
      · rw [List.append_assoc, gives _ (alike.append more)]
        exact laterGives other alike
    | error more rest rule expected laterFits laterGives =>
      obtain ⟨later, begun⟩ := laterFits
      rw [← List.append_assoc]
      refine .error (used ++ more) rest rule expected ⟨later, ?_⟩ fun other alike => ?_
      · simpa using Language.append_mem_mul fits begun
      · rw [List.append_assoc, gives _ (alike.append more)]
        exact laterGives other alike

theorem map {first : List Token → Except Failure (Mid × List Token)} (build : Mid → Tree)
    (here : Reads left first tokens) :
    Reads left (fun tokens => first tokens >>= fun found => Pure.pure (build found.1, found.2)) tokens := by
  rw [← mul_one left]
  exact here.bind fun mid rest _ => Reads.pure (build mid) rest

theorem mono (fewer : ∀ word ∈ left, word ∈ right) (here : Reads left read tokens) : Reads right read tokens := by
  cases here with
  | ok used rest tree fits gives => exact .ok used rest tree (fewer _ fits) gives
  | error used rest rule expected fits gives =>
    obtain ⟨later, begun⟩ := fits
    exact .error used rest rule expected ⟨later, fewer _ begun⟩ gives

theorem of_same_next {kind : Kind} (inner : kind ≠ .keyword .define) (here : Reads left read tokens)
    (same : ∀ other, nextIs kind other = nextIs kind tokens → whole other = read other) : Reads left whole tokens := by
  cases here with
  | ok used rest tree fits gives =>
    refine .ok used rest tree fits fun other alike => ?_
    rw [same _ ((alike.append used).nextIs inner).symm, gives other alike]
  | error used rest rule expected fits gives =>
    refine .error used rest rule expected fits fun other alike => ?_
    rw [same _ ((alike.append used).nextIs inner).symm, gives other alike]

theorem ifNext {kind : Kind} {yes no : List Token → Except Failure (Tree × List Token)}
    (inner : kind ≠ .keyword .define) (here : nextIs kind tokens = true → Reads left yes tokens)
    (away : Reads right no tokens) :
    Reads (right + left) (fun tokens => if nextIs kind tokens then yes tokens else no tokens) tokens := by
  cases next : nextIs kind tokens with
  | true =>
    have within : ∀ word ∈ left, word ∈ right + left := fun _ => Or.inr
    refine of_same_next inner ((here next).mono within) fun other same => ?_
    rw [same, next, if_pos rfl]
  | false =>
    have within : ∀ word ∈ right, word ∈ right + left := fun _ => Or.inl
    refine of_same_next inner (away.mono within) fun other same => ?_
    rw [same, next]
    rfl

theorem cons {token : Token} (here : Reads left read tokens) (step : ∀ rest, whole (token :: rest) = read rest) :
    Reads ((char token.kind).matches' * left) whole (token :: tokens) := by
  cases here with
  | ok used rest tree fits gives =>
    refine .ok (token :: used) rest tree ?_ fun other alike => (step _).trans (gives other alike)
    exact Language.append_mem_mul (a := [token.kind]) rfl fits
  | error used rest rule expected fits gives =>
    obtain ⟨later, begun⟩ := fits
    refine .error (token :: used) rest rule expected ⟨later, ?_⟩ fun other alike => (step _).trans (gives other alike)
    exact Language.append_mem_mul (a := [token.kind]) rfl begun

theorem eq_ok {rest : List Token} {tree : Tree} (here : Reads left read tokens) (ran : read tokens = .ok (tree, rest)) :
    ∃ used, tokens = used ++ rest ∧ used.map Token.kind ∈ left ∧
      ∀ other, Alike rest other → read (used ++ other) = .ok (tree, other) := by
  cases here with
  | ok used rest tree fits gives =>
    cases (gives rest (.refl rest)).symm.trans ran
    exact ⟨used, rfl, fits, gives⟩
  | error used rest rule expected fits gives => cases (gives rest (.refl rest)).symm.trans ran

theorem eq_error {failure : Failure} (here : Reads left read tokens) (ran : read tokens = .error failure) :
    ∃ used, tokens = used ++ failure.rest ∧
      (∃ later, used.map Token.kind ++ failure.expected :: later ∈ left) ∧
      ∀ other, Alike failure.rest other → read (used ++ other) = .error { failure with rest := other } := by
  cases here with
  | ok used rest tree fits gives => cases (gives rest (.refl rest)).symm.trans ran
  | error used rest rule expected fits gives =>
    cases (gives rest (.refl rest)).symm.trans ran
    exact ⟨used, rfl, fits, gives⟩

end Reads

theorem DefaultClause.read_reads (tokens : List Token) :
    Reads Grammar.defaultClause.matches' DefaultClause.read tokens := by
  simp only [Grammar.defaultClause, matches'_mul, mul_assoc]
  refine Reads.bind (Reads.take _ (by decide) tokens) fun has rest _ => ?_
  refine Reads.bind (Reads.take _ (by decide) rest) fun default rest _ => ?_
  exact Reads.map (fun literal => (⟨has, default, literal⟩ : DefaultClause)) (Reads.take _ (by decide) rest)

theorem DefaultClause.read?_reads (tokens : List Token) :
    Reads (1 + Grammar.defaultClause.matches') DefaultClause.read? tokens :=
  Reads.ifNext (by decide) (fun _ => Reads.map some (DefaultClause.read_reads tokens)) (Reads.pure none tokens)

theorem FieldDecl.read_reads (tokens : List Token) : Reads Grammar.fieldDecl.matches' FieldDecl.read tokens := by
  simp only [Grammar.fieldDecl, matches'_mul, matches'_add, matches'_epsilon, mul_assoc]
  refine Reads.bind (Reads.take _ (by decide) tokens) fun owner rest _ => ?_
  refine Reads.bind (Reads.take _ (by decide) rest) fun has rest _ => ?_
  refine Reads.bind (Reads.take _ (by decide) rest) fun field rest _ => ?_
  refine Reads.bind (Reads.take _ (by decide) rest) fun name rest _ => ?_
  exact Reads.map (fun default? => (⟨owner, has, field, name, default?⟩ : FieldDecl)) (DefaultClause.read?_reads rest)

theorem FieldDecl.readAll_reads (tokens : List Token) :
    Reads Grammar.fieldDecl.matches'∗ FieldDecl.readAll tokens := by
  -- On the number of tokens: a declaration that was read has used some up.
  induction length : tokens.length using Nat.strongRecOn generalizing tokens with
  | ind n ih =>
    rw [FieldDecl.readAll_eq, ← Language.one_add_self_mul_kstar_eq_kstar]
    refine Reads.ifNext (by decide) (fun _ => ?_) (Reads.pure [] tokens)
    refine Reads.bind (FieldDecl.read_reads tokens) fun decl rest ran => ?_
    have shorter : rest.length < n := length ▸ FieldDecl.read_length ran
    exact Reads.map (decl :: ·) (ih rest.length shorter rest rfl)

theorem readStatement_of_define {token : Token} (define : token.kind = .keyword .define) (rest : List Token) :
    readStatement (token :: rest) = ClassDecl.read (token :: rest) := by
  simp [readStatement, define]

theorem readStatement_of_not_next (stops : nextIs (.keyword .define) tokens = false) :
    readStatement tokens = .error ⟨.statement, .keyword .define, tokens⟩ := by
  simp [readStatement, stops]

theorem readStatement_reads (unread : tokens ≠ []) : Reads Grammar.classDecl.matches' readStatement tokens := by
  simp only [Grammar.classDecl, matches'_mul, matches'_star, mul_assoc]
  cases tokens with
  | nil => exact absurd rfl unread
  | cons token rest =>
    by_cases define : token.kind = .keyword .define
    · rw [← define]
      refine Reads.cons ?_ fun other => (readStatement_of_define define other).trans (ClassDecl.read_cons define other)
      refine Reads.bind (Reads.take _ (by decide) rest) fun name rest _ => ?_
      exact Reads.map (fun fields => (⟨token, name, fields⟩ : ClassDecl)) (FieldDecl.readAll_reads rest)
    · refine .error [] (token :: rest) .statement (.keyword .define) ⟨[.identifier], ?_⟩ fun other alike => ?_
      · exact Language.append_mem_mul (a := [Kind.keyword .define]) rfl
          (Language.append_mem_mul (a := [Kind.identifier]) rfl (Language.nil_mem_kstar _))
      · have head : (token :: rest).head? = other.head? := alike.resolve_right fun both => define (both.1 token rfl)
        apply readStatement_of_not_next
        simp [nextIs, ← head, define]

end ClassScript
