import ClassScript.Proofs.Syntax.Run

namespace ClassScript

variable {tokens : List Token}

def Grammatical (tokens : List Token) : Prop := tokens.map Token.kind ∈ Grammar.program.matches'

def Viable (tokens : List Token) : Prop := ∃ later, Grammatical (tokens ++ later)

theorem Grammar.mem_program_of_mem_classDecl {word : List Kind} (member : word ∈ Grammar.classDecl.matches') :
    word ∈ Grammar.program.matches' := by
  have single : Grammar.classDecl.matches' ≤ Grammar.program.matches' := le_kstar
  exact single member

theorem Grammar.mem_program_of_mem_mul {word : List Kind}
    (member : word ∈ Grammar.classDecl.matches' * Grammar.program.matches') : word ∈ Grammar.program.matches' := by
  have more : Grammar.classDecl.matches' * Grammar.program.matches' ≤ Grammar.program.matches' := mul_kstar_le_kstar
  exact more member

theorem grammatical_iff_no_failure (limit : Limit) :
    Grammatical tokens ↔ (outcomes limit tokens).filterMap Outcome.failure? = [] := by
  have sound : (parse limit tokens).errors = [] ↔ ∃ classes, Derives classes tokens := parse_errors_eq_nil_iff
  rw [Grammatical, Grammar.program_describes tokens, ← List.map_eq_nil_iff]
  simp only [← derives_iff]
  exact sound.symm

theorem Grammatical.of_readStatement {rest : List Token} {decl : ClassDecl} (whole : Grammatical tokens)
    (ran : readStatement tokens = .ok (decl, rest)) : Grammatical rest := by
  have sound := (grammatical_iff_no_failure none).mp whole
  rw [outcomes_of_ok (ne_nil_of_readStatement ran) (nextOutcome_of_ok ran)] at sound
  exact (grammatical_iff_no_failure none).mpr sound

theorem not_grammatical_of_readStatement {failure : Failure} (unread : tokens ≠ [])
    (ran : readStatement tokens = .error failure) : ¬ Grammatical tokens := by
  intro whole
  have sound := (grammatical_iff_no_failure none).mp whole
  rw [outcomes_of_error unread (nextOutcome_of_error ran)] at sound
  cases sound

/-- A failure and the tokens used up before it: with the expected kind next they would begin a program, and with what
    does come next they begin none. -/
structure Blocked (used : List Token) (failure : Failure) : Prop where
  viable : ∃ later, used.map Token.kind ++ failure.expected :: later ∈ Grammar.program.matches'
  never : ∀ other, failure.rest.head? = other.head? → ¬ Grammatical (used ++ other)

theorem blocked_of_readStatement {failure : Failure} (unread : tokens ≠ [])
    (ran : readStatement tokens = .error failure) : ∃ used, tokens = used ++ failure.rest ∧ Blocked used failure := by
  obtain ⟨used, split, ⟨later, begun⟩, gives⟩ := (readStatement_reads unread).eq_error ran
  refine ⟨used, split, ⟨later, Grammar.mem_program_of_mem_classDecl begun⟩, ?_⟩
  intro other same
  refine not_grammatical_of_readStatement ?_ (gives other (Or.inl same))
  intro empty
  obtain ⟨rfl, rfl⟩ := List.append_eq_nil_iff.mp empty
  have ended : failure.rest = [] := List.head?_eq_none_iff.mp same
  rw [ended] at split
  exact unread split

theorem Run.first_failure {limit : Limit} {found : List Outcome} {failure : Failure} (run : Run limit tokens found)
    (first : (found.filterMap Outcome.failure?).head? = some failure) :
    ∃ used, tokens = used ++ failure.rest ∧ Blocked used failure := by
  induction run with
  | done limit => cases first
  | keep ran later ih =>
    obtain ⟨used, rfl, ⟨more, begun⟩, never⟩ := ih first
    obtain ⟨here, rfl, fits, gives⟩ := (readStatement_reads (ne_nil_of_readStatement ran)).eq_ok ran
    refine ⟨here ++ used, (List.append_assoc ..).symm, ⟨more, ?_⟩, ?_⟩
    · have whole := Grammar.mem_program_of_mem_mul (Language.append_mem_mul fits begun)
      rwa [← List.append_assoc, ← List.map_append] at whole
    · intro other same whole
      rw [List.append_assoc] at whole
      exact never other same (whole.of_readStatement (gives _ (Alike.append (Or.inl same) used)))
  | halt unread ran last =>
    cases first
    exact blocked_of_readStatement unread ran
  | skip unread ran goesOn later ih =>
    cases first
    exact blocked_of_readStatement unread ran

theorem Viable.of_append {later : List Token} (viable : Viable (tokens ++ later)) : Viable tokens := by
  obtain ⟨more, whole⟩ := viable
  exact ⟨later ++ more, by rwa [← List.append_assoc]⟩

def Token.sample (kind : Kind) : Token := ⟨kind, "", .start⟩

theorem map_kind_sample (word : List Kind) : (word.map Token.sample).map Token.kind = word := by
  rw [List.map_map]
  exact List.map_id word

theorem Blocked.viable_append {used : List Token} {failure : Failure} (blocked : Blocked used failure) (token : Token)
    (same : token.kind = failure.expected) : Viable (used ++ [token]) := by
  obtain ⟨later, begun⟩ := blocked.viable
  refine ⟨later.map Token.sample, ?_⟩
  rw [Grammatical, List.map_append, List.map_append, map_kind_sample, List.append_assoc]
  simpa [same] using begun

/-- An error at an index of the tokens, or at their end, up to which they begin a program and may go on as the error
    expects, but not as they do. -/
structure EarliestAt (tokens : List Token) (error : SyntaxError) (index : Nat) : Prop where
  bound : index ≤ tokens.length
  found : error.found? = tokens[index]?
  viable : Viable (tokens.take index)
  expects : ∀ token : Token, token.kind = error.expected → Viable (tokens.take index ++ [token])
  blocked : error.found? ≠ none → ¬ Viable (tokens.take (index + 1))
  ended : error.found? = none → index = tokens.length ∧ ¬ Grammatical tokens ∧ Viable tokens

/-- The first error stands where the input first fails to begin a program. -/
theorem first_error_earliest {limit : Limit} {tokens : List Token} {error : SyntaxError}
    (first : (parse limit tokens).errors.head? = some error) : ∃ index, EarliestAt tokens error index := by
  rw [parse, List.head?_map] at first
  obtain ⟨failure, head, rfl⟩ := Option.map_eq_some_iff.mp first
  obtain ⟨used, rfl, blocked⟩ := (outcomes_run limit tokens).first_failure head
  have taken : (used ++ failure.rest).take used.length = used := List.take_left
  have next : (used ++ failure.rest)[used.length]? = failure.rest.head? := by
    rw [List.getElem?_append_right (le_refl _), Nat.sub_self, List.head?_eq_getElem?]
  have viable : Viable used := (blocked.viable_append (.sample failure.expected) rfl).of_append
  refine ⟨used.length, by simp, next.symm, by rwa [taken], ?_, ?_, ?_⟩
  · intro token same
    rw [taken]
    exact blocked.viable_append token same
  · intro present
    obtain ⟨token, head⟩ : ∃ token, failure.rest.head? = some token := Option.ne_none_iff_exists'.mp present
    rintro ⟨later, whole⟩
    have longer : (used ++ failure.rest).take (used.length + 1) = used ++ [token] := by
      rw [List.take_add_one, taken, next, head]
      rfl
    rw [longer, List.append_assoc] at whole
    exact blocked.never (token :: later) head whole
  · intro absent
    have ended : failure.rest = [] := List.head?_eq_none_iff.mp absent
    rw [ended, List.append_nil]
    exact ⟨rfl, by simpa using blocked.never [] absent, viable⟩

def clippedTokens : List Token :=
  [⟨.keyword .define, "define", .start⟩, ⟨.identifier, "Shelf", .start⟩, ⟨.identifier, "Shelf", .start⟩,
    ⟨.keyword .field, "field", .start⟩]

theorem first_error_earliest_clipped :
    (parse none clippedTokens).errors.head? =
      some ⟨.fieldDeclaration, .keyword .has, some ⟨.keyword .field, "field", .start⟩, .start⟩ ∧
    ∃ index, EarliestAt clippedTokens
      ⟨.fieldDeclaration, .keyword .has, some ⟨.keyword .field, "field", .start⟩, .start⟩ index := by
  have first : (parse none clippedTokens).errors.head? =
      some ⟨.fieldDeclaration, .keyword .has, some ⟨.keyword .field, "field", .start⟩, .start⟩ := by decide +kernel
  exact ⟨first, first_error_earliest first⟩

end ClassScript
