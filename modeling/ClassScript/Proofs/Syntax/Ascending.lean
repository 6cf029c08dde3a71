import ClassScript.Proofs.Syntax.Balance
import ClassScript.Proofs.Syntax.Recovery

namespace ClassScript

variable {limit : Limit} {tokens : List Token} {found : List Outcome}

def statementCauses : List (Rule × Kind) := (.statement, .keyword .define) :: ClassDecl.causes

theorem readStatement_causes (tokens : List Token) : FailsFor statementCauses (readStatement tokens) := by
  cases starts : nextIs (.keyword .define) tokens with
  | true => exact (readStatement_failsFor starts).mono (List.subset_cons_self _ _)
  | false =>
    intro failure ran
    cases (readStatement_of_not_next starts).symm.trans ran
    exact ⟨List.mem_cons_self .., starts⟩

theorem rest_length_lt_of_define {failure : Failure} (starts : nextIs (.keyword .define) tokens = true)
    (ran : readStatement tokens = .error failure) : failure.rest.length < tokens.length := by
  obtain ⟨define, used, rfl, _⟩ := defineFree_of_failed starts ran
  simp only [List.cons_append, List.length_cons, List.length_append]
  omega

theorem AtStatement.nextIs_define (boundary : AtStatement tokens) (unread : tokens ≠ []) :
    nextIs (.keyword .define) tokens = true := by
  cases tokens with
  | nil => exact absurd rfl unread
  | cons token tokens => simpa using boundary token rfl

namespace Run

theorem failures_caused (run : Run limit tokens found) : ∀ failure ∈ found.filterMap Outcome.failure?,
    (failure.rule, failure.expected) ∈ statementCauses ∧ nextIs failure.expected failure.rest = false := by
  induction run with
  | done limit => simp
  | keep ran later ih => exact ih
  | halt unread ran last =>
    intro failure member
    cases List.mem_singleton.mp member
    exact readStatement_causes _ _ ran
  | skip unread ran more later ih =>
    intro failure member
    rcases List.mem_cons.mp member with rfl | member
    · exact readStatement_causes _ _ ran
    · exact ih failure member

theorem rest_length_lt (run : Run limit tokens found) (boundary : AtStatement tokens) :
    ∀ failure ∈ found.filterMap Outcome.failure?, failure.rest.length < tokens.length := by
  cases run with
  | done limit => simp
  | keep ran later =>
    intro failure member
    obtain ⟨rfl, _⟩ := readStatement_eq_ok ran
    have within := (later.rest_suffix failure member).length_le
    simp only [ClassDecl.tokens, List.cons_append, List.length_cons, List.length_append]
    omega
  | halt unread ran last =>
    intro failure member
    cases List.mem_singleton.mp member
    exact rest_length_lt_of_define (boundary.nextIs_define unread) ran
  | @skip _ _ first _ unread ran more later =>
    have here := rest_length_lt_of_define (boundary.nextIs_define unread) ran
    have passed := resume_length_le first.rest
    intro failure member
    rcases List.mem_cons.mp member with rfl | member
    · exact here
    · have within := (later.rest_suffix failure member).length_le
      omega

theorem rests_shrink (run : Run limit tokens found) :
    (found.filterMap Outcome.failure?).Pairwise fun earlier later => later.rest.length < earlier.rest.length := by
  induction run with
  | done limit => exact .nil
  | keep ran later ih => exact ih
  | halt unread ran last => exact List.pairwise_singleton _ _
  | @skip _ _ first _ unread ran more later ih =>
    refine List.pairwise_cons.mpr ⟨?_, ih⟩
    intro failure member
    -- The failure itself may have used nothing up, but the statement behind it uses up its `define`.
    have further := later.rest_length_lt (resume_atStatement first.rest) failure member
    have passed := resume_length_le first.rest
    omega

end Run

/-- What an error says, at the index of the tokens where it stands: the token there, if there is one, and its place; it
    is not of the kind expected, and a rule at work does expect that kind. -/
structure GenuineAt (tokens : List Token) (error : SyntaxError) (index : Nat) : Prop where
  found : error.found? = tokens[index]?
  place : error.position = error.found?.elim (endPosition tokens) Token.position
  other : ∀ token ∈ error.found?, token.kind ≠ error.expected
  ended : error.found? = none → index = tokens.length
  cause : (error.rule, error.expected) ∈ statementCauses

def Failure.index (tokens : List Token) (failure : Failure) : Nat := tokens.length - failure.rest.length

theorem GenuineAt.report {failure : Failure} (suffix : failure.rest <:+ tokens)
    (cause : (failure.rule, failure.expected) ∈ statementCauses)
    (other : nextIs failure.expected failure.rest = false) :
    GenuineAt tokens (failure.report (endPosition tokens)) (failure.index tokens) := by
  obtain ⟨rule, expected, rest⟩ := failure
  obtain ⟨used, rfl⟩ := suffix
  have index : Failure.index (used ++ rest) ⟨rule, expected, rest⟩ = used.length := by simp [Failure.index]
  rw [index]
  refine ⟨?_, rfl, ?_, ?_, cause⟩
  · simp [Failure.report, List.getElem?_append_right, List.head?_eq_getElem?]
  · intro token member
    obtain ⟨later, rfl⟩ := List.head?_eq_some_iff.mp member
    simpa [Failure.report] using other
  · intro absent
    have ended : rest = [] := List.head?_eq_none_iff.mp absent
    simp [ended]

theorem errors_genuine (limit : Limit) (tokens : List Token) : ∃ indices : List Nat,
    indices.Pairwise (· < ·) ∧ List.Forall₂ (GenuineAt tokens) (parse limit tokens).errors indices := by
  have run := outcomes_run limit tokens
  have suffix := run.rest_suffix
  refine ⟨((outcomes limit tokens).filterMap Outcome.failure?).map (Failure.index tokens), ?_, ?_⟩
  · refine List.pairwise_map.mpr (run.rests_shrink.imp_of_mem ?_)
    intro earlier later member _ shorter
    have within := (suffix earlier member).length_le
    simp only [Failure.index]
    omega
  · rw [parse, List.forall₂_map_left_iff, List.forall₂_map_right_iff, List.forall₂_same]
    intro failure member
    obtain ⟨cause, other⟩ := run.failures_caused failure member
    exact .report (suffix failure member) cause other

theorem errors_end_last (limit : Limit) (tokens : List Token) :
    (parse limit tokens).errors.Pairwise fun earlier _ => earlier.found? ≠ none := by
  refine List.pairwise_map.mpr ((outcomes_run limit tokens).rests_shrink.imp ?_)
  intro earlier later shorter absent
  have ended : earlier.rest = [] := List.head?_eq_none_iff.mp absent
  simp [ended] at shorter

theorem rule_of_cause {rule : Rule} {expected : Kind} (cause : (rule, expected) ∈ statementCauses) :
    rule ≠ .program ∧ rule ≠ .classBody := by
  refine ⟨?_, ?_⟩
  all_goals
    rintro rfl
    simp [statementCauses, ClassDecl.causes, FieldDecl.causes, DefaultClause.causes] at cause

structure Ascending (tokens : List Token) : Prop where
  apart : tokens.Pairwise fun earlier later => earlier.stop.offset ≤ later.position.offset
  nonempty : ∀ token ∈ tokens, token.position.offset < token.stop.offset

theorem Ascending.of_suffix {rest : List Token} (ascending : Ascending tokens) (suffix : rest <:+ tokens) :
    Ascending rest where
  apart := ascending.apart.sublist suffix.sublist
  nonempty token member := ascending.nonempty token (suffix.subset member)

theorem Ascending.lt_endPosition {token : Token} {rest : List Token} (ascending : Ascending (token :: rest)) :
    token.position.offset < (endPosition (token :: rest)).offset := by
  have width := ascending.nonempty token (List.mem_cons_self ..)
  obtain ⟨before, _⟩ := List.pairwise_cons.mp ascending.apart
  cases last : rest.getLast? with
  | none =>
    rw [List.getLast?_eq_none_iff.mp last]
    exact width
  | some final =>
    have member := List.mem_of_getLast? last
    have finalWidth := ascending.nonempty final (List.mem_cons_of_mem _ member)
    have between := before final member
    rw [endPosition, List.getLast?_cons, last]
    show token.position.offset < final.stop.offset
    omega

theorem Ascending.place_lt {earlier later : List Token} (ascending : Ascending tokens) (earlierSuffix : earlier <:+ tokens)
    (laterSuffix : later <:+ tokens) (shorter : later.length < earlier.length) :
    (earlier.head?.elim (endPosition tokens) Token.position).offset <
      (later.head?.elim (endPosition tokens) Token.position).offset := by
  have within : later <:+ earlier := List.suffix_of_suffix_length_le laterSuffix earlierSuffix (by omega)
  have here := ascending.of_suffix earlierSuffix
  cases earlier with
  | nil => simp at shorter
  | cons token rest =>
    cases later with
    | nil =>
      obtain ⟨used, rfl⟩ := earlierSuffix
      rw [endPosition_append]
      exact here.lt_endPosition
    | cons next behind =>
      have inRest : next ∈ rest := by
        rcases List.suffix_cons_iff.mp within with same | suffix
        · simp [same] at shorter
        · exact suffix.subset (List.mem_cons_self ..)
      have width := here.nonempty token (List.mem_cons_self ..)
      have between := (List.pairwise_cons.mp here.apart).1 next inRest
      show token.position.offset < next.position.offset
      omega

theorem Ascending.errors_ascend (ascending : Ascending tokens) (limit : Limit) :
    (parse limit tokens).errors.Pairwise fun earlier later => earlier.position.offset < later.position.offset := by
  have run := outcomes_run limit tokens
  have suffix := run.rest_suffix
  refine List.pairwise_map.mpr (run.rests_shrink.imp_of_mem ?_)
  intro earlier later member laterMember shorter
  exact ascending.place_lt (suffix earlier member) (suffix later laterMember) shorter

end ClassScript
