import ClassScript.Proofs.Syntax.Readers

namespace ClassScript

/-- A token list and what its statements come to, in order. After a failure the run goes on behind the tokens passed
    over, or ends there if no more failures are to be reported. -/
inductive Run : Limit → List Token → List Outcome → Prop
  | done (limit : Limit) : Run limit [] []
  | keep {limit : Limit} {tokens rest : List Token} {decl : ClassDecl} {found : List Outcome}
      (ran : readStatement tokens = .ok (decl, rest)) (later : Run limit rest found) :
      Run limit tokens (.ok decl :: found)
  | halt {limit : Limit} {tokens : List Token} {failure : Failure} (unread : tokens ≠ [])
      (ran : readStatement tokens = .error failure) (last : limit.isLast = true) : Run limit tokens [.error failure]
  | skip {limit : Limit} {tokens : List Token} {failure : Failure} {found : List Outcome} (unread : tokens ≠ [])
      (ran : readStatement tokens = .error failure) (more : limit.isLast = false)
      (later : Run limit.lower (resume failure.rest) found) : Run limit tokens (.error failure :: found)

theorem ne_nil_of_readStatement {tokens rest : List Token} {decl : ClassDecl}
    (ran : readStatement tokens = .ok (decl, rest)) : tokens ≠ [] := by
  rintro rfl
  cases ran

theorem nextOutcome_of_ok {tokens rest : List Token} {decl : ClassDecl}
    (ran : readStatement tokens = .ok (decl, rest)) : nextOutcome tokens = (.ok decl, rest) := by
  rw [nextOutcome, ran]

theorem nextOutcome_of_error {tokens : List Token} {failure : Failure}
    (ran : readStatement tokens = .error failure) : nextOutcome tokens = (.error failure, resume failure.rest) := by
  rw [nextOutcome, ran]

theorem readStatement_rest_suffix {tokens : List Token} {failure : Failure} (unread : tokens ≠ [])
    (ran : readStatement tokens = .error failure) : failure.rest <:+ tokens := by
  obtain ⟨used, split, _⟩ := (readStatement_reads unread).eq_error ran
  exact ⟨used, split.symm⟩

theorem outcomes_run (limit : Limit) (tokens : List Token) : Run limit tokens (outcomes limit tokens) := by
  induction length : tokens.length using Nat.strongRecOn generalizing limit tokens with
  | ind n ih =>
    cases tokens with
    | nil =>
      rw [outcomes_nil]
      exact .done limit
    | cons token tokens =>
      have shorter := nextOutcome_length token tokens
      rw [length] at shorter
      cases ran : readStatement (token :: tokens) with
      | ok result =>
        have step := nextOutcome_of_ok ran
        rw [step] at shorter
        rw [outcomes_of_ok (by simp) step]
        exact .keep ran (ih _ shorter limit result.2 rfl)
      | error failure =>
        have step := nextOutcome_of_error ran
        rw [step] at shorter
        rw [outcomes_of_error (by simp) step]
        cases last : limit.isLast with
        | true => exact .halt (by simp) ran last
        | false => exact .skip (by simp) ran last (ih _ shorter limit.lower _ rfl)

namespace Run

variable {limit : Limit} {tokens : List Token} {found : List Outcome}

theorem eq_outcomes (run : Run limit tokens found) : found = outcomes limit tokens := by
  induction run with
  | done limit => rw [outcomes_nil]
  | keep ran later ih => rw [outcomes_of_ok (ne_nil_of_readStatement ran) (nextOutcome_of_ok ran), ih]
  | halt unread ran last => rw [outcomes_of_error unread (nextOutcome_of_error ran), if_pos last]
  | skip unread ran more later ih =>
    rw [outcomes_of_error unread (nextOutcome_of_error ran), if_neg (by simp [more]), ih]

/-- Without a limit no failure ends a run, which leaves three ways that a step can go. -/
@[elab_as_elim]
theorem unlimited_induction {motive : ∀ tokens found, Run none tokens found → Prop} (done : motive [] [] (.done none))
    (keep : ∀ {tokens rest decl found} (ran : readStatement tokens = .ok (decl, rest)) (later : Run none rest found),
      motive rest found later → motive tokens (.ok decl :: found) (.keep ran later))
    (skip : ∀ {tokens failure found} (unread : tokens ≠ []) (ran : readStatement tokens = .error failure)
      (later : Run none (resume failure.rest) found),
      motive (resume failure.rest) found later → motive tokens (.error failure :: found) (.skip unread ran rfl later))
    (run : Run none tokens found) : motive tokens found run := by
  have under : ∀ limit tokens found, Run limit tokens found → limit = none → ∀ run, motive tokens found run := by
    intro limit tokens found any unlimited
    induction any with
    | done limit => exact fun _ => done
    | keep ran later ih =>
      cases unlimited
      exact fun _ => keep ran later (ih rfl later)
    | halt unread ran last =>
      cases unlimited
      cases last
    | skip unread ran more later ih =>
      cases unlimited
      exact fun _ => skip unread ran later (ih rfl later)
  exact under none tokens found run rfl run

theorem nil (run : Run limit [] found) : found = [] := by
  rw [run.eq_outcomes, outcomes_nil]

theorem rest_suffix (run : Run limit tokens found) :
    ∀ failure ∈ found.filterMap Outcome.failure?, failure.rest <:+ tokens := by
  induction run with
  | done limit => simp
  | keep ran later ih =>
    intro failure member
    obtain ⟨split, _⟩ := readStatement_eq_ok ran
    exact (ih failure member).trans ⟨_, split.symm⟩
  | halt unread ran last =>
    intro failure member
    cases List.mem_singleton.mp member
    exact readStatement_rest_suffix unread ran
  | skip unread ran more later ih =>
    have here := readStatement_rest_suffix unread ran
    intro failure member
    rcases List.mem_cons.mp member with rfl | member
    · exact here
    · exact (ih failure member).trans ((resume_suffix _).trans here)

theorem end_last (run : Run limit tokens found) :
    (found.filterMap Outcome.failure?).Pairwise fun earlier _ => earlier.rest ≠ [] := by
  induction run with
  | done limit => exact .nil
  | keep ran later ih => exact ih
  | halt unread ran last => exact List.pairwise_singleton _ _
  | @skip limit tokens failure found unread ran more later ih =>
    refine List.pairwise_cons.mpr ⟨?_, ih⟩
    intro _ member ended
    have behind : resume failure.rest = [] := by rw [ended]; rfl
    rw [behind] at later
    rw [later.nil] at member
    cases member

end Run

theorem mem_parse_errors {limit : Limit} {tokens : List Token} {error : SyntaxError}
    (member : error ∈ (parse limit tokens).errors) :
    tokens ≠ [] ∧ ∃ failure : Failure, failure.rest <:+ tokens ∧ failure.report (endPosition tokens) = error := by
  obtain ⟨failure, reported, same⟩ := List.mem_map.mp member
  refine ⟨?_, failure, (outcomes_run limit tokens).rest_suffix failure reported, same⟩
  rintro rfl
  rw [outcomes_nil] at reported
  cases reported

end ClassScript
