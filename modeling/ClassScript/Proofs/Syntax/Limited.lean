import ClassScript.Proofs.Syntax.Run

namespace ClassScript

namespace Limit

variable {α : Type}

@[simp] theorem cut_none (problems : List α) : cut none problems = problems := rfl

@[simp] theorem cut_nil (limit : Limit) : limit.cut ([] : List α) = [] := by cases limit <;> simp [cut]

theorem cut_cons (limit : Limit) (problem : α) (problems : List α) :
    limit.cut (problem :: problems) = problem :: if limit.isLast then [] else limit.lower.cut problems := by
  cases limit with
  | none => rfl
  | some most =>
    by_cases last : most ≤ 1
    · simp [cut, isLast, last]
    · have here : max most 1 = max (most - 1) 1 + 1 := by omega
      simp [cut, isLast, lower, last, here]

theorem cut_eq_nil_iff {limit : Limit} {problems : List α} : limit.cut problems = [] ↔ problems = [] := by
  cases problems with
  | nil => simp
  | cons problem problems => simp [cut_cons]

theorem cut_map {β : Type} (limit : Limit) (change : α → β) (problems : List α) :
    limit.cut (problems.map change) = (limit.cut problems).map change := by
  cases limit <;> simp [cut]

theorem cut_eq_take (limit : Limit) (problems : List α) :
    limit.cut problems = problems.take (limit.elim problems.length (max · 1)) := by
  cases limit <;> simp [cut]

/-- The statements up to the last failure that is reported, with all that are sound in between. -/
def cutOutcomes (limit : Limit) : List Outcome → List Outcome
  | [] => []
  | .ok decl :: later => .ok decl :: limit.cutOutcomes later
  | .error failure :: later => .error failure :: if limit.isLast then [] else limit.lower.cutOutcomes later

theorem failures_cutOutcomes (limit : Limit) (found : List Outcome) :
    (limit.cutOutcomes found).filterMap Outcome.failure? = limit.cut (found.filterMap Outcome.failure?) := by
  induction found generalizing limit with
  | nil => simp [cutOutcomes]
  | cons outcome later ih =>
    cases outcome with
    | ok decl => exact ih limit
    | error failure =>
      simp only [cutOutcomes, List.filterMap_cons, Outcome.failure?, cut_cons]
      split
      · rfl
      · rw [ih]

theorem cutOutcomes_error (most : Nat) (failure : Failure) (later : List Outcome) :
    cutOutcomes (some most) (.error failure :: later) =
      .error failure :: if most ≤ 1 then [] else cutOutcomes (some (most - 1)) later := by
  simp [cutOutcomes, isLast, lower]

theorem cutOutcomes_mono {most more : Nat} (le : most ≤ more) (found : List Outcome) :
    cutOutcomes (some most) found <+: cutOutcomes (some more) found := by
  induction found generalizing most more with
  | nil => exact List.prefix_rfl
  | cons outcome later ih =>
    cases outcome with
    | ok decl => exact List.cons_prefix_cons.mpr ⟨rfl, ih le⟩
    | error failure =>
      rw [cutOutcomes_error, cutOutcomes_error]
      refine List.cons_prefix_cons.mpr ⟨rfl, ?_⟩
      split
      · exact List.nil_prefix
      · rw [if_neg (by omega)]
        exact ih (by omega)

theorem cutOutcomes_of_few {most : Nat} {found : List Outcome}
    (few : (found.filterMap Outcome.failure?).length < max most 1) : cutOutcomes (some most) found = found := by
  induction found generalizing most with
  | nil => rfl
  | cons outcome later ih =>
    cases outcome with
    | ok decl => exact congrArg _ (ih few)
    | error failure =>
      have fewer : (later.filterMap Outcome.failure?).length + 1 < max most 1 := few
      rw [cutOutcomes_error, if_neg (by omega), ih (by omega)]

theorem cutOutcomes_of_many {most : Nat} {found : List Outcome}
    (many : max most 1 ≤ (found.filterMap Outcome.failure?).length) :
    ∃ before failure behind, found = before ++ .error failure :: behind ∧
      (before.filterMap Outcome.failure?).length + 1 = max most 1 ∧
      cutOutcomes (some most) found = before ++ [.error failure] := by
  -- A failure takes one off the limit, a declaration nothing, so the limit varies along the list.
  induction found generalizing most with
  | nil =>
    have none : max most 1 ≤ 0 := many
    omega
  | cons outcome later ih =>
    cases outcome with
    | ok decl =>
      obtain ⟨before, failure, behind, rfl, count, cut⟩ := ih many
      exact ⟨.ok decl :: before, failure, behind, rfl, count, congrArg _ cut⟩
    | error failure =>
      have here : max most 1 ≤ (later.filterMap Outcome.failure?).length + 1 := many
      rw [cutOutcomes_error]
      by_cases last : most ≤ 1
      · exact ⟨[], failure, later, rfl, by simp [last], by simp [last]⟩
      · obtain ⟨before, final, behind, rfl, count, cut⟩ := @ih (most - 1) (by omega)
        refine ⟨.error failure :: before, final, behind, rfl, ?_, ?_⟩
        · have counted : (before.filterMap Outcome.failure?).length + 1 + 1 = max most 1 := by omega
          exact counted
        · rw [if_neg last, cut, List.cons_append]

theorem cutOutcomes_prefix (most : Nat) (found : List Outcome) : cutOutcomes (some most) found <+: found := by
  rcases Nat.lt_or_ge (found.filterMap Outcome.failure?).length (max most 1) with few | many
  · rw [cutOutcomes_of_few few]
  · obtain ⟨before, failure, behind, rfl, _, cut⟩ := cutOutcomes_of_many many
    exact ⟨behind, by rw [cut, List.append_assoc, List.singleton_append]⟩

end Limit

variable {tokens : List Token} {found : List Outcome}

theorem Run.cutOutcomes (run : Run none tokens found) (limit : Limit) : Run limit tokens (limit.cutOutcomes found) := by
  induction run using Run.unlimited_induction generalizing limit with
  | done => exact .done limit
  | keep ran later ih => exact .keep ran (ih limit)
  | skip unread ran later ih =>
    have behind := ih limit.lower
    rw [Limit.cutOutcomes]
    cases last : limit.isLast with
    | true => exact .halt unread ran last
    | false => exact .skip unread ran last behind

theorem outcomes_limit (limit : Limit) (tokens : List Token) :
    outcomes limit tokens = limit.cutOutcomes (outcomes none tokens) :=
  ((outcomes_run none tokens).cutOutcomes limit).eq_outcomes.symm

theorem parse_errors_limit (limit : Limit) (tokens : List Token) :
    (parse limit tokens).errors = limit.cut (parse none tokens).errors := by
  have failures := limit.failures_cutOutcomes (outcomes none tokens)
  rw [← outcomes_limit] at failures
  simp only [parse, failures, limit.cut_map]

/-- A parse under a limit is the beginning of the parse without one: as many errors as the limit lets through, and the
    declarations in front of the last of them, all of both if there are fewer. So a larger limit only adds to it. -/
theorem parse_limit_prefix (most : Nat) (tokens : List Token) :
    (parse (some most) tokens).errors = (parse none tokens).errors.take (max most 1) ∧
    (parse (some most) tokens).classes <+: (parse none tokens).classes ∧
    (max most 1 ≤ (parse none tokens).errors.length →
      ∃ before failure behind, outcomes none tokens = before ++ .error failure :: behind ∧
        (before.filterMap Outcome.failure?).length + 1 = max most 1 ∧
        (parse (some most) tokens).classes = before.filterMap Outcome.class?) ∧
    ((parse none tokens).errors.length < max most 1 → parse (some most) tokens = parse none tokens) ∧
    ∀ more, most ≤ more →
      (parse (some most) tokens).errors <+: (parse (some more) tokens).errors ∧
      (parse (some most) tokens).classes <+: (parse (some more) tokens).classes := by
  have unlimited : (parse none tokens).errors.length = ((outcomes none tokens).filterMap Outcome.failure?).length :=
    List.length_map ..
  refine ⟨parse_errors_limit (some most) tokens, ?_, ?_, ?_, ?_⟩
  · simp only [parse, outcomes_limit (some most) tokens]
    exact (Limit.cutOutcomes_prefix _ _).filterMap _
  · intro many
    rw [unlimited] at many
    obtain ⟨before, failure, behind, split, count, cut⟩ := Limit.cutOutcomes_of_many many
    refine ⟨before, failure, behind, split, count, ?_⟩
    simp only [parse, outcomes_limit (some most) tokens, cut, List.filterMap_append]
    exact List.append_nil _
  · intro few
    rw [unlimited] at few
    simp only [parse, outcomes_limit (some most) tokens, Limit.cutOutcomes_of_few few]
  · intro more le
    have further := Limit.cutOutcomes_mono le (outcomes none tokens)
    simp only [parse, outcomes_limit (some most) tokens, outcomes_limit (some more) tokens]
    exact ⟨(further.filterMap _).map _, further.filterMap _⟩

def stumblingTokens : List Token :=
  [shelfDecl.define, shelfDecl.name, shelfDecl.define, shelfDecl.define, shelfDecl.name, shelfDecl.define]

theorem parse_limit_prefix_stumbling :
    max 0 1 ≤ (parse none stumblingTokens).errors.length ∧
    (∃ before failure behind, outcomes none stumblingTokens = before ++ .error failure :: behind ∧
      (before.filterMap Outcome.failure?).length + 1 = max 0 1 ∧
      (parse (some 0) stumblingTokens).classes = before.filterMap Outcome.class?) ∧
    (parse none stumblingTokens).errors.length < max 3 1 ∧
    parse (some 3) stumblingTokens = parse none stumblingTokens ∧
    (parse (some 0) stumblingTokens).classes <+: (parse (some 2) stumblingTokens).classes := by
  have errors : (parse none stumblingTokens).errors.length = 2 := by decide +kernel
  obtain ⟨_, _, reached, _, larger⟩ := parse_limit_prefix 0 stumblingTokens
  obtain ⟨_, _, _, unreached, _⟩ := parse_limit_prefix 3 stumblingTokens
  exact ⟨by omega, reached (by omega), by omega, unreached (by omega), (larger 2 (by omega)).2⟩

end ClassScript
