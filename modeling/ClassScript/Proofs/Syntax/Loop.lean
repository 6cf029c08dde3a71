import ClassScript.Proofs.Syntax.Ascending

namespace ClassScript

variable {limit : Limit} {tokens : List Token}

namespace Limit

def reached (limit : Limit) (count : Nat) : Bool := limit.any fun most => max most 1 ≤ count

def past (limit : Limit) (count : Nat) : Limit := limit.map (· - count)

@[simp] theorem past_zero (limit : Limit) : limit.past 0 = limit := by cases limit <;> rfl

theorem lower_past (limit : Limit) (count : Nat) : (limit.past count).lower = limit.past (count + 1) := by
  cases limit <;> rfl

theorem isLast_past (limit : Limit) (count : Nat) : (limit.past count).isLast = limit.reached (count + 1) := by
  cases limit with
  | none => rfl
  | some most =>
    have same : most - count ≤ 1 ↔ max most 1 ≤ count + 1 := by omega
    simp [past, isLast, reached, same]

end Limit

def nextDefine (tokens : List Token) (cursor : Nat) : Nat :=
  cursor + (tokens.drop cursor).findIdx fun token => token.kind == .keyword .define

theorem drop_nextDefine (tokens : List Token) (cursor : Nat) :
    tokens.drop (nextDefine tokens cursor) = resume (tokens.drop cursor) := by
  simp only [resume, List.dropWhile_eq_drop_findIdx_not, List.drop_drop, nextDefine, bne, Bool.not_not]

theorem nextDefine_le_length {cursor : Nat} (inBounds : cursor ≤ tokens.length) :
    nextDefine tokens cursor ≤ tokens.length := by
  have within : (tokens.drop cursor).findIdx (fun token => token.kind == .keyword .define) ≤
      (tokens.drop cursor).length := List.findIdx_le_length
  rw [List.length_drop] at within
  rw [nextDefine]
  omega

/-- The cursor behind a statement that began at `start` and failed at `stop`. A statement that has used up no token
    costs one. -/
def recover (tokens : List Token) (start stop : Nat) : Nat :=
  nextDefine tokens (if stop = start then stop + 1 else stop)

theorem lt_recover {start stop : Nat} (le : start ≤ stop) : start < recover tokens start stop := by
  unfold recover nextDefine
  split <;> omega

theorem recover_le_length {start stop : Nat} (begun : start < tokens.length) (inBounds : stop ≤ tokens.length) :
    recover tokens start stop ≤ tokens.length := by
  refine nextDefine_le_length ?_
  split <;> omega

theorem drop_recover {start stop : Nat}
    (unused : stop = start → nextIs (.keyword .define) (tokens.drop start) = false) :
    tokens.drop (recover tokens start stop) = resume (tokens.drop stop) := by
  rw [recover, drop_nextDefine]
  split
  · -- The token that is dropped is no `define`, so `resume` passes over it as well.
    rename_i same
    have stops := unused same
    rw [same, ← List.drop_drop]
    cases here : tokens.drop start with
    | nil => rfl
    | cons token rest =>
      rw [here] at stops
      have other : token.kind ≠ .keyword .define := by simpa using stops
      simp [resume, other]
  · rfl

theorem index_behind {cursor : Nat} {used rest : List Token} (inBounds : cursor ≤ tokens.length)
    (split : tokens.drop cursor = used ++ rest) :
    tokens.length - rest.length = cursor + used.length ∧ tokens.drop (cursor + used.length) = rest := by
  have lengths := congrArg List.length split
  rw [List.length_drop, List.length_append] at lengths
  refine ⟨by omega, ?_⟩
  rw [← List.drop_drop, split, List.drop_left]

theorem not_define_of_unused {failure : Failure} (ran : readStatement tokens = .error failure)
    (unused : failure.rest = tokens) : nextIs (.keyword .define) tokens = false := by
  cases starts : nextIs (.keyword .define) tokens with
  | false => rfl
  | true =>
    have shorter := rest_length_lt_of_define starts ran
    rw [unused] at shorter
    exact absurd shorter (Nat.lt_irrefl _)

theorem recover_of_failed {cursor : Nat} {failure : Failure} (inside : cursor < tokens.length)
    (ran : readStatement (tokens.drop cursor) = .error failure) :
    cursor < recover tokens cursor (failure.index tokens) ∧
    recover tokens cursor (failure.index tokens) ≤ tokens.length ∧
    tokens.drop (recover tokens cursor (failure.index tokens)) = resume failure.rest := by
  have unread : tokens.drop cursor ≠ [] := by simpa using inside
  obtain ⟨used, split⟩ := readStatement_rest_suffix unread ran
  obtain ⟨index, behind⟩ := index_behind inside.le split.symm
  have stop : failure.index tokens = cursor + used.length := index
  have unused : failure.index tokens = cursor → nextIs (.keyword .define) (tokens.drop cursor) = false := by
    intro same
    have nothing : used = [] := List.length_eq_zero_iff.mp (by omega)
    exact not_define_of_unused ran (by rw [← split, nothing, List.nil_append])
  refine ⟨lt_recover (by omega), recover_le_length inside (Nat.sub_le ..), ?_⟩
  rw [drop_recover unused, stop, behind]

theorem define_or_end_of_drop {cursor : Nat} {rest : List Token} (inBounds : cursor ≤ tokens.length)
    (behind : tokens.drop cursor = resume rest) :
    cursor = tokens.length ∨ ∃ token, tokens[cursor]? = some token ∧ token.kind = .keyword .define := by
  rcases Nat.eq_or_lt_of_le inBounds with ended | inside
  · exact Or.inl ended
  · have here : tokens[cursor]? = some tokens[cursor] := List.getElem?_eq_getElem inside
    have head : (resume rest).head? = some tokens[cursor] := by rw [← behind, List.head?_drop, here]
    exact Or.inr ⟨tokens[cursor], here, resume_atStatement rest _ head⟩

/-- The loop between two turns: the index of the next token, what the statements so far came to, and whether the last
    error to be reported was among them. -/
structure Loop where
  cursor : Nat
  found : List Outcome
  halted : Bool

namespace Loop

def start : Loop := ⟨0, [], false⟩

def failures (loop : Loop) : List Failure := loop.found.filterMap Outcome.failure?

def goesOn (tokens : List Token) (loop : Loop) : Bool := !loop.halted && loop.cursor < tokens.length

def turn (limit : Limit) (tokens : List Token) (loop : Loop) : Loop :=
  match readStatement (tokens.drop loop.cursor) with
  | .ok (decl, rest) => { loop with cursor := tokens.length - rest.length, found := loop.found ++ [.ok decl] }
  | .error failure =>
    if limit.reached (loop.failures.length + 1) then ⟨failure.index tokens, loop.found ++ [.error failure], true⟩
    else ⟨recover tokens loop.cursor (failure.index tokens), loop.found ++ [.error failure], false⟩

def after (limit : Limit) (tokens : List Token) : Nat → Loop
  | 0 => start
  | turns + 1 =>
    let loop := after limit tokens turns
    if loop.goesOn tokens then loop.turn limit tokens else loop

/-- What a turn does. A declaration is passed with all of its tokens, two or more. Behind a failure the loop is left, or
    the cursor ends further on than the statement began, at a `define` or at the end. -/
inductive Advances (limit : Limit) (tokens : List Token) (loop : Loop) : Loop → Prop
  | keep {decl : ClassDecl} {cursor : Nat}
      (ran : readStatement (tokens.drop loop.cursor) = .ok (decl, tokens.drop cursor))
      (used : cursor = loop.cursor + decl.tokens.length) (two : 2 ≤ decl.tokens.length)
      (inBounds : cursor ≤ tokens.length) : Advances limit tokens loop ⟨cursor, loop.found ++ [.ok decl], false⟩
  | halt {failure : Failure} (ran : readStatement (tokens.drop loop.cursor) = .error failure)
      (last : limit.reached (loop.failures.length + 1) = true) :
      Advances limit tokens loop ⟨failure.index tokens, loop.found ++ [.error failure], true⟩
  | skip {failure : Failure} {cursor : Nat} (ran : readStatement (tokens.drop loop.cursor) = .error failure)
      (more : limit.reached (loop.failures.length + 1) = false) (further : loop.cursor < cursor)
      (inBounds : cursor ≤ tokens.length) (behind : tokens.drop cursor = resume failure.rest)
      (stands : cursor = tokens.length ∨ ∃ token, tokens[cursor]? = some token ∧ token.kind = .keyword .define) :
      Advances limit tokens loop ⟨cursor, loop.found ++ [.error failure], false⟩

variable {loop next : Loop}

theorem goesOn_iff : loop.goesOn tokens = true ↔ loop.halted = false ∧ loop.cursor < tokens.length := by
  simp [goesOn]

theorem drop_ne_nil (goesOn : loop.goesOn tokens = true) : tokens.drop loop.cursor ≠ [] := by
  simpa using (goesOn_iff.mp goesOn).2

theorem turn_advances (goesOn : loop.goesOn tokens = true) : Advances limit tokens loop (loop.turn limit tokens) := by
  obtain ⟨running, inside⟩ := goesOn_iff.mp goesOn
  unfold turn
  cases ran : readStatement (tokens.drop loop.cursor) with
  | ok result =>
    obtain ⟨decl, rest⟩ := result
    obtain ⟨split, _⟩ := readStatement_eq_ok ran
    obtain ⟨index, behind⟩ := index_behind inside.le split
    have two : 2 ≤ decl.tokens.length := by simp [ClassDecl.tokens]
    simp only [index, running]
    refine .keep ?_ rfl two (by omega)
    rw [behind, ran]
  | error failure =>
    obtain ⟨further, within, behind⟩ := recover_of_failed inside ran
    cases last : limit.reached (loop.failures.length + 1) with
    | true => exact .halt ran last
    | false => exact .skip ran last further within behind (define_or_end_of_drop within behind)

namespace Advances

theorem inBounds (advances : Advances limit tokens loop next) : next.cursor ≤ tokens.length := by
  cases advances with
  | keep ran used two inBounds => exact inBounds
  | halt ran last => exact Nat.sub_le ..
  | skip ran more further inBounds behind stands => exact inBounds

theorem further (advances : Advances limit tokens loop next) (running : next.halted = false) :
    loop.cursor < next.cursor := by
  cases advances with
  | keep ran used two inBounds =>
    simp only [used]
    omega
  | halt ran last => cases running
  | skip ran more further inBounds behind stands => exact further

theorem length_found (advances : Advances limit tokens loop next) : next.found.length = loop.found.length + 1 := by
  cases advances <;> simp

end Advances

theorem failures_append_ok (cursor : Nat) (found : List Outcome) (decl : ClassDecl) (halted : Bool) :
    failures ⟨cursor, found ++ [.ok decl], halted⟩ = found.filterMap Outcome.failure? := by
  rw [failures, List.filterMap_append]
  exact List.append_nil _

theorem failures_append_error (cursor : Nat) (found : List Outcome) (failure : Failure) (halted : Bool) :
    failures ⟨cursor, found ++ [.error failure], halted⟩ = found.filterMap Outcome.failure? ++ [failure] := by
  rw [failures, List.filterMap_append]
  rfl

def todo (limit : Limit) (tokens : List Token) (loop : Loop) : List Outcome :=
  if loop.halted then [] else outcomes (limit.past loop.failures.length) (tokens.drop loop.cursor)

theorem todo_of_running (running : loop.halted = false) :
    loop.todo limit tokens = outcomes (limit.past loop.failures.length) (tokens.drop loop.cursor) := by
  simp [todo, running]

theorem todo_of_halted (halted : loop.halted = true) : loop.todo limit tokens = [] := by
  simp [todo, halted]

theorem Advances.found_append_todo (advances : Advances limit tokens loop next) (goesOn : loop.goesOn tokens = true) :
    next.found ++ next.todo limit tokens = loop.found ++ loop.todo limit tokens := by
  have unread := drop_ne_nil goesOn
  rw [todo_of_running (goesOn_iff.mp goesOn).1]
  cases advances with
  | keep ran used two inBounds =>
    rw [todo_of_running rfl, failures_append_ok, outcomes_of_ok unread (nextOutcome_of_ok ran), List.append_assoc]
    rfl
  | halt ran last =>
    rw [todo_of_halted rfl, outcomes_of_error unread (nextOutcome_of_error ran), Limit.isLast_past, last,
      List.append_nil]
    rfl
  | skip ran more further inBounds behind stands =>
    rw [todo_of_running rfl, failures_append_error, behind, outcomes_of_error unread (nextOutcome_of_error ran),
      Limit.isLast_past, more, Limit.lower_past, List.length_append, List.append_assoc]
    rfl

theorem after_induction {Holds : Loop → Prop} (first : Holds start)
    (step : ∀ loop next, loop.goesOn tokens = true → Advances limit tokens loop next → Holds loop → Holds next)
    (turns : Nat) : Holds (after limit tokens turns) := by
  induction turns with
  | zero => exact first
  | succ turns ih =>
    rw [after]
    split
    · rename_i goesOn
      exact step _ _ goesOn (turn_advances goesOn) ih
    · exact ih

theorem after_advances {turns : Nat} (goesOn : (after limit tokens turns).goesOn tokens = true) :
    Advances limit tokens (after limit tokens turns) (after limit tokens (turns + 1)) := by
  rw [after, if_pos goesOn]
  exact turn_advances goesOn

theorem cursor_le_length (limit : Limit) (tokens : List Token) (turns : Nat) :
    (after limit tokens turns).cursor ≤ tokens.length :=
  after_induction (Nat.zero_le _) (fun _ _ _ advances _ => advances.inBounds) turns

theorem found_append_todo (limit : Limit) (tokens : List Token) (turns : Nat) :
    (after limit tokens turns).found ++ (after limit tokens turns).todo limit tokens = outcomes limit tokens := by
  refine after_induction ?_ (fun _ _ goesOn advances held => (advances.found_append_todo goesOn).trans held) turns
  simp [start, todo, failures]

theorem found_of_ended {turns : Nat} (ended : (after limit tokens turns).goesOn tokens = false) :
    (after limit tokens turns).found = outcomes limit tokens := by
  have nothing : (after limit tokens turns).todo limit tokens = [] := by
    cases halted : (after limit tokens turns).halted with
    | true => exact todo_of_halted halted
    | false =>
      have passed : tokens.length ≤ (after limit tokens turns).cursor := by simpa [goesOn, halted] using ended
      rw [todo_of_running halted, List.drop_of_length_le passed, outcomes_nil]
  rw [← found_append_todo limit tokens turns, nothing, List.append_nil]

theorem length_found {turns : Nat} (goesOn : ∀ earlier < turns, (after limit tokens earlier).goesOn tokens = true) :
    (after limit tokens turns).found.length = turns := by
  induction turns with
  | zero => rfl
  | succ turns ih =>
    have before := ih fun earlier less => goesOn earlier (by omega)
    rw [(after_advances (goesOn turns (by omega))).length_found, before]

/-- There is a token for everything found, and as long as the loop runs one that the cursor has passed. -/
structure Covered (tokens : List Token) (loop : Loop) : Prop where
  total : loop.found.length ≤ tokens.length
  passed : loop.halted = false → loop.found.length ≤ loop.cursor

theorem Covered.advance (covered : Covered tokens loop) (goesOn : loop.goesOn tokens = true)
    (advances : Advances limit tokens loop next) : Covered tokens next := by
  obtain ⟨running, inside⟩ := goesOn_iff.mp goesOn
  have before := covered.passed running
  have more := advances.length_found
  refine ⟨by omega, ?_⟩
  intro runsOn
  have further := advances.further runsOn
  omega

theorem after_covered (limit : Limit) (tokens : List Token) (turns : Nat) : Covered tokens (after limit tokens turns) :=
  after_induction ⟨Nat.zero_le _, fun _ => Nat.le_refl 0⟩
    (fun _ _ goesOn advances covered => covered.advance goesOn advances) turns

theorem exists_ended (limit : Limit) (tokens : List Token) : ∃ turns,
    (∀ earlier < turns, (after limit tokens earlier).goesOn tokens = true) ∧
    (after limit tokens turns).goesOn tokens = false := by
  have ends : ∃ turns, (after limit tokens turns).goesOn tokens = false := by
    by_contra endless
    have goesOn : ∀ turns, (after limit tokens turns).goesOn tokens = true := by simpa using endless
    have count : (after limit tokens (tokens.length + 1)).found.length = tokens.length + 1 :=
      length_found fun earlier _ => goesOn earlier
    have bound := (after_covered limit tokens (tokens.length + 1)).total
    omega
  refine ⟨Nat.find ends, ?_, Nat.find_spec ends⟩
  intro earlier less
  simpa using Nat.find_min ends less

end Loop

theorem length_classes_add_failures (found : List Outcome) :
    (found.filterMap Outcome.class?).length + (found.filterMap Outcome.failure?).length = found.length := by
  induction found with
  | nil => rfl
  | cons outcome later ih =>
    cases outcome <;> simp only [List.filterMap_cons, Outcome.class?, Outcome.failure?, List.length_cons] <;> omega

/-- The cursor never leaves the tokens, and each turn that does not leave the loop moves it on: over the tokens of a
    declaration, two or more, or behind a failure to a `define` or to the end. So the loop ends with what `parse` finds,
    after as many turns as there are declarations and errors, and there is a token for each of them. -/
theorem loop_makes_progress (limit : Limit) (tokens : List Token) :
    (∀ turns, (Loop.after limit tokens turns).cursor ≤ tokens.length) ∧
    (∀ turns, (Loop.after limit tokens turns).goesOn tokens = true →
      Loop.Advances limit tokens (Loop.after limit tokens turns) (Loop.after limit tokens (turns + 1)) ∧
      ((Loop.after limit tokens (turns + 1)).halted = false →
        (Loop.after limit tokens turns).cursor < (Loop.after limit tokens (turns + 1)).cursor)) ∧
    ∃ turns ≤ tokens.length,
      (∀ earlier < turns, (Loop.after limit tokens earlier).goesOn tokens = true) ∧
      (Loop.after limit tokens turns).goesOn tokens = false ∧
      (Loop.after limit tokens turns).found = outcomes limit tokens ∧
      (parse limit tokens).classes.length + (parse limit tokens).errors.length = turns := by
  refine ⟨Loop.cursor_le_length limit tokens, ?_, ?_⟩
  · intro turns goesOn
    have advances := Loop.after_advances goesOn
    exact ⟨advances, advances.further⟩
  · obtain ⟨turns, goesOn, ended⟩ := Loop.exists_ended limit tokens
    have count := Loop.length_found goesOn
    have found := Loop.found_of_ended ended
    have bound := (Loop.after_covered limit tokens turns).total
    refine ⟨turns, by omega, goesOn, ended, found, ?_⟩
    rw [parse, List.length_map, length_classes_add_failures, ← found, count]

/-- The third turn meets a token with which no statement begins, uses nothing up and drops it. -/
theorem loop_makes_progress_strewn :
    (Loop.after none strewnTokens 2).goesOn strewnTokens = true ∧
    Loop.Advances none strewnTokens (Loop.after none strewnTokens 2) (Loop.after none strewnTokens 3) ∧
    (Loop.after none strewnTokens 3).halted = false ∧
    (Loop.after none strewnTokens 2).cursor < (Loop.after none strewnTokens 3).cursor := by
  have goesOn : (Loop.after none strewnTokens 2).goesOn strewnTokens = true := by decide +kernel
  have running : (Loop.after none strewnTokens 3).halted = false := by decide +kernel
  obtain ⟨advances, further⟩ := (loop_makes_progress none strewnTokens).2.1 2 goesOn
  exact ⟨goesOn, advances, running, further running⟩

example : (List.range 6).map (fun turns => (Loop.after none strewnTokens turns).cursor) = [0, 1, 3, 4, 5, 5] := by
  decide +kernel

end ClassScript
