import ClassScript.Proofs.Syntax.Causes
import ClassScript.Proofs.Syntax.Viable

namespace ClassScript

variable {tokens : List Token}

def defineCount (tokens : List Token) : Nat := tokens.countP fun token => token.kind == .keyword .define

def DefineFree (tokens : List Token) : Prop := ∀ token ∈ tokens, token.kind ≠ .keyword .define

@[simp] theorem defineCount_append (left right : List Token) :
    defineCount (left ++ right) = defineCount left + defineCount right := List.countP_append

theorem DefineFree.count (free : DefineFree tokens) : defineCount tokens = 0 := by
  refine List.countP_eq_zero.mpr ?_
  intro token member
  simpa using free token member

theorem DefineFree.count_cons {define : Token} (starts : define.kind = .keyword .define) (free : DefineFree tokens) :
    defineCount (define :: tokens) = 1 := by
  have behind : tokens.countP (fun token => token.kind == .keyword .define) = 0 := free.count
  simp [defineCount, starts, behind]

theorem DefineFree.append {left right : List Token} (leftFree : DefineFree left) (rightFree : DefineFree right) :
    DefineFree (left ++ right) := by
  intro token member
  rcases List.mem_append.mp member with member | member
  · exact leftFree token member
  · exact rightFree token member

theorem DefaultClause.WellKinded.defineFree {clause : DefaultClause} (kinds : clause.WellKinded) :
    DefineFree clause.tokens := by
  obtain ⟨has, default, literal⟩ := kinds
  simp [DefineFree, DefaultClause.tokens, has, default, literal]

theorem FieldDecl.WellKinded.defineFree {decl : FieldDecl} (kinds : decl.WellKinded) : DefineFree decl.tokens := by
  obtain ⟨owner, has, field, name, clause⟩ := kinds
  have head : DefineFree [decl.owner, decl.has, decl.field, decl.name] := by
    simp [DefineFree, owner, has, field, name]
  refine head.append ?_
  cases given : decl.default? with
  | none => nofun
  | some default => exact (clause default given).defineFree

theorem ClassDecl.WellKinded.defineFree {decl : ClassDecl} (kinds : decl.WellKinded) :
    DefineFree (decl.name :: decl.fields.flatMap FieldDecl.tokens) := by
  obtain ⟨_, name, fields⟩ := kinds
  intro token member
  rcases List.mem_cons.mp member with rfl | member
  · simp [name]
  · obtain ⟨field, inFields, inField⟩ := List.mem_flatMap.mp member
    exact (fields field inFields).defineFree token inField

theorem ClassDecl.WellKinded.defineCount {decl : ClassDecl} (kinds : decl.WellKinded) :
    defineCount decl.tokens = 1 :=
  kinds.defineFree.count_cons kinds.1

theorem Grammar.define_first {word : List Kind} (member : word ∈ Grammar.classDecl.matches') :
    ∃ inner, word = .keyword .define :: inner ∧ .keyword .define ∉ inner := by
  rw [← map_kind_sample word] at member
  obtain ⟨decl, kinds, same⟩ := (Grammar.classDecl_describes _).mp member
  have spelled : decl.tokens.map Token.kind = word := by rw [same, map_kind_sample]
  rw [ClassDecl.tokens, List.map_cons, kinds.1] at spelled
  refine ⟨_, spelled.symm, ?_⟩
  intro inside
  obtain ⟨token, inDecl, define⟩ := List.mem_map.mp inside
  exact kinds.defineFree token inDecl define

theorem defineFree_of_failed {failure : Failure} (starts : nextIs (.keyword .define) tokens = true)
    (ran : readStatement tokens = .error failure) :
    ∃ define used, define :: used ++ failure.rest = tokens ∧ define.kind = .keyword .define ∧ DefineFree used := by
  have unread : tokens ≠ [] := by
    rintro rfl
    cases starts
  obtain ⟨used, split, ⟨later, begun⟩, _⟩ := (readStatement_reads unread).eq_error ran
  obtain ⟨inner, whole, free⟩ := Grammar.define_first begun
  cases used with
  | nil =>
    obtain ⟨_, other⟩ := readStatement_failsFor starts failure ran
    obtain ⟨expected, _⟩ := List.cons.inj whole
    rw [List.nil_append] at split
    rw [expected, ← split, starts] at other
    cases other
  | cons define used =>
    obtain ⟨head, rest⟩ := List.cons.inj whole
    refine ⟨define, used, split.symm, head, ?_⟩
    intro token member same
    have inside : token.kind ∈ inner := by
      rw [← rest]
      exact List.mem_append_left _ (List.mem_map_of_mem member)
    rw [same] at inside
    exact free inside

theorem resume_split (tokens : List Token) : ∃ passed, passed ++ resume tokens = tokens ∧ DefineFree passed := by
  refine ⟨tokens.takeWhile fun token => token.kind != .keyword .define, List.takeWhile_append_dropWhile, ?_⟩
  intro token member
  simpa using List.all_eq_true.mp List.all_takeWhile token member

theorem resume_atStatement (tokens : List Token) : AtStatement (resume tokens) := by
  intro token member
  have stops := List.head?_dropWhile_not (fun token : Token => token.kind != .keyword .define) tokens
  rw [← resume, member] at stops
  simpa using stops

theorem rule_ne_statement {failure : Failure} (starts : nextIs (.keyword .define) tokens = true)
    (ran : readStatement tokens = .error failure) : failure.rule ≠ .statement := by
  obtain ⟨listed, _⟩ := readStatement_failsFor starts failure ran
  intro same
  rw [same] at listed
  simp [ClassDecl.causes, FieldDecl.causes, DefaultClause.causes] at listed

theorem rest_of_statement {failure : Failure} (unread : tokens ≠ []) (ran : readStatement tokens = .error failure)
    (rule : failure.rule = .statement) :
    ∃ token rest, failure.rest = token :: rest ∧ token.kind ≠ .keyword .define ∧ failure.rest = tokens := by
  cases next : nextIs (.keyword .define) tokens with
  | true => exact absurd rule (rule_ne_statement next ran)
  | false =>
    cases (readStatement_of_not_next next).symm.trans ran
    cases tokens with
    | nil => exact absurd rfl unread
    | cons token rest => exact ⟨token, rest, rfl, by simpa using next, rfl⟩

theorem defineCount_of_error {failure : Failure} (ran : readStatement tokens = .error failure) :
    defineCount tokens = (if failure.rule = .statement then 0 else 1) + defineCount (resume failure.rest) := by
  obtain ⟨passed, split, passedFree⟩ := resume_split failure.rest
  cases next : nextIs (.keyword .define) tokens with
  | true =>
    obtain ⟨define, used, whole, starts, usedFree⟩ := defineFree_of_failed next ran
    have parts : define :: (used ++ passed) ++ resume failure.rest = tokens := by
      rw [List.cons_append, List.append_assoc, split]
      exact whole
    rw [← parts, defineCount_append, (usedFree.append passedFree).count_cons starts,
      if_neg (rule_ne_statement next ran)]
  | false =>
    cases (readStatement_of_not_next next).symm.trans ran
    have counted := congrArg defineCount split
    rw [defineCount_append, passedFree.count] at counted
    simpa using counted.symm

namespace Run

variable {found : List Outcome}

theorem defineCount_eq (run : Run none tokens found) :
    defineCount tokens = (found.filterMap Outcome.class?).length +
      (found.filterMap Outcome.failure?).countP fun failure => failure.rule ≠ .statement := by
  induction run using Run.unlimited_induction with
  | done => rfl
  | keep ran later ih =>
    obtain ⟨rfl, kinds⟩ := readStatement_eq_ok ran
    rw [defineCount_append, kinds.defineCount, ih]
    simp only [List.filterMap_cons, Outcome.class?, Outcome.failure?, List.length_cons]
    omega
  | skip unread ran later ih =>
    rw [defineCount_of_error ran, ih]
    simp only [List.filterMap_cons, Outcome.class?, Outcome.failure?, List.countP_cons]
    split
    · simp only [*, ne_eq, not_true_eq_false, decide_false, Bool.false_eq_true, if_false]
      omega
    · simp only [*, ne_eq, not_false_eq_true, decide_true, if_true]
      omega

theorem before_statement {before behind : List Outcome} {failure : Failure} (run : Run none tokens found)
    (split : found = before ++ .error failure :: behind) (rule : failure.rule = .statement) :
    ∃ token rest, failure.rest = token :: rest ∧ token.kind ≠ .keyword .define ∧
      (before = [] ∧ tokens = failure.rest ∨
        ∃ earlier decl left, before = earlier ++ [.ok decl] ∧ tokens = left ++ (decl.tokens ++ failure.rest)) := by
  induction run using Run.unlimited_induction generalizing before with
  | done => cases before <;> cases split
  | @keep tokens rest decl found ran later ih =>
    obtain ⟨rfl, kinds⟩ := readStatement_eq_ok ran
    cases before with
    | nil => cases split
    | cons outcome before =>
      obtain ⟨rfl, behindDecl⟩ := List.cons.inj split
      obtain ⟨token, after, here, other, place⟩ := ih behindDecl
      refine ⟨token, after, here, other, Or.inr ?_⟩
      rcases place with ⟨rfl, rfl⟩ | ⟨earlier, last, left, rfl, rfl⟩
      · exact ⟨[], decl, [], rfl, rfl⟩
      · exact ⟨.ok decl :: earlier, last, decl.tokens ++ left, rfl, (List.append_assoc ..).symm⟩
  | @skip tokens cause found unread ran later ih =>
    cases before with
    | nil =>
      cases split
      obtain ⟨token, after, here, other, whole⟩ := rest_of_statement unread ran rule
      exact ⟨token, after, here, other, Or.inl ⟨rfl, whole.symm⟩⟩
    | cons outcome before =>
      obtain ⟨rfl, behindCause⟩ := List.cons.inj split
      obtain ⟨token, after, here, other, place⟩ := ih behindCause
      refine ⟨token, after, here, other, Or.inr ?_⟩
      rcases place with ⟨rfl, same⟩ | ⟨earlier, last, left, rfl, same⟩
      · -- Behind an error reading goes on at a `define`, so it cannot meet another token there.
        exact absurd (resume_atStatement cause.rest token (by rw [same, here]; rfl)) other
      · obtain ⟨used, whole⟩ := (resume_suffix cause.rest).trans (readStatement_rest_suffix unread ran)
        refine ⟨.error cause :: earlier, last, used ++ left, rfl, ?_⟩
        rw [← whole, same, List.append_assoc]

theorem statement_count_le (run : Run none tokens found) :
    (found.filterMap Outcome.failure?).countP (fun failure => failure.rule = .statement) ≤
      (found.filterMap Outcome.class?).length + 1 ∧
    (AtStatement tokens → (found.filterMap Outcome.failure?).countP (fun failure => failure.rule = .statement) ≤
      (found.filterMap Outcome.class?).length) := by
  -- Behind a kept declaration the next statement may begin anywhere, behind an error only at a `define`.
  induction run using Run.unlimited_induction with
  | done => simp
  | keep ran later ih =>
    obtain ⟨bound, _⟩ := ih
    simp only [List.filterMap_cons, Outcome.class?, Outcome.failure?, List.length_cons]
    omega
  | @skip tokens failure found unread ran later ih =>
    have behind := ih.2 (resume_atStatement failure.rest)
    simp only [List.filterMap_cons, Outcome.class?, Outcome.failure?, List.countP_cons]
    refine ⟨by split <;> omega, ?_⟩
    intro boundary
    obtain ⟨token, rest, rfl⟩ := List.exists_cons_of_ne_nil unread
    have starts : nextIs (.keyword .define) (token :: rest) = true := by simpa using boundary token rfl
    simpa [rule_ne_statement starts ran] using behind

end Run

/-- Each `define` is the head of a declaration that is kept or costs one error inside of a class declaration. The other
    errors are at tokens where no statement can begin: at the head of the input, or right behind the tokens of a
    declaration that was kept just before, each behind one of its own. -/
theorem defines_accounted (tokens : List Token) :
    defineCount tokens = (parse none tokens).classes.length +
      (parse none tokens).errors.countP (fun error => error.rule ≠ .statement) ∧
    (∀ before failure behind, outcomes none tokens = before ++ .error failure :: behind → failure.rule = .statement →
      ∃ token rest, failure.rest = token :: rest ∧
        (failure.report (endPosition tokens)).found? = some token ∧ token.kind ≠ .keyword .define ∧
        (before = [] ∧ tokens = token :: rest ∨
          ∃ earlier decl left, before = earlier ++ [.ok decl] ∧ tokens = left ++ (decl.tokens ++ token :: rest))) ∧
    (parse none tokens).errors.length ≤ defineCount tokens + 1 := by
  have run := outcomes_run none tokens
  have balance := run.defineCount_eq
  have errors : (parse none tokens).errors.countP (fun error => error.rule ≠ .statement) =
      ((outcomes none tokens).filterMap Outcome.failure?).countP fun failure => failure.rule ≠ .statement :=
    List.countP_map
  refine ⟨by rw [balance, errors, parse], ?_, ?_⟩
  · intro before failure behind split rule
    obtain ⟨token, rest, here, other, place⟩ := run.before_statement split rule
    rw [here] at place
    exact ⟨token, rest, here, by rw [Failure.report, here]; rfl, other, place⟩
  · have bound := run.statement_count_le.1
    have sorts : ((outcomes none tokens).filterMap Outcome.failure?).length =
        ((outcomes none tokens).filterMap Outcome.failure?).countP (fun failure => failure.rule = .statement) +
        ((outcomes none tokens).filterMap Outcome.failure?).countP (fun failure => failure.rule ≠ .statement) := by
      rw [List.length_eq_countP_add_countP fun failure => decide (failure.rule = .statement)]
      simp
    rw [parse, List.length_map]
    omega

def fieldToken : Token := ⟨.keyword .field, "field", .start⟩

def strewnTokens : List Token := [shelfDecl.name, shelfDecl.define, shelfDecl.name, fieldToken, shelfDecl.define]

def strewnOutcomes : List Outcome :=
  [.error ⟨.statement, .keyword .define, strewnTokens⟩, .ok ⟨shelfDecl.define, shelfDecl.name, []⟩]

theorem defines_accounted_strewn :
    outcomes none strewnTokens = strewnOutcomes ++
      .error ⟨.statement, .keyword .define, [fieldToken, shelfDecl.define]⟩ ::
      [.error ⟨.classDefinition, .identifier, []⟩] ∧
    ∃ earlier decl left, strewnOutcomes = earlier ++ [.ok decl] ∧
      strewnTokens = left ++ (decl.tokens ++ [fieldToken, shelfDecl.define]) := by
  have split : outcomes none strewnTokens = strewnOutcomes ++
      .error ⟨.statement, .keyword .define, [fieldToken, shelfDecl.define]⟩ ::
      [.error ⟨.classDefinition, .identifier, []⟩] := by decide +kernel
  obtain ⟨_, _, here, _, _, place⟩ := (defines_accounted strewnTokens).2.1 _ _ _ split rfl
  cases here
  exact ⟨split, place.resolve_left (by simp [strewnOutcomes])⟩

end ClassScript
