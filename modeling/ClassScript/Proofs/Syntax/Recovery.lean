import ClassScript.Proofs.Syntax.Run

namespace ClassScript

variable {tokens later : List Token}

def Failure.before (later : List Token) (failure : Failure) : Failure := { failure with rest := failure.rest ++ later }

theorem readStatement_append_of_ok {rest : List Token} {decl : ClassDecl} (boundary : AtStatement later)
    (ran : readStatement tokens = .ok (decl, rest)) : readStatement (tokens ++ later) = .ok (decl, rest ++ later) := by
  obtain ⟨used, rfl, _, gives⟩ := (readStatement_reads (ne_nil_of_readStatement ran)).eq_ok ran
  rw [List.append_assoc]
  exact gives _ (boundary.alike_append rest)

theorem readStatement_append_of_error {failure : Failure} (unread : tokens ≠ []) (boundary : AtStatement later)
    (ran : readStatement tokens = .error failure) :
    readStatement (tokens ++ later) = .error (failure.before later) := by
  obtain ⟨used, split, _, gives⟩ := (readStatement_reads unread).eq_error ran
  rw [split, List.append_assoc]
  exact gives _ (boundary.alike_append failure.rest)

theorem AtStatement.resume (boundary : AtStatement later) : resume later = later := by
  cases later with
  | nil => rfl
  | cons token later =>
    have define : token.kind = .keyword .define := boundary token rfl
    simp [ClassScript.resume, define]

theorem resume_append (boundary : AtStatement later) (rest : List Token) :
    resume (rest ++ later) = resume rest ++ later := by
  induction rest with
  | nil => exact boundary.resume
  | cons token rest ih =>
    by_cases define : token.kind = .keyword .define
    · simp [resume, define]
    · simpa [resume, define] using ih

theorem Run.append {found more : List Outcome} (boundary : AtStatement later) (run : Run none tokens found)
    (behind : Run none later more) :
    Run none (tokens ++ later) (found.map (Except.mapError (Failure.before later)) ++ more) := by
  induction run using Run.unlimited_induction with
  | done => exact behind
  | keep ran rest ih => exact .keep (readStatement_append_of_ok boundary ran) ih
  | skip unread ran rest ih =>
    refine .skip (by simp [unread]) (readStatement_append_of_error unread boundary ran) rfl ?_
    rwa [← resume_append boundary] at ih

theorem outcomes_append (boundary : AtStatement later) (tokens : List Token) :
    outcomes none (tokens ++ later) =
      (outcomes none tokens).map (Except.mapError (Failure.before later)) ++ outcomes none later :=
  ((outcomes_run none tokens).append boundary (outcomes_run none later)).eq_outcomes.symm

theorem Outcome.class?_before (later : List Token) (outcome : Outcome) :
    Outcome.class? (outcome.mapError (Failure.before later)) = outcome.class? := by
  cases outcome <;> rfl

theorem Outcome.failure?_before (later : List Token) (outcome : Outcome) :
    Outcome.failure? (outcome.mapError (Failure.before later)) = outcome.failure?.map (Failure.before later) := by
  cases outcome <;> rfl

theorem classes_append (boundary : AtStatement later) (tokens : List Token) :
    (parse none (tokens ++ later)).classes = (parse none tokens).classes ++ (parse none later).classes := by
  simp only [parse, outcomes_append boundary, List.filterMap_append, List.filterMap_map, Function.comp_def,
    Outcome.class?_before]

theorem endPosition_append (token : Token) (tokens later : List Token) :
    endPosition (tokens ++ token :: later) = endPosition (token :: later) := by
  simp [endPosition, List.getLast?_cons]

/-- An error as it is when a token comes next: one at the end of the input finds this token, others stay. -/
def SyntaxError.before (next : Token) (error : SyntaxError) : SyntaxError :=
  match error.found? with
  | none => { error with found? := some next, position := next.position }
  | some _ => error

theorem Failure.report_before (next : Token) (later : List Token) (stop other : Position) (failure : Failure) :
    (failure.before (next :: later)).report stop = (failure.report other).before next := by
  obtain ⟨rule, expected, rest⟩ := failure
  cases rest <;> rfl

/-- What stands before a `define` and what stands from it on are parsed as if each were alone; only an error at the end
    of the first part, which is the last one there, finds the `define` instead of nothing. -/
theorem parse_append_define {define : Token} (boundary : define.kind = .keyword .define) (tokens later : List Token) :
    parse none (tokens ++ define :: later) =
      { classes := (parse none tokens).classes ++ (parse none (define :: later)).classes
        errors := (parse none tokens).errors.map (SyntaxError.before define) ++ (parse none (define :: later)).errors } ∧
    (parse none tokens).errors.Pairwise fun earlier _ => earlier.found? ≠ none := by
  have atDefine : AtStatement (define :: later) := .cons boundary
  refine ⟨?_, ?_⟩
  · rw [← classes_append atDefine]
    simp only [parse]
    congr 1
    simp only [outcomes_append atDefine, endPosition_append, List.filterMap_append, List.filterMap_map,
      Function.comp_def, Outcome.failure?_before, ← List.map_filterMap, List.map_append, List.map_map,
      Failure.report_before define later _ (endPosition tokens)]
  · have last := (outcomes_run none tokens).end_last
    refine List.pairwise_map.mpr (last.imp ?_)
    intro earlier _ more
    simpa [Failure.report] using more

theorem parse_append_define_twice :
    shelfDecl.define.kind = .keyword .define ∧
    parse none ([shelfDecl.define] ++ shelfDecl.define :: [shelfDecl.name]) =
      ⟨[⟨shelfDecl.define, shelfDecl.name, []⟩], [⟨.classDefinition, .identifier, some shelfDecl.define, .start⟩]⟩ :=
  ⟨rfl, (parse_append_define rfl _ _).1.trans (by decide +kernel)⟩

/-- Declarations read off a token list in order: each is well kinded, so it starts with a `define`, its tokens stand
    there side by side, and no token belongs to two of them. -/
inductive Blocks : List ClassDecl → List Token → Prop
  | nil (tokens : List Token) : Blocks [] tokens
  | gap (token : Token) {classes : List ClassDecl} {tokens : List Token} (behind : Blocks classes tokens) :
      Blocks classes (token :: tokens)
  | block {decl : ClassDecl} {classes : List ClassDecl} {tokens : List Token} (kinds : decl.WellKinded)
      (behind : Blocks classes tokens) : Blocks (decl :: classes) (decl.tokens ++ tokens)

theorem Blocks.of_suffix {classes : List ClassDecl} {rest : List Token} (blocks : Blocks classes rest)
    (suffix : rest <:+ tokens) : Blocks classes tokens := by
  obtain ⟨before, rfl⟩ := suffix
  induction before with
  | nil => exact blocks
  | cons token before ih => exact .gap token ih

theorem Run.blocks {limit : Limit} {found : List Outcome} (run : Run limit tokens found) :
    Blocks (found.filterMap Outcome.class?) tokens := by
  induction run with
  | done limit => exact .nil []
  | keep ran rest ih =>
    obtain ⟨rfl, kinds⟩ := readStatement_eq_ok ran
    exact .block kinds ih
  | halt unread ran last => exact .nil _
  | skip unread ran goesOn rest ih =>
    exact ih.of_suffix ((resume_suffix _).trans (readStatement_rest_suffix unread ran))

structure IsStretch (stretch behind : List Token) : Prop where
  starts : nextIs (.keyword .define) stretch = true
  single : ∀ token ∈ stretch.tail, token.kind ≠ .keyword .define
  ends : AtStatement behind

/-- The classes that are kept are blocks of the input, in order; and from every stretch that is a class declaration by
    its kinds this declaration is kept, whatever stands before and behind it. -/
theorem parse_keeps_sound_stretches (tokens : List Token) :
    (∀ limit, Blocks (parse limit tokens).classes tokens) ∧
    ∀ before stretch behind, tokens = before ++ (stretch ++ behind) → IsStretch stretch behind →
      stretch.map Token.kind ∈ Grammar.classDecl.matches' →
      ∃ decl, decl.tokens = stretch ∧ (parse none tokens).classes =
        (parse none before).classes ++ decl :: (parse none behind).classes := by
  refine ⟨fun limit => (outcomes_run limit tokens).blocks, ?_⟩
  rintro before stretch behind rfl cut kinds
  obtain ⟨decl, declKinds, rfl⟩ := (Grammar.classDecl_describes stretch).mp kinds
  have alone : (parse none decl.tokens).classes = [decl] := by
    rw [parse_eq_iff_derives.mpr (Derives.mk (by simpa using declKinds) (by simp) : Derives [decl] decl.tokens)]
  have atStretch : AtStatement (decl.tokens ++ behind) := .cons declKinds.1
  refine ⟨decl, rfl, ?_⟩
  rw [classes_append atStretch, classes_append cut.ends, alone, List.singleton_append]

theorem parse_keeps_sound_stretches_shelf :
    IsStretch shelfDecl.tokens [shelfDecl.define] ∧ shelfDecl.tokens.map Token.kind ∈ Grammar.classDecl.matches' ∧
    ∃ decl, decl.tokens = shelfDecl.tokens ∧
      (parse none ([shelfDecl.define, shelfDecl.define] ++ (shelfDecl.tokens ++ [shelfDecl.define]))).classes =
        (parse none [shelfDecl.define, shelfDecl.define]).classes ++ decl :: (parse none [shelfDecl.define]).classes := by
  have cut : IsStretch shelfDecl.tokens [shelfDecl.define] := ⟨by decide, by decide, .cons rfl⟩
  have kinds : shelfDecl.tokens.map Token.kind ∈ Grammar.classDecl.matches' :=
    (Grammar.classDecl_describes _).mpr ⟨shelfDecl, by decide, rfl⟩
  exact ⟨cut, kinds, (parse_keeps_sound_stretches _).2 _ _ _ rfl cut kinds⟩

end ClassScript
