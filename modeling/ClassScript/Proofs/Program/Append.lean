import ClassScript.Proofs.Program.Verdict
import ClassScript.Proofs.Syntax.Recovery
import ClassScript.Proofs.Syntax.Relabel
import ClassScript.Proofs.Token.Line

namespace ClassScript

variable {text : String} {tokens later : List Token}

def SyntaxError.below (text : String) (error : SyntaxError) : SyntaxError where
  rule := error.rule
  expected := error.expected
  found? := error.found?.map (Token.below text)
  position := error.position.below text

def Diagnostic.below (text : String) : Diagnostic → Diagnostic
  | .lexical stray => .lexical (stray.below text)
  | .grammatical error => .grammatical (error.below text)
  | .internal fault => .internal fault

theorem Token.stop_below (text : String) (token : Token) : (token.below text).stop = token.stop.below text :=
  Position.advance_below text token.position token.image.toList

theorem endPosition_below (text : String) (unread : tokens ≠ []) :
    endPosition (tokens.map (Token.below text)) = (endPosition tokens).below text := by
  have last := List.getLast?_eq_some_getLast unread
  rw [endPosition, endPosition, List.getLast?_map, last]
  exact Token.stop_below text _

theorem Failure.report_below (text : String) (stop : Position) (failure : Failure) :
    (failure.report stop).map (Token.below text) (stop.below text) = (failure.report stop).below text := by
  obtain ⟨rule, expected, rest⟩ := failure
  cases rest <;> rfl

theorem parse_below (limit : Limit) (text : String) (tokens : List Token) :
    parse limit (tokens.map (Token.below text)) =
      { classes := (parse limit tokens).classes.map (ClassDecl.map (Token.below text))
        errors := (parse limit tokens).errors.map (SyntaxError.below text) } := by
  have keeps (token : Token) : (token.below text).kind = token.kind := rfl
  have errors : (parse limit tokens).errors.map (SyntaxError.map (Token.below text)
      (endPosition (tokens.map (Token.below text)))) = (parse limit tokens).errors.map (SyntaxError.below text) := by
    apply List.map_congr_left
    intro error member
    obtain ⟨unread, failure, _, rfl⟩ := mem_parse_errors member
    rw [endPosition_below text unread, Failure.report_below]
  rw [parse_map keeps, errors]

theorem AtStatement.below (boundary : AtStatement tokens) (text : String) :
    AtStatement (tokens.map (Token.below text)) := by
  cases tokens with
  | nil => exact .nil
  | cons token tokens => exact .cons (boundary token rfl)

theorem parse_append_of_derives {classes : List ClassDecl} (derived : Derives classes tokens)
    (boundary : AtStatement later) (limit : Limit) :
    parse limit (tokens ++ later) = ⟨classes ++ (parse limit later).classes, (parse limit later).errors⟩ := by
  have alone : parse limit tokens = ⟨classes, []⟩ := parse_eq_iff_derives.mpr derived
  cases later with
  | nil =>
    rw [List.append_nil, alone, parse, outcomes_nil]
    simp
  | cons token later =>
    have whole := outcomes_tokens_append derived.kinds boundary limit
    rw [derived.split] at whole
    simp only [parse, whole, List.filterMap_append, classes_map_ok, failures_map_ok, List.nil_append, endPosition_append]

theorem ClassDecl.declared_below (text : String) (decl : ClassDecl) :
    (decl.map (Token.below text)).declared = decl.declared := by
  simp [ClassDecl.declared, ClassDecl.map, FieldDecl.declared, FieldDecl.map, Token.below, Function.comp_def]

section

variable {first second : String} {classes : List ClassDecl} (clean : (scan first).strays = [])
  (derived : Derives classes (scan first).tokens) (boundary : AtStatement (scan second).tokens)

include clean in
theorem scan_append_line_of_clean : scan (first ++ "\n" ++ second) =
    ⟨(scan first).tokens ++ (scan second).tokens.map (Token.below first), (scan second).strays.map (Stray.below first)⟩ := by
  have closed : ∀ stray ∈ (scan first).strays, '"' ∉ stray.text.toList := by simp [clean]
  rw [scan_append_line closed, clean, List.nil_append]

include clean derived boundary

theorem parse_append_line : parse none (scan (first ++ "\n" ++ second)).tokens =
    { classes := classes ++ (parse none (scan second).tokens).classes.map (ClassDecl.map (Token.below first))
      errors := (parse none (scan second).tokens).errors.map (SyntaxError.below first) } := by
  rw [scan_append_line_of_clean clean, parse_append_of_derives derived (boundary.below first), parse_below]

theorem problems_append_line : problems (first ++ "\n" ++ second) = (problems second).map (Diagnostic.below first) := by
  have strays : (scan (first ++ "\n" ++ second)).strays = (scan second).strays.map (Stray.below first) := by
    rw [scan_append_line_of_clean clean]
  rw [problems, problems, strays, parse_append_line clean derived boundary]
  by_cases none : (scan second).strays = []
  · simp only [none, List.map_nil, if_true, List.map_map]
    rfl
  · simp only [List.map_eq_nil_iff, none, if_false, List.map_map]
    rfl

end

/-- No lexeme, class or recovery reaches over the line feed between a good source and one that starts with a statement, so
    the second is judged as if it were alone. -/
theorem analyze_append_line {earlier limit : Limit} {first second : String} {before : Program}
    (sound : analyze earlier first = .ok before) (boundary : AtStatement (scan second).tokens) :
    (∀ behind, analyze limit second = .ok behind →
      analyze limit (first ++ "\n" ++ second) = .ok ⟨before.classes ++ behind.classes, [], []⟩) ∧
    ∀ diagnostics, analyze limit second = .error diagnostics →
      analyze limit (first ++ "\n" ++ second) = .error (diagnostics.map (Diagnostic.below first)) := by
  obtain ⟨classes, clean, derived, rfl⟩ := analyze_eq_ok_iff.mp sound
  rw [analyze_eq limit (first ++ "\n" ++ second), analyze_eq limit second,
    problems_append_line clean derived boundary, parse_append_line clean derived boundary]
  by_cases none : problems second = []
  · refine ⟨?_, ?_⟩
    · intro behind same
      rw [if_pos none] at same
      cases same
      simp [none, Program.ofDecls, ClassDecl.declared_below, Function.comp_def]
    · intro diagnostics same
      rw [if_pos none] at same
      cases same
  · refine ⟨?_, ?_⟩
    · intro behind same
      rw [if_neg none] at same
      cases same
    · intro diagnostics same
      rw [if_neg none] at same
      cases same
      rw [if_neg (by simp [none]), Limit.cut_map]

/-- The remark at the end of the first source ends with its line, and its last character takes two bytes. -/
theorem analyze_append_line_behind_remark :
    analyze none "define A//é" = .ok ⟨[⟨"A", [], []⟩], [], []⟩ ∧
    (AtStatement (scan "define B").tokens ∧ analyze none "define B" = .ok ⟨[⟨"B", [], []⟩], [], []⟩ ∧
      analyze none ("define A//é" ++ "\n" ++ "define B") = .ok ⟨[⟨"A", [], []⟩, ⟨"B", [], []⟩], [], []⟩) ∧
    AtStatement (scan "define B has").tokens ∧
      analyze (some 0) "define B has" =
        .error [.grammatical ⟨.statement, .keyword .define, some ⟨.keyword .has, "has", ⟨9, 1, 10⟩⟩, ⟨9, 1, 10⟩⟩] ∧
      analyze (some 0) ("define A//é" ++ "\n" ++ "define B has") =
        .error [.grammatical ⟨.statement, .keyword .define, some ⟨.keyword .has, "has", ⟨22, 2, 10⟩⟩, ⟨22, 2, 10⟩⟩] := by
  have first : parse none (scan "define A//é").tokens =
      ⟨[⟨⟨.keyword .define, "define", ⟨0, 1, 1⟩⟩, ⟨.identifier, "A", ⟨7, 1, 8⟩⟩, []⟩], []⟩ := by decide +kernel
  have second : parse none (scan "define B").tokens =
      ⟨[⟨⟨.keyword .define, "define", ⟨0, 1, 1⟩⟩, ⟨.identifier, "B", ⟨7, 1, 8⟩⟩, []⟩], []⟩ := by decide +kernel
  have bad : (parse none (scan "define B has").tokens).errors =
      [⟨.statement, .keyword .define, some ⟨.keyword .has, "has", ⟨9, 1, 10⟩⟩, ⟨9, 1, 10⟩⟩] := by decide +kernel
  have good : analyze none "define A//é" = .ok ⟨[⟨"A", [], []⟩], [], []⟩ := analyze_eq_ok (by decide +kernel) first
  have goodToo : analyze none "define B" = .ok ⟨[⟨"B", [], []⟩], [], []⟩ := analyze_eq_ok (by decide +kernel) second
  have refused : analyze (some 0) "define B has" =
      .error [.grammatical ⟨.statement, .keyword .define, some ⟨.keyword .has, "has", ⟨9, 1, 10⟩⟩, ⟨9, 1, 10⟩⟩] := by
    rw [analyze_of_errors (by decide +kernel) (by simp [bad]), bad]
    rfl
  have atB : AtStatement (scan "define B").tokens := by
    show ∀ token ∈ (scan "define B").tokens.head?, token.kind = .keyword .define
    decide +kernel
  have atBad : AtStatement (scan "define B has").tokens := by
    show ∀ token ∈ (scan "define B has").tokens.head?, token.kind = .keyword .define
    decide +kernel
  have both := (analyze_append_line good atB).1 _ goodToo
  have lower := (analyze_append_line good atBad).2 _ refused
  exact ⟨good, ⟨atB, goodToo, both⟩, atBad, refused, lower.trans (congrArg Except.error (by decide +kernel))⟩

end ClassScript
