import ClassScript.Analysis
import ClassScript.Proofs.Syntax.Limited

namespace ClassScript

/-- All that a source can be refused for. The grammar is judged only where no character is stray. -/
def problems (source : String) : List Diagnostic :=
  if (scan source).strays = [] then (parse none (scan source).tokens).errors.map .grammatical
  else (scan source).strays.map .lexical

theorem problems_eq_nil_iff {source : String} :
    problems source = [] ↔ (scan source).strays = [] ∧ (parse none (scan source).tokens).errors = [] := by
  unfold problems
  split
  · rename_i clean
    simp [clean]
  · rename_i stray
    simp [stray]

theorem analyze_of_strays {limit : Limit} {source : String} (stray : (scan source).strays ≠ []) :
    analyze limit source = .error ((limit.cut (scan source).strays).map .lexical) := by
  simp [analyze, stray]

theorem analyze_of_errors {limit : Limit} {source : String} (clean : (scan source).strays = [])
    (bad : (parse none (scan source).tokens).errors ≠ []) :
    analyze limit source = .error ((limit.cut (parse none (scan source).tokens).errors).map .grammatical) := by
  have reported : limit.cut (parse none (scan source).tokens).errors ≠ [] := mt Limit.cut_eq_nil_iff.mp bad
  simp [analyze, clean, parse_errors_limit limit, reported]

theorem analyze_eq_ok {limit : Limit} {source : String} {classes : List ClassDecl} (strays : (scan source).strays = [])
    (parsed : parse limit (scan source).tokens = ⟨classes, []⟩) : analyze limit source = .ok (.ofDecls classes) := by
  simp [analyze, strays, parsed]

theorem analyze_eq (limit : Limit) (source : String) : analyze limit source =
    if problems source = [] then .ok (.ofDecls (parse none (scan source).tokens).classes)
    else .error (limit.cut (problems source)) := by
  by_cases clean : (scan source).strays = []
  · by_cases sound : (parse none (scan source).tokens).errors = []
    · have derived : Derives (parse none (scan source).tokens).classes (scan source).tokens :=
        parse_eq_iff_derives.mp (by rw [← sound])
      rw [if_pos (problems_eq_nil_iff.mpr ⟨clean, sound⟩), analyze_eq_ok clean (parse_eq_iff_derives.mpr derived)]
    · have bad : problems source ≠ [] := mt problems_eq_nil_iff.mp (by simp [sound])
      rw [if_neg bad, analyze_of_errors clean sound, problems, if_pos clean, Limit.cut_map]
  · have bad : problems source ≠ [] := mt problems_eq_nil_iff.mp (by simp [clean])
    rw [if_neg bad, analyze_of_strays clean, problems, if_neg clean, Limit.cut_map]

theorem analyze_ok_iff_no_problem {limit : Limit} {source : String} :
    (∃ program, analyze limit source = .ok program) ↔ problems source = [] := by
  rw [analyze_eq]
  by_cases none : problems source = []
  · simp [none]
  · simp [none]

theorem problems_ne_nil_of_error {limit : Limit} {source : String} {diagnostics : List Diagnostic}
    (refused : analyze limit source = .error diagnostics) : problems source ≠ [] := by
  intro none
  rw [analyze_eq, if_pos none] at refused
  cases refused

theorem eq_cut_problems_of_error {limit : Limit} {source : String} {diagnostics : List Diagnostic}
    (refused : analyze limit source = .error diagnostics) : diagnostics = limit.cut (problems source) := by
  have bad := problems_ne_nil_of_error refused
  rw [analyze_eq, if_neg bad] at refused
  exact (Except.error.inj refused).symm

theorem analyze_eq_ok_iff {limit : Limit} {source : String} {program : Program} :
    analyze limit source = .ok program ↔
      ∃ classes, (scan source).strays = [] ∧ Derives classes (scan source).tokens ∧ program = .ofDecls classes := by
  apply Iff.intro
  · intro sound
    rw [analyze_eq] at sound
    split at sound
    · rename_i none
      obtain ⟨clean, errors⟩ := problems_eq_nil_iff.mp none
      cases sound
      exact ⟨_, clean, parse_eq_iff_derives.mp (by rw [← errors]), rfl⟩
    · cases sound
  · intro found
    obtain ⟨classes, clean, derived, rfl⟩ := found
    exact analyze_eq_ok clean (parse_eq_iff_derives.mpr derived)

theorem analyze_ne_no_problem (limit : Limit) (source : String) : analyze limit source ≠ .error [] := by
  rw [analyze_eq]
  split
  · nofun
  · rename_i bad
    intro same
    exact bad (Limit.cut_eq_nil_iff.mp (Except.error.inj same))

theorem ofSource_of_ok {limit : Limit} {source : String} {program : Program}
    (sound : analyze limit source = .ok program) : Program.ofSource limit source = program := by
  rw [Program.ofSource, sound]

theorem ofSource_of_error {limit : Limit} {source : String} {diagnostics : List Diagnostic}
    (refused : analyze limit source = .error diagnostics) :
    Program.ofSource limit source = ⟨[], [], diagnostics.map Diagnostic.message⟩ := by
  rw [Program.ofSource, refused]
  rfl

theorem errors_eq_nil_of_ok {limit : Limit} {source : String} {program : Program}
    (sound : analyze limit source = .ok program) : program.errors = [] := by
  obtain ⟨classes, _, _, rfl⟩ := analyze_eq_ok_iff.mp sound
  rfl

/-- A source is good exactly if no stage finds a problem, under every limit. Else the first stage that finds any
    reports as many of its problems as the limit lets through, at least one; and the program read from the source says
    the same in words. -/
theorem analyze_reports_first_bad_stage (limit : Limit) {source : String} {tokens : List Token} {strays : List Stray}
    {classes : List ClassDecl} {errors : List SyntaxError} (scanned : scan source = ⟨tokens, strays⟩)
    (parsed : parse none tokens = ⟨classes, errors⟩) :
    ((∃ program, analyze limit source = .ok program) ↔ strays = [] ∧ errors = []) ∧
    analyze limit source ≠ .error [] ∧
    (strays ≠ [] → analyze limit source =
      .error ((strays.take (limit.elim strays.length (max · 1))).map .lexical)) ∧
    (strays = [] → errors ≠ [] → analyze limit source =
      .error ((errors.take (limit.elim errors.length (max · 1))).map .grammatical)) ∧
    (∀ other, (analyze other source).toOption = (analyze limit source).toOption) ∧
    (∀ program, analyze limit source = .ok program →
      Program.ofSource limit source = program ∧ program.errors = []) ∧
    ∀ diagnostics, analyze limit source = .error diagnostics →
      Program.ofSource limit source = ⟨[], [], diagnostics.map Diagnostic.message⟩ := by
  have foundStrays : (scan source).strays = strays := by rw [scanned]
  have foundErrors : (parse none (scan source).tokens).errors = errors := by rw [scanned, parsed]
  subst foundStrays foundErrors
  refine ⟨?_, analyze_ne_no_problem limit source, ?_, ?_, ?_, ?_, fun _ => ofSource_of_error⟩
  · rw [analyze_ok_iff_no_problem, problems_eq_nil_iff]
  · intro stray
    rw [analyze_of_strays stray, Limit.cut_eq_take]
  · intro clean bad
    rw [analyze_of_errors clean bad, Limit.cut_eq_take]
  · intro other
    rw [analyze_eq other, analyze_eq limit]
    split <;> rfl
  · intro program sound
    exact ⟨ofSource_of_ok sound, errors_eq_nil_of_ok sound⟩

/-- A limit of zero lets one stray run through, and a limit of two the first two of three errors. -/
theorem analyze_reports_first_bad_stage_limited :
    analyze (some 0) "define é#\nB $" = .error [.lexical ⟨⟨7, 1, 8⟩, "é#"⟩] ∧
    analyze (some 2) "define\ndefine\ndefine" =
      .error [.grammatical ⟨.classDefinition, .identifier, some ⟨.keyword .define, "define", ⟨7, 2, 1⟩⟩, ⟨7, 2, 1⟩⟩,
        .grammatical ⟨.classDefinition, .identifier, some ⟨.keyword .define, "define", ⟨14, 3, 1⟩⟩, ⟨14, 3, 1⟩⟩] := by
  have stray : scan "define é#\nB $" = ⟨[⟨.keyword .define, "define", ⟨0, 1, 1⟩⟩, ⟨.identifier, "B", ⟨11, 2, 1⟩⟩],
      [⟨⟨7, 1, 8⟩, "é#"⟩, ⟨⟨13, 2, 3⟩, "$"⟩]⟩ := by decide +kernel
  have clean : scan "define\ndefine\ndefine" = ⟨[⟨.keyword .define, "define", ⟨0, 1, 1⟩⟩,
      ⟨.keyword .define, "define", ⟨7, 2, 1⟩⟩, ⟨.keyword .define, "define", ⟨14, 3, 1⟩⟩], []⟩ := by decide +kernel
  have parsed : parse none [⟨.keyword .define, "define", ⟨0, 1, 1⟩⟩, ⟨.keyword .define, "define", ⟨7, 2, 1⟩⟩,
      ⟨.keyword .define, "define", ⟨14, 3, 1⟩⟩] =
      ⟨[], [⟨.classDefinition, .identifier, some ⟨.keyword .define, "define", ⟨7, 2, 1⟩⟩, ⟨7, 2, 1⟩⟩,
        ⟨.classDefinition, .identifier, some ⟨.keyword .define, "define", ⟨14, 3, 1⟩⟩, ⟨14, 3, 1⟩⟩,
        ⟨.classDefinition, .identifier, none, ⟨20, 3, 7⟩⟩]⟩ := by decide +kernel
  have lexical := (analyze_reports_first_bad_stage (some 0) stray rfl).2.2.1 (by simp)
  have grammatical := (analyze_reports_first_bad_stage (some 2) clean parsed).2.2.2.1 rfl (by simp)
  exact ⟨lexical, grammatical⟩

end ClassScript
