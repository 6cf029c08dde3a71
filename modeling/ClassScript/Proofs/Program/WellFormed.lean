import ClassScript.Proofs.Program.Verdict
import ClassScript.Proofs.Token.Place

namespace ClassScript

open Text

structure ClassDef.WellFormed (definition : ClassDef) : Prop where
  name : IsIdentifier definition.name.toList
  free : ∀ word : Keyword, definition.name ≠ word.spelling
  fields : ∀ field ∈ definition.fields, '"' ∉ field.name.toList ∧ field.default? = none
  methods : definition.methods = []

structure Program.WellFormed (program : Program) : Prop where
  classes : ∀ definition ∈ program.classes, definition.WellFormed
  instances : program.instances = []
  errors : program.errors = []

theorem quote_not_mem_unquote {image : String} (admits : Kind.string.Admits image.toList) :
    '"' ∉ (unquote image).toList := by
  obtain ⟨body, split, plain⟩ := admits
  have inner : (unquote image).toList = body := by simp [unquote, split]
  rwa [inner]

theorem ClassDecl.declared_wellFormed {source : String} {decl : ClassDecl} (clean : (scan source).strays = [])
    (kinds : decl.WellKinded) (within : ∀ token ∈ decl.tokens, token ∈ (scan source).tokens) :
    decl.declared.WellFormed := by
  obtain ⟨_, nameKind, fieldKinds⟩ := kinds
  have name : decl.name ∈ (scan source).tokens := within _ (by simp [ClassDecl.tokens])
  have form := mem_scan_tokens_admits name
  rw [nameKind] at form
  refine ⟨form, identifier_free_of_clean clean name nameKind, ?_, rfl⟩
  intro field member
  obtain ⟨fieldDecl, inFields, rfl⟩ := List.mem_map.mp member
  obtain ⟨_, _, _, literal, _⟩ := fieldKinds fieldDecl inFields
  have quoted : fieldDecl.name ∈ decl.tokens := by
    have inDecl : fieldDecl.name ∈ fieldDecl.tokens := by simp [FieldDecl.tokens]
    have inBody := List.mem_flatMap.mpr ⟨fieldDecl, inFields, inDecl⟩
    simp [ClassDecl.tokens, inBody]
  have admits := mem_scan_tokens_admits (within _ quoted)
  rw [literal] at admits
  exact ⟨quote_not_mem_unquote admits, rfl⟩

theorem Derives.wellFormed {source : String} {classes : List ClassDecl} (clean : (scan source).strays = [])
    (derived : Derives classes (scan source).tokens) : (Program.ofDecls classes).WellFormed := by
  refine ⟨?_, rfl, rfl⟩
  intro definition member
  obtain ⟨decl, inClasses, rfl⟩ := List.mem_map.mp member
  refine ClassDecl.declared_wellFormed clean (derived.kinds decl inClasses) ?_
  intro token inDecl
  rw [← derived.split]
  exact List.mem_flatMap.mpr ⟨decl, inClasses, inDecl⟩

/-- A program without errors is one that the analysis accepts, and every such program is well formed. -/
theorem analyze_ok_wellFormed (limit : Limit) (source : String) (program : Program) :
    (analyze limit source = .ok program ↔ Program.ofSource limit source = program ∧ program.errors = []) ∧
    (analyze limit source = .ok program → program.WellFormed) := by
  refine ⟨⟨fun sound => ⟨ofSource_of_ok sound, errors_eq_nil_of_ok sound⟩, ?_⟩, ?_⟩
  · intro given
    obtain ⟨same, silent⟩ := given
    cases verdict : analyze limit source with
    | ok found => rw [← same, ofSource_of_ok verdict]
    | error diagnostics =>
      rw [← same, ofSource_of_error verdict] at silent
      rw [List.map_eq_nil_iff.mp silent] at verdict
      exact absurd verdict (analyze_ne_no_problem limit source)
  · intro sound
    obtain ⟨classes, clean, derived, rfl⟩ := analyze_eq_ok_iff.mp sound
    exact derived.wellFormed clean

theorem analyze_ok_wellFormed_defaults :
    analyze (some 0) "define defaults x has field \"//é\"" = .ok ⟨[⟨"defaults", [⟨"//é", none⟩], []⟩], [], []⟩ ∧
    Program.ofSource (some 0) "define defaults x has field \"//é\"" =
      ⟨[⟨"defaults", [⟨"//é", none⟩], []⟩], [], []⟩ ∧
    Program.WellFormed ⟨[⟨"defaults", [⟨"//é", none⟩], []⟩], [], []⟩ := by
  have parsed : parse (some 0) (scan "define defaults x has field \"//é\"").tokens =
      ⟨[⟨⟨.keyword .define, "define", ⟨0, 1, 1⟩⟩, ⟨.identifier, "defaults", ⟨7, 1, 8⟩⟩,
        [⟨⟨.identifier, "x", ⟨16, 1, 17⟩⟩, ⟨.keyword .has, "has", ⟨18, 1, 19⟩⟩, ⟨.keyword .field, "field", ⟨22, 1, 23⟩⟩,
          ⟨.string, "\"//é\"", ⟨28, 1, 29⟩⟩, none⟩]⟩], []⟩ := by decide +kernel
  have sound : analyze (some 0) "define defaults x has field \"//é\"" =
      .ok ⟨[⟨"defaults", [⟨"//é", none⟩], []⟩], [], []⟩ := analyze_eq_ok (by decide +kernel) parsed
  obtain ⟨accepted, wellFormed⟩ := analyze_ok_wellFormed (some 0) "define defaults x has field \"//é\""
    ⟨[⟨"defaults", [⟨"//é", none⟩], []⟩], [], []⟩
  exact ⟨sound, (accepted.mp sound).1, wellFormed sound⟩

end ClassScript
