import ClassScript.Command.Response
import ClassScript.Proofs.Json.Printed
import ClassScript.Proofs.Program.Coordinates
import ClassScript.Proofs.Program.Verdict

namespace ClassScript

open Json (Plain IsMachine)

variable {fits : Int → Prop} {limit : Limit} {source : String}

theorem Json.Plain.ofList {α : Type} {encode : α → Json} {values : List α}
    (each : ∀ value ∈ values, Plain fits (encode value)) : Plain fits (Json.ofList encode values) := by
  refine .arr fun item member => ?_
  obtain ⟨value, inside, rfl⟩ := List.mem_map.mp member
  exact each value inside

theorem Json.Plain.ofOption {α : Type} {encode : α → Json} {value? : Option α}
    (each : ∀ value ∈ value?, Plain fits (encode value)) : Plain fits (Json.ofOption encode value?) := by
  cases value? with
  | none => exact .null
  | some value => exact each value rfl

theorem FieldDecl.plain_declared (decl : FieldDecl) : Plain fits decl.declared.toJson :=
  .obj (by simp [declared]) (by simp [declared, Plain.str])

theorem ClassDecl.plain_declared (decl : ClassDecl) : Plain fits decl.declared.toJson := by
  have fields : Plain fits (Json.ofList FieldDef.toJson decl.declared.fields) := by
    refine .ofList fun field member => ?_
    obtain ⟨fieldDecl, _, rfl⟩ := List.mem_map.mp member
    exact fieldDecl.plain_declared
  have methods : Plain fits (Json.ofList MethodDef.toJson decl.declared.methods) := .ofList nofun
  exact .obj (by simp) (by simpa [fields, methods] using Plain.str _)

theorem Program.plain_toJson {program : Program} (noInstance : program.instances = [])
    (classes : ∀ definition ∈ program.classes, Plain fits definition.toJson) : Plain fits program.toJson := by
  have instances : Plain fits (Json.ofList Instance.toJson program.instances) := by
    rw [noInstance]
    exact .ofList nofun
  have errors : Plain fits (Json.ofList Json.str program.errors) := .ofList fun message _ => .str message
  exact .obj (by simp) (by simp [Plain.ofList classes, instances, errors])

theorem Program.plain_ofSource (limit : Limit) (source : String) : Plain fits (ofSource limit source).toJson := by
  cases verdict : analyze limit source with
  | ok program =>
    obtain ⟨classes, _, _, rfl⟩ := analyze_eq_ok_iff.mp verdict
    rw [ofSource_of_ok verdict]
    refine Program.plain_toJson rfl fun definition member => ?_
    obtain ⟨decl, _, rfl⟩ := List.mem_map.mp member
    exact decl.plain_declared
  | error diagnostics =>
    rw [ofSource_of_error verdict]
    exact Program.plain_toJson rfl nofun

theorem Diagnostic.plain_toJson {diagnostic : Diagnostic} (small : ∀ position ∈ diagnostic.position?,
    fits position.offset ∧ fits position.line ∧ fits position.column) : Plain fits diagnostic.toJson := by
  have place (coordinate : Position → Nat) (each : ∀ position ∈ diagnostic.position?, fits (coordinate position)) :
      Plain fits (.ofOption .nat (diagnostic.position?.map coordinate)) := by
    refine .ofOption fun value member => ?_
    obtain ⟨position, inside, rfl⟩ := Option.mem_map.mp member
    exact .int (each position inside)
  have offset := place Position.offset fun position inside => (small position inside).1
  have line := place Position.line fun position inside => (small position inside).2.1
  have column := place Position.column fun position inside => (small position inside).2.2
  exact .obj (by simp) (by simp [offset, line, column, Plain.str])

theorem mem_problems_place {problem : Diagnostic} (member : problem ∈ problems source) :
    ∀ position ∈ problem.position?, ∃ before, before <+: source.toList ∧ position = .behind before := by
  unfold problems at member
  split at member
  · obtain ⟨error, reported, rfl⟩ := List.mem_map.mp member
    rintro _ ⟨⟩
    obtain ⟨here, atEnd⟩ := place_of_mem_parse_errors reported
    cases found : error.found? with
    | some token =>
      obtain ⟨_, before, after, split, place⟩ := here token found
      exact ⟨before, ⟨_, split.symm⟩, place⟩
    | none =>
      obtain ⟨last, before, after, _, _, split, place, _⟩ := atEnd found
      exact ⟨before ++ last.image.toList, ⟨after, by rw [split, List.append_assoc]⟩, place⟩
  · obtain ⟨stray, reported, rfl⟩ := List.mem_map.mp member
    rintro _ ⟨⟩
    obtain ⟨before, after, split, place⟩ := StandsAt.of_stray reported
    exact ⟨before, ⟨_, split.symm⟩, place⟩

theorem mem_of_mem_cut {α : Type} {problems : List α} {problem : α} (member : problem ∈ limit.cut problems) :
    problem ∈ problems := by
  rw [Limit.cut_eq_take] at member
  exact List.mem_of_mem_take member

namespace Command

theorem plain_checkReport (small : ∀ problem ∈ problems source, Plain fits problem.toJson) :
    Plain fits (checkReport limit source) := by
  cases verdict : analyze limit source with
  | ok program =>
    rw [checkReport, verdict]
    exact .arr nofun
  | error diagnostics =>
    rw [checkReport, verdict]
    refine .ofList fun problem member => small problem ?_
    rw [eq_cut_problems_of_error verdict] at member
    exact mem_of_mem_cut member

/-- No text in memory is as large as that, so the positions of its problems are machine numbers. -/
theorem isMachine_checkReport (memory : source.utf8ByteSize < 2 ^ 63) : Plain IsMachine (checkReport limit source) := by
  refine plain_checkReport fun problem member => Diagnostic.plain_toJson fun position inside => ?_
  obtain ⟨before, within, rfl⟩ := mem_problems_place member position inside
  have bytes := String.utf8Len_le_of_prefix within
  rw [String.utf8Len_toList] at bytes
  obtain ⟨offset, line, column⟩ := Position.behind_le before
  refine ⟨⟨?_, ?_⟩, ⟨?_, ?_⟩, ⟨?_, ?_⟩⟩ <;> omega

theorem isGap_feed : Json.IsGap "\n".toList := by simp [Json.IsGap, Json.isBlank]

theorem read?_programReport : Json.read? (line (Program.ofSource limit source).toJson.pretty) =
    some (Program.ofSource limit source).toJson :=
  (Program.plain_ofSource limit source).readBy_pretty Json.readNumber_readsBack isGap_feed

theorem readExact?_programReport : Json.readExact? (line (Program.ofSource limit source).toJson.pretty) =
    some (Program.ofSource limit source).toJson :=
  (Program.plain_ofSource limit source).readBy_pretty Json.readInteger_readsBack isGap_feed

theorem readExact?_checkReport :
    Json.readExact? (line (checkReport limit source).pretty) = some (checkReport limit source) := by
  have plain : Plain (fun _ => True) (checkReport limit source) :=
    plain_checkReport fun problem _ => Diagnostic.plain_toJson fun _ _ => ⟨trivial, trivial, trivial⟩
  exact plain.readBy_pretty Json.readInteger_readsBack isGap_feed

theorem read?_checkReport (memory : source.utf8ByteSize < 2 ^ 63) :
    Json.read? (line (checkReport limit source).pretty) = some (checkReport limit source) :=
  (isMachine_checkReport memory).readBy_pretty Json.readNumber_readsBack isGap_feed

end Command

end ClassScript
