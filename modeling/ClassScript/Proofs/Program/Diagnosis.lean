import ClassScript.Proofs.Program.Verdict
import ClassScript.Proofs.Syntax.Ascending
import ClassScript.Proofs.Token.Order

namespace ClassScript

theorem scan_tokens_ascending (source : String) : Ascending (scan source).tokens :=
  ⟨scan_tokens_apart source, fun _ => scan_tokens_nonempty⟩

def InOrder (diagnostics : List Diagnostic) : Prop :=
  ∃ places : List Position, diagnostics.map Diagnostic.position? = places.map some ∧
    places.Pairwise fun earlier later => earlier.offset < later.offset

theorem InOrder.take {diagnostics : List Diagnostic} (inOrder : InOrder diagnostics) (count : Nat) :
    InOrder (diagnostics.take count) := by
  obtain ⟨places, same, ascend⟩ := inOrder
  exact ⟨places.take count, by rw [List.map_take, same, List.map_take], ascend.sublist (List.take_sublist _ _)⟩

theorem problems_inOrder (source : String) : InOrder (problems source) := by
  unfold problems
  split
  · refine ⟨(parse none (scan source).tokens).errors.map SyntaxError.position, by simp [Diagnostic.position?], ?_⟩
    exact List.pairwise_map.mpr ((scan_tokens_ascending source).errors_ascend none)
  · refine ⟨(scan source).strays.map Stray.position, by simp [Diagnostic.position?], ?_⟩
    exact List.pairwise_map.mpr (scan_strays_ascend source)

/-- The errors of a parse stand at tokens further and further on, each at one that is not of the kind expected there, for
    one of seven causes; only the last can stand at the end of the input. And whatever a source is refused for, the
    offsets of its diagnostics grow. -/
theorem diagnostics_genuine_in_order :
    (∀ (limit : Limit) (tokens : List Token),
      (∃ indices : List Nat, indices.Pairwise (· < ·) ∧
        List.Forall₂ (GenuineAt tokens) (parse limit tokens).errors indices) ∧
      (parse limit tokens).errors.Pairwise (fun earlier _ => earlier.found? ≠ none) ∧
      ∀ error ∈ (parse limit tokens).errors, error.rule ≠ .program ∧ error.rule ≠ .classBody) ∧
    ∀ (limit : Limit) (source : String) (diagnostics : List Diagnostic),
      analyze limit source = .error diagnostics → InOrder diagnostics := by
  refine ⟨?_, ?_⟩
  · intro limit tokens
    refine ⟨errors_genuine limit tokens, errors_end_last limit tokens, ?_⟩
    intro error member
    obtain ⟨failure, reported, rfl⟩ := List.mem_map.mp member
    exact rule_of_cause ((outcomes_run limit tokens).failures_caused failure reported).1
  · intro limit source diagnostics refused
    rw [eq_cut_problems_of_error refused, Limit.cut_eq_take]
    exact (problems_inOrder source).take _

def stutterSource : String := "define define A has\ndefine"

def stutterErrors : List SyntaxError :=
  [⟨.classDefinition, .identifier, some ⟨.keyword .define, "define", ⟨7, 1, 8⟩⟩, ⟨7, 1, 8⟩⟩,
    ⟨.statement, .keyword .define, some ⟨.keyword .has, "has", ⟨16, 1, 17⟩⟩, ⟨16, 1, 17⟩⟩,
    ⟨.classDefinition, .identifier, none, ⟨26, 2, 7⟩⟩]

theorem diagnostics_genuine_in_order_stutter :
    (⟨.classDefinition, .identifier, none, ⟨26, 2, 7⟩⟩ ∈ (parse none (scan stutterSource).tokens).errors ∧
      Rule.classDefinition ≠ .program ∧ Rule.classDefinition ≠ .classBody) ∧
    analyze none stutterSource = .error (stutterErrors.map .grammatical) ∧
    InOrder (stutterErrors.map .grammatical) := by
  have clean : (scan stutterSource).strays = [] := by decide +kernel
  have errors : (parse none (scan stutterSource).tokens).errors = stutterErrors := by decide +kernel
  have refused : analyze none stutterSource = .error (stutterErrors.map .grammatical) := by
    rw [analyze_of_errors clean (by simp [errors, stutterErrors]), errors]
    rfl
  have last : ⟨.classDefinition, .identifier, none, ⟨26, 2, 7⟩⟩ ∈ (parse none (scan stutterSource).tokens).errors := by
    simp [errors, stutterErrors]
  obtain ⟨ofTokens, ofSources⟩ := diagnostics_genuine_in_order
  exact ⟨⟨last, (ofTokens _ _).2.2 _ last⟩, refused, ofSources _ _ _ refused⟩

end ClassScript
