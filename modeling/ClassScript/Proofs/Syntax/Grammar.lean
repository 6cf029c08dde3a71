import ClassScript.Proofs.Syntax.ReadBack
import Mathlib.Computability.RegularExpressions

namespace ClassScript

open RegularExpression
open scoped Computability

namespace Grammar

def defaultClause : RegularExpression Kind :=
  char (.keyword .has) * char (.keyword .default) * char .string

def fieldDecl : RegularExpression Kind :=
  char .identifier * char (.keyword .has) * char (.keyword .field) * char .string * (1 + defaultClause)

def classDecl : RegularExpression Kind := char (.keyword .define) * char .identifier * star fieldDecl

def program : RegularExpression Kind := star classDecl

variable {Tree : Type} {WellKinded : Tree → Prop} {flatten : Tree → List Token}

/-- A language of kinds describes a form of trees if it holds the kinds of their tokens and no others. -/
def Describes (language : Language Kind) (WellKinded : Tree → Prop) (flatten : Tree → List Token) : Prop :=
  ∀ tokens, tokens.map Token.kind ∈ language ↔ ∃ tree, WellKinded tree ∧ flatten tree = tokens

theorem map_kind_mem_char_mul_iff {kind : Kind} {later : Language Kind} {tokens : List Token} :
    tokens.map Token.kind ∈ (char kind).matches' * later ↔
      ∃ token rest, token.kind = kind ∧ rest.map Token.kind ∈ later ∧ token :: rest = tokens := by
  rw [matches'_char, Language.mem_mul]
  apply Iff.intro
  · intro found
    obtain ⟨_, rfl, rest, member, split⟩ := found
    obtain ⟨token, tail, rfl, head, tailKinds⟩ := List.map_eq_cons_iff.mp split.symm
    exact ⟨token, tail, head, by rwa [tailKinds], rfl⟩
  · intro found
    obtain ⟨token, rest, rfl, member, rfl⟩ := found
    exact ⟨[token.kind], rfl, rest.map Token.kind, member, rfl⟩

theorem map_kind_mem_one_iff {tokens : List Token} : tokens.map Token.kind ∈ (1 : Language Kind) ↔ tokens = [] := by
  rw [Language.mem_one, List.map_eq_nil_iff]

theorem map_kind_mem_char_iff {kind : Kind} {tokens : List Token} :
    tokens.map Token.kind ∈ (char kind).matches' ↔ ∃ token, token.kind = kind ∧ [token] = tokens := by
  rw [← mul_one (char kind).matches', map_kind_mem_char_mul_iff]
  simp only [map_kind_mem_one_iff, exists_eq_left, exists_and_left]

theorem Describes.kstar {language : Language Kind} (single : Describes language WellKinded flatten) :
    Describes language∗ (fun trees => ∀ tree ∈ trees, WellKinded tree) (List.flatMap flatten) := by
  intro tokens
  rw [Language.mem_kstar]
  apply Iff.intro
  · intro found
    obtain ⟨blocks, split, members⟩ := found
    induction blocks generalizing tokens with
    | nil => exact ⟨[], by simp, (List.map_eq_nil_iff.mp split).symm⟩
    | cons block blocks ih =>
      obtain ⟨first, rest, rfl, firstKinds, restKinds⟩ := List.map_eq_append_iff.mp split
      obtain ⟨blockMember, laterMembers⟩ := List.forall_mem_cons.mp members
      obtain ⟨tree, treeKinds, rfl⟩ := (single first).mp (by rwa [firstKinds])
      obtain ⟨later, laterKinds, rfl⟩ := ih rest restKinds laterMembers
      exact ⟨tree :: later, List.forall_mem_cons.mpr ⟨treeKinds, laterKinds⟩, rfl⟩
  · intro found
    obtain ⟨trees, kinds, rfl⟩ := found
    refine ⟨trees.map fun tree => (flatten tree).map Token.kind, by rw [List.map_flatMap, List.flatMap_def], ?_⟩
    intro block member
    obtain ⟨tree, treeMember, rfl⟩ := List.mem_map.mp member
    exact (single (flatten tree)).mpr ⟨tree, kinds tree treeMember, rfl⟩

theorem Describes.optional {language : Language Kind} (single : Describes language WellKinded flatten) :
    Describes (1 + language) (fun tree? => ∀ tree ∈ tree?, WellKinded tree) (Option.elim · [] flatten) := by
  intro tokens
  rw [Language.mem_add, map_kind_mem_one_iff, single tokens]
  apply Iff.intro
  · intro found
    rcases found with rfl | ⟨tree, kinds, rfl⟩
    · exact ⟨none, by simp, rfl⟩
    · exact ⟨some tree, by simpa using kinds, rfl⟩
  · intro found
    obtain ⟨tree?, kinds, rfl⟩ := found
    cases tree? with
    | none => exact Or.inl rfl
    | some tree => exact Or.inr ⟨tree, kinds tree rfl, rfl⟩

theorem defaultClause_describes :
    Describes defaultClause.matches' DefaultClause.WellKinded DefaultClause.tokens := by
  intro tokens
  simp only [defaultClause, matches'_mul, mul_assoc, map_kind_mem_char_mul_iff, map_kind_mem_char_iff]
  apply Iff.intro
  · intro found
    obtain ⟨has, _, hasKind, found, rfl⟩ := found
    obtain ⟨default, _, defaultKind, found, rfl⟩ := found
    obtain ⟨literal, literalKind, rfl⟩ := found
    exact ⟨⟨has, default, literal⟩, ⟨hasKind, defaultKind, literalKind⟩, rfl⟩
  · intro found
    obtain ⟨clause, kinds, rfl⟩ := found
    obtain ⟨hasKind, defaultKind, literalKind⟩ := kinds
    exact ⟨clause.has, _, hasKind, ⟨clause.default, _, defaultKind, ⟨clause.literal, literalKind, rfl⟩, rfl⟩, rfl⟩

theorem fieldDecl_describes : Describes fieldDecl.matches' FieldDecl.WellKinded FieldDecl.tokens := by
  intro tokens
  simp only [fieldDecl, matches'_mul, mul_assoc, map_kind_mem_char_mul_iff, matches'_add, matches'_epsilon,
    defaultClause_describes.optional _]
  apply Iff.intro
  · intro found
    obtain ⟨owner, _, ownerKind, found, rfl⟩ := found
    obtain ⟨has, _, hasKind, found, rfl⟩ := found
    obtain ⟨field, _, fieldKind, found, rfl⟩ := found
    obtain ⟨name, _, nameKind, found, rfl⟩ := found
    obtain ⟨default?, defaultKinds, rfl⟩ := found
    exact ⟨⟨owner, has, field, name, default?⟩, ⟨ownerKind, hasKind, fieldKind, nameKind, defaultKinds⟩, rfl⟩
  · intro found
    obtain ⟨decl, kinds, rfl⟩ := found
    obtain ⟨ownerKind, hasKind, fieldKind, nameKind, defaultKinds⟩ := kinds
    exact ⟨decl.owner, _, ownerKind, ⟨decl.has, _, hasKind, ⟨decl.field, _, fieldKind, ⟨decl.name, _, nameKind,
      ⟨decl.default?, defaultKinds, rfl⟩, rfl⟩, rfl⟩, rfl⟩, rfl⟩

theorem classDecl_describes : Describes classDecl.matches' ClassDecl.WellKinded ClassDecl.tokens := by
  intro tokens
  simp only [classDecl, matches'_mul, mul_assoc, map_kind_mem_char_mul_iff, matches'_star,
    fieldDecl_describes.kstar _]
  apply Iff.intro
  · intro found
    obtain ⟨define, _, defineKind, found, rfl⟩ := found
    obtain ⟨name, _, nameKind, found, rfl⟩ := found
    obtain ⟨fields, fieldKinds, rfl⟩ := found
    exact ⟨⟨define, name, fields⟩, ⟨defineKind, nameKind, fieldKinds⟩, rfl⟩
  · intro found
    obtain ⟨decl, kinds, rfl⟩ := found
    obtain ⟨defineKind, nameKind, fieldKinds⟩ := kinds
    exact ⟨decl.define, _, defineKind, ⟨decl.name, _, nameKind, ⟨decl.fields, fieldKinds, rfl⟩, rfl⟩, rfl⟩

theorem program_describes :
    Describes program.matches' (fun classes => ∀ decl ∈ classes, decl.WellKinded) (List.flatMap ClassDecl.tokens) :=
  classDecl_describes.kstar

end Grammar

@[mk_iff]
structure Derives (classes : List ClassDecl) (tokens : List Token) : Prop where
  kinds : ∀ decl ∈ classes, decl.WellKinded
  split : classes.flatMap ClassDecl.tokens = tokens

theorem eq_map_ok_of_no_failure {found : List Outcome} (sound : found.filterMap Outcome.failure? = []) :
    found = (found.filterMap Outcome.class?).map .ok := by
  induction found with
  | nil => rfl
  | cons outcome found ih =>
    cases outcome with
    | ok decl => exact congrArg _ (ih sound)
    | error failure => cases sound

theorem classes_map_ok (classes : List ClassDecl) : (classes.map Except.ok).filterMap Outcome.class? = classes := by
  simp [List.filterMap_map, Function.comp_def, Outcome.class?]

theorem failures_map_ok (classes : List ClassDecl) : (classes.map Except.ok).filterMap Outcome.failure? = [] := by
  simp [List.filterMap_map, Function.comp_def, Outcome.failure?]

theorem parse_eq_iff_outcomes {limit : Limit} {tokens : List Token} {classes : List ClassDecl} :
    parse limit tokens = ⟨classes, []⟩ ↔ outcomes limit tokens = classes.map .ok := by
  apply Iff.intro
  · intro parsed
    obtain ⟨kept, sound⟩ := Parse.mk.inj parsed
    rw [← kept]
    exact eq_map_ok_of_no_failure (List.map_eq_nil_iff.mp sound)
  · intro sound
    rw [parse, sound, classes_map_ok, failures_map_ok, List.map_nil]

theorem readStatement_eq_ok {tokens rest : List Token} {decl : ClassDecl}
    (ran : readStatement tokens = .ok (decl, rest)) : tokens = decl.tokens ++ rest ∧ decl.WellKinded := by
  unfold readStatement at ran
  split at ran
  · obtain ⟨split, kinds, _⟩ := ClassDecl.read_eq_ok ran
    exact ⟨split, kinds⟩
  · cases ran

theorem nextOutcome_eq_ok {tokens rest : List Token} {decl : ClassDecl} (ran : nextOutcome tokens = (.ok decl, rest)) :
    tokens = decl.tokens ++ rest ∧ decl.WellKinded := by
  unfold nextOutcome at ran
  split at ran
  · rename_i read
    cases ran
    exact readStatement_eq_ok read
  · cases ran

theorem Derives.of_outcomes {limit : Limit} {tokens : List Token} {classes : List ClassDecl}
    (sound : outcomes limit tokens = classes.map .ok) : Derives classes tokens := by
  induction classes generalizing tokens with
  | nil =>
    cases tokens with
    | nil => exact ⟨by simp, rfl⟩
    | cons token tokens =>
      rw [outcomes] at sound
      split at sound <;> cases sound
  | cons decl later ih =>
    cases tokens with
    | nil => cases (outcomes_nil limit).symm.trans sound
    | cons token tokens =>
      cases ran : nextOutcome (token :: tokens) with | mk outcome rest =>
      cases outcome with
      | error failure =>
        rw [outcomes_of_error (by simp) ran] at sound
        cases sound
      | ok first =>
        rw [outcomes_of_ok (by simp) ran, List.map_cons] at sound
        obtain ⟨same, soundLater⟩ := List.cons.inj sound
        cases same
        obtain ⟨split, kinds⟩ := nextOutcome_eq_ok ran
        obtain ⟨laterKinds, laterSplit⟩ := ih soundLater
        exact ⟨List.forall_mem_cons.mpr ⟨kinds, laterKinds⟩, by rw [List.flatMap_cons, laterSplit, split]⟩

theorem parse_eq_iff_derives {limit : Limit} {tokens : List Token} {classes : List ClassDecl} :
    parse limit tokens = ⟨classes, []⟩ ↔ Derives classes tokens := by
  rw [parse_eq_iff_outcomes]
  apply Iff.intro
  · exact Derives.of_outcomes
  · intro derived
    rw [← derived.split]
    exact outcomes_tokens derived.kinds limit

theorem parse_errors_eq_nil_iff {limit : Limit} {tokens : List Token} :
    (parse limit tokens).errors = [] ↔ ∃ classes, Derives classes tokens := by
  apply Iff.intro
  · intro sound
    exact ⟨(parse limit tokens).classes, parse_eq_iff_derives.mp (by rw [← sound])⟩
  · intro found
    obtain ⟨classes, derived⟩ := found
    rw [parse_eq_iff_derives.mpr derived]

/-- The parser accepts the grammar and nothing else, builds the one tree with the given tokens, and gives every
    well-kinded tree back from its tokens. -/
theorem parse_accepts_grammar (limit : Limit) (tokens : List Token) :
    (∀ classes, parse limit tokens = ⟨classes, []⟩ ↔
      (∀ decl ∈ classes, decl.WellKinded) ∧ classes.flatMap ClassDecl.tokens = tokens) ∧
    ((parse limit tokens).errors = [] ↔ tokens.map Token.kind ∈ Grammar.program.matches') ∧
    ∀ classes, (∀ decl ∈ classes, decl.WellKinded) →
      parse limit (classes.flatMap ClassDecl.tokens) = ⟨classes, []⟩ := by
  refine ⟨?_, ?_, ?_⟩
  · intro classes
    rw [parse_eq_iff_derives, derives_iff]
  · rw [parse_errors_eq_nil_iff, Grammar.program_describes tokens]
    simp only [derives_iff]
  · intro classes kinds
    exact parse_eq_iff_derives.mpr ⟨kinds, rfl⟩

def shelfDecl : ClassDecl where
  define := ⟨.keyword .define, "define", .start⟩
  name := ⟨.identifier, "Shelf", .start⟩
  fields :=
    [{ owner := ⟨.identifier, "Shelf", .start⟩
       has := ⟨.keyword .has, "has", .start⟩
       field := ⟨.keyword .field, "field", .start⟩
       name := ⟨.string, "\"width\"", .start⟩
       default? := some ⟨⟨.keyword .has, "has", .start⟩, ⟨.keyword .default, "default", .start⟩, ⟨.string, "\"9\"", .start⟩⟩ }]

theorem parse_accepts_grammar_shelf : (∀ decl ∈ [shelfDecl, shelfDecl], decl.WellKinded) ∧
    parse none ([shelfDecl, shelfDecl].flatMap ClassDecl.tokens) = ⟨[shelfDecl, shelfDecl], []⟩ :=
  ⟨by decide, (parse_accepts_grammar none []).2.2 [shelfDecl, shelfDecl] (by decide)⟩

end ClassScript
