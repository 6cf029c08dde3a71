import ClassScript.Proofs.Program.Verdict
import ClassScript.Proofs.Token.Layout

namespace ClassScript

structure FieldText where
  owner : Name
  name : Quotable
  default? : Option Quotable

structure ClassText where
  name : Name
  fields : List FieldText

namespace FieldText

def defaultLexemes (literal : Quotable) : List Lexeme := [.keyword .has, .keyword .default, literal.lexeme]

def lexemes (field : FieldText) : List Lexeme :=
  field.owner.lexeme :: .keyword .has :: .keyword .field :: field.name.lexeme :: field.default?.elim [] defaultLexemes

def declared (field : FieldText) : FieldDef := ⟨field.name.text, none⟩

end FieldText

namespace ClassText

def lexemes (text : ClassText) : List Lexeme :=
  .keyword .define :: text.name.lexeme :: text.fields.flatMap FieldText.lexemes

def declared (text : ClassText) : ClassDef := ⟨text.name.text, text.fields.map FieldText.declared, []⟩

end ClassText

def Spelled (lexemes : List Lexeme) (tokens : List Token) : Prop :=
  tokens.map Token.plain = lexemes.map Lexeme.plain

theorem Spelled.cons {lexeme : Lexeme} {lexemes : List Lexeme} {tokens : List Token}
    (spelled : Spelled (lexeme :: lexemes) tokens) : ∃ token rest, tokens = token :: rest ∧ token.kind = lexeme.kind ∧
      token.image = lexeme.image ∧ Spelled lexemes rest := by
  obtain ⟨token, rest, split, same, later⟩ := List.map_eq_cons_iff.mp spelled
  obtain ⟨kind, image⟩ := Prod.mk.inj same
  exact ⟨token, rest, split, kind, image, later⟩

theorem Spelled.nil {tokens : List Token} (spelled : Spelled [] tokens) : tokens = [] := List.map_eq_nil_iff.mp spelled

theorem Spelled.append {left right : List Lexeme} {tokens : List Token} (spelled : Spelled (left ++ right) tokens) :
    ∃ first rest, tokens = first ++ rest ∧ Spelled left first ∧ Spelled right rest := by
  rw [Spelled, List.map_append] at spelled
  exact List.map_eq_append_iff.mp spelled

theorem Spelled.flatMap {Text Tree Value : Type} {lexemes : Text → List Lexeme} {value : Text → Value}
    {flatten : Tree → List Token} {WellKinded : Tree → Prop} {worth : Tree → Value}
    (single : ∀ text tokens, Spelled (lexemes text) tokens →
      ∃ tree, flatten tree = tokens ∧ WellKinded tree ∧ worth tree = value text)
    {texts : List Text} {tokens : List Token} (spelled : Spelled (texts.flatMap lexemes) tokens) :
    ∃ trees : List Tree, trees.flatMap flatten = tokens ∧ (∀ tree ∈ trees, WellKinded tree) ∧
      trees.map worth = texts.map value := by
  induction texts generalizing tokens with
  | nil => exact ⟨[], spelled.nil.symm, by simp, rfl⟩
  | cons text texts ih =>
    obtain ⟨first, rest, rfl, here, behind⟩ := spelled.append
    obtain ⟨tree, rfl, kinds, same⟩ := single text first here
    obtain ⟨trees, rfl, laterKinds, laterSame⟩ := ih behind
    refine ⟨tree :: trees, List.flatMap_cons, List.forall_mem_cons.mpr ⟨kinds, laterKinds⟩, ?_⟩
    rw [List.map_cons, List.map_cons, same, laterSame]

theorem unquote_lexeme (text : Quotable) : unquote text.lexeme.image = text.text := by
  simp [unquote, Quotable.lexeme]

theorem Spelled.defaultClause {literal : Quotable} {tokens : List Token}
    (spelled : Spelled (FieldText.defaultLexemes literal) tokens) :
    ∃ clause : DefaultClause, clause.tokens = tokens ∧ clause.WellKinded := by
  obtain ⟨has, _, rfl, hasKind, _, spelled⟩ := spelled.cons
  obtain ⟨default, _, rfl, defaultKind, _, spelled⟩ := spelled.cons
  obtain ⟨literal, _, rfl, literalKind, _, spelled⟩ := spelled.cons
  rw [spelled.nil]
  exact ⟨⟨has, default, literal⟩, rfl, hasKind, defaultKind, literalKind⟩

theorem Spelled.defaultClause? {literal? : Option Quotable} {tokens : List Token}
    (spelled : Spelled (literal?.elim [] FieldText.defaultLexemes) tokens) :
    ∃ clause? : Option DefaultClause, clause?.elim [] DefaultClause.tokens = tokens ∧
      ∀ clause ∈ clause?, clause.WellKinded := by
  cases literal? with
  | none => exact ⟨none, spelled.nil.symm, by simp⟩
  | some literal =>
    obtain ⟨clause, rfl, kinds⟩ := Spelled.defaultClause spelled
    exact ⟨some clause, rfl, by simpa using kinds⟩

theorem Spelled.fieldDecl (field : FieldText) (tokens : List Token) (spelled : Spelled field.lexemes tokens) :
    ∃ decl : FieldDecl, decl.tokens = tokens ∧ decl.WellKinded ∧ decl.declared = field.declared := by
  obtain ⟨owner, _, rfl, ownerKind, _, spelled⟩ := spelled.cons
  obtain ⟨has, _, rfl, hasKind, _, spelled⟩ := spelled.cons
  obtain ⟨keyword, _, rfl, keywordKind, _, spelled⟩ := spelled.cons
  obtain ⟨name, _, rfl, nameKind, nameImage, spelled⟩ := spelled.cons
  obtain ⟨clause?, rfl, clauseKinds⟩ := spelled.defaultClause?
  refine ⟨⟨owner, has, keyword, name, clause?⟩, rfl, ⟨ownerKind, hasKind, keywordKind, nameKind, clauseKinds⟩, ?_⟩
  rw [FieldDecl.declared, FieldText.declared, nameImage, unquote_lexeme]

theorem Spelled.classDecl (text : ClassText) (tokens : List Token) (spelled : Spelled text.lexemes tokens) :
    ∃ decl : ClassDecl, decl.tokens = tokens ∧ decl.WellKinded ∧ decl.declared = text.declared := by
  obtain ⟨define, _, rfl, defineKind, _, spelled⟩ := spelled.cons
  obtain ⟨name, _, rfl, nameKind, nameImage, spelled⟩ := spelled.cons
  obtain ⟨fields, rfl, fieldKinds, same⟩ := spelled.flatMap Spelled.fieldDecl
  refine ⟨⟨define, name, fields⟩, rfl, ⟨defineKind, nameKind, fieldKinds⟩, ?_⟩
  rw [ClassDecl.declared, ClassText.declared, same, nameImage]
  rfl

/-- A source that spells classes declares these classes, with their fields in order, no defaults, and no errors. -/
theorem ofSource_of_writes (limit : Limit) {classes : List ClassText} {source : String}
    (written : Writes (classes.flatMap ClassText.lexemes) source) :
    Program.ofSource limit source = ⟨classes.map ClassText.declared, [], []⟩ := by
  obtain ⟨spelled, strays⟩ := scan_writes written
  obtain ⟨decls, split, kinds, same⟩ := Spelled.flatMap Spelled.classDecl spelled
  have parsed : parse limit (scan source).tokens = ⟨decls, []⟩ := parse_eq_iff_derives.mpr ⟨kinds, split⟩
  rw [Program.ofSource, analyze_eq_ok strays parsed, Program.ofDecls, same]

def bookText : ClassText where
  name := ⟨"Book", ⟨by decide, List.all_eq_true.mp (by decide)⟩, fun word => by cases word <;> decide⟩
  fields :=
    [{ owner := ⟨"A", ⟨by decide, List.all_eq_true.mp (by decide)⟩, fun word => by cases word <;> decide⟩
       name := ⟨"//x\ny", by decide⟩
       default? := some ⟨"define", by decide⟩ }]

def bookSource : String :=
  "// the \"shelf\"\ndefine Book\u00a0A has field//x\n\"//x\ny\" has default \"define\"\n"

theorem ofSource_of_writes_book : Writes ([bookText].flatMap ClassText.lexemes) bookSource ∧
    Program.ofSource none bookSource = ⟨[⟨"Book", [⟨"//x\ny", none⟩], []⟩], [], []⟩ := by
  have space : Layout [' '] := .blank (by decide) .nil
  have noBreak : Layout ['\u00a0'] := .blank (by decide) .nil
  have feed : Layout ['\n'] := .blank (by decide) .nil
  have remark : Layout ('/' :: '/' :: ['x'] ++ ['\n']) := .comment (by decide) .nil
  have margin : Layout ('/' :: '/' :: " the \"shelf\"".toList ++ ['\n']) := .comment (by decide) .nil
  have written : Writes ([bookText].flatMap ClassText.lexemes) bookSource :=
    ⟨_, _, margin, .cons space nofun (.cons noBreak nofun (.cons space nofun (.cons space nofun (.cons remark nofun
      (.cons space nofun (.cons space nofun (.cons space nofun (.cons feed nofun .nil)))))))), by decide +kernel⟩
  exact ⟨written, ofSource_of_writes none written⟩

end ClassScript
