import ClassScript.Program.Basic
import ClassScript.Proofs.Syntax.Balance
import ClassScript.Proofs.Syntax.Relabel
import Mathlib.Algebra.GroupWithZero.Nat
import Mathlib.Data.List.ModifyLast

namespace ClassScript

variable {opened : List ClassDef} {definition : ClassDef} {tokens rest : List Token}

def between (image : String) : String :=
  if image.length < 2 then "" else String.ofList ((image.toList.take (image.length - 1)).drop 1)

def ClassDef.withField (definition : ClassDef) (field : FieldDef) : ClassDef :=
  { definition with fields := definition.fields ++ [field] }

/-- The classes opened so far, when a token is passed and another comes next. -/
def note (opened : List ClassDef) (token next : Token) : List ClassDef :=
  match token.kind with
  | .keyword .define => opened ++ [.named next.image]
  | .keyword .field => opened.modifyLast fun definition => definition.withField ⟨between next.image, none⟩
  | _ => opened

def skim (opened : List ClassDef) : List Token → List ClassDef
  | token :: next :: rest => skim (note opened token next) (next :: rest)
  | _ => opened

theorem unquote_eq_between (image : String) : unquote image = between image := by
  unfold unquote between
  split
  · rename_i short
    have single : (image.toList.drop 1).length ≤ 0 := by
      rw [List.length_drop, String.length_toList]
      omega
    rw [List.length_eq_zero_iff.mp (Nat.le_zero.mp single)]
    rfl
  · rw [List.dropLast_eq_take, List.length_drop, String.length_toList, List.drop_take]

theorem skim_cons_of_plain {token : Token} (noDefine : token.kind ≠ .keyword .define)
    (noField : token.kind ≠ .keyword .field) (rest : List Token) : skim opened (token :: rest) = skim opened rest := by
  have passed (next : Token) : note opened token next = opened := by
    unfold note
    split <;> simp_all
  cases rest with
  | nil => rfl
  | cons next rest => rw [skim, passed]

theorem skim_define {define next : Token} (kind : define.kind = .keyword .define) (rest : List Token) :
    skim opened (define :: next :: rest) = skim (opened ++ [.named next.image]) (next :: rest) := by
  rw [skim, note, kind]

theorem skim_field {field next : Token} (kind : field.kind = .keyword .field) (rest : List Token) :
    skim (opened ++ [definition]) (field :: next :: rest) =
      skim (opened ++ [definition.withField ⟨between next.image, none⟩]) (next :: rest) := by
  rw [skim, note, kind]
  simp only [List.modifyLast_concat]

theorem DefaultClause.skim_tokens {clause : DefaultClause} (kinds : clause.WellKinded) (rest : List Token) :
    skim opened (clause.tokens ++ rest) = skim opened rest := by
  obtain ⟨has, default, literal⟩ := kinds
  simp [DefaultClause.tokens, skim_cons_of_plain, has, default, literal]

theorem FieldDecl.skim_tokens {decl : FieldDecl} (kinds : decl.WellKinded) (rest : List Token) :
    skim (opened ++ [definition]) (decl.tokens ++ rest) = skim (opened ++ [definition.withField decl.declared]) rest := by
  obtain ⟨owner, has, field, name, clause⟩ := kinds
  have skipped : skim (opened ++ [definition.withField decl.declared])
      (decl.default?.elim [] DefaultClause.tokens ++ rest) =
        skim (opened ++ [definition.withField decl.declared]) rest := by
    cases given : decl.default? with
    | none => rfl
    | some default =>
      -- Its literal is a string like the name of a field, but there is no `field` in front of it.
      exact DefaultClause.skim_tokens (clause default given) rest
  rw [FieldDecl.tokens, List.cons_append, List.cons_append, List.cons_append, List.cons_append,
    skim_cons_of_plain (by simp [owner]) (by simp [owner]), skim_cons_of_plain (by simp [has]) (by simp [has]),
    skim_field field, skim_cons_of_plain (by simp [name]) (by simp [name]), ← unquote_eq_between]
  exact skipped

theorem FieldDecl.skim_flatMap {decls : List FieldDecl} (kinds : ∀ decl ∈ decls, decl.WellKinded) (rest : List Token) :
    skim (opened ++ [definition]) (decls.flatMap FieldDecl.tokens ++ rest) =
      skim (opened ++ [{ definition with fields := definition.fields ++ decls.map FieldDecl.declared }]) rest := by
  induction decls generalizing definition with
  | nil => simp
  | cons decl later ih =>
    obtain ⟨declKinds, laterKinds⟩ := List.forall_mem_cons.mp kinds
    rw [List.flatMap_cons, List.append_assoc, FieldDecl.skim_tokens declKinds, ih laterKinds]
    simp [ClassDef.withField]

theorem ClassDecl.skim_tokens {decl : ClassDecl} (kinds : decl.WellKinded) (rest : List Token) :
    skim opened (decl.tokens ++ rest) = skim (opened ++ [decl.declared]) rest := by
  obtain ⟨define, name, fields⟩ := kinds
  rw [ClassDecl.tokens, List.cons_append, List.cons_append, skim_define define,
    skim_cons_of_plain (by simp [name]) (by simp [name]), FieldDecl.skim_flatMap fields]
  rfl

theorem skim_flatMap {classes : List ClassDecl} (kinds : ∀ decl ∈ classes, decl.WellKinded) :
    skim opened (classes.flatMap ClassDecl.tokens) = opened ++ classes.map ClassDecl.declared := by
  induction classes generalizing opened with
  | nil => simp [skim]
  | cons decl later ih =>
    obtain ⟨declKinds, laterKinds⟩ := List.forall_mem_cons.mp kinds
    rw [List.flatMap_cons, ClassDecl.skim_tokens declKinds, ih laterKinds]
    simp

theorem Derives.skim {classes : List ClassDecl} (derived : Derives classes tokens) :
    skim [] tokens = classes.map ClassDecl.declared := by
  rw [← derived.split, skim_flatMap derived.kinds, List.nil_append]

def fieldCount (tokens : List Token) : Nat := tokens.countP fun token => token.kind == .keyword .field

theorem FieldDecl.WellKinded.fieldCount {decl : FieldDecl} (kinds : decl.WellKinded) : fieldCount decl.tokens = 1 := by
  obtain ⟨owner, has, field, name, clause⟩ := kinds
  cases given : decl.default? with
  | none => simp [ClassScript.fieldCount, FieldDecl.tokens, given, owner, has, field, name]
  | some default =>
    obtain ⟨clauseHas, clauseDefault, literal⟩ := clause default given
    simp [ClassScript.fieldCount, FieldDecl.tokens, DefaultClause.tokens, given, owner, has, field, name, clauseHas,
      clauseDefault, literal]

theorem countP_flatMap_of_each {Tree : Type} {counts : Token → Bool} {flatten : Tree → List Token} {count : Tree → Nat}
    {trees : List Tree} (each : ∀ tree ∈ trees, (flatten tree).countP counts = count tree) :
    (trees.flatMap flatten).countP counts = (trees.map count).sum := by
  rw [List.countP_flatMap]
  exact congrArg List.sum (List.map_congr_left each)

theorem ClassDecl.WellKinded.fieldCount {decl : ClassDecl} (kinds : decl.WellKinded) :
    fieldCount decl.tokens = decl.fields.length := by
  obtain ⟨define, name, fields⟩ := kinds
  have body := countP_flatMap_of_each fun field member => (fields field member).fieldCount
  simpa [ClassScript.fieldCount, ClassDecl.tokens, define, name] using body

theorem Derives.defineCount {classes : List ClassDecl} (derived : Derives classes tokens) :
    defineCount tokens = classes.length := by
  have whole := countP_flatMap_of_each fun decl member => (derived.kinds decl member).defineCount
  rw [derived.split] at whole
  simpa [ClassScript.defineCount] using whole

theorem Derives.fieldCount {classes : List ClassDecl} (derived : Derives classes tokens) :
    fieldCount tokens = (classes.map fun decl => decl.fields.length).sum := by
  rw [← derived.split]
  exact countP_flatMap_of_each fun decl member => (derived.kinds decl member).fieldCount

inductive SameNames : List Token → List Token → Prop
  | nil : SameNames [] []
  | cons {token other : Token} {rest others : List Token} (kind : other.kind = token.kind)
      (name : token.kind = .keyword .define ∨ token.kind = .keyword .field →
        others.head?.map Token.image = rest.head?.map Token.image)
      (later : SameNames rest others) : SameNames (token :: rest) (other :: others)

theorem SameNames.kinds {other : List Token} (same : SameNames tokens other) :
    other.map Token.kind = tokens.map Token.kind := by
  induction same with
  | nil => rfl
  | cons kind name later ih => rw [List.map_cons, List.map_cons, kind, ih]

theorem SameNames.skim {other : List Token} (same : SameNames tokens other) (opened : List ClassDef) :
    skim opened other = skim opened tokens := by
  induction same generalizing opened with
  | nil => rfl
  | @cons token replaced rest others kind name later ih =>
    cases later with
    | nil => rfl
    | @cons next following rest others _ _ _ =>
      have noted : note opened replaced following = note opened token next := by
        unfold note
        rw [kind]
        split
        · have image : following.image = next.image := Option.some.inj (name (Or.inl ‹_›))
          rw [image]
        · have image : following.image = next.image := Option.some.inj (name (Or.inr ‹_›))
          rw [image]
        · rfl
      rw [ClassScript.skim, noted, ih, ← ClassScript.skim]

theorem SameNames.derives {other : List Token} {classes : List ClassDecl} (same : SameNames tokens other)
    (derived : Derives classes tokens) : ∃ others, Derives others other := by
  have errors := (sameShape_of_kinds same.kinds none).errors
  rw [parse_eq_iff_derives.mpr derived, List.map_nil, List.map_eq_nil_iff] at errors
  exact parse_errors_eq_nil_iff.mp errors

/-- The program of a token list that is parsed without an error is what one pass over the tokens finds: a class for each
    `define`, and in the last class a field for each `field`, named by the token behind. No other image and no position
    counts. -/
theorem declared_in_one_pass {limit : Limit} {tokens : List Token} (sound : (parse limit tokens).errors = []) :
    Program.ofDecls (parse limit tokens).classes = ⟨skim [] tokens, [], []⟩ ∧
    (skim [] tokens).length = defineCount tokens ∧
    ((skim [] tokens).map fun definition => definition.fields.length).sum = fieldCount tokens ∧
    ∀ other, SameNames tokens other →
      Program.ofDecls (parse limit other).classes = Program.ofDecls (parse limit tokens).classes := by
  obtain ⟨classes, derived⟩ := parse_errors_eq_nil_iff.mp sound
  have program : Program.ofDecls (parse limit tokens).classes = ⟨skim [] tokens, [], []⟩ := by
    rw [parse_eq_iff_derives.mpr derived, derived.skim, Program.ofDecls]
  refine ⟨program, ?_, ?_, ?_⟩
  · rw [derived.skim, List.length_map, derived.defineCount]
  · rw [derived.skim, derived.fieldCount, List.map_map]
    simp [Function.comp_def, ClassDecl.declared]
  · intro other same
    obtain ⟨others, otherDerived⟩ := same.derives derived
    rw [program, parse_eq_iff_derives.mpr otherDerived, ← same.skim, otherDerived.skim, Program.ofDecls]

def boxTokens (owner default : String) (place : Position) : List Token :=
  [⟨.keyword .define, "define", place⟩, ⟨.identifier, "Box", place⟩, ⟨.identifier, owner, place⟩,
    ⟨.keyword .has, "has", place⟩, ⟨.keyword .field, "field", place⟩, ⟨.string, "\"", place⟩,
    ⟨.keyword .has, "has", place⟩, ⟨.keyword .default, "default", place⟩, ⟨.string, default, place⟩]

theorem declared_in_one_pass_box :
    (parse none (boxTokens "Box" "\"field\"" .start)).errors = [] ∧
    Program.ofDecls (parse none (boxTokens "Box" "\"field\"" .start)).classes = ⟨[⟨"Box", [⟨"", none⟩], []⟩], [], []⟩ ∧
    SameNames (boxTokens "Box" "\"field\"" .start) (boxTokens "Lid" "" ⟨7, 2, 3⟩) ∧
    Program.ofDecls (parse none (boxTokens "Lid" "" ⟨7, 2, 3⟩)).classes = ⟨[⟨"Box", [⟨"", none⟩], []⟩], [], []⟩ := by
  have sound : (parse none (boxTokens "Box" "\"field\"" .start)).errors = [] := by decide +kernel
  have same : SameNames (boxTokens "Box" "\"field\"" .start) (boxTokens "Lid" "" ⟨7, 2, 3⟩) := by
    unfold boxTokens
    repeat' constructor
    all_goals simp
  obtain ⟨program, _, _, others⟩ := declared_in_one_pass sound
  exact ⟨sound, program, same, (others _ same).trans program⟩

end ClassScript
