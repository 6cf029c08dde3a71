import ClassScript.Program.Json
import ClassScript.Syntax.Json

namespace ClassScript

namespace Json

variable {α : Type}

theorem mapM_map {β γ : Type} {encode : α → β} {decode : β → Option γ} {view : α → γ} {values : List α}
    (read : ∀ value ∈ values, decode (encode value) = some (view value)) :
    (values.map encode).mapM decode = some (values.map view) := by
  induction values with
  | nil => rfl
  | cons value values ih =>
    obtain ⟨here, later⟩ := List.forall_mem_cons.mp read
    simp [here, ih later]

theorem mapM_map_of_inverse {β : Type} {encode : α → β} {decode : β → Option α} {values : List α}
    (inverse : ∀ value ∈ values, decode (encode value) = some value) :
    (values.map encode).mapM decode = some values := by
  rw [mapM_map inverse, List.map_id']

theorem list?_ofList {encode : α → Json} {decode : Json → Option α} {values : List α}
    (inverse : ∀ value ∈ values, decode (encode value) = some value) :
    (ofList encode values).list? decode = some values := mapM_map_of_inverse inverse

theorem nat?_nat {bits value : Nat} (fits : value < 1 <<< bits) : (nat value).nat? bits = some value := by
  simp [nat, nat?, fits]

theorem option?_of_present {json : Json} {decode : Json → Option α} {value : α} (present : json ≠ .null)
    (inverse : decode json = some value) : json.option? decode = some (some value) := by
  cases json with
  | null => exact absurd rfl present
  | _ => exact congrArg (Option.map some) inverse

theorem option?_ofOption {encode : α → Json} {decode : Json → Option α} {value? : Option α}
    (inverse : ∀ value ∈ value?, decode (encode value) = some value) (present : ∀ value, encode value ≠ .null) :
    (ofOption encode value?).option? decode = some value? := by
  cases value? with
  | none => rfl
  | some value => exact option?_of_present (present value) (inverse value rfl)

end Json

structure Position.Fits (position : Position) : Prop where
  offset : position.offset < 1 <<< 64
  line : position.line < 1 <<< 32
  column : position.column < 1 <<< 32

theorem Position.ofJson?_toJson {position : Position} (fits : position.Fits) :
    ofJson? position.toJson = some position := by
  simp [ofJson?, toJson, Json.fields?, List.lookup_cons, Json.nat?_nat fits.offset, Json.nat?_nat fits.line,
    Json.nat?_nat fits.column]

theorem Kind.ofJson?_toJson (kind : Kind) : ofJson? kind.toJson = some kind := kind.ofName?_name

theorem Rule.ofJson?_toJson (rule : Rule) : ofJson? rule.toJson = some rule := rule.ofName?_name

theorem Token.ofJson?_toJson {token : Token} (fits : token.position.Fits) : ofJson? token.toJson = some token := by
  simp [ofJson?, toJson, Json.fields?, List.lookup_cons, Json.str?, Kind.ofJson?_toJson, Position.ofJson?_toJson fits]

theorem Stray.ofJson?_toJson {stray : Stray} (fits : stray.position.Fits) : ofJson? stray.toJson = some stray := by
  simp [ofJson?, toJson, Json.fields?, List.lookup_cons, Json.str?, Position.ofJson?_toJson fits]

structure SyntaxError.Fits (error : SyntaxError) : Prop where
  position : error.position.Fits
  found : ∀ token ∈ error.found?, token.position.Fits

theorem SyntaxError.ofJson?_toJson {error : SyntaxError} (fits : error.Fits) : ofJson? error.toJson = some error := by
  have found := Json.option?_ofOption (fun token member => Token.ofJson?_toJson (fits.found token member)) nofun
  simp [ofJson?, toJson, Json.fields?, List.lookup_cons, Rule.ofJson?_toJson, Kind.ofJson?_toJson, found,
    Position.ofJson?_toJson fits.position]

def Literal.IsFinite : Literal → Prop
  | .number value => value.isFinite = true
  | _ => True

theorem Literal.ofJson?_toJson {literal : Literal} (finite : literal.IsFinite) :
    ofJson? literal.toJson = some literal := by
  cases literal with
  | number value =>
    have written : value.isFinite = true := finite
    rw [toJson, if_pos written]
    rfl
  | _ => rfl

theorem Literal.toJson_ne_null {literal : Literal} (finite : literal.IsFinite) : literal.toJson ≠ .null := by
  intro same
  have read := ofJson?_toJson finite
  rw [same] at read
  cases read

theorem FieldDef.ofJson?_toJson {field : FieldDef} (finite : ∀ value ∈ field.default?, value.IsFinite) :
    ofJson? field.toJson = some field := by
  obtain ⟨name, default?⟩ := field
  cases default? with
  | none => rfl
  | some value =>
    have writable : value.IsFinite := finite value rfl
    have default := Json.option?_of_present (Literal.toJson_ne_null writable) (Literal.ofJson?_toJson writable)
    simp [ofJson?, toJson, Json.fields?, List.lookup_cons, Json.str?, default]

theorem MethodDef.ofJson?_toJson (method : MethodDef) : ofJson? method.toJson = some method := rfl

theorem ClassDef.ofJson?_toJson {definition : ClassDef}
    (finite : ∀ field ∈ definition.fields, ∀ value ∈ field.default?, value.IsFinite) :
    ofJson? definition.toJson = some definition := by
  have fields : (Json.ofList FieldDef.toJson definition.fields).list? FieldDef.ofJson? = some definition.fields :=
    Json.list?_ofList fun field member => FieldDef.ofJson?_toJson (finite field member)
  have methods : (Json.ofList MethodDef.toJson definition.methods).list? MethodDef.ofJson? = some definition.methods :=
    Json.list?_ofList fun method _ => method.ofJson?_toJson
  simp [ofJson?, toJson, Json.fields?, List.lookup_cons, Json.str?, fields, methods]

theorem Bindings.ofJson?_toJson {bindings : Bindings} (finite : ∀ entry ∈ bindings.entries, entry.2.IsFinite) :
    ofJson? bindings.toJson = some bindings := by
  have read : ∀ entry ∈ bindings.entries,
      (do return (entry.1, ← Literal.ofJson? entry.2.toJson)) = some entry := by
    intro entry member
    rw [Literal.ofJson?_toJson (finite entry member)]
    rfl
  rw [toJson, ofJson?, Json.mapM_map_of_inverse read]
  exact congrArg some bindings.ofList_entries

theorem Instance.ofJson?_toJson {object : Instance} (finite : ∀ entry ∈ object.values.entries, entry.2.IsFinite) :
    ofJson? object.toJson = some object := by
  simp [ofJson?, toJson, Json.fields?, List.lookup_cons, Json.str?, Bindings.ofJson?_toJson finite]

structure Program.FiniteNumbers (program : Program) : Prop where
  defaults : ∀ definition ∈ program.classes, ∀ field ∈ definition.fields, ∀ value ∈ field.default?, value.IsFinite
  values : ∀ object ∈ program.instances, ∀ entry ∈ object.values.entries, entry.2.IsFinite

theorem Program.ofJson?_toJson {program : Program} (finite : program.FiniteNumbers) :
    ofJson? program.toJson = some program := by
  have classes : (Json.ofList ClassDef.toJson program.classes).list? ClassDef.ofJson? = some program.classes :=
    Json.list?_ofList fun definition member => ClassDef.ofJson?_toJson (finite.defaults definition member)
  have instances : (Json.ofList Instance.toJson program.instances).list? Instance.ofJson? = some program.instances :=
    Json.list?_ofList fun object member => Instance.ofJson?_toJson (finite.values object member)
  have errors : (Json.ofList Json.str program.errors).list? Json.str? = some program.errors :=
    Json.list?_ofList fun message _ => rfl
  simp [ofJson?, toJson, Json.fields?, List.lookup_cons, classes, instances, errors]

/-- Every program with finite numbers, and every token, stray run and syntax error with positions of the widths that are
    read, is read back from its JSON form as it was. So fields that differ, be it in a default that one of them lacks,
    still do so behind the round trip. -/
theorem json_form_lossless :
    (∀ program : Program, program.FiniteNumbers → Program.ofJson? program.toJson = some program) ∧
    (∀ token : Token, token.position.Fits → Token.ofJson? token.toJson = some token) ∧
    (∀ stray : Stray, stray.position.Fits → Stray.ofJson? stray.toJson = some stray) ∧
    (∀ error : SyntaxError, error.Fits → SyntaxError.ofJson? error.toJson = some error) ∧
    ∀ left right : FieldDef, (∀ value ∈ left.default?, value.IsFinite) → (∀ value ∈ right.default?, value.IsFinite) →
      (FieldDef.ofJson? left.toJson = FieldDef.ofJson? right.toJson ↔ left = right) := by
  refine ⟨fun _ => Program.ofJson?_toJson, fun _ => Token.ofJson?_toJson, fun _ => Stray.ofJson?_toJson,
    fun _ => SyntaxError.ofJson?_toJson, ?_⟩
  intro left right leftFinite rightFinite
  rw [FieldDef.ofJson?_toJson leftFinite, FieldDef.ofJson?_toJson rightFinite, Option.some.injEq]

def stockProgram : Program where
  classes :=
    [⟨"Shelf", [⟨"owner", none⟩, ⟨"open", some (.bool false)⟩, ⟨"depth", some (.number 0)⟩, ⟨"label", some (.text "")⟩,
      ⟨"code", some (.text "0")⟩, ⟨"open", some (.text "false")⟩], [⟨"fill"⟩, ⟨"clear"⟩]⟩]
  instances := [⟨"low", "Shelf", ⟨[("code", .number 1.5), ("open", .bool true)], by decide⟩⟩]
  errors := ["late", ""]

def ofToken : Token := ⟨.keyword .of, "of", .start⟩

theorem json_form_lossless_stock :
    stockProgram.FiniteNumbers ∧ Position.start.Fits ∧ Program.ofJson? stockProgram.toJson = some stockProgram ∧
    Token.ofJson? ofToken.toJson = some ofToken ∧ Stray.ofJson? (Stray.toJson ⟨.start, "é#"⟩) = some ⟨.start, "é#"⟩ ∧
    SyntaxError.ofJson? (SyntaxError.toJson ⟨.literal, .string, some ofToken, .start⟩) =
      some ⟨.literal, .string, some ofToken, .start⟩ ∧
    FieldDef.ofJson? (FieldDef.toJson ⟨"open", some (.bool false)⟩) ≠
      FieldDef.ofJson? (FieldDef.toJson ⟨"open", some (.text "false")⟩) := by
  have zero : Float.isFinite 0 = true := by decide
  have half : Float.isFinite 1.5 = true := by decide
  have values : ∀ entry ∈ [("code", Literal.number 1.5), ("open", .bool true)], entry.2.IsFinite :=
    List.forall_mem_cons.mpr ⟨half, List.forall_mem_singleton.mpr trivial⟩
  have finite : stockProgram.FiniteNumbers :=
    ⟨by simp [stockProgram, Literal.IsFinite, zero], List.forall_mem_singleton.mpr values⟩
  have start : Position.start.Fits := ⟨by decide, by decide, by decide⟩
  obtain ⟨programs, tokens, strays, errors, fields⟩ := json_form_lossless
  refine ⟨finite, start, programs _ finite, tokens _ start, strays _ start, errors _ ⟨start, ?_⟩, ?_⟩
  · rintro _ ⟨⟩
    exact start
  · rw [ne_eq, fields _ _ (by simp [Literal.IsFinite]) (by simp [Literal.IsFinite])]
    simp

end ClassScript
