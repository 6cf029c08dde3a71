import ClassScript.Json.Basic
import ClassScript.Program.Basic

namespace ClassScript

namespace Literal

def toJson : Literal → Json
  | .bool value => .bool value
  | .number value => if value.isFinite then .float value else .null
  | .text value => .str value

def ofInt (value : Int) : Float :=
  if value < 0 then -(Float.ofScientific value.natAbs false 0) else Float.ofScientific value.natAbs false 0

def ofJson? : Json → Option Literal
  | .bool value => some (.bool value)
  | .int value => some (.number (ofInt value))
  | .float value => some (.number value)
  | .str value => some (.text value)
  | _ => none

end Literal

namespace FieldDef

def toJson (field : FieldDef) : Json :=
  .obj (("name", .str field.name) :: field.default?.elim [] fun value => [("default", value.toJson)])

def ofJson? (json : Json) : Option FieldDef := do
  match ← json.fields? ["name", "default"] 1 with
  | [name, default] => return ⟨← (← name).str?, ← Json.option? Literal.ofJson? (default.getD .null)⟩
  | _ => none

end FieldDef

namespace MethodDef

def toJson (method : MethodDef) : Json := .obj [("name", .str method.name)]

def ofJson? (json : Json) : Option MethodDef := do
  match ← json.fields? ["name"] 0 with
  | [name] => return ⟨← (← name).str?⟩
  | _ => none

end MethodDef

namespace ClassDef

def toJson (definition : ClassDef) : Json :=
  .obj [("name", .str definition.name), ("fields", .ofList FieldDef.toJson definition.fields),
    ("methods", .ofList MethodDef.toJson definition.methods)]

def ofJson? (json : Json) : Option ClassDef := do
  match ← json.fields? ["name", "fields", "methods"] 0 with
  | [name, fields, methods] =>
    return ⟨← (← name).str?, ← (← fields).list? FieldDef.ofJson?, ← (← methods).list? MethodDef.ofJson?⟩
  | _ => none

end ClassDef

namespace Bindings

def toJson (bindings : Bindings) : Json :=
  .obj (bindings.entries.map fun entry => (entry.1, entry.2.toJson))

def ofJson? : Json → Option Bindings
  | .obj members => do
    return ofList (← members.mapM fun member => do return (member.1, ← Literal.ofJson? member.2))
  | _ => none

end Bindings

namespace Instance

def toJson (object : Instance) : Json :=
  .obj [("name", .str object.name), ("class_name", .str object.className), ("values", object.values.toJson)]

def ofJson? (json : Json) : Option Instance := do
  match ← json.fields? ["name", "class_name", "values"] 0 with
  | [name, className, values] => return ⟨← (← name).str?, ← (← className).str?, ← Bindings.ofJson? (← values)⟩
  | _ => none

end Instance

namespace Program

def toJson (program : Program) : Json :=
  .obj [("classes", .ofList ClassDef.toJson program.classes),
    ("instances", .ofList Instance.toJson program.instances), ("errors", .ofList .str program.errors)]

def ofJson? (json : Json) : Option Program := do
  match ← json.fields? ["classes", "instances", "errors"] 0 with
  | [classes, instances, errors] =>
    return { classes := ← (← classes).list? ClassDef.ofJson?
             instances := ← (← instances).list? Instance.ofJson?
             errors := ← (← errors).list? Json.str? }
  | _ => none

end Program

end ClassScript
