import ClassScript.Program.Bindings
import ClassScript.Syntax.Tree

namespace ClassScript

structure FieldDef where
  name : String
  default? : Option Literal

structure MethodDef where
  name : String

structure ClassDef where
  name : String
  fields : List FieldDef
  methods : List MethodDef

namespace ClassDef

def named (name : String) : ClassDef := ⟨name, [], []⟩

def field? (definition : ClassDef) (name : String) : Option FieldDef :=
  definition.fields.find? fun field => field.name == name

def fieldNames (definition : ClassDef) : List String := definition.fields.map FieldDef.name

end ClassDef

structure Instance where
  name : String
  className : String
  values : Bindings

structure Program where
  classes : List ClassDef
  instances : List Instance
  errors : List String

namespace Program

def failed (errors : List String) : Program := ⟨[], [], errors⟩

def isOk (program : Program) : Bool := program.errors.isEmpty

def class? (program : Program) (name : String) : Option ClassDef :=
  program.classes.find? fun definition => definition.name == name

end Program

def unquote (image : String) : String := String.ofList (image.toList.drop 1).dropLast

/-- Only the name of a field counts: its owner is not looked at, and its default is not evaluated. -/
def FieldDecl.declared (decl : FieldDecl) : FieldDef := ⟨unquote decl.name.image, none⟩

def ClassDecl.declared (decl : ClassDecl) : ClassDef := ⟨decl.name.image, decl.fields.map FieldDecl.declared, []⟩

def Program.ofDecls (decls : List ClassDecl) : Program := ⟨decls.map ClassDecl.declared, [], []⟩

end ClassScript
