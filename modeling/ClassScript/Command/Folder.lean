namespace ClassScript.Command

inductive ReadFault where
  | missing
  | folder
  | notFolder
  | notText
  | other (reason : String)
  deriving DecidableEq

def ReadFault.message : ReadFault → String
  | .missing => "No such file or directory (os error 2)"
  | .folder => "Is a directory (os error 21)"
  | .notFolder => "Not a directory (os error 20)"
  | .notText => "stream did not contain valid UTF-8"
  | .other reason => reason

abbrev Source := Except ReadFault String

def Source.ofBytes (bytes : ByteArray) : Source :=
  match String.fromUTF8? bytes with
  | some text => .ok text
  | none => .error .notText

/-- The files below one folder, each with the names that lead to it. -/
structure Folder where
  files : List (List String × ByteArray)

namespace Folder

def isStay (name : String) : Bool := name == "" || name == "."

/-- A path that leaves the folder; nothing but folders is known to be there. -/
def outside (names : List String) : Source :=
  if names.all fun name => isStay name || name == ".." then .error .folder else .error .missing

/-- Follows the names of a path from a folder that `above` leads to, innermost name first. -/
def walk (folder : Folder) (above : List String) : List String → Source
  | [] => .error .folder
  | name :: names =>
    if isStay name then folder.walk above names
    else if name == ".." then
      match above with
      | [] => outside names
      | _ :: above => folder.walk above names
    else
      let here := (name :: above).reverse
      match folder.files.lookup here with
      | some bytes => if names.isEmpty then Source.ofBytes bytes else .error .notFolder
      | none =>
        if folder.files.any fun file => here.isPrefixOf file.1 then folder.walk (name :: above) names
        else .error .missing

def namesOfPath (path : String) : List String := path.splitOn "/"

def read (folder : Folder) (path : String) : Source :=
  if path.isEmpty then .error .missing
  else
    match namesOfPath path with
    | "" :: names => outside names
    | names => folder.walk [] names

end Folder

/-- Whether a path is `-`, up to empty names and stays behind it. -/
def isInput (path : String) : Bool :=
  match Folder.namesOfPath path with
  | "-" :: names => names.all Folder.isStay
  | _ => false

def sourceAt {Reading : Type} (input : Reading) (file : String → Reading) (path : String) : Reading :=
  if isInput path then input else file path

end ClassScript.Command
