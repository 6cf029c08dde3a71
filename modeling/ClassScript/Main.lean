import ClassScript.Command.Response

namespace ClassScript.Command

def ReadFault.ofError : IO.Error → ReadFault
  | .noFileOrDirectory .. => .missing
  | .inappropriateType _ code _ => if code = 21 then .folder else .notFolder
  | error => .other (toString error)

def loadFile (path : String) : IO Source := do
  try
    let bytes ← sourceAt (do (← IO.getStdin).readBinToEnd) (fun file => IO.FS.readBinFile file) path
    return Source.ofBytes bytes
  catch error => return .error (.ofError error)

end ClassScript.Command

open ClassScript.Command in
def main (arguments : List String) : IO UInt32 := do
  let request := Request.ofArguments arguments
  let source ← match request with
    | .invoke invocation => loadFile invocation.file
    | _ => pure (.ok "")
  let response := request.respond fun _ => source
  (← IO.getStdout).putStr response.stdout
  (← IO.getStderr).putStr response.stderr
  return response.status.toUInt32
