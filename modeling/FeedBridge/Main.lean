import FeedBridge.Console.Program

namespace FeedBridge.Console

def binding? (text : String) : Option (String × String) :=
  match text.toList.span (· != '=') with
  | (name, _ :: value) => some (String.ofList name, String.ofList value)
  | _ => none

/-- The variables in a block of texts that zero bytes end. What is not UTF-8 sets nothing. -/
def variablesOf (block : ByteArray) : List (String × String) :=
  (block.data.toList.splitOnP (· = 0)).filterMap fun bytes =>
    (String.fromUTF8? ⟨bytes.toArray⟩).bind binding?

def withoutLineEnd (line : String) : String :=
  String.ofList (EnvFile.dropLineBreak line.toList)

def unreachable : Trading.Planned where
  ending := .reply (.error (.request "Network is unreachable (os error 101)"))

def readFile? (path : String) : IO (Option ByteArray) := do
  match ← (IO.FS.readBinFile path).toBaseIO with
  | .ok content => return some content
  | .error _ => return none

def readEntry (path : String) : IO EnvFile.Entry := do
  match ← (IO.FS.readBinFile path).toBaseIO with
  | .ok content => return .file (.ok content)
  | .error (.permissionDenied ..) =>
    return .file (.error (.unreadable "Permission denied (os error 13)"))
  | .error _ => return .nothing

def withParents : List String → List String
  | [] => ["/"]
  | part :: above =>
    ("/" ++ String.intercalate "/" (part :: above).reverse ++ "/") :: withParents above

def readPlaces (directory : String) : IO (List EnvFile.Place) :=
  let parts := (directory.splitOn "/").filter fun part => !part.isEmpty
  (withParents parts.reverse).mapM fun directory => do
    let path := directory ++ EnvFile.fileName
    return ⟨path, ← readEntry path⟩

partial def readLines (console : IO.FS.Stream) : IO (List String) := do
  let line ← console.getLine
  if line.isEmpty then return []
  return withoutLineEnd line :: (← readLines console)

def Printed.print : Printed → IO Unit
  | out text => IO.println text
  | err text => IO.eprintln text

def runProcess : IO UInt32 := do
  let found := variablesOf ((← readFile? "/proc/self/environ").getD .empty)
  let finish := run {
    process := fun name => found.lookup name
    places := ← readPlaces (← IO.currentDir).toString
    lines := ← readLines (← IO.getStdin)
    network := .down
    script := { inOrder := [unreachable] } }
  finish.printed.forM Printed.print
  return UInt32.ofNat finish.exitCode

end FeedBridge.Console

def main : IO UInt32 := FeedBridge.Console.runProcess
