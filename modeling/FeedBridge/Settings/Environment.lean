import FeedBridge.Settings.EnvFile

namespace FeedBridge

inductive EnvFile.Entry
  | nothing
  | directory
  | file (content : EnvFile.Content)

structure EnvFile.Place where
  path : String
  entry : EnvFile.Entry

structure EnvFile.Nearest where
  level : Nat
  path : String
  content : EnvFile.Content

structure EnvironmentError where
  path : String
  cause : EnvFileError
deriving DecidableEq

structure Environment where
  process : Lookup
  bindings : EnvFile.Bindings := []
  foundAt : Option Nat := none

namespace Environment

/-- The nearest file in a list of places, that in the working directory first. -/
def nearest? : List EnvFile.Place → Option EnvFile.Nearest
  | [] => none
  | ⟨path, .file content⟩ :: _ => some ⟨0, path, content⟩
  | ⟨_, .nothing⟩ :: rest | ⟨_, .directory⟩ :: rest =>
    (nearest? rest).map fun found => { found with level := found.level + 1 }

def load (process : Lookup) (places : List EnvFile.Place) : Except EnvironmentError Environment :=
  match nearest? places with
  | none => .ok { process }
  | some found =>
    match EnvFile.read process found.content with
    | .ok bindings => .ok { process, bindings, foundAt := some found.level }
    | .error cause => .error ⟨found.path, cause⟩

def get? (e : Environment) : Lookup := fun key =>
  match e.process key with
  | some value => some value
  | none => e.bindings.get? key

end Environment

end FeedBridge
