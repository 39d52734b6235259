import Handoff.Environment
import Handoff.Errors
import Handoff.Json.Record
import Handoff.Text.Blank
import Handoff.Text.Lowercase
/-!
# Choice of the buffer

Which type of buffer stage a pipeline runs. As text it is an object with the one member `type`,
which may be missing.
-/
namespace Handoff

structure BufferSettings where
  typeName : String := "none"
deriving DecidableEq, Repr

namespace BufferSettings

def default : BufferSettings := {}

/-- The default, unless the environment chooses. Case and blanks around the name do not matter. -/
def ofEnvironment (env : Environment) : BufferSettings :=
  match env.text? "PIPELINE_BUFFER_TYPE" with
  | some value => ⟨String.ofList (Text.lowercase (Text.trim value.toList))⟩
  | none => default

/-- No stage has a blank type. -/
def validate (s : BufferSettings) : Except ConstructionError Unit :=
  if (Text.trim s.typeName.toList).isEmpty then
    .error (.invalidConfig "buffer type must not be empty")
  else .ok ()

def fieldName : List Char := ['t', 'y', 'p', 'e']

def toText (s : BufferSettings) : List Char :=
  '{' :: Json.quote fieldName ++ ':' :: Json.quote s.typeName.toList ++ ['}']

def read : Json.Reader BufferSettings := fun text =>
  match Json.readRecord fieldName Json.readText (some default.typeName.toList) text with
  | .error e => .error e
  | .ok (name, rest) => .ok (⟨String.ofList name⟩, rest)

/-- The choice a text holds. -/
def ofText? (text : List Char) : Except Json.Fault BufferSettings := Json.readAll read text

end BufferSettings
end Handoff
