import Handoff.Named
import Handoff.Text.Utf8
/-!
# Environment variables

The variables that are set, each with its bytes. A value that is not UTF-8 reads as if the variable
were not set.
-/
namespace Handoff

structure Environment where
  values : Named Bytes := {}

namespace Environment

def text? (env : Environment) (name : String) : Option String :=
  (env.values.get? name).bind Text.Utf8.decode?

def isSet (env : Environment) (name : String) : Bool := (env.text? name).isSome

end Environment
end Handoff
