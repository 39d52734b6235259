import Handoff.Registry
import Handoff.Stage
/-!
# The pass-through stage in registries
-/
namespace Handoff.Stage

def spec : TypeSpec Stage where
  constructor _ := .ok create
  description := description

/-- The registry that holds the pass-through stage alone. -/
def defaultRegistry : Registry Stage := (Registry.empty.register typeName spec).1

end Handoff.Stage
