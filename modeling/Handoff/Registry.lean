import Handoff.Event
import Handoff.Settings.Buffer
/-!
# Registry of buffer types

A registry holds, for every type it knows, how to construct a stage of that type and a description.
Registering a type again replaces what was there. The kind of stage is a parameter.
-/
namespace Handoff

structure TypeSpec (σ : Type) where
  constructor : BufferSettings → Except ConstructionError σ
  description : String

structure Registry (σ : Type) where
  specs : Named (TypeSpec σ) := {}
  /-- No type has two specs. -/
  distinct : specs.names.Nodup := by exact List.nodup_nil

namespace Registry

variable {σ : Type}

def empty : Registry σ := {}

/-- Registers a type, with the event that reports it. -/
def register (r : Registry σ) (name : String) (spec : TypeSpec σ) : Registry σ × Event :=
  ({ specs := r.specs.put name spec, distinct := Named.nodup_names_put r.distinct name spec },
    if r.specs.contains name then .typeReplaced name else .typeRegistered name)

def contains (r : Registry σ) (name : String) : Bool := r.specs.contains name

/-- The registered names in ascending order. -/
def names (r : Registry σ) : List String := r.specs.names.mergeSort fun a b => a ≤ b

def description? (r : Registry σ) (name : String) : Option String :=
  (r.specs.get? name).map (·.description)

/-- Constructs a stage of the chosen type. The choice is validated before it is looked up. -/
def construct (r : Registry σ) (settings : BufferSettings) :
    Except ConstructionError σ × List Event :=
  match settings.validate with
  | .error e => (.error e, [])
  | .ok _ =>
    match r.specs.get? settings.typeName with
    | none => (.error (.unknownType settings.typeName), [])
    | some spec => (spec.constructor settings, [.constructing settings.typeName])

end Registry
end Handoff
