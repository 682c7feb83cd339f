/-!
# Things known by name
-/

namespace MapleBus.Bench

/-- Values by name; each name occurs once. -/
structure Registry (α : Type) where
  entries : List (String × α) := []

namespace Registry

variable {α : Type}

/-- The value of a name. -/
def get? (registry : Registry α) (name : String) : Option α :=
  registry.entries.lookup name

/-- Give a name a value, in place of any it has. -/
def put (registry : Registry α) (name : String) (value : α) : Registry α :=
  ⟨(name, value) :: registry.entries.filter fun entry => entry.1 != name⟩

end Registry

end MapleBus.Bench
