/-!
# Log entries

Operations of the bus note what they do.  A computation with notes is a value
together with its entries in order; the value never depends on the entries, so
a statement about behaviour speaks of the value alone.
-/

namespace MapleBus

namespace Log

/-- The weight of an entry, heaviest first. -/
inductive Level where
  | warn
  | info
  | debug
  | trace
  deriving DecidableEq, Repr

namespace Level

/-- The place of a level, growing as entries become less important. -/
def rank : Level → Nat
  | warn => 0
  | info => 1
  | debug => 2
  | trace => 3

def text : Level → String
  | warn => "WARN"
  | info => "INFO"
  | debug => "DEBUG"
  | trace => "TRACE"

end Level

/-- One note: a fixed message and the values it speaks of. -/
structure Entry where
  level : Level
  message : String
  fields : List (String × String) := []
  deriving DecidableEq, Repr

/-- The line of an entry: level, message and fields. -/
def Entry.text (entry : Entry) : String :=
  " ".intercalate
    (entry.level.text :: entry.message ::
      entry.fields.map fun (name, value) => name ++ "=" ++ value)

/-- The lines of the entries that weigh at least as much as `level`. -/
def lines (level : Level) (entries : List Entry) : List String :=
  (entries.filter fun entry => entry.level.rank ≤ level.rank).map Entry.text

/-- A truth value in a field. -/
def flag (value : Bool) : String :=
  if value then "true" else "false"

end Log

/-- A value and what was noted on the way to it. -/
structure Logged (α : Type) where
  value : α
  entries : List Log.Entry := []

namespace Logged

variable {α β : Type}

instance : Monad Logged where
  pure value := { value }
  bind first next :=
    let second := next first.value
    { value := second.value, entries := first.entries ++ second.entries }

/-- Note an entry. -/
def note (level : Log.Level) (message : String)
    (fields : List (String × String) := []) : Logged Unit :=
  { value := (), entries := [{ level, message, fields }] }

/-- Note an entry under a condition. -/
def noteWhen (condition : Bool) (level : Log.Level) (message : String)
    (fields : List (String × String) := []) : Logged Unit :=
  if condition then note level message fields else pure ()

@[simp]
theorem value_pure (value : α) : (pure value : Logged α).value = value :=
  rfl

@[simp]
theorem value_bind (first : Logged α) (next : α → Logged β) :
    (first >>= next).value = (next first.value).value :=
  rfl

@[simp]
theorem value_map (f : α → β) (first : Logged α) :
    (f <$> first).value = f first.value :=
  rfl

@[simp]
theorem entries_pure (value : α) : (pure value : Logged α).entries = [] :=
  rfl

@[simp]
theorem entries_bind (first : Logged α) (next : α → Logged β) :
    (first >>= next).entries = first.entries ++ (next first.value).entries :=
  rfl

@[simp]
theorem entries_map (f : α → β) (first : Logged α) :
    (f <$> first).entries = first.entries := by
  change first.entries ++ [] = first.entries
  exact List.append_nil first.entries

@[simp]
theorem entries_note (level : Log.Level) (message : String)
    (fields : List (String × String)) :
    (note level message fields).entries = [{ level, message, fields }] :=
  rfl

end Logged

end MapleBus
