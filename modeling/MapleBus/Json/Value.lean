import MapleBus.Json.Token

/-!
# JSON values

The grammar of JSON over tokens.  Reading is strict: the whole text is one
value, and no comma stands before a closing bracket.
-/

namespace MapleBus.Json

/-- A JSON value.  Members of an object keep their order and may repeat a
name. -/
inductive Value where
  | null
  | boolean (value : Bool)
  | number (natural : Option Nat)
  | text (content : Option String)
  | array (elements : List Value)
  | object (members : List (Option String × Value))

/-- Tokens left over after some of `tokens` were read. -/
abbrev Rest (tokens : List Token) : Type :=
  { rest : List Token // rest.length < tokens.length }

mutual

/-- Read a value. -/
def value? (tokens : List Token) : Option (Value × Rest tokens) :=
  match tokens with
  | .null :: rest => some (.null, ⟨rest, Nat.lt_succ_self _⟩)
  | .boolean value :: rest => some (.boolean value, ⟨rest, Nat.lt_succ_self _⟩)
  | .number natural :: rest => some (.number natural, ⟨rest, Nat.lt_succ_self _⟩)
  | .text content :: rest => some (.text content, ⟨rest, Nat.lt_succ_self _⟩)
  | .beginArray :: .endArray :: rest =>
      some (.array [], ⟨rest, Nat.lt_add_of_pos_right Nat.two_pos⟩)
  | .beginArray :: rest => do
      let (elements, ⟨left, shorter⟩) ← elements? rest
      return (.array elements, ⟨left, by simp only [List.length_cons]; omega⟩)
  | .beginObject :: .endObject :: rest =>
      some (.object [], ⟨rest, Nat.lt_add_of_pos_right Nat.two_pos⟩)
  | .beginObject :: rest => do
      let (members, ⟨left, shorter⟩) ← members? rest
      return (.object members, ⟨left, by simp only [List.length_cons]; omega⟩)
  | _ => none
termination_by (tokens.length, 0)

/-- Read one or more elements up to the end of their array. -/
def elements? (tokens : List Token) : Option (List Value × Rest tokens) := do
  match ← value? tokens with
  | (element, ⟨.endArray :: left, shorter⟩) =>
      return ([element], ⟨left, by simp only [List.length_cons] at shorter; omega⟩)
  | (element, ⟨.comma :: rest, shorter⟩) =>
      let (elements, ⟨left, shorter⟩) ← elements? rest
      return (element :: elements, ⟨left, by simp only [List.length_cons] at *; omega⟩)
  | _ => none
termination_by (tokens.length, 1)
decreasing_by
  · exact Prod.Lex.right _ Nat.one_pos
  · exact Prod.Lex.left _ _ (by simp only [List.length_cons] at shorter; omega)

/-- Read one or more members up to the end of their object. -/
def members? (tokens : List Token) :
    Option (List (Option String × Value) × Rest tokens) :=
  match tokens with
  | .text name :: .colon :: rest => do
      match ← value? rest with
      | (value, ⟨.endObject :: left, shorter⟩) =>
          return ([(name, value)], ⟨left, by simp only [List.length_cons] at *; omega⟩)
      | (value, ⟨.comma :: rest, shorter⟩) =>
          let (members, ⟨left, shorter⟩) ← members? rest
          return ((name, value) :: members, ⟨left, by simp only [List.length_cons] at *; omega⟩)
      | _ => none
  | _ => none
termination_by (tokens.length, 1)
decreasing_by
  · exact Prod.Lex.left _ _ (by simp only [List.length_cons]; omega)
  · exact Prod.Lex.left _ _ (by simp only [List.length_cons] at *; omega)

end

/-- The value that a text denotes. -/
def parse? (text : String) : Option Value := do
  let tokens ← tokens? text
  match ← value? tokens with
  | (value, ⟨[], _⟩) => return value
  | _ => none

namespace Value

/-- The natural number up to a bound that a value is. -/
def natural? (bound : Nat) : Value → Option Nat
  | number natural => natural.filter (· ≤ bound)
  | _ => none

/-- The fields of a record.  A record is written as an object, whose unknown
members are skipped and whose known members may not repeat, or as an array of
its leading fields in order.  A field that is not written is absent. -/
def fields? (names : List String) : Value → Option (List (Option Value))
  | object members => do
      let named ← members.mapM fun (name, value) => name.map fun name => (name, value)
      names.mapM fun name =>
        match named.filter fun member => member.1 == name with
        | [] => some none
        | [(_, value)] => some (some value)
        | _ => none
  | array elements =>
      if elements.length ≤ names.length then
        some (names.mapIdx fun index _ => elements[index]?)
      else
        none
  | _ => none

/-- The name of a choice without content.  It is written as a string, or as
an object that maps it to null. -/
def choice? : Value → Option String
  | text content => content
  | object [(name, null)] => name
  | _ => none

end Value

end MapleBus.Json
