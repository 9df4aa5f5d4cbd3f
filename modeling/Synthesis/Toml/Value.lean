/-!
# TOML documents

What a TOML document says: its statements in order. Numbers with a fraction and dates are told
apart from other values, but what they denote is not kept.
-/
namespace Synthesis.Toml

inductive Value where
  | string (content : String)
  | integer (number : Int)
  | float
  | boolean (content : Bool)
  | dateTime
  | array (items : List Value)
  /-- A table between braces. A table that only dotted keys have made may get more entries. -/
  | table (dotted : Bool) (entries : List (String × Value))
deriving Inhabited

inductive Statement where
  /-- The keys that follow belong to the table at a path. -/
  | header (path : List String)
  /-- The keys that follow belong to a new element of the array of tables at a path. -/
  | arrayHeader (path : List String)
  /-- The key at a path, from the current table on, has a value. -/
  | assignment (path : List String) (value : Value)

abbrev Document := List Statement

/-- The entries of a table with a value put at the end of a path of keys. A key that has a value
already is refused, except for a table on the way that only dotted keys have made. -/
def insertAt (value : Value) : List String → List (String × Value) → Option (List (String × Value))
  | [], _ => none
  | [key], entries =>
      if (entries.lookup key).isSome then none else some (entries ++ [(key, value)])
  | key :: path, entries =>
      match entries.lookup key with
      | none => (insertAt value path []).map fun inside => entries ++ [(key, .table true inside)]
      | some (.table true inside) =>
          (insertAt value path inside).map fun inside =>
            entries.map fun entry => if entry.1 = key then (key, .table true inside) else entry
      | some _ => none

end Synthesis.Toml
