import Synthesis.Toml.Scalar
import Synthesis.Toml.Value

/-!
# Reading TOML documents

The grammar of TOML 1.0. Arrays and tables between braces may be nested up to a fixed depth, and
a key with dots may have a fixed number of parts.
-/
namespace Synthesis.Toml

/-- A value that starts with neither a bracket nor a brace. -/
def scalar : Reads Value := fun text =>
  match text with
  | '"' :: _ | '\'' :: _ => (string text).map fun (content, rest) => (.string content, rest)
  | 't' :: _ => (word? "true" text).map (.boolean true, ·)
  | 'f' :: _ => (word? "false" text).map (.boolean false, ·)
  | _ =>
      (dateTime? text).map (.dateTime, ·) <|> (float? text).map (.float, ·) <|>
        (integer text).map fun (number, rest) => (.integer number, rest)

/-- The rest of an array, by a reader of its items. `fuel` bounds the number of items. -/
def arrayRest (value : Reads Value) : (fuel : Nat) → Reads (List Value)
  | 0, _ => none
  | fuel + 1, text =>
      match skipLines text.length text with
      | ']' :: rest => some ([], rest)
      | text => do
          let (item, rest) ← value text
          match skipLines rest.length rest with
          | ',' :: rest =>
              let (items, rest) ← arrayRest value fuel rest
              return (item :: items, rest)
          | ']' :: rest => return ([item], rest)
          | _ => none

/-- The rest of a table between braces, by a reader of its values and after entries that are
given. `fuel` bounds the number of entries. -/
def tableRest (value : Reads Value) :
    (fuel : Nat) → List (String × Value) → Reads (List (String × Value))
  | 0, _, _ => none
  | fuel + 1, entries, text => do
      let (path, rest) ← dottedKey text
      let (item, rest) ← value (skipBlanks (← mark? '=' rest))
      let entries ← insertAt item path entries
      match skipBlanks rest with
      | ',' :: rest => tableRest value fuel entries rest
      | '}' :: rest => return (entries, rest)
      | _ => none

/-- A value. `depth` is the number of levels that may still be nested. -/
def value : (depth : Nat) → Reads Value
  | 0, _ => none
  | depth + 1, text =>
      match text with
      | '[' :: rest =>
          if depth = 0 then none
          else
            (arrayRest (value depth) text.length rest).map
              fun (items, rest) => (.array items, rest)
      | '{' :: rest =>
          if depth = 0 then none
          else
            match skipBlanks rest with
            | '}' :: rest => some (.table false [], rest)
            | _ =>
                (tableRest (value depth) text.length [] rest).map
                  fun (entries, rest) => (.table false entries, rest)
      | _ => scalar text

def statement : Reads Statement
  | '[' :: '[' :: rest => do
      let (path, rest) ← dottedKey rest
      let rest ← restOfLine? (← mark? ']' (← mark? ']' rest))
      return (.arrayHeader path, rest)
  | '[' :: rest => do
      let (path, rest) ← dottedKey rest
      let rest ← restOfLine? (← mark? ']' rest)
      return (.header path, rest)
  | text => do
      let (path, rest) ← dottedKey text
      let (item, rest) ← value nestingLimit (skipBlanks (← mark? '=' rest))
      return (.assignment path item, ← restOfLine? rest)

/-- The statements of a text. `fuel` bounds their number. -/
def statements : (fuel : Nat) → List Char → Option Document
  | 0, _ => none
  | fuel + 1, text =>
      match skipLines (text.length + 1) text with
      | [] => some []
      | text => do
          let (first, rest) ← statement text
          return first :: (← statements fuel rest)

/-- The statements of a TOML text, which may start with a byte order mark. -/
def parse (source : String) : Option Document :=
  match source.toList with
  | '\ufeff' :: text => statements (text.length + 1) text
  | text => statements (text.length + 1) text

end Synthesis.Toml
