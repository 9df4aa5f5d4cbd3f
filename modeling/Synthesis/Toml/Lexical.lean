/-!
# The lexical level of TOML

Blanks, comments, line ends, strings and keys. Each reader takes the characters that are left and
gives what it read together with the characters after it, or nothing if the text does not fit.
-/
namespace Synthesis.Toml

abbrev Reads (α : Type) := List Char → Option (α × List Char)

/-! ## 1. Blanks, comments and line ends -/

def isBlank (c : Char) : Bool := c == ' ' || c == '\t'

def isCommentChar (c : Char) : Bool := c == '\t' || 0x20 ≤ c.toNat && c.toNat ≠ 0x7f

def skipBlanks (text : List Char) : List Char := text.dropWhile isBlank

/-- The text after a line end, which is a line feed with or without a carriage return. -/
def newline? : List Char → Option (List Char)
  | '\n' :: rest => some rest
  | '\r' :: '\n' :: rest => some rest
  | _ => none

def skipComment : List Char → List Char
  | '#' :: rest => rest.dropWhile isCommentChar
  | text => text

/-- The text after the rest of a line that may only hold blanks and a comment. -/
def restOfLine? (text : List Char) : Option (List Char) :=
  match skipComment (skipBlanks text) with
  | [] => some []
  | rest => newline? rest

/-- The text after any blanks, comments and line ends. `fuel` bounds the number of lines. -/
def skipLines : (fuel : Nat) → List Char → List Char
  | 0, text => text
  | fuel + 1, text =>
      let rest := skipComment (skipBlanks text)
      match newline? rest with
      | some rest => skipLines fuel rest
      | none => rest

def skipBlankLines : List Char → List Char
  | '\r' :: '\n' :: rest => skipBlankLines rest
  | c :: rest => if isBlank c || c == '\n' then skipBlankLines rest else c :: rest
  | [] => []

/-! ## 2. Strings -/

def hexDigit? (c : Char) : Option Nat :=
  if c.isDigit then some (c.toNat - '0'.toNat)
  else if 'a' ≤ c && c ≤ 'f' then some (c.toNat - 'a'.toNat + 10)
  else if 'A' ≤ c && c ≤ 'F' then some (c.toNat - 'A'.toNat + 10)
  else none

/-- The character with a code point that is written in hexadecimal. -/
def hexChar? (digits : List Char) : Option Char := do
  let values ← digits.mapM hexDigit?
  let code := values.foldl (fun code digit => 16 * code + digit) 0
  if h : code.isValidChar then some (Char.ofNatAux code h) else none

/-- The character that a letter stands for after a backslash. -/
def escaped? : Char → Option Char
  | 'b' => some '\x08'
  | 't' => some '\t'
  | 'n' => some '\n'
  | 'f' => some '\x0c'
  | 'r' => some '\r'
  | '"' => some '"'
  | '\\' => some '\\'
  | _ => none

def isBasicChar (c : Char) : Bool := isCommentChar c && c != '"' && c != '\\'

def isLiteralChar (c : Char) : Bool := isCommentChar c && c != '\''

def escape : Reads Char
  | 'u' :: a :: b :: c :: d :: rest => (hexChar? [a, b, c, d]).map (·, rest)
  | 'U' :: a :: b :: c :: d :: e :: f :: g :: h :: rest =>
      (hexChar? [a, b, c, d, e, f, g, h]).map (·, rest)
  | c :: rest => (escaped? c).map (·, rest)
  | [] => none

/-- The rest of a string between double quotes, after characters that are given last first. -/
def basicRest : (fuel : Nat) → List Char → Reads String
  | 0, _, _ => none
  | _, read, '"' :: rest => some (String.ofList read.reverse, rest)
  | fuel + 1, read, '\\' :: rest =>
      match escape rest with
      | some (c, rest) => basicRest fuel (c :: read) rest
      | none => none
  | fuel + 1, read, c :: rest => if isBasicChar c then basicRest fuel (c :: read) rest else none
  | _, _, [] => none

/-- The rest of a string between single quotes, which has no escapes. -/
def literalRest (text : List Char) : Option (String × List Char) :=
  match text.dropWhile isLiteralChar with
  | '\'' :: rest => some (String.ofList (text.takeWhile isLiteralChar), rest)
  | _ => none

/-- The quotes at the start of a text inside a string of several lines, if they end it: three of
them, with up to two before them that belong to the string. -/
def closing? (quote : Char) (text : List Char) : Option (List Char × List Char) :=
  let count := (text.takeWhile (· == quote)).length
  if count < 3 then none
  else
    let inside := min (count - 3) 2
    some (List.replicate inside quote, text.drop (inside + 3))

/-- The text after a backslash at the end of a line: blanks and line ends up to the next other
character. -/
def continuation? (text : List Char) : Option (List Char) :=
  (newline? (skipBlanks text)).map skipBlankLines

/-- The rest of a string of several lines between double quotes. -/
def multilineBasicRest : (fuel : Nat) → List Char → Reads String
  | 0, _, _ => none
  | fuel + 1, read, text =>
      match closing? '"' text with
      | some (quotes, rest) => some (String.ofList (read.reverse ++ quotes), rest)
      | none =>
          match newline? text with
          | some rest => multilineBasicRest fuel ('\n' :: read) rest
          | none =>
              match text with
              | '\\' :: rest =>
                  match continuation? rest with
                  | some rest => multilineBasicRest fuel read rest
                  | none =>
                      match escape rest with
                      | some (c, rest) => multilineBasicRest fuel (c :: read) rest
                      | none => none
              | c :: rest =>
                  if isBasicChar c || c == '"' then multilineBasicRest fuel (c :: read) rest
                  else none
              | [] => none

/-- The rest of a string of several lines between single quotes. -/
def multilineLiteralRest : (fuel : Nat) → List Char → Reads String
  | 0, _, _ => none
  | fuel + 1, read, text =>
      match closing? '\'' text with
      | some (quotes, rest) => some (String.ofList (read.reverse ++ quotes), rest)
      | none =>
          match newline? text with
          | some rest => multilineLiteralRest fuel ('\n' :: read) rest
          | none =>
              match text with
              | c :: rest =>
                  if isCommentChar c then multilineLiteralRest fuel (c :: read) rest else none
              | [] => none

def skipNewline (text : List Char) : List Char := (newline? text).getD text

def lineString : Reads String
  | '"' :: rest => basicRest (rest.length + 1) [] rest
  | '\'' :: rest => literalRest rest
  | _ => none

def string : Reads String
  | '"' :: '"' :: '"' :: rest => multilineBasicRest (rest.length + 1) [] (skipNewline rest)
  | '\'' :: '\'' :: '\'' :: rest => multilineLiteralRest (rest.length + 1) [] (skipNewline rest)
  | text => lineString text

/-! ## 3. Keys -/

def isBareKeyChar (c : Char) : Bool := c.isAlphanum || c == '-' || c == '_'

def simpleKey (text : List Char) : Option (String × List Char) :=
  match text with
  | '"' :: _ | '\'' :: _ => lineString text
  | _ =>
      match text.takeWhile isBareKeyChar with
      | [] => none
      | letters => some (String.ofList letters, text.dropWhile isBareKeyChar)

/-- At most so many keys, with dots between them and blanks around each. -/
def keysUpTo : (count : Nat) → Reads (List String)
  | 0, _ => none
  | count + 1, text => do
      let (key, rest) ← simpleKey (skipBlanks text)
      match skipBlanks rest with
      | '.' :: rest =>
          let (keys, rest) ← keysUpTo count rest
          return (key :: keys, rest)
      | rest => return ([key], rest)

/-- Values nested as deep as this are refused, and so are keys that lead as deep. -/
def nestingLimit : Nat := 80

/-- A key, which may lead through several tables. -/
def dottedKey : Reads (List String) := keysUpTo (nestingLimit - 1)

end Synthesis.Toml
