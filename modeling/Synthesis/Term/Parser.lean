import Synthesis.Term
import Synthesis.Text.Blank

/-!
# Reading terms

Terms are written `Map<String, List<a>>`. A name that starts with a lowercase letter, or that
follows a quote, is a variable; any other name is a constructor. White space may stand between
any two parts, but not inside a name and not between a quote and its name.

The reader takes one character at a time. What it has read is kept as the applications that are
still open and the part of a term that it is inside, so no character is looked at twice and a
text is refused at the first character that cannot go on.
-/
namespace Synthesis
namespace Term

/-! ## 1. Names -/

/-- Whether a character may start a name: an ASCII letter or an underscore. -/
def startsName (c : Char) : Bool := c.isAlpha || c == '_'

/-- Whether a character may go on a name: an ASCII letter or digit, or an underscore. -/
def continuesName (c : Char) : Bool := c.isAlphanum || c == '_'

/-- Whether an unquoted name stands for a variable. -/
def namesVariable (letters : List Char) : Bool :=
  match letters with
  | [] => false
  | first :: _ => first.isLower

/-- The term that an unquoted name without arguments stands for. -/
def ofName (letters : List Char) : Term :=
  if namesVariable letters then .var (String.ofList letters) else .constant (String.ofList letters)

/-! ## 2. Refusals -/

/-- Why a text is not a term. `none` stands for the end of the text. -/
inductive Misreading where
  /-- A name has to start here. -/
  | nameExpected (found : Option Char)
  /-- An open argument list has to go on or to be closed here. -/
  | closeExpected (found : Option Char)
  /-- A variable is followed by an argument list. -/
  | variableApplied (name : String)
  /-- The term is complete and something follows it. -/
  | trailing (found : Char)
deriving DecidableEq

def Misreading.found : Option Char → String
  | none => "end of input"
  | some c => "'" ++ c.toString ++ "'"

def Misreading.message : Misreading → String
  | .nameExpected c => "expected a name, found " ++ found c
  | .closeExpected c => "expected '>', found " ++ found c
  | .variableApplied name => "type variable '" ++ name ++ "' cannot take arguments"
  | .trailing c => "unexpected " ++ found (some c)

/-- A refusal and its place, counted in bytes of the UTF-8 form of the text. -/
structure ParseError where
  offset : Nat
  misreading : Misreading
deriving DecidableEq

def ParseError.message (error : ParseError) : String :=
  "invalid type term at offset " ++ toString error.offset ++ ": " ++ error.misreading.message

/-! ## 3. The reader -/

/-- The part of a term that the reader is inside. Letters are kept last first. -/
inductive Phase where
  | start
  | quote
  | quotedName (letters : List Char)
  | name (letters : List Char)
  /-- White space was read after an unquoted name, which is given in reading order. -/
  | named (letters : List Char)
  /-- A term is complete and takes no argument list any more. -/
  | complete (term : Term)

/-- An application whose argument list is open: its constructor and the arguments read so far,
last first. -/
structure Frame where
  head : String
  args : List Term

/-- What the reader knows: the open applications, innermost first, and where it is. -/
structure Reader where
  frames : List Frame
  phase : Phase

namespace Reader

def initial : Reader := ⟨[], .start⟩

/-- Reads a character after a complete term. -/
def afterTerm (frames : List Frame) (term : Term) (c : Char) : Except Misreading Reader :=
  if Text.isBlank c then .ok ⟨frames, .complete term⟩ else
  match frames with
  | [] => .error (.trailing c)
  | frame :: outer =>
      if c = ',' then .ok ⟨⟨frame.head, term :: frame.args⟩ :: outer, .start⟩
      else if c = '>' then
        .ok ⟨outer, .complete (.app frame.head (term :: frame.args).reverse)⟩
      else .error (.closeExpected (some c))

/-- Reads a character after an unquoted name, which may still open an argument list. -/
def afterName (frames : List Frame) (letters : List Char) (c : Char) : Except Misreading Reader :=
  if Text.isBlank c then .ok ⟨frames, .named letters⟩
  else if c = '<' then
    if namesVariable letters then .error (.variableApplied (String.ofList letters))
    else .ok ⟨⟨String.ofList letters, []⟩ :: frames, .start⟩
  else afterTerm frames (ofName letters) c

def step (reader : Reader) (c : Char) : Except Misreading Reader :=
  match reader.phase with
  | .start =>
      if Text.isBlank c then .ok reader
      else if c = '\'' then .ok ⟨reader.frames, .quote⟩
      else if startsName c then .ok ⟨reader.frames, .name [c]⟩
      else .error (.nameExpected (some c))
  | .quote =>
      if startsName c then .ok ⟨reader.frames, .quotedName [c]⟩
      else .error (.nameExpected (some c))
  | .quotedName letters =>
      if continuesName c then .ok ⟨reader.frames, .quotedName (c :: letters)⟩
      else afterTerm reader.frames (.var (String.ofList letters.reverse)) c
  | .name letters =>
      if continuesName c then .ok ⟨reader.frames, .name (c :: letters)⟩
      else afterName reader.frames letters.reverse c
  | .named letters => afterName reader.frames letters c
  | .complete term => afterTerm reader.frames term c

/-- The term that ends with the text, unless a name is missing. -/
def pending? (reader : Reader) : Option Term :=
  match reader.phase with
  | .start | .quote => none
  | .quotedName letters => some (.var (String.ofList letters.reverse))
  | .name letters => some (ofName letters.reverse)
  | .named letters => some (ofName letters)
  | .complete term => some term

def finish (reader : Reader) : Except Misreading Term :=
  match reader.pending?, reader.frames with
  | none, _ => .error (.nameExpected none)
  | some term, [] => .ok term
  | some _, _ :: _ => .error (.closeExpected none)

/-- Reads the rest of a text that starts at a byte offset. -/
def run (reader : Reader) (offset : Nat) : List Char → Except ParseError Term
  | [] => reader.finish.mapError (ParseError.mk offset)
  | c :: rest =>
      match reader.step c with
      | .error misreading => .error ⟨offset, misreading⟩
      | .ok next => next.run (offset + c.utf8Size) rest

end Reader

def parseChars (source : List Char) : Except ParseError Term := Reader.initial.run 0 source

def parse (source : String) : Except ParseError Term := parseChars source.toList

end Term
end Synthesis
