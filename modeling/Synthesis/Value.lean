import Synthesis.Kind

/-!
# Values

A value has an identity and content. Two values are the same when their identities are, so a
value that is built once and used in many places stays recognizable, and two values with equal
content are told apart.

The content of a value never changes. What can change is the cell that a deferred value or a knot
refers to by number; the cells are kept in a heap.
-/
namespace Synthesis

mutual
/-- A value: an identity and content. -/
inductive Value where
  | mk (id : Nat) (datum : Datum)

/-- The content of a value. -/
inductive Datum where
  | int (number : Int)
  | text (content : String)
  | flag (content : Bool)
  | unit
  | record (tag : String) (fields : List Value)
  /-- A rule provider with a label, and the value that it presents to inherited rules. -/
  | provider (slot : Nat) (label : String) (base : Option Value)
  /-- A cell as a value of its own. -/
  | deferred (cell : Nat)
  /-- A cell that is expected to hold a value of a kind. -/
  | knot (of : Kind) (cell : Nat)
end

namespace Datum

def kind : Datum → Kind
  | .int _ => .int
  | .text _ => .text
  | .flag _ => .flag
  | .unit => .unit
  | .record _ _ => .record
  | .provider slot _ _ => .provider slot
  | .deferred _ => .deferred
  | .knot of _ => .knot of

def cell? : Datum → Option Nat
  | .deferred cell => some cell
  | _ => none

end Datum

namespace Value

instance : Inhabited Value := ⟨.mk 0 .unit⟩

/-- What a value is recognized by. -/
def id : Value → Nat
  | .mk id _ => id

@[simp] theorem id_mk (id : Nat) (datum : Datum) : (Value.mk id datum).id = id := rfl

def datum : Value → Datum
  | .mk _ datum => datum

@[simp] theorem datum_mk (id : Nat) (datum : Datum) : (Value.mk id datum).datum = datum := rfl

def kind (value : Value) : Kind := value.datum.kind

def cell? (value : Value) : Option Nat := value.datum.cell?

/-- Whether two values are one and the same. -/
def same (value other : Value) : Bool := value.id == other.id

def as? (value : Value) (kind : Kind) : Option Value :=
  if value.kind = kind then some value else none

/-- How a value is shown where its content does not matter; identities are not printed. -/
def debug (home : String) (value : Value) : String :=
  "Value(" ++ value.kind.name home ++ " @ PTR)"

end Value
end Synthesis
