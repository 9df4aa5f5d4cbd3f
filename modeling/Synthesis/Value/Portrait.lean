import Synthesis.Rule

/-!
# Portraits of values

A portrait shows a value with everything that can be reached from it. Values are numbered in the
order in which they are met, and so are cells. A value that was met before is shown by its number
only, so the portrait is finite even when a cell leads back to a value that holds it.
-/
namespace Synthesis

inductive Portrait where
  /-- A value that was met before. -/
  | seen (number : Nat)
  | int (number : Nat) (content : Int)
  | text (number : Nat) (content : String)
  | flag (number : Nat) (content : Bool)
  | unit (number : Nat)
  | record (number : Nat) (tag : String) (fields : List Portrait)
  | provider (number : Nat) (slot : Nat) (label : String) (base : Option Portrait)
  | deferred (number : Nat) (cell : Nat) (debug : String) (content : Option Portrait)
  /-- A knot, with what reading it gives. -/
  | knot (number : Nat) (of : Kind) (tied : Bool) (debug : String)
      (content : Except Failure Portrait)
  /-- A value that lies deeper than was looked. -/
  | beyond
deriving Inhabited

/-- The identities and the cells met so far, in the order of their numbers. -/
structure Sightings where
  values : List Nat := []
  cells : List Nat := []

namespace Portrait

/-- The number of an item, which is added to the items met so far if it is new. -/
def numberOf (item : Nat) (met : List Nat) : Nat × List Nat :=
  match met.idxOf? item with
  | some number => (number, met)
  | none => (met.length, met ++ [item])

def sightCell (cell : Nat) : StateM Sightings Nat := fun sightings =>
  let (number, cells) := numberOf cell sightings.cells
  (number, { sightings with cells })

def drawAll (draw : Value → StateM Sightings Portrait) :
    List Value → StateM Sightings (List Portrait)
  | [] => return []
  | value :: values => do
      let first ← draw value
      return first :: (← drawAll draw values)

/-- The portrait of a value that is met for the first time, by a way to make the portraits of the
values that it leads to. -/
def drawNew (home : String) (heap : Heap) (draw : Value → StateM Sightings Portrait)
    (number : Nat) : Datum → StateM Sightings Portrait
  | .int content => return .int number content
  | .text content => return .text number content
  | .flag content => return .flag number content
  | .unit => return .unit number
  | .record tag fields => return .record number tag (← drawAll draw fields)
  | .provider slot label none => return .provider number slot label none
  | .provider slot label (some base) => return .provider number slot label (some (← draw base))
  | .deferred cell => do
      let cellNumber ← sightCell cell
      let debug := heap.debugCell cell
      match heap.content? cell with
      | none => return .deferred number cellNumber debug none
      | some content => return .deferred number cellNumber debug (some (← draw content))
  | .knot of cell => do
      let tied := heap.isTied cell
      let debug := heap.debugKnot home of cell
      match readKnot heap of cell with
      | .error failure => return .knot number of tied debug (.error failure)
      | .ok content => return .knot number of tied debug (.ok (← draw content))

/-- The portrait of a value. Every level of nesting meets a new value, so no more levels are
needed than there are identities. -/
def drawWithin (home : String) (heap : Heap) : (levels : Nat) → Value → StateM Sightings Portrait
  | 0, _ => return .beyond
  | levels + 1, value => fun sightings =>
      match sightings.values.idxOf? value.id with
      | some number => (.seen number, sightings)
      | none =>
          drawNew home heap (drawWithin home heap levels) sightings.values.length value.datum
            { sightings with values := sightings.values ++ [value.id] }

def draw (home : String) (heap : Heap) (value : Value) : StateM Sightings Portrait :=
  drawWithin home heap (heap.nextId + 1) value

end Portrait
end Synthesis
