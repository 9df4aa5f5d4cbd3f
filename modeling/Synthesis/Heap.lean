import Synthesis.Value

/-!
# The heap

The heap hands out identities and holds the cells. A cell is empty until it is tied to a value,
and it is tied at most once. Main statement: making values and cells only adds to a heap
(`extends_alloc`, `extends_newCell`).
-/
namespace Synthesis

/-- The identities handed out so far, and the content of every cell by its number. -/
structure Heap where
  nextId : Nat := 0
  cells : List (Option Value) := []
deriving Inhabited

namespace Heap

def alloc (heap : Heap) (datum : Datum) : Value × Heap :=
  (.mk heap.nextId datum, { heap with nextId := heap.nextId + 1 })

/-- A new cell, empty or tied from the start. -/
def newCell (heap : Heap) (content : Option Value) : Nat × Heap :=
  (heap.cells.length, { heap with cells := heap.cells ++ [content] })

def content? (heap : Heap) (cell : Nat) : Option Value := heap.cells[cell]?.join

def isTied (heap : Heap) (cell : Nat) : Bool := (heap.content? cell).isSome

/-- Ties a cell of the heap to a value, unless it is tied already. -/
def tie? (heap : Heap) (cell : Nat) (value : Value) : Option Heap :=
  match heap.cells[cell]? with
  | some none => some { heap with cells := heap.cells.set cell (some value) }
  | some (some _) | none => none

/-- How a cell is shown. Its content is left out, since it may lead back to the cell. -/
def debugCell (heap : Heap) (cell : Nat) : String :=
  if heap.isTied cell then "Deferred(tied)" else "Deferred(pending)"

def debugKnot (heap : Heap) (home : String) (of : Kind) (cell : Nat) : String :=
  "Knot<" ++ of.name home ++ ">(" ++ heap.debugCell cell ++ ")"

/-! ## Heaps that only grow -/

/-- A heap extends another when it has all its cells, with the same content, and has taken back
no identity. -/
structure Extends (old new : Heap) : Prop where
  nextId_le : old.nextId ≤ new.nextId
  cells_prefix : old.cells <+: new.cells

theorem Extends.refl (heap : Heap) : heap.Extends heap := ⟨Nat.le_refl _, List.prefix_refl _⟩

theorem Extends.of_eq {old new : Heap} (same : new = old) : old.Extends new := same ▸ .refl _

theorem Extends.trans {first second third : Heap} (one : first.Extends second)
    (two : second.Extends third) : first.Extends third :=
  ⟨Nat.le_trans one.nextId_le two.nextId_le, one.cells_prefix.trans two.cells_prefix⟩

theorem extends_alloc (heap : Heap) (datum : Datum) : heap.Extends (heap.alloc datum).2 :=
  ⟨Nat.le_succ _, List.prefix_refl _⟩

theorem extends_newCell (heap : Heap) (content : Option Value) :
    heap.Extends (heap.newCell content).2 :=
  ⟨Nat.le_refl _, List.prefix_append _ _⟩

end Heap
end Synthesis
