import Synthesis.Failure
import Synthesis.Heap

/-!
# Known goals

The memo says, for each ground goal that was started in a search, how its value is obtained. A
goal is entered before its parameters are settled, so that a demand for it from inside its own
construction finds it. A goal is entered at most once; a new entry takes the place of an old one.
-/
namespace Synthesis

/-- How the value of a goal is obtained. -/
inductive Memo.Entry where
  /-- The value is built. -/
  | ready (value : Value)
  /-- The value is under construction, and a cell stands for it. -/
  | pending (cell : Nat)
  /-- The value is under construction, and nothing stands for it. -/
  | guarded

/-- The value that an entry gives for its goal, and the heap after reading it. A cell that is not
tied yet is given as a new value. -/
def Memo.Entry.recall (entry : Memo.Entry) (goal : Term) (heap : Heap) :
    Except Failure Value × Heap :=
  match entry with
  | .ready value => (.ok value, heap)
  | .pending cell =>
      match heap.content? cell with
      | some value => (.ok value, heap)
      | none =>
          let (value, heap) := heap.alloc (.deferred cell)
          (.ok value, heap)
  | .guarded => (.error (.cyclicDemand goal), heap)

/-- The entries of all goals started so far. -/
structure Memo where
  entries : List (Term × Memo.Entry) := []

namespace Memo

def get? (memo : Memo) (goal : Term) : Option Entry := memo.entries.lookup goal

def setAmong (goal : Term) (entry : Entry) : List (Term × Entry) → List (Term × Entry)
  | [] => [(goal, entry)]
  | (other, old) :: rest =>
      if other = goal then (goal, entry) :: rest else (other, old) :: setAmong goal entry rest

def insert (memo : Memo) (goal : Term) (entry : Entry) : Memo :=
  ⟨setAmong goal entry memo.entries⟩

def size (memo : Memo) : Nat := memo.entries.length

/-! ## What is found after an entry was set -/

theorem lookup_setAmong (goal : Term) (entry : Entry) (entries : List (Term × Entry))
    (other : Term) :
    (setAmong goal entry entries).lookup other =
      if other = goal then some entry else entries.lookup other := by
  have compare (key : Term) (old : Entry) (rest : List (Term × Entry)) :
      ((key, old) :: rest).lookup other =
        if other = key then some old else rest.lookup other := by
    by_cases same : other = key
    · simp [same]
    · rw [List.lookup_cons, beq_false_of_ne same, if_neg same]
  induction entries with
  | nil => rw [setAmong, compare]
  | cons first rest ih =>
      obtain ⟨key, old⟩ := first
      rw [setAmong]
      split
      · next here => rw [compare, compare, here]; split <;> rfl
      · next elsewhere =>
          rw [compare, compare, ih]
          split
          · next same => rw [if_neg (same ▸ elsewhere)]
          · rfl

@[simp] theorem get?_insert (memo : Memo) (goal : Term) (entry : Entry) (other : Term) :
    (memo.insert goal entry).get? other = if other = goal then some entry else memo.get? other :=
  lookup_setAmong goal entry memo.entries other

end Memo
end Synthesis
