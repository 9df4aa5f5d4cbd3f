import Synthesis.Proofs.Coupled

/-!
# Searches with other stamps

Two searches that start with the same heap and differ in the stamp that was used last go side by
side: what the second one does is what the first one does with all its stamps moved on. Memo keys,
slot types and what bodies are given have no variables, so they are the same in both.

Results:
1. `InStep.coupling`: that the stamps of the second search are ahead by some number is something
   that stays.
2. `solve_ignores_stamps`: the stamps with which a search starts have no influence on its calls and
   on its result, but for the stamps of variables in the goal at which a depth limit was exceeded.
-/
namespace Synthesis

/-! ## 1. Searches side by side -/

/-- The calls that were written down, the latest first. -/
def Arena.calls (arena : Arena) : List Call := arena.log.filterMap LogEntry.call?

@[simp] theorem Solver.calls_noted (solver : Solver) (event : Event) (arena : Arena) :
    (solver.noted event arena).calls = arena.calls := by
  unfold noted
  split <;> rfl

/-- Two arenas have the same heap, and the same calls were made since two earlier points, but for
some that were made by the second search only. -/
structure Alongside (more : Call → Prop) (old other : List Call) (one two : Arena) : Prop where
  heap : two.heap = one.heap
  calls : ∃ new new', one.calls = new ++ old ∧ two.calls = new' ++ other ∧ Adds more new new'

namespace Alongside

variable {more : Call → Prop} {old other : List Call} {one two : Arena}

theorem note (side : Alongside more old other one two) {entry again : LogEntry}
    (same : again.call? = entry.call?) :
    Alongside more old other (one.note entry) (two.note again) where
  heap := side.heap
  calls := by
    obtain ⟨new, new', first, second, adds⟩ := side.calls
    simp only [Arena.calls] at first second
    simp only [Arena.calls, Arena.log_note, List.filterMap_cons, same]
    cases entry.call? with
    | none => exact ⟨new, new', first, second, adds⟩
    | some call =>
        exact ⟨call :: new, call :: new', by simp [first], by simp [second], .keep call adds⟩

theorem onHeap (side : Alongside more old other one two) (heap : Heap) :
    Alongside more old other (one.onHeap heap) (two.onHeap heap) :=
  ⟨rfl, side.calls⟩

theorem noted (side : Alongside more old other one two) (solver solver' : Solver)
    (event event' : Event) :
    Alongside more old other (solver.noted event one) (solver'.noted event' two) :=
  ⟨by simp [side.heap], by simpa using side.calls⟩

end Alongside

def Naming.ahead (ahead : Nat) : Naming :=
  ⟨(· + ahead), fun _ _ => Nat.add_right_cancel, fun _ => False⟩

/-- The stamps of the second search are ahead by some number, and it has made the same calls. -/
structure InStep (ahead : Nat) (old other : List Call) (naming : Naming) (one two : Arena) :
    Prop where
  later : naming.later = (· + ahead)
  stamp : two.stamp = one.stamp + ahead
  side : Alongside (fun _ => False) old other one two

namespace InStep

variable {ahead : Nat} {old other : List Call} {naming : Naming} {one two : Arena}

theorem noted (step : InStep ahead old other naming one two) (solver : Solver)
    (event event' : Event) :
    InStep ahead old other naming (solver.noted event one) (solver.noted event' two) where
  later := step.later
  stamp := by rw [Solver.stamp_noted, Solver.stamp_noted, step.stamp]
  side := step.side.noted solver solver event event'

theorem next (step : InStep ahead old other naming one two) :
    naming.later (one.stamp + 1) = two.stamp + 1 ∧
      InStep ahead old other (naming.learn (one.stamp + 1)) { one with stamp := one.stamp + 1 }
        { two with stamp := two.stamp + 1 } := by
  have counterpart : one.stamp + 1 + ahead = two.stamp + 1 := by
    rw [step.stamp, Nat.add_right_comm]
  refine ⟨?_, step.later, counterpart.symm, step.side.heap, step.side.calls⟩
  rw [step.later]
  exact counterpart

def coupling (solver : Solver) (ahead : Nat) (old other : List Call) : Coupling solver solver where
  arenas := InStep ahead old other
  idle _ := False
  placeholder := rfl
  maxDepth := rfl
  depths := rfl
  bearsRules _ := rfl
  offers _ := .refl _
  heap step := step.side.heap
  note step alike := ⟨step.later, step.stamp, step.side.note alike.call?⟩
  onHeap step heap := ⟨step.later, step.stamp, step.side.onHeap heap⟩
  progress step _ _ := step.noted solver _ _
  admitting step _ := step.noted solver _ _
  next := next
  idles none := none.elim

end InStep

/-! ## 2. The stamps have no influence -/

/-- Two terms differ only in the stamps of their variables: a stamp of the second one is as far from
a second start as the stamp of the first one is from a first start. -/
def Term.SameButStamps (first second : Nat) (term again : Term) : Prop :=
  ∃ (pattern : Term) (one two : String → String),
    term = pattern.rename one ∧ again = pattern.rename two ∧
      ∀ name, one name = two name ∨ ∃ stamp stamp' slot,
        one name = Signature.stamped stamp slot ∧ two name = Signature.stamped stamp' slot ∧
          stamp + second = stamp' + first

/-- Two searches have the same answer: the same value or the same failure, only that the goals at
which a depth limit was exceeded may differ in the stamps of their variables. -/
inductive SameAnswer (first second : Nat) : Except Halt Value → Except Halt Value → Prop
  | same (answer : Except Halt Value) : SameAnswer first second answer answer
  | tooDeep {goal again : Term} (limit : Nat) : goal.SameButStamps first second again →
      SameAnswer first second (.error (.failed (.depthLimit goal limit)))
        (.error (.failed (.depthLimit again limit)))

theorem Term.sameButStamps_restamp (term : Term) (first ahead : Nat) :
    term.SameButStamps first (first + ahead) (term.rename (restampBy (· + ahead))) := by
  refine ⟨term, id, restampBy (· + ahead), term.rename_id.symm, rfl, fun name => ?_⟩
  rcases stamped_or name with ⟨stamp, slot, rfl⟩ | plain
  · refine .inr ⟨stamp, stamp + ahead, slot, rfl, restampBy_stamped (· + ahead) stamp slot, ?_⟩
    omega
  · exact .inl (restampBy_of_unstamped (· + ahead) plain).symm

theorem Term.SameButStamps.symm {first second : Nat} {term again : Term}
    (same : term.SameButStamps first second again) : again.SameButStamps second first term := by
  obtain ⟨pattern, one, two, left, right, names⟩ := same
  refine ⟨pattern, two, one, right, left, fun name => (names name).imp Eq.symm ?_⟩
  rintro ⟨stamp, stamp', slot, here, there, distance⟩
  exact ⟨stamp', stamp, slot, there, here, distance.symm⟩

theorem SameAnswer.symm {first second : Nat} {one two : Except Halt Value}
    (same : SameAnswer first second one two) : SameAnswer second first two one := by
  cases same with
  | same => exact .same _
  | tooDeep limit goals => exact .tooDeep limit goals.symm

/-- Two searches leave the same heap after the same calls, and have the same answer. -/
structure SameSearch (first second : Nat) (old other : List LogEntry)
    (one two : Except Halt Value × Arena) : Prop where
  heap : two.2.heap = one.2.heap
  calls : ∃ new, one.2.calls = new ++ old.filterMap LogEntry.call? ∧
    two.2.calls = new ++ other.filterMap LogEntry.call?
  answer : SameAnswer first second one.1 two.1

/-- The stamp that was used last has no influence on a search. From the same heap, whatever was
written down before, the same bodies are called in the same order and are given the same types,
arguments and heaps; they leave the same heap, and the answer is the same. -/
theorem solve_ignores_stamps (solver : Solver) (fuel : Nat) (goal : Term) (providers : List Value)
    (heap : Heap) (first second : Nat) (old other : List LogEntry) :
    SameSearch first second old other
      ((solver.solve fuel goal providers).runFrom ⟨heap, first, old⟩)
      ((solver.solve fuel goal providers).runFrom ⟨heap, second, other⟩) := by
  have later (first ahead : Nat) (old other : List LogEntry) :
      SameSearch first (first + ahead) old other
        ((solver.solve fuel goal providers).runFrom ⟨heap, first, old⟩)
        ((solver.solve fuel goal providers).runFrom ⟨heap, first + ahead, other⟩) := by
    have side := (InStep.coupling solver ahead (old.filterMap LogEntry.call?)
      (other.filterMap LogEntry.call?)).solve (.ahead ahead) fuel goal providers
    obtain ⟨further, -, ends, step⟩ := side ⟨heap, first, old⟩ ⟨heap, first + ahead, other⟩
      ⟨rfl, rfl, rfl, [], [], rfl, rfl, .nil⟩
    obtain ⟨new, new', one, two, adds⟩ := step.side.calls
    rw [adds.eq_of_none fun _ => id] at two
    rw [Naming.rename, step.later] at ends
    refine ⟨step.side.heap, ⟨new, one, two⟩, ?_⟩
    generalize ((solver.solve fuel goal providers).runFrom _).1 = one at ends ⊢
    generalize ((solver.solve fuel goal providers).runFrom _).1 = two at ends ⊢
    cases ends with
    | ok same => exact same ▸ .same _
    | halted halt => exact .same _
    | tooDeep goal limit => exact .tooDeep limit (goal.sameButStamps_restamp first ahead)
  rcases Nat.le_total first second with le | le
  · obtain ⟨ahead, rfl⟩ := Nat.exists_eq_add_of_le le
    exact later first ahead old other
  · obtain ⟨ahead, rfl⟩ := Nat.exists_eq_add_of_le le
    obtain ⟨sameHeap, ⟨new, one, two⟩, answer⟩ := later second ahead other old
    exact ⟨sameHeap.symm, ⟨new, two, one⟩, answer.symm⟩

end Synthesis
