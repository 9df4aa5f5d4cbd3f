import Synthesis.Proofs.Coupled

/-!
# Searches that report no progress

Two solvers that differ only in whether they report progress search alike: nothing in a search looks
at the setting but the reports, and nothing looks at what was written down. What the quiet one
writes down is what the other one does, less its reports of progress.

Results:
1. `Event.isProgress_iff_source`: the reports of progress are those of the search.
2. `Hushed.coupling`: that two arenas differ in reports of progress only is something that stays.
3. `tracing_adds_reports`: searches from any branch and whole searches differ in reports of progress
   only, with what this says about calls and reports.
-/
namespace Synthesis

/-! ## 1. The sources of reports -/

/-- The part of the program that an event is reported by. -/
def Event.source : Event → String
  | .admitting _ _ => "tyknot_engine::repository"
  | _ => "tyknot::search"

/-- The events that are reported on demand are those of the search itself. -/
theorem Event.isProgress_iff_source (event : Event) :
    event.isProgress = true ↔ event.source = "tyknot::search" := by
  cases event <;> simp [isProgress, source]

def LogEntry.isProgress : LogEntry → Bool
  | .reported event => event.isProgress
  | _ => false

@[simp] theorem LogEntry.isProgress_reported (event : Event) :
    (LogEntry.reported event).isProgress = event.isProgress := rfl

theorem LogEntry.isProgress_of_event? {entry : LogEntry} (kept : entry.event? = none) :
    entry.isProgress = false := by
  cases entry with
  | reported event => cases kept
  | _ => rfl

theorem LogEntry.filterMap_call?_filter (entries : List LogEntry) :
    (entries.filter (!·.isProgress)).filterMap LogEntry.call? =
      entries.filterMap LogEntry.call? := by
  have calls (entry : LogEntry) (progress : entry.isProgress = true) : entry.call? = none := by
    cases entry <;> first | rfl | cases progress
  rw [List.filterMap_filter]
  congr 1
  funext entry
  cases progress : entry.isProgress with
  | true => simp [calls entry progress]
  | false => simp

theorem LogEntry.filterMap_event?_filter (entries : List LogEntry) :
    (entries.filter (!·.isProgress)).filterMap LogEntry.event? =
      (entries.filterMap LogEntry.event?).filter (·.source ≠ "tyknot::search") := by
  rw [List.filterMap_filter, List.filter_filterMap]
  congr 1
  funext entry
  cases entry with
  | reported event =>
      have same := event.isProgress_iff_source
      by_cases progress : event.isProgress = true
      · simp [event?, Option.filter, progress, same.1 progress]
      · simp [event?, Option.filter, progress, mt same.2 progress]
  | _ => rfl

/-! ## 2. Computations that differ in progress only -/

/-- Two arenas of searches that use the same stamps have the same heap and the same stamp, and since
two earlier points the same was written down in them, but for the reports of progress, which only
the first one has. -/
structure Hushed (old other : List LogEntry) (naming : Naming) (one two : Arena) : Prop where
  later : naming.later = id
  heap : two.heap = one.heap
  stamp : two.stamp = one.stamp
  written : ∃ new, one.log = new ++ old ∧ two.log = new.filter (!·.isProgress) ++ other

def Solver.tracing (solver : Solver) (trace : Bool) : Solver :=
  { solver with settings := { solver.settings with trace } }

section

variable {old other : List LogEntry} {solver : Solver}

theorem Solver.noted_traced (event : Event) (arena : Arena) :
    (solver.tracing true).noted event arena = arena.note (.reported event) := by
  simp [Solver.noted, Solver.tracing]

theorem Solver.noted_untraced {event : Event} (progress : event.isProgress = true)
    (arena : Arena) : (solver.tracing false).noted event arena = arena := by
  simp [Solver.noted, Solver.tracing, progress]

theorem Solver.noted_kept {event : Event} (kept : event.isProgress = false) (arena : Arena) :
    solver.noted event arena = arena.note (.reported event) := by
  simp [Solver.noted, kept]

namespace Hushed

variable {naming : Naming} {one two : Arena}

theorem note (hushed : Hushed old other naming one two) {entry : LogEntry}
    (kept : entry.isProgress = false) : Hushed old other naming (one.note entry) (two.note entry)
    where
  later := hushed.later
  heap := hushed.heap
  stamp := hushed.stamp
  written := by
    obtain ⟨new, first, second⟩ := hushed.written
    exact ⟨entry :: new, by simp [first], by simp [second, kept]⟩

theorem onHeap (hushed : Hushed old other naming one two) (heap : Heap) :
    Hushed old other naming (one.onHeap heap) (two.onHeap heap) :=
  ⟨hushed.later, rfl, hushed.stamp, hushed.written⟩

/-- Progress is reported in the first arena only. -/
theorem progress (hushed : Hushed old other naming one two) {event event' : Event}
    (progress : event.isProgress = true) (progress' : event'.isProgress = true) :
    Hushed old other naming ((solver.tracing true).noted event one)
      ((solver.tracing false).noted event' two) := by
  rw [Solver.noted_traced, Solver.noted_untraced progress']
  obtain ⟨new, first, second⟩ := hushed.written
  refine ⟨hushed.later, hushed.heap, hushed.stamp, .reported event :: new, by simp [first], ?_⟩
  simp [second, progress]

/-- Any other event is reported in both arenas. -/
theorem noted (hushed : Hushed old other naming one two) {event : Event}
    (kept : event.isProgress = false) :
    Hushed old other naming ((solver.tracing true).noted event one)
      ((solver.tracing false).noted event two) := by
  rw [Solver.noted_traced, Solver.noted_kept kept]
  exact hushed.note kept

theorem next (hushed : Hushed old other naming one two) :
    naming.later (one.stamp + 1) = two.stamp + 1 ∧
      Hushed old other (naming.learn (one.stamp + 1)) { one with stamp := one.stamp + 1 }
        { two with stamp := two.stamp + 1 } := by
  rw [hushed.later, hushed.stamp]
  exact ⟨rfl, hushed.later, hushed.heap, rfl, hushed.written⟩

def coupling (solver : Solver) (old other : List LogEntry) :
    Coupling (solver.tracing true) (solver.tracing false) where
  arenas := Hushed old other
  idle _ := False
  placeholder := rfl
  maxDepth := rfl
  depths := rfl
  bearsRules _ := rfl
  offers _ := .refl _
  heap hushed := hushed.heap
  note := by
    intro naming one two entry again hushed alike
    obtain rfl := alike.eq_of_later hushed.later
    exact hushed.note (LogEntry.isProgress_of_event? alike.event?)
  onHeap := onHeap
  progress hushed := hushed.progress
  admitting hushed _ := hushed.noted rfl
  next := next
  idles none := none.elim

end Hushed

end

/-! ## 3. Searches -/

/-- Two computations from the same heap and the same stamp have the same result and leave the same
heap and the same stamp. The same bodies were called, in the same order and with the same inputs,
and the second one reported what the first one did, in the same order, less what has the search as
its source. -/
structure SameButProgress (old other : List LogEntry) {α : Type}
    (loud quiet : Except Halt α × Arena) : Prop where
  result : quiet.1 = loud.1
  heap : quiet.2.heap = loud.2.heap
  stamp : quiet.2.stamp = loud.2.stamp
  written : ∃ new new', loud.2.log = new ++ old ∧ quiet.2.log = new' ++ other ∧
    new'.filterMap LogEntry.call? = new.filterMap LogEntry.call? ∧
    new'.filterMap LogEntry.event? =
      (new.filterMap LogEntry.event?).filter (·.source ≠ "tyknot::search")

section

variable {solver : Solver} {old other : List LogEntry}

theorem Branch.Follows.eq_of_later {naming : Naming} {branch again : Branch}
    (follows : branch.Follows (Hushed.coupling solver old other) naming again)
    (same : naming.later = id) : again = branch := by
  obtain ⟨providers, memo, subst, history⟩ := follows
  obtain ⟨_, _, _, _⟩ := again
  obtain rfl := providers.eq_of_none fun _ => id
  obtain rfl := memo
  obtain rfl := history
  obtain rfl := subst.eq_of_later same
  rfl

theorem Branch.Follows.refl (branch : Branch) :
    branch.Follows (Hushed.coupling solver old other) .unchanged branch :=
  ⟨.refl _, rfl, .refl _, rfl⟩

theorem Found.Follows.eq_of_later {naming : Naming} {found again : Found}
    (follows : found.Follows (Hushed.coupling solver old other) naming again)
    (same : naming.later = id) : again = found := by
  obtain ⟨value, branch⟩ := follows
  obtain ⟨_, _⟩ := again
  obtain rfl := value
  obtain rfl := branch.eq_of_later same
  rfl

theorem Coupling.Accompanied.sameButProgress {α : Type} {related : Naming → α → α → Prop}
    {loud quiet : Search α}
    (accompanied : (Hushed.coupling solver old other).Accompanied .unchanged related loud quiet)
    (alike : ∀ {naming : Naming} {result again : α}, naming.later = id →
      related naming result again → again = result) (heap : Heap) (stamp : Nat) :
    SameButProgress old other (loud.runFrom ⟨heap, stamp, old⟩)
      (quiet.runFrom ⟨heap, stamp, other⟩) := by
  have hushed : Hushed old other .unchanged ⟨heap, stamp, old⟩ ⟨heap, stamp, other⟩ :=
    ⟨rfl, rfl, rfl, [], rfl, rfl⟩
  obtain ⟨naming, -, ends, reached⟩ := accompanied _ _ hushed
  obtain ⟨same, sameHeap, sameStamp, new, one, two⟩ : Hushed old other naming _ _ := reached
  have result := ends.eq (naming.rename_of_later same) fun _ _ => alike same
  exact ⟨result, sameHeap, sameStamp, new, _, one, two, LogEntry.filterMap_call?_filter new,
    LogEntry.filterMap_event?_filter new⟩

end

/-- Whether progress is reported has no influence on a search but for these reports: neither on the
branch in which it starts, nor on what it finds for a goal in any branch and at any depth, nor on
the value that it gives as a whole. -/
theorem tracing_adds_reports (solver : Solver) (fuel : Nat) (goal : Term) (providers : List Value)
    (heap : Heap) (stamp : Nat) (old other : List LogEntry) :
    SameButProgress old other
        (((solver.tracing true).solve fuel goal providers).runFrom ⟨heap, stamp, old⟩)
        (((solver.tracing false).solve fuel goal providers).runFrom ⟨heap, stamp, other⟩) ∧
      (∀ kind, SameButProgress old other
        (((solver.tracing true).solveAs fuel kind goal providers).runFrom ⟨heap, stamp, old⟩)
        (((solver.tracing false).solveAs fuel kind goal providers).runFrom ⟨heap, stamp, other⟩)) ∧
      SameButProgress old other
        (((solver.tracing true).start providers).runFrom ⟨heap, stamp, old⟩)
        (((solver.tracing false).start providers).runFrom ⟨heap, stamp, other⟩) ∧
      ∀ branch depth, SameButProgress old other
        (((solver.tracing true).find fuel goal branch depth).runFrom ⟨heap, stamp, old⟩)
        (((solver.tracing false).find fuel goal branch depth).runFrom ⟨heap, stamp, other⟩) := by
  refine ⟨?_, fun kind => ?_, ?_, fun branch depth => ?_⟩
  · have side := (Hushed.coupling solver old other).solve .unchanged fuel goal providers
    exact side.sameButProgress (fun _ => Eq.symm) heap stamp
  · have side := (Hushed.coupling solver old other).solveAs .unchanged fuel kind goal providers
    exact side.sameButProgress (fun _ => Eq.symm) heap stamp
  · have side := (Hushed.coupling solver old other).start .unchanged providers
    exact side.sameButProgress (fun same follows => follows.eq_of_later same) heap stamp
  · have side := (Hushed.coupling solver old other).find fuel .unchanged depth (.refl goal)
      (.refl branch)
    refine side.sameButProgress (fun same finds => ?_) heap stamp
    cases finds with
    | none => rfl
    | some follows => rw [follows.eq_of_later same]

end Synthesis
