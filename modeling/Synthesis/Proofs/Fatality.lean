import Synthesis.Proofs.Cells

/-!
# Failures are final

A dead end lets a search go on with the next rule. A failure does not, at whatever depth it comes
and under however many rules that are being tried.

Results:
1. `Arena.Leads.ending`: what a search writes down goes on until the first failure. The failure is
   the last entry, after the call of the body that failed if it was a body, and it is the result.
2. `Task.Stops.halted_last`: a part that stops with a failure writes it down last.
3. `failures_end_search`: a whole search gives the first failure to which it comes as its result,
   and so does every part of it that was under way.
-/
namespace Synthesis

/-! ## 1. What is written down until a failure -/

/-- An entry after which a search goes on: no failure, and not the call of a body that fails. -/
def LogEntry.GoesOn : LogEntry → Prop
  | .halted _ => False
  | .called call => ∀ failure, ¬ call.FailsWith failure
  | _ => True

/-- Entries that are written down until a search ends with a result, the latest first. If the result
is a failure, it was written down last. It may be that of the body that was called last, and none
came before it. -/
inductive Ending {α : Type} : Except Halt α → List LogEntry → Prop where
  | unfailed {result : Except Halt α} {entries : List LogEntry} :
      (∀ failure, result ≠ .error (.failed failure)) → (∀ entry ∈ entries, entry.GoesOn) →
      Ending result entries
  | failed {failure : Failure} {entries : List LogEntry} :
      (∀ entry ∈ entries, entry.GoesOn) →
      Ending (.error (.failed failure)) (.halted failure :: entries)
  | bodyFailed {failure : Failure} {call : Call} {entries : List LogEntry} :
      call.FailsWith failure → (∀ entry ∈ entries, entry.GoesOn) →
      Ending (.error (.failed failure)) (.halted failure :: .called call :: entries)

namespace Ending

variable {α : Type} {result : Except Halt α} {entries earlier later : List LogEntry}
  {failure : Failure} {call : Call}

/-- The first entry after which a search does not go on is its failure, or the call of the body that
failed, with its failure after it. -/
theorem split_at (ending : Ending result entries) {entry : LogEntry} (stops : ¬ entry.GoesOn)
    (split : entries = later ++ entry :: earlier) :
    ∃ failure, result = .error (.failed failure) ∧
      (later = [] ∧ entry = .halted failure ∨
        later = [.halted failure] ∧ ∃ call, entry = .called call ∧ call.FailsWith failure) := by
  have outside {before rest : List LogEntry} (goesOn : ∀ entry ∈ rest, entry.GoesOn)
      (inside : rest = before ++ entry :: earlier) : False :=
    stops (goesOn entry (inside ▸ List.mem_append_right _ (.head _)))
  cases ending with
  | unfailed _ goesOn => exact (outside goesOn split).elim
  | @failed failure _ goesOn =>
      obtain _ | ⟨last, later⟩ := later
      · exact ⟨failure, rfl, .inl ⟨rfl, (List.cons.inj split).1.symm⟩⟩
      · exact (outside goesOn (List.cons.inj split).2).elim
  | @bodyFailed failure call _ fails goesOn =>
      obtain _ | ⟨last, _ | ⟨next, later⟩⟩ := later
      · exact ⟨failure, rfl, .inl ⟨rfl, (List.cons.inj split).1.symm⟩⟩
      · cases split
        exact ⟨failure, rfl, .inr ⟨rfl, call, rfl, fails⟩⟩
      · exact (outside goesOn (List.cons.inj (List.cons.inj split).2).2).elim

/-- A failure that was written down is the last entry and the result. -/
theorem halted_last (ending : Ending result entries)
    (split : entries = later ++ .halted failure :: earlier) :
    later = [] ∧ result = .error (.failed failure) := by
  obtain ⟨other, same, ⟨last, here⟩ | ⟨-, call, here, -⟩⟩ := ending.split_at id split
  · cases here
    exact ⟨last, same⟩
  · cases here

/-- The call of a body that failed is only followed by its failure, which is the result. -/
theorem called_last (ending : Ending result entries)
    (split : entries = later ++ .called call :: earlier) (fails : call.FailsWith failure) :
    later = [.halted failure] ∧ result = .error (.failed failure) := by
  have stops : ¬ (LogEntry.called call).GoesOn := fun goesOn => goesOn failure fails
  obtain ⟨other, same, ⟨-, here⟩ | ⟨last, own, here, failed⟩⟩ := ending.split_at stops split
  · cases here
  · cases here
    cases failed.symm.trans fails
    exact ⟨last, same⟩

end Ending

theorem LogEntry.Smooth.goesOn {entry : LogEntry} {point : Arena} (smooth : entry.Smooth point) :
    entry.GoesOn := by
  cases entry <;> trivial

/-! ## 2. Runs -/

/-- A search ends at the first failure to which it comes, with this failure. -/
theorem Arena.Leads.ending {due : Arena → LogEntry → Prop} {α : Type} {arena reached : Arena}
    {result : Except Halt α} (leads : arena.Leads due result reached) :
    ∃ entries, reached.log = entries ++ arena.log ∧ Ending result entries := by
  have before {last : Arena} (smoothly : arena.Proceeds (Arena.Smoothly due) last) :
      ∃ entries, last.log = entries ++ arena.log ∧ ∀ entry ∈ entries, entry.GoesOn :=
    smoothly.exists_entries fun _ _ now => now.2.goesOn
  cases leads with
  | ok smoothly =>
      obtain ⟨entries, log, goesOn⟩ := before smoothly
      exact ⟨entries, log, .unfailed nofun goesOn⟩
  | error smoothly stops =>
      obtain ⟨entries, log, goesOn⟩ := before smoothly
      cases stops with
      | outOfFuel => exact ⟨entries, log, .unfailed nofun goesOn⟩
      | failed => exact ⟨_ :: entries, congrArg (_ :: ·) log, .failed goesOn⟩
      | bodyFails _ ran =>
          refine ⟨_ :: _ :: entries, congrArg (_ :: _ :: ·) log, .bodyFailed ?_ goesOn⟩
          rw [Call.FailsWith, ran]
      | @tiedBefore goal own value =>
          exact ⟨_ :: .produced goal own value :: entries, congrArg (_ :: _ :: ·) log,
            .failed (List.forall_mem_cons.2 ⟨trivial, goesOn⟩)⟩

theorem Task.Stops.halted_last {solver : Solver} {α : Type} {task : Task α} {arena last : Arena}
    {failure : Failure} (stops : task.Stops solver arena (.failed failure) last) :
    ∃ point : Arena, last = point.note (.halted failure) := by
  cases stops with
  | tooDeep | cyclic | notDeferred | noView | bodyFails | tiedBefore => exact ⟨_, rfl⟩

/-! ## 3. Whole searches -/

/-- Whatever fails in a whole search, at whatever depth, ends it: after the call of a body that
fails nothing is written down but its failure, after a failure nothing is written down at all, and
the result is this failure. If the search for the goal comes to a part that stops with a failure,
because it is nested too deep, reads a guarded goal, is given no cell by a placeholder, cannot tie a
cell or runs a body that fails, then the search and all parts of it that are under way end with this
failure in the arena in which it came up. -/
theorem failures_end_search {solver : Solver} {fuel : Nat} {goal : Term} {values : List Value}
    {arena reached : Arena} {result : Except Halt Value}
    (ran : (solver.solve fuel goal values).runFrom arena = (result, reached)) :
    ∃ entries, reached.log = entries ++ arena.log ∧
      (∀ later call earlier failure, entries = later ++ .called call :: earlier →
        (call.rule.recipe.run call.inputs call.heap).val.1 = .error failure →
        later = [.halted failure] ∧ result = .error (.failed failure)) ∧
      (∀ later failure earlier, entries = later ++ .halted failure :: earlier →
        later = [] ∧ result = .error (.failed failure)) ∧
      ∀ (first : Arena) (α : Type) (part : Task α) (middle : Arena) (failure : Failure)
        (last : Arena), solver.Begins goal values arena first →
        (Task.goal fuel goal (solver.startingBranch values) 0).ComesTo solver first part middle →
        part.Stops solver middle (.failed failure) last →
        result = .error (.failed failure) ∧ reached = last ∧
          (∃ point : Arena, last = point.note (.halted failure)) ∧
          ∀ (β : Type) (outer : Task β) (there : Arena),
            (Task.goal fuel goal (solver.startingBranch values) 0).ComesTo solver first outer
              there →
            outer.ComesTo solver there part middle →
            (outer.perform solver).runFrom there = (.error (.failed failure), last) := by
  have leads : arena.Leads (fun _ _ => True) result reached :=
    solve_leads ran (fun _ _ => trivial) (fun _ _ _ => trivial) fun _ _ run =>
      run.leads.mono fun _ _ _ => trivial
  obtain ⟨entries, log, ending⟩ := leads.ending
  refine ⟨entries, log, fun _ _ _ _ split fails => ending.called_last split fails,
    fun _ _ _ split => ending.halted_last split, ?_⟩
  intro first α part middle failure last begins comes stops
  have halts : (solver.solve fuel goal values).runFrom arena = (.error (.failed failure), last) :=
    begins.solve_halts (comes.halts stops.halts)
  have same := Prod.mk.inj (ran.symm.trans halts)
  exact ⟨same.1, same.2, stops.halted_last, fun _ _ _ _ inside => inside.halts stops.halts⟩

/-! ## 4. A body that fails for a parameter -/

/-- A shape with two rules for a goal. The first one needs a part, whose first rule has a body that
fails; both goals could be built by the rules that come later. -/
def breaking : ShapeDecl where
  kind := .provider 0
  name := "Host"
  bearing := true
  base := none
  rules := [
    .producing "assembled" (.constant "Whole") [.constant "Part"],
    .producing "bought" (.constant "Whole") [],
    ⟨"broken", .constant "Part", [], Script.recipe [] [.raise (.raised "broken" "no part")]⟩,
    .producing "spare" (.constant "Part") []]

def breakingSolver : Solver := ⟨⟨[breaking.toShape]⟩, .silent, .word⟩

theorem breakingSolver_fails :
    ((breakingSolver.solve 4 (.constant "Whole") [.mk 0 (.provider 0 "p" none)]).runFrom
      ⟨⟨1, []⟩, 0, []⟩).1 = .error (.failed (.raised "broken" "no part")) :=
  Search.error_of_failsWith (by decide +kernel)

/-- The failure of a body that is run for a parameter is the result of the whole search. -/
theorem failures_end_search_breaking : ∃ result reached,
    result = .error (.failed (.raised "broken" "no part")) ∧
    (breakingSolver.solve 4 (.constant "Whole") [.mk 0 (.provider 0 "p" none)]).runFrom
      ⟨⟨1, []⟩, 0, []⟩ = (result, reached) ∧
    ∃ entries, reached.log = entries ++ [] ∧
      (∀ later call earlier failure, entries = later ++ .called call :: earlier →
        (call.rule.recipe.run call.inputs call.heap).val.1 = .error failure →
        later = [.halted failure] ∧ result = .error (.failed failure)) ∧
      (∀ later failure earlier, entries = later ++ .halted failure :: earlier →
        later = [] ∧ result = .error (.failed failure)) ∧
      ∀ (first : Arena) (α : Type) (part : Task α) (middle : Arena) (failure : Failure)
        (last : Arena),
        breakingSolver.Begins (.constant "Whole") [.mk 0 (.provider 0 "p" none)]
          ⟨⟨1, []⟩, 0, []⟩ first →
        (Task.goal 4 (.constant "Whole")
          (breakingSolver.startingBranch [.mk 0 (.provider 0 "p" none)]) 0).ComesTo
            breakingSolver first part middle →
        part.Stops breakingSolver middle (.failed failure) last →
        result = .error (.failed failure) ∧ reached = last ∧
          (∃ point : Arena, last = point.note (.halted failure)) ∧
          ∀ (β : Type) (outer : Task β) (there : Arena),
            (Task.goal 4 (.constant "Whole")
              (breakingSolver.startingBranch [.mk 0 (.provider 0 "p" none)]) 0).ComesTo
                breakingSolver first outer there →
            outer.ComesTo breakingSolver there part middle →
            (outer.perform breakingSolver).runFrom there = (.error (.failed failure), last) := by
  have ran : (breakingSolver.solve 4 (.constant "Whole") [.mk 0 (.provider 0 "p" none)]).runFrom
      ⟨⟨1, []⟩, 0, []⟩ = (.error (.failed (.raised "broken" "no part")), _) :=
    Prod.ext breakingSolver_fails rfl
  exact ⟨_, _, rfl, ran, failures_end_search ran⟩

end Synthesis
