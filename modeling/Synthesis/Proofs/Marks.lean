import Synthesis.Proofs.Cells

/-!
# What a search leaves in the memo

A goal is marked in the memo while it is under construction: with its cell, or as guarded. Other
goals may be under construction when a part of a search starts, and their marks are there then.

Results:
1. `Runs.keepsMarks`: a run adds values to the memo. The marks that are left in the end are those
   that were there when it started.
2. `find_memo`: a search that finds a value ends with an entry for its goal that gives this value,
   and with no mark that was not there before. If it starts with providers only, there is none.
-/
namespace Synthesis

open Substitution (Triangular)

/-! ## 1. Marks -/

/-- An entry gives a value for its goal when it is read: this very value, or, from a cell that is
not tied yet, one for the same cell. -/
def Memo.Entry.Gives (entry : Memo.Entry) (goal : Term) (heap : Heap) (value : Value) : Prop :=
  ∃ read after, entry.recall goal heap = (.ok read, after) ∧
    (read = value ∨ ∃ cell, entry = .pending cell ∧ heap.content? cell = none ∧
      read.cell? = some cell ∧ value.cell? = some cell)

theorem Memo.Entry.Gives.of_recall {entry : Memo.Entry} {goal : Term} {heap after : Heap}
    {value : Value} (read : entry.recall goal heap = (.ok value, after)) :
    entry.Gives goal after value := by
  cases entry with
  | guarded => cases read
  | ready known =>
      cases read
      exact ⟨_, _, rfl, .inl rfl⟩
  | pending cell =>
      simp only [Memo.Entry.recall] at read
      split at read
      · next tied =>
          cases read
          refine ⟨value, heap, ?_, .inl rfl⟩
          simp only [Memo.Entry.recall, tied]
      · next empty =>
          cases read
          let after := (heap.alloc (.deferred cell)).2
          have still : after.content? cell = none := empty
          refine ⟨(after.alloc (.deferred cell)).1, (after.alloc (.deferred cell)).2, ?_,
            .inr ⟨cell, rfl, still, rfl, rfl⟩⟩
          rw [Memo.Entry.recall, still]

/-- In the memo of a branch, every entry is a value or was there when a part of a search started,
and there is an entry that gives what the part has found. What it has built is there as a value. -/
structure Task.Marks {α : Type} (task : Task α) (reached : Arena) (outcome : α) (last : Branch) :
    Prop where
  kept : ∀ {key : Term} {entry : Memo.Entry}, last.memo.get? key = some entry →
    (∃ value, entry = .ready value) ∨ task.start.memo.get? key = some entry
  given : ∀ {goal : Term} {value : Value}, task.delivered outcome = some (goal, value) →
    last.memo.get? goal = some (.ready value) ∨ (task.looksUp = true ∧
      ∃ entry, last.memo.get? goal = some entry ∧ entry.Gives goal reached.heap value)

namespace Task.Marks

variable {α β : Type} {task : Task α} {part : Task β} {arena reached : Arena} {outcome : α}
  {result : β} {last : Branch}

theorem built (marks : task.Marks reached outcome last) (blind : task.looksUp = false)
    {goal : Term} {value : Value} (delivered : task.delivered outcome = some (goal, value)) :
    last.memo.get? goal = some (.ready value) :=
  (marks.given delivered).resolve_right fun ⟨looked, _⟩ => by
    rw [blind] at looked
    cases looked

/-- A part of a search that ends like another one from the same memo, which does not look its goal
up, and gives the same. -/
theorem of_part (marks : part.Marks arena result last) (blind : part.looksUp = false)
    (start : task.start.memo = part.start.memo)
    (same : task.delivered outcome = part.delivered result) :
    task.Marks reached outcome last where
  kept held := start ▸ marks.kept held
  given delivered := .inl (marks.built blind (same.symm.trans delivered))

/-- Parameters that are settled leave no mark to the part that comes after them. -/
theorem kept_trans {middle : Branch} (first : task.Marks arena outcome middle)
    (second : part.Marks reached result last) (start : part.start.memo = middle.memo)
    {key : Term} {entry : Memo.Entry} (held : last.memo.get? key = some entry) :
    (∃ value, entry = .ready value) ∨ task.start.memo.get? key = some entry := by
  rcases second.kept held with ready | before
  · exact .inl ready
  · rw [start] at before
    exact first.kept before

/-- The mark of a goal is gone when the goal is built. -/
theorem of_entered {fuel depth : Nat} {offer : Offer} {renamed : Renamed} {aim : Term}
    {own : Option Nat} {entry : Memo.Entry} {branch : Branch} {found : Found}
    (marks : Task.Marks (.complete fuel offer renamed aim own
      { branch with memo := branch.memo.insert aim entry } depth) arena (some found) last) :
    Task.Marks (.build fuel offer renamed aim branch depth) reached (some found) last := by
  have settled : last.memo.get? aim = some (.ready found.value) := marks.built rfl rfl
  constructor
  case given => exact fun delivered => .inl (marks.built rfl delivered)
  case kept =>
    intro key other held
    rcases marks.kept held with ready | before
    · exact .inl ready
    · rw [Task.start, Memo.get?_insert] at before
      split at before
      · next same =>
          rw [same, settled] at held
          exact .inl ⟨_, (Option.some.inj held).symm⟩
      · exact .inr before

end Task.Marks

/-! ## 2. Runs -/

/-- A run leaves no mark in the memo that was not there when it started. -/
theorem Runs.keepsMarks {solver : Solver} {α : Type} {task : Task α} {arena reached : Arena}
    {result : Except Halt α} (run : Runs solver task arena result reached)
    (triangular : Triangular task.start.subst.bindings) {outcome : α} (ok : result = .ok outcome)
    {last : Branch} (finished : task.finish? outcome = some last) :
    task.Marks reached outcome last := by
  induction run generalizing last with
  | exhausted | tooDeep | cyclic | notDeferred | probeHalts | paramsHalt | paramHalts | noView
  | bodyFails | tiedBefore => cases ok
  | unfound | noOffers | paramsFail | paramFails | slotOpen | declines =>
      cases ok
      cases finished
  | known same known read =>
      cases ok
      cases finished
      refine ⟨.inr, fun delivered => .inr ⟨rfl, ?_⟩⟩
      subst same
      cases delivered
      rw [Solver.heap_noted]
      exact ⟨_, (isGround_of_known? known).2, .of_recall read⟩
  | searched same _ tries _ _ ih =>
      have marks := ih triangular ok finished
      subst ok
      exact marks.of_part rfl rfl (tries.delivered_sought same triangular)
  | mismatch _ _ ih | leftOpen _ _ _ ih | moveOn _ _ _ _ _ _ ih =>
      exact (ih triangular ok finished).of_part rfl rfl rfl
  | settles matched same ground run _ ih =>
      have later := (Substitution.matching_ok triangular matched).2.1
      have marks := ih later ok finished
      subst ok
      exact marks.of_part rfl rfl (run.delivered_asked same later ground)
  | plain _ _ ih => exact (ih triangular ok finished).of_part rfl rfl rfl
  | withCell _ _ _ _ _ ih | guarded _ _ _ _ ih =>
      obtain _ | found := outcome
      · cases finished
      exact .of_entered (ih triangular ok finished)
  | paramsSettled params _ one two =>
      have first := one triangular rfl rfl
      have second := two (params.keepsSubst triangular rfl rfl).triangular ok finished
      exact ⟨first.kept_trans second rfl, fun delivered => .inl (second.built rfl delivered)⟩
  | noParams =>
      cases ok
      cases finished
      exact ⟨.inr, fun delivered => by cases delivered⟩
  | @paramFound _ _ _ _ _ _ _ _ _ _ _ result goal _ one two =>
      obtain _ | _ | _ := result <;> cases ok <;> cases finished
      have first := one triangular rfl rfl
      have second := two (goal.keepsSubst triangular rfl rfl).triangular rfl rfl
      exact ⟨first.kept_trans second rfl, fun delivered => by cases delivered⟩
  | built =>
      cases ok
      cases finished
      constructor
      case given =>
        intro goal value delivered
        cases delivered
        simp
      case kept =>
        intro key entry held
        rw [Memo.get?_insert] at held
        split at held
        · exact .inl ⟨_, (Option.some.inj held).symm⟩
        · exact .inr held

/-! ## 3. Searches -/

/-- A search that finds a value ends with a ground goal, for which the memo has an entry that gives
this value. Every other entry is a value, or it was there before for the same goal. In a search that
starts with providers only, all entries are values. -/
theorem find_memo {solver : Solver} {fuel depth : Nat} {goal : Term} {branch : Branch}
    {arena reached : Arena} {found : Found} (reachable : branch.subst.Reachable)
    (ran : (solver.find fuel goal branch depth).runFrom arena = (.ok (some found), reached)) :
    (found.branch.subst.apply goal).isGround = true ∧
      (∃ entry, found.branch.memo.get? (found.branch.subst.apply goal) = some entry ∧
        entry.Gives (found.branch.subst.apply goal) reached.heap found.value) ∧
      (∀ key entry, found.branch.memo.get? key = some entry →
        (∃ value, entry = .ready value) ∨ branch.memo.get? key = some entry) ∧
      ∀ values first started, (solver.start values).runFrom first = (.ok branch, started) →
        ∀ key entry, found.branch.memo.get? key = some entry →
          ∃ value, entry = .ready value := by
  have run := Runs.of_find ran
  have triangular := reachable.triangular
  have marks := run.keepsMarks triangular rfl rfl
  refine ⟨(run.keepsSubst triangular rfl rfl).ground _ (.head _), ?_, fun _ _ => marks.kept, ?_⟩
  · rcases marks.given rfl with settled | ⟨-, gives⟩
    · exact ⟨_, settled, found.value, reached.heap, rfl, .inl rfl⟩
    · exact gives
  · intro values first started start key entry held
    refine (marks.kept held).resolve_right ?_
    rw [Task.start, (solver.start_ok start).1]
    nofun

/-- A branch in which two goals are under construction, one of them with a cell. -/
def knottingUnderway : Branch :=
  { knottingSolver.startingBranch [knottingHost] with
    memo := ⟨[(.constant "Top", .guarded), (.constant "Pair", .pending 0)]⟩ }

theorem find_memo_node : ∃ arena found reached,
    knottingUnderway.subst.Reachable ∧
    (knottingSolver.find 8 (.constant "Node") knottingUnderway 0).runFrom arena =
      (.ok (some found), reached) ∧
    (found.branch.subst.apply (.constant "Node")).isGround = true ∧
      (∃ entry, found.branch.memo.get? (found.branch.subst.apply (.constant "Node")) = some entry ∧
        entry.Gives (found.branch.subst.apply (.constant "Node")) reached.heap found.value) ∧
      (∀ key entry, found.branch.memo.get? key = some entry →
        (∃ value, entry = .ready value) ∨ knottingUnderway.memo.get? key = some entry) ∧
      ∀ values first started,
        (knottingSolver.start values).runFrom first = (.ok knottingUnderway, started) →
          ∀ key entry, found.branch.memo.get? key = some entry →
            ∃ value, entry = .ready value := by
  have passed : (knottingSolver.find 8 (.constant "Node") knottingUnderway 0).passes
      ⟨⟨1, [none]⟩, 0, []⟩ (fun found _ => found.isSome) = true := by decide +kernel
  obtain ⟨_ | found, reached, ran, some⟩ := Search.exists_of_passes passed
  · cases some
  exact ⟨_, found, reached, .empty, ran, find_memo .empty ran⟩

end Synthesis
