import Mathlib.Data.Finset.Card
import Synthesis.Proofs.Accumulation
import Synthesis.Proofs.Allowances
import Synthesis.Proofs.Sharing

/-!
# Searches with finitely many goals

A goal is entered in the memo before its parameters are looked for, and it is looked for by no rule
as long as it is there. So if only finitely many goals can come up, the search comes to an end
without any depth limit: each level either enters a goal that was not in the memo before or looks
for a cell, which needs nothing more.

Results:
1. `Memo.unmarked`: how many goals of a finite set are not in the memo. It never grows on the way
   down, and it shrinks when a goal is entered.
2. `Task.Bounded`, `Task.Next.keepsBounded`: the fuel that is left is always more than that.
3. `solve_ends_of_closed`: a search ends if its goal is in a finite set that is closed under the
   parameters of rules.
-/
namespace Synthesis

/-! ## 1. Goals that are not in the memo -/

namespace Memo

variable {goals : Finset Term} {memo later : Memo} {goal : Term}

def unmarked (goals : Finset Term) (memo : Memo) : Nat :=
  (goals.filter fun goal => (memo.get? goal).isNone = true).card

theorem unmarked_le_card (goals : Finset Term) (memo : Memo) :
    memo.unmarked goals ≤ goals.card :=
  Finset.card_filter_le goals _

theorem unmarked_mono
    (known : ∀ {goal : Term}, (memo.get? goal).isSome = true → (later.get? goal).isSome = true) :
    later.unmarked goals ≤ memo.unmarked goals := by
  refine Finset.card_le_card (Finset.monotone_filter_right goals fun goal _ unknown => ?_)
  cases held : memo.get? goal with
  | none => rfl
  | some entry =>
      have kept := known (by rw [held]; rfl)
      rw [Option.isNone_iff_eq_none.1 unknown] at kept
      cases kept

theorem unmarked_insert_lt (member : goal ∈ goals) (unknown : memo.get? goal = none)
    (entry : Entry) : (memo.insert goal entry).unmarked goals < memo.unmarked goals := by
  refine Finset.card_lt_card
    ⟨Finset.monotone_filter_right goals fun other _ stays => ?_, fun all => ?_⟩
  · rw [get?_insert] at stays
    split at stays
    · cases stays
    · exact stays
  · have here := all (Finset.mem_filter.2 ⟨member, by rw [unknown]; rfl⟩)
    simp at here

end Memo

/-! ## 2. The fuel that is needed -/

/-- A set of ground goals, with the parameters of each rule that returns one of them. The goals for
their cells need not be in it. -/
structure Solver.Closed (solver : Solver) (goals : Finset Term) : Prop where
  ground : ∀ goal ∈ goals, goal.isGround = true
  params : ∀ rule, solver.registry.Declares rule → ∀ slots : String → Term,
    rule.returns.subst slots ∈ goals → ∀ param ∈ rule.params, param.subst slots ∈ goals

/-- The goals of the parameters of a rule that was chosen for a goal of the set are in it too. -/
theorem Solver.Closed.params_of_chosen {solver : Solver} {goals : Finset Term}
    (closed : solver.Closed goals) (determined : solver.Determined) {offer : Offer}
    {renamed : Renamed} {aim : Term} {subst : Substitution}
    (chosen : Chosen solver.registry offer renamed aim subst) (member : aim ∈ goals)
    {pattern : Term} (among : pattern ∈ renamed.params) : subst.apply pattern ∈ goals := by
  obtain ⟨stamp, -, returns⟩ := chosen.returns_slots
  have applied : subst.apply pattern ∈ renamed.params.map subst.apply := List.mem_map_of_mem among
  rw [chosen.params_eq determined returns] at applied
  obtain ⟨param, declared, same⟩ := List.mem_map.1 applied
  rw [← same]
  exact closed.params _ chosen.declared _ (returns ▸ member) param declared

/-- The fuel of a part of a search exceeds the number of goals that may still be entered in the
memo. A goal that asks for a cell takes one level only. -/
def Task.Bounded (solver : Solver) (goals : Finset Term) : {α : Type} → Task α → Prop
  | _, .goal fuel sought branch _ => 0 < fuel ∧
      (solver.asksForCell (branch.subst.apply sought) = true ∨
        branch.subst.apply sought ∈ goals ∧ branch.memo.unmarked goals < fuel)
  | _, .offers fuel aim branch _ _ | _, .build fuel _ _ aim branch _ =>
      solver.asksForCell aim = true ∨
        aim ∈ goals ∧ branch.memo.get? aim = none ∧ branch.memo.unmarked goals ≤ fuel
  | _, .complete fuel _ renamed aim _ branch _ => renamed.params = [] ∨
      aim ∈ goals ∧ branch.memo.unmarked goals < fuel
  | _, .params fuel _ _ _ patterns branch => ∀ pattern ∈ patterns,
      branch.subst.apply pattern ∈ goals ∧ branch.memo.unmarked goals < fuel
  | _, .invoke .. => True

namespace Task.Next

variable {solver : Solver} {goals : Finset Term} {α β : Type} {task : Task α} {part : Task β}
  {arena middle : Arena}

/-- What looks for ground goals from a proper branch comes to parts that do. -/
theorem keepsReady (determined : solver.Determined) (next : task.Next solver arena part middle)
    (ready : task.Ready solver arena.stamp) : part.Ready solver middle.stamp := by
  cases next with
  | tries same => exact (by simpa using ready.offers same)
  | afterMismatch | afterOpen => exact (by simpa using ready.rest)
  | attempt matched same ground => exact (by simpa using ready.build matched same ground)
  | afterAttempt matched same ground first =>
      have stamps := (Runs.of_perform first).grows.stamp
      simp only [Solver.stamp_noted, Arena.stamp_note, Arena.stamp_tried] at stamps
      exact ready.rest.mono stamps
  | plain => exact ready.complete _ _
  | probe => exact ready.probe
  | withCell _ first | guarded _ first =>
      exact (ready.complete _ _).mono (Runs.of_perform first).grows.stamp
  | params => exact ready.params determined
  | body first => exact ready.invoke determined (Runs.of_perform first)
  | param => exact ready.param
  | afterParam first => exact (by simpa using ready.later determined (Runs.of_perform first))

/-- The fuel is enough for each part to which a part of a search comes for which it is enough. -/
theorem keepsBounded (determined : solver.Determined) (cells : solver.CellsNeedNothing)
    (closed : solver.Closed goals) (next : task.Next solver arena part middle)
    (ready : task.Ready solver arena.stamp) (bounded : task.Bounded solver goals) :
    part.Bounded solver goals := by
  cases next with
  | @tries _ _ sought _ branch _ same _ unknown =>
      subst same
      have ground : (branch.subst.apply sought).isGround = true := ready.ground
      rw [Solver.known?, if_pos ground] at unknown
      rcases bounded.2 with asks | ⟨member, enough⟩
      · exact .inl asks
      · exact .inr ⟨member, unknown, Nat.le_of_lt_succ enough⟩
  | afterMismatch | afterOpen | afterAttempt => exact bounded
  | attempt matched same =>
      obtain rfl := (ready.returns_of_matched matched same).1
      exact bounded
  | plain unentered =>
      rcases Bool.or_eq_true_iff.1 unentered with empty | asks
      · exact .inl (List.isEmpty_iff.1 empty)
      · exact .inl (cells.params_eq_nil ready.ground asks)
  | @probe _ _ _ _ _ branch _ entered =>
      have plain := (Bool.or_eq_false_iff.1 entered).2
      obtain ⟨member, unknown, enough⟩ := bounded.resolve_left (by simp [plain])
      have left := Memo.unmarked_insert_lt member unknown .guarded
      refine ⟨by omega, .inl ?_⟩
      rw [branch.subst.apply_of_ground (by simpa using Chosen.ground ready.ground)]
      exact solver.asksForCell_under _
  | withCell entered | guarded entered =>
      have plain := (Bool.or_eq_false_iff.1 entered).2
      obtain ⟨member, unknown, enough⟩ := bounded.resolve_left (by simp [plain])
      exact .inr ⟨member, Nat.lt_of_lt_of_le (Memo.unmarked_insert_lt member unknown _) enough⟩
  | params =>
      rcases bounded with none | ⟨member, enough⟩
      · intro pattern among
        rw [none] at among
        cases among
      · exact fun _ among => ⟨closed.params_of_chosen determined ready.ground member among, enough⟩
  | body => trivial
  | param =>
      obtain ⟨member, enough⟩ := bounded _ (.head _)
      exact ⟨Nat.lt_of_le_of_lt (Nat.zero_le _) enough, .inr ⟨member, enough⟩⟩
  | afterParam first =>
      have run := Runs.of_perform first
      have extended := (run.keepsSubst ready.start.triangular rfl rfl).extended
      intro pattern among
      obtain ⟨member, enough⟩ := bounded pattern (.tail _ among)
      refine ⟨?_, Nat.lt_of_le_of_lt (Memo.unmarked_mono (run.adds rfl rfl).known) enough⟩
      rwa [extended.apply_of_ground ready.start.triangular (closed.ground _ member)]

end Task.Next

/-! ## 3. Whole searches -/

/-- Let the rules be determined and goals that ask for cells need no parameters. If the goal is in a
finite set of ground goals that is closed under the parameters of rules, a search for it ends: with
enough fuel it does not run out of it, and always does the same. -/
theorem solve_ends_of_closed {solver : Solver} (determined : solver.Determined)
    (cells : solver.CellsNeedNothing) {goals : Finset Term} (closed : solver.Closed goals)
    {goal : Term} (member : goal ∈ goals) (values : List Value) (arena : Arena) :
    ∃ result reached, result ≠ .error .outOfFuel ∧
      ∀ fuel, goals.card < fuel →
        (solver.solve fuel goal values).runFrom arena = (result, reached) := by
  refine Search.ends_of_more (fun _ le => Solver.solve_more le goal values) fun reached ends => ?_
  rcases Solver.solve_halted ends with
    impossible | ⟨_, impossible⟩ | impossible | ⟨first, begins, ends⟩
  iterate 3 cases impossible
  have bounded : (Task.goal goals.card.succ goal (solver.startingBranch values) 0).Bounded solver
      goals := by
    refine ⟨Nat.succ_pos _, .inr ⟨?_, Nat.lt_succ_of_le (Memo.unmarked_le_card goals _)⟩⟩
    rwa [Substitution.apply_of_ground _ begins.ground]
  exact Task.never_runsOut
    (motive := fun task arena => task.Ready solver arena.stamp ∧ task.Bounded solver goals)
    (fun next both => ⟨next.keepsReady determined both.1,
      next.keepsBounded determined cells closed both.1 both.2⟩)
    (fun _ _ _ _ both => Nat.lt_irrefl 0 both.2.1) ⟨.of_start begins.ground, bounded⟩ reached ends

def ringingGoals : Finset Term := {.constant "Node", .constant "Left", .constant "Right"}

theorem ringingSolver_closed : ringingSolver.Closed ringingGoals where
  ground := by decide
  params rule declared slots _ param among := by
    obtain ⟨decl, listed, rfl⟩ := Registry.declares_of_single declared
    have within : ∀ param ∈ decl.params, param.isGround = true ∧ param ∈ ringingGoals := by
      simp only [ringing, List.mem_cons, List.not_mem_nil, or_false] at listed
      rcases listed with rfl | rfl | rfl | rfl <;> decide
    obtain ⟨ground, member⟩ := within param among
    rwa [Term.subst_of_ground ground]

theorem solve_ends_of_closed_node : ringingSolver.Determined ∧ ringingSolver.CellsNeedNothing ∧
    ringingSolver.Closed ringingGoals ∧ Term.constant "Node" ∈ ringingGoals ∧
    ∃ result reached, result ≠ .error .outOfFuel ∧
      ∀ fuel, ringingGoals.card < fuel →
        (ringingSolver.solve fuel (.constant "Node") [.mk 0 (.provider 0 "p" none)]).runFrom
          ⟨⟨1, []⟩, 0, []⟩ = (result, reached) :=
  ⟨ringingSolver_determined, ringingSolver_cellsNeedNothing, ringingSolver_closed, by decide,
    solve_ends_of_closed ringingSolver_determined ringingSolver_cellsNeedNothing
      ringingSolver_closed (by decide) _ _⟩

end Synthesis
