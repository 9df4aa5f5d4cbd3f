import Synthesis.Proofs.Cells

/-!
# When a cell is tied a second time

A cell is made for one goal, by the rule for the goal that asks for it. It is empty until the goal
is built, and it is tied to what is built first. A second attempt for the goal is given the same
cell only if the branch holds a value for the goal that asks for it, and such a value stays in a
branch only if it was passed as an argument.

Results:
1. `Runs.knots`: a run keeps the cells of goals in order, or it ends because a goal is built twice
   for the same cell.
2. `solve_knotAlreadyTied_iff`: whole searches end like this exactly when a goal is built twice for
   a cell that was passed as an argument.
-/
namespace Synthesis

/-! ## 1. The cells of goals -/

/-- A cell was made for a goal: it is the value for the goal that asks for it. -/
def MadeFor (placeholder : String) (log : List LogEntry) (goal : Term) (cell : Nat) : Prop :=
  ∃ own value, .produced (goal.under placeholder) own value ∈ log ∧ value.cell? = some cell

/-- The cell of a goal was passed as an argument. -/
def PassedOn (placeholder : String) (log : List LogEntry) (goal : Term) (cell : Nat) : Prop :=
  ∃ value, .passed (goal.under placeholder) value ∈ log ∧ value.cell? = some cell

/-- A goal was built twice for a cell. -/
def BuiltTwice (log : List LogEntry) (goal : Term) (cell : Nat) : Prop :=
  ∃ value earlier before, .produced goal (some cell) value :: before <:+ log ∧
    .produced goal (some cell) earlier ∈ before

/-- If something was produced for a cell, it is the first time. -/
def LogEntry.TiesFirst (entry : LogEntry) (before : List LogEntry) : Prop :=
  ∀ goal cell value, entry = .produced goal (some cell) value →
    ∀ other earlier, .produced other (some cell) earlier ∉ before

/-- The cells of goals are in order: each is made for one goal, it is empty until the goal is built,
and what is produced for a cell is in it. -/
structure Tidy (placeholder : String) (log : List LogEntry) (heap : Heap) : Prop where
  there : ∀ {goal : Term} {cell : Nat}, MadeFor placeholder log goal cell →
    cell < heap.cells.length
  apart : ∀ {goal other : Term} {cell : Nat}, MadeFor placeholder log goal cell →
    MadeFor placeholder log other cell → other = goal
  waits : ∀ {goal : Term} {cell : Nat}, MadeFor placeholder log goal cell →
    heap.content? cell = none ∨ ∃ value, .produced goal (some cell) value ∈ log
  holds : ∀ {goal : Term} {cell : Nat} {value : Value}, .produced goal (some cell) value ∈ log →
    heap.content? cell = some value
  once : AtEveryPoint LogEntry.TiesFirst log

theorem MadeFor.mono {placeholder : String} {log later : List LogEntry} {goal : Term} {cell : Nat}
    (made : MadeFor placeholder log goal cell) (more : log ⊆ later) :
    MadeFor placeholder later goal cell := by
  obtain ⟨own, value, member, same⟩ := made
  exact ⟨own, value, more member, same⟩

theorem PassedOn.mono {placeholder : String} {log later : List LogEntry} {goal : Term} {cell : Nat}
    (passed : PassedOn placeholder log goal cell) (more : log ⊆ later) :
    PassedOn placeholder later goal cell := by
  obtain ⟨value, member, same⟩ := passed
  exact ⟨value, more member, same⟩

theorem AtEveryPoint.not_builtTwice {log : List LogEntry}
    (once : AtEveryPoint LogEntry.TiesFirst log) (goal : Term) (cell : Nat) :
    ¬ BuiltTwice log goal cell := by
  rintro ⟨value, earlier, before, here, member⟩
  exact once _ _ here _ _ _ rfl _ _ member

namespace Tidy

variable {placeholder : String} {arena reached : Arena}

theorem nil (heap : Heap) : Tidy placeholder [] heap where
  there := fun ⟨_, _, member, _⟩ => by cases member
  apart := fun ⟨_, _, member, _⟩ => by cases member
  waits := fun ⟨_, _, member, _⟩ => by cases member
  holds member := by cases member
  once := .nil

/-- An entry with which nothing is produced leaves the cells in order. -/
theorem cons {log : List LogEntry} {heap : Heap} (tidy : Tidy placeholder log heap)
    {entry : LogEntry} (silent : entry.produces = false) :
    Tidy placeholder (entry :: log) heap := by
  have before {goal : Term} {own : Option Nat} {value : Value}
      (member : .produced goal own value ∈ entry :: log) : .produced goal own value ∈ log := by
    rcases List.mem_cons.1 member with rfl | member
    · cases silent
    · exact member
  have made {goal : Term} {cell : Nat} (made : MadeFor placeholder (entry :: log) goal cell) :
      MadeFor placeholder log goal cell := by
    obtain ⟨own, value, member, same⟩ := made
    exact ⟨own, value, before member, same⟩
  constructor
  case there => exact fun owned => tidy.there (made owned)
  case apart => exact fun owned other => tidy.apart (made owned) (made other)
  case waits =>
    intro goal cell owned
    rcases tidy.waits (made owned) with empty | ⟨value, member⟩
    · exact .inl empty
    · exact .inr ⟨value, .tail _ member⟩
  case holds => exact fun member => tidy.holds (before member)
  case once =>
    refine tidy.once.cons ?_
    rintro _ _ _ rfl
    cases silent

theorem extend {log : List LogEntry} {heap later : Heap} (tidy : Tidy placeholder log heap)
    (extended : heap.Extends later) : Tidy placeholder log later where
  there made := Nat.lt_of_lt_of_le (tidy.there made) extended.grows.cells_le
  apart := tidy.apart
  waits made := by
    rw [extended.content?_eq (tidy.there made)]
    exact tidy.waits made
  holds member := extended.grows.keeps (tidy.holds member)
  once := tidy.once

/-- As long as nothing is produced, the cells stay in order. -/
theorem silently (tidy : Tidy placeholder arena.log arena.heap) (silent : arena.Silently reached) :
    Tidy placeholder reached.log reached.heap := by
  refine silent.keeps (motive := fun arena => Tidy placeholder arena.log arena.heap) ?_ tidy
  intro first second step before
  obtain ⟨entry, log, unproduced, -⟩ := step.exists_entry
  exact log ▸ (before.cons unproduced).extend step.heap_extends

/-- What is produced for a goal that asks for a cell is the cell of the goal under it. -/
theorem makeCell (tidy : Tidy placeholder arena.log arena.heap) {aim : Term} {value : Value}
    {heap : Heap} (made : value.cell? = some arena.heap.cells.length)
    (new : heap.cells = arena.heap.cells ++ [none]) :
    Tidy placeholder (.produced aim none value :: arena.log) heap := by
  have cases_made {goal : Term} {cell : Nat}
      (owned : MadeFor placeholder (.produced aim none value :: arena.log) goal cell) :
      (goal.under placeholder = aim ∧ cell = arena.heap.cells.length) ∨
        MadeFor placeholder arena.log goal cell := by
    obtain ⟨own, other, member, same⟩ := owned
    rcases List.mem_cons.1 member with here | member
    · cases here
      exact .inl ⟨rfl, Option.some.inj (same.symm.trans made)⟩
    · exact .inr ⟨own, other, member, same⟩
  have old {cell : Nat} (there : cell < arena.heap.cells.length) :
      heap.content? cell = arena.heap.content? cell := by
    rw [Heap.content?, Heap.content?, new, List.getElem?_append_left there]
  constructor
  case there =>
    intro goal cell owned
    rw [new, List.length_append]
    rcases cases_made owned with ⟨-, rfl⟩ | owned
    · exact Nat.lt_succ_self _
    · exact Nat.lt_succ_of_lt (tidy.there owned)
  case apart =>
    intro goal other cell owned others
    rcases cases_made owned with ⟨same, rfl⟩ | owned <;>
      rcases cases_made others with ⟨same', here⟩ | others
    · rw [← same] at same'
      simpa [Term.under] using same'
    · exact absurd (tidy.there others) (Nat.lt_irrefl _)
    · exact absurd (here ▸ tidy.there owned) (Nat.lt_irrefl _)
    · exact tidy.apart owned others
  case waits =>
    intro goal cell owned
    rcases cases_made owned with ⟨-, rfl⟩ | owned
    · exact .inl (by simp [Heap.content?, new])
    · rw [old (tidy.there owned)]
      exact (tidy.waits owned).imp_right (Exists.imp fun _ => .tail _)
  case holds =>
    intro goal cell produced member
    rcases List.mem_cons.1 member with same | member
    · cases same
    · have held := tidy.holds member
      rwa [old (Heap.lt_of_content? held)]
  case once =>
    refine tidy.once.cons ?_
    intro _ _ _ same
    cases same

/-- What is produced for another goal is tied to the cell of the goal, if it has one. -/
theorem tie (tidy : Tidy placeholder arena.log arena.heap) {aim : Term} {own : Option Nat}
    {value : Value} {tied : Heap} (plain : aim.head? ≠ some placeholder)
    (owned : ∀ cell, own = some cell → MadeFor placeholder arena.log aim cell)
    (success : arena.heap.settle? own value = some tied) :
    Tidy placeholder (.produced aim own value :: arena.log) tied := by
  have before {goal : Term} {cell : Nat}
      (made : MadeFor placeholder (.produced aim own value :: arena.log) goal cell) :
      MadeFor placeholder arena.log goal cell := by
    obtain ⟨own, other, member, same⟩ := made
    rcases List.mem_cons.1 member with here | member
    · cases here
      simp [Term.under, Term.head?] at plain
    · exact ⟨own, other, member, same⟩
  have grown := Heap.settle?_grows success
  constructor
  case there => exact fun made => Nat.lt_of_lt_of_le (tidy.there (before made)) grown.cells_le
  case apart => exact fun made other => tidy.apart (before made) (before other)
  case waits =>
    intro goal cell made
    rcases tidy.waits (before made) with empty | ⟨value, member⟩
    · cases own with
      | none =>
          cases success
          exact .inl empty
      | some own =>
          by_cases here : cell = own
          · subst here
            obtain rfl := tidy.apart (owned cell rfl) (before made)
            exact .inr ⟨value, .head _⟩
          · exact .inl ((Heap.content?_tie_of_ne success here).trans empty)
    · exact .inr ⟨value, .tail _ member⟩
  case holds =>
    intro goal cell produced member
    rcases List.mem_cons.1 member with same | member
    · cases same
      exact Heap.content?_tie success (tidy.there (owned _ rfl))
    · exact grown.keeps (tidy.holds member)
  case once =>
    refine tidy.once.cons ?_
    intro goal cell produced same other earlier member
    cases same
    have empty := (Heap.tie?_eq_some success).1
    rw [tidy.holds member] at empty
    cases empty

end Tidy

/-! ## 2. What a branch holds was passed as an argument -/

/-- Every value that a memo holds for a goal that asks for a cell was passed as an argument, unless
it is the value that is given. -/
def Memo.PassedBut (memo : Memo) (placeholder : String) (given : Option (Term × Value))
    (log : List LogEntry) : Prop :=
  ∀ (goal : Term) (value : Value), memo.get? (goal.under placeholder) = some (.ready value) →
    .passed (goal.under placeholder) value ∈ log ∨ given = some (goal.under placeholder, value)

namespace Memo.PassedBut

variable {memo : Memo} {placeholder : String} {given : Option (Term × Value)}
  {log later : List LogEntry}

theorem mono (passed : memo.PassedBut placeholder given log) (more : log ⊆ later) :
    memo.PassedBut placeholder given later :=
  fun goal value found => (passed goal value found).imp_left fun member => more member

theorem weaken (passed : memo.PassedBut placeholder none log) :
    memo.PassedBut placeholder given log :=
  fun goal value found => .inl ((passed goal value found).resolve_right nofun)

theorem enter (passed : memo.PassedBut placeholder none log) (aim : Term) {entry : Memo.Entry}
    (pending : ∀ value, entry ≠ .ready value := by intro _ same; cases same) :
    (memo.insert aim entry).PassedBut placeholder none log := by
  intro goal value found
  rw [Memo.get?_insert] at found
  split at found
  · exact absurd (Option.some.inj found) (pending value)
  · exact passed goal value found

/-- To pass the value that is given makes up for it. -/
theorem pass {goal : Term} {value : Value}
    (passed : memo.PassedBut placeholder (some (goal, value)) log) (more : log ⊆ later)
    (here : .passed goal value ∈ later) : memo.PassedBut placeholder none later := by
  intro other held found
  rcases passed other held found with before | now
  · exact .inl (more before)
  · cases now
    exact .inl here

end Memo.PassedBut

/-- In the branch to which a run leads, the values for goals that ask for cells were passed as
arguments, apart from the one that the run gives. -/
theorem Runs.keepsPassed {solver : Solver} {α : Type} {task : Task α} {arena reached : Arena}
    {result : Except Halt α} (run : Runs solver task arena result reached)
    (triangular : Substitution.Triangular task.start.subst.bindings) {placeholder : String}
    (passed : task.start.memo.PassedBut placeholder none arena.log) {outcome : α}
    (ok : result = .ok outcome) {last : Branch} (finished : task.finish? outcome = some last) :
    last.memo.PassedBut placeholder (task.delivered outcome) reached.log := by
  induction run generalizing last with
  | exhausted | tooDeep | cyclic | notDeferred | probeHalts | paramsHalt | paramHalts | noView
  | bodyFails | tiedBefore => cases ok
  | unfound | noOffers | paramsFail | paramFails | slotOpen | declines =>
      cases ok
      cases finished
  | known _ _ read =>
      cases ok
      cases finished
      exact passed.weaken.mono (Arena.Proceeds.subset (.reading read))
  | searched same _ tries _ _ ih =>
      subst ok
      rw [tries.delivered_sought same triangular]
      exact ih triangular (passed.mono (Arena.Proceeds.subset .asking)) rfl finished
  | mismatch _ _ ih | leftOpen _ _ _ ih =>
      exact ih triangular (passed.mono (Arena.Proceeds.subset .skipping)) ok finished
  | settles matched same ground run _ ih =>
      have later := (Substitution.matching_ok triangular matched).2.1
      subst ok
      rw [run.delivered_asked same later ground]
      exact ih later (passed.mono (Arena.Proceeds.subset .trying)) rfl finished
  | moveOn _ _ _ first _ _ ih =>
      have grown := Arena.Proceeds.subset (.trans .trying first.grows)
      exact ih triangular (passed.mono grown) ok finished
  | plain _ _ ih => exact ih triangular passed ok finished
  | withCell _ probe _ _ _ ih | guarded _ probe _ _ ih =>
      cases ok
      refine Memo.PassedBut.mono (ih triangular ?_ rfl finished) (List.subset_cons_self _ _)
      exact (passed.mono (Arena.Proceeds.subset (.note probe.grows))).enter _
  | paramsSettled params _ one two =>
      have settled := params.keepsSubst triangular rfl rfl
      exact two settled.triangular (one triangular passed rfl rfl) ok finished
  | noParams =>
      cases ok
      cases finished
      exact passed
  | @paramFound _ _ _ _ _ _ _ _ _ _ _ result goal _ one two =>
      obtain _ | ⟨_ | _⟩ := result <;> cases ok
      · cases finished
      have settled := goal.keepsSubst triangular rfl rfl
      exact two settled.triangular
        ((one triangular passed rfl rfl).pass (Arena.Proceeds.subset .passing)
          (Arena.Proceeds.subset (.enrolled .refl _ _ _) (.head _))) rfl finished
  | built _ _ ran tied =>
      cases ok
      cases finished
      intro goal other found
      rw [Memo.get?_insert] at found
      split at found
      · next same =>
          cases found
          exact .inr (by rw [same]; rfl)
      · refine (passed goal other found).imp (fun member => ?_) fun none => by cases none
        exact (Arena.Proceeds.subset (.building ran tied)) member

/-! ## 3. How a run ends -/

/-- A rule of the registry whose body may raise a failure. -/
def Solver.Raises (solver : Solver) (failure : Failure) : Prop :=
  ∃ rule given heap, solver.registry.Declares rule ∧
    (rule.recipe.run given heap).val.1 = .error failure

/-- A search ended because a goal, the only one, was built twice for a cell that was passed as an
argument. -/
def Knotted (placeholder : String) {α : Type} (result : Except Halt α)
    (log : List LogEntry) : Prop :=
  ∃ goal cell, result = .error (.failed (.knotAlreadyTied goal)) ∧
    PassedOn placeholder log goal cell ∧ BuiltTwice log goal cell ∧
      ∀ other cell, BuiltTwice log other cell → other = goal

/-- Either the cells of goals are in order in the end, or the search ended because they are not. -/
def Ends (placeholder : String) {α : Type} (result : Except Halt α) (arena : Arena) : Prop :=
  ((∀ goal, result ≠ .error (.failed (.knotAlreadyTied goal))) ∧
      Tidy placeholder arena.log arena.heap) ∨
    Knotted placeholder result arena.log

namespace Ends

variable {α β : Type} {placeholder : String} {arena : Arena} {result : Except Halt α}

theorem tidy {outcome : α} (ends : Ends placeholder (.ok outcome) arena) :
    Tidy placeholder arena.log arena.heap := by
  obtain ⟨-, tidy⟩ | ⟨_, _, impossible, -⟩ := ends
  · exact tidy
  · cases impossible

theorem of_error {halt : Halt} (ends : Ends placeholder (.error halt : Except Halt α) arena) :
    Ends placeholder (.error halt : Except Halt β) arena := by
  obtain ⟨other, tidy⟩ | ⟨goal, cell, same, knotted⟩ := ends
  · exact .inl ⟨fun goal same => other goal (by cases same; rfl), tidy⟩
  · exact .inr ⟨goal, cell, by cases same; rfl, knotted⟩

theorem map (ends : Ends placeholder result arena) (f : α → β) :
    Ends placeholder (result.map f) arena := by
  cases result with
  | ok => exact .inl ⟨nofun, ends.tidy⟩
  | error => exact ends.of_error

theorem leave (ends : Ends placeholder result arena) (goal : Term) :
    Ends placeholder result (arena.leave goal result) := by
  cases result with
  | ok => exact .inl ⟨nofun, ends.tidy.cons rfl⟩
  | error => exact ends

end Ends

/-- A branch of a search whose cells are in order. -/
structure Branch.Sound (solver : Solver) (branch : Branch) (log : List LogEntry) : Prop where
  orderly : branch.Orderly solver
  recorded : branch.memo.Recorded log
  passed : branch.memo.PassedBut solver.settings.placeholder none log

namespace Branch.Sound

variable {solver : Solver} {branch : Branch} {log later : List LogEntry}

theorem mono (sound : branch.Sound solver log) (more : log ⊆ later) : branch.Sound solver later :=
  ⟨sound.orderly, sound.recorded.mono more, sound.passed.mono more⟩

theorem matched (sound : branch.Sound solver log) {subst : Substitution} {pattern goal : Term}
    (matched : branch.subst.matching pattern goal = .ok subst) :
    Branch.Sound solver { branch with subst } log :=
  ⟨sound.orderly.matched matched, sound.recorded, sound.passed⟩

theorem enter (sound : branch.Sound solver log) {aim : Term}
    (plain : solver.asksForCell aim = false) {entry : Memo.Entry}
    (new : entry.Recorded aim log)
    (pending : ∀ value, entry ≠ .ready value := by intro _ same; cases same) :
    Branch.Sound solver { branch with memo := branch.memo.insert aim entry } log :=
  ⟨sound.orderly.enter plain entry, sound.recorded.insert new, sound.passed.enter aim pending⟩

/-- A goal that asks for a cell has the cell that was made for the goal under it. -/
theorem madeFor (sound : branch.Sound solver log) {goal : Term} {cell : Nat}
    (held : branch.memo.HoldsCell solver.settings.placeholder goal cell) :
    MadeFor solver.settings.placeholder log goal cell := by
  obtain ⟨value, found, same⟩ := held
  obtain ⟨own, member⟩ := sound.recorded _ _ found
  exact ⟨own, value, member, same⟩

theorem passedOn (sound : branch.Sound solver log) {goal : Term} {cell : Nat}
    (held : branch.memo.HoldsCell solver.settings.placeholder goal cell) :
    PassedOn solver.settings.placeholder log goal cell := by
  obtain ⟨value, found, same⟩ := held
  exact ⟨value, (sound.passed goal value found).resolve_right nofun, same⟩

end Branch.Sound

/-- The cell that the goal of an attempt has been given was made for this goal. It is still empty,
or it was passed as an argument. -/
def Task.Given (solver : Solver) : {α : Type} → Task α → Arena → Prop
  | _, .complete _ _ _ aim own _ _, arena | _, .invoke _ _ aim own _ _ _, arena =>
      ∀ cell, own = some cell → MadeFor solver.settings.placeholder arena.log aim cell ∧
        (arena.heap.content? cell = none ∨ PassedOn solver.settings.placeholder arena.log aim cell)
  | _, .goal .., _ | _, .offers .., _ | _, .build .., _ | _, .params .., _ => True

/-- A part of a search that gives no value leads from sound branches to sound branches. -/
theorem Runs.keepsSound {solver : Solver} {α : Type} {task : Task α} {arena reached : Arena}
    {outcome : α} (run : Runs solver task arena (.ok outcome) reached)
    (sound : task.start.Sound solver arena.log) {last : Branch}
    (finished : task.finish? outcome = some last) (nothing : task.delivered outcome = none) :
    last.Sound solver reached.log where
  orderly := run.keepsOrderly sound.orderly rfl finished
  recorded := run.keepsMemo sound.recorded rfl finished
  passed := nothing ▸ run.keepsPassed sound.orderly.triangular sound.passed rfl finished

/-- A branch in which a goal was found is sound once its value is passed as an argument. -/
theorem Runs.sound_of_passed {solver : Solver} {fuel depth : Nat} {param : Term} {branch : Branch}
    {arena middle : Arena} {found : Found}
    (run : Runs solver (.goal fuel param branch depth) arena (.ok (some found)) middle)
    (sound : branch.Sound solver arena.log) :
    found.branch.Sound solver
      (middle.note (.passed (found.branch.subst.apply param) found.value)).log where
  orderly := run.keepsOrderly sound.orderly rfl rfl
  recorded := (run.keepsMemo sound.recorded rfl rfl).mono (List.subset_cons_self _ _)
  passed := (run.keepsPassed sound.orderly.triangular sound.passed rfl rfl).pass
    (List.subset_cons_self _ _) (.head _)

/-- The cell with which a goal is entered was made for the goal. It is empty, unless its value was
passed as an argument before. -/
theorem Runs.given_of_probe {solver : Solver} (cells : solver.MakesCells) {fuel depth cell : Nat}
    {aim : Term} {branch : Branch} {arena middle : Arena} {found : Found}
    (probe : Runs solver (.goal fuel (aim.under solver.settings.placeholder) branch depth) arena
      (.ok (some found)) middle)
    (sound : branch.Sound solver arena.log) (ground : aim.isGround = true)
    (isCell : found.value.cell? = some cell) :
    MadeFor solver.settings.placeholder middle.log aim cell ∧
      (middle.heap.content? cell = none ∨
        PassedOn solver.settings.placeholder middle.log aim cell) := by
  have leaves := probe.leavesCells cells sound.orderly trivial rfl rfl
  have remembered := leaves.remembers aim (Task.delivered_under ground found)
  obtain ⟨own, produced⟩ := probe.keepsMemo sound.recorded rfl rfl _ _ remembered
  refine ⟨⟨own, _, produced, isCell⟩, ?_⟩
  rcases probe.held_of_probe cells sound.orderly ground isCell with held | ⟨-, empty⟩
  · exact .inr ((sound.passedOn held).mono probe.grows.subset)
  · exact .inl empty

/-- While the parameters are settled, the cell that the goal has been given stays empty unless its
value was passed as an argument before. -/
theorem Task.Given.of_params {solver : Solver} (cells : solver.MakesCells) {fuel depth : Nat}
    {offer : Offer} {renamed : Renamed} {aim : Term} {own : Option Nat} {branch later : Branch}
    {arena middle : Arena} {args : List Value}
    (given : Task.Given solver (.complete fuel offer renamed aim own branch depth) arena)
    (tidy : Tidy solver.settings.placeholder arena.log arena.heap)
    (sound : branch.Sound solver arena.log)
    (params : Runs solver (.params fuel offer.rule.toSignature depth 0 renamed.params branch) arena
      (.ok (some (args, later))) middle) :
    Task.Given solver (.invoke offer renamed aim own args later depth) middle := by
  intro cell same
  obtain ⟨made, state⟩ := given cell same
  refine ⟨made.mono params.grows.subset, ?_⟩
  rcases (params.frame cells sound.orderly trivial).kept cell (tidy.there made) with kept | tied
  · rw [kept]
    exact state.imp_right (·.mono params.grows.subset)
  · obtain ⟨-, goal, value, held | impossible, -⟩ := tied
    · obtain rfl := tidy.apart made (sound.madeFor held)
      exact .inr ((sound.passedOn held).mono params.grows.subset)
    · cases impossible

/-- A cell that cannot be tied was passed as an argument, and its goal has been built twice. -/
theorem Tidy.knotted {placeholder : String} {arena : Arena}
    (tidy : Tidy placeholder arena.log arena.heap) {call : Call} {heap : Heap}
    (extended : arena.heap.Extends heap) {aim : Term} {cell : Nat} {value : Value}
    (made : MadeFor placeholder arena.log aim cell)
    (state : arena.heap.content? cell = none ∨ PassedOn placeholder arena.log aim cell)
    (failed : heap.tie? cell value = none) {α : Type} :
    Knotted placeholder (.error (.failed (.knotAlreadyTied aim)) : Except Halt α)
      ((((arena.note (.called call)).onHeap heap).note (.produced aim (some cell) value)).note
        (.halted (.knotAlreadyTied aim))).log := by
  have full : arena.heap.content? cell ≠ none := by
    obtain ⟨held, full⟩ := Heap.tie?_eq_none failed
      (Nat.lt_of_lt_of_le (tidy.there made) extended.grows.cells_le)
    rw [← extended.content?_eq (tidy.there made), full]
    nofun
  obtain ⟨earlier, member⟩ := (tidy.waits made).resolve_left full
  refine ⟨aim, cell, rfl, (state.resolve_left full).mono ?_,
    ⟨value, earlier, _, List.suffix_cons _ _, .tail _ member⟩, ?_⟩
  · exact fun _ member => .tail _ (.tail _ (.tail _ member))
  · rintro other cell ⟨value, earlier, before, here, twice⟩
    rcases List.suffix_cons_iff.1 here with same | here
    · cases same
    rcases List.suffix_cons_iff.1 here with same | here
    · cases same
      rfl
    rcases List.suffix_cons_iff.1 here with same | here
    · cases same
    · exact absurd ⟨value, earlier, before, here, twice⟩ (tidy.once.not_builtTwice other cell)

/-- The cells stay in order when a rule has produced a value for a goal. -/
theorem Tidy.settle {solver : Solver} (cells : solver.MakesCells) {arena : Arena}
    (tidy : Tidy solver.settings.placeholder arena.log arena.heap) {rule : Rule} {aim : Term}
    (returns : rule.Returns solver.registry aim) {own : Option Nat}
    (plain : solver.asksForCell aim = true → own = none)
    (owned : ∀ cell, own = some cell → MadeFor solver.settings.placeholder arena.log aim cell)
    {given : Inputs} {value : Value} {heap tied : Heap}
    (ran : (rule.recipe.run given arena.heap).val = (.ok (.produced value), heap))
    (settled : heap.settle? own value = some tied) :
    Tidy solver.settings.placeholder
      ((((arena.note (.called ⟨rule, aim, given, arena.heap⟩)).onHeap heap).note
        (.produced aim own value)).onHeap tied).log
      ((((arena.note (.called ⟨rule, aim, given, arena.heap⟩)).onHeap heap).note
        (.produced aim own value)).onHeap tied).heap := by
  have called : Tidy solver.settings.placeholder
      (arena.note (.called ⟨rule, aim, given, arena.heap⟩)).log
      (arena.note (.called ⟨rule, aim, given, arena.heap⟩)).heap := tidy.cons rfl
  cases asks : solver.asksForCell aim with
  | true =>
      cases plain asks
      cases settled
      obtain ⟨made, new⟩ := returns.produced_eq cells asks ran
      exact called.makeCell made new
  | false =>
      have other : aim.head? ≠ some solver.settings.placeholder := by
        intro same
        simp [Solver.asksForCell, same] at asks
      exact (tidy.silently (.calling ran)).tie other
        (fun cell same => (owned cell same).mono (List.subset_cons_self _ _)) settled

/-- A run keeps the cells of goals in order, or it ends because a goal was built twice for a cell
that was passed as an argument. -/
theorem Runs.knots {solver : Solver} (cells : solver.MakesCells)
    (bodies : ∀ goal, ¬ solver.Raises (.knotAlreadyTied goal)) {α : Type} {task : Task α}
    {arena reached : Arena} {result : Except Halt α} (run : Runs solver task arena result reached)
    (tidy : Tidy solver.settings.placeholder arena.log arena.heap)
    (sound : task.start.Sound solver arena.log) (declared : task.Declared solver)
    (given : task.Given solver arena) : Ends solver.settings.placeholder result reached := by
  induction run with
  | exhausted | noOffers | noParams => exact .inl ⟨nofun, tidy⟩
  | tooDeep | cyclic => exact .inl ⟨nofun, tidy.silently (.note (.note .refl))⟩
  | known _ _ read => exact .inl ⟨nofun, tidy.silently (.reading read)⟩
  | unfound _ _ _ _ ih =>
      have ends := ih (tidy.silently .asking) (sound.mono (Arena.Proceeds.subset .asking))
        sound.orderly.offers trivial
      exact .inl ⟨nofun, ends.tidy.silently (.noted .refl _ _)⟩
  | searched _ _ _ _ _ ih =>
      exact ih (tidy.silently .asking) (sound.mono (Arena.Proceeds.subset .asking))
        sound.orderly.offers trivial
  | mismatch _ _ ih | leftOpen _ _ _ ih =>
      exact ih (tidy.silently .skipping) (sound.mono (Arena.Proceeds.subset .skipping))
        (fun offer member => declared offer (.tail _ member)) trivial
  | settles matched same ground _ _ ih =>
      have returns := returns_of_matching sound.orderly.triangular matched same
      exact ih (tidy.silently .trying)
        ((sound.matched matched).mono (Arena.Proceeds.subset .trying))
        ⟨ground, declared _ (.head _), _, returns⟩ trivial
  | moveOn matched same ground first _ one two =>
      have returns := returns_of_matching sound.orderly.triangular matched same
      have ends := one (tidy.silently .trying)
        ((sound.matched matched).mono (Arena.Proceeds.subset .trying))
        ⟨ground, declared _ (.head _), _, returns⟩ trivial
      exact two ends.tidy (sound.mono (Arena.Proceeds.subset (.trans .trying first.grows)))
        (fun offer member => declared offer (.tail _ member)) trivial
  | plain _ _ ih => exact ih tidy sound ⟨declared, fun _ => rfl⟩ fun _ none => by cases none
  | withCell entered probe isCell _ one two =>
      have plain := (Bool.or_eq_false_iff.1 entered).2
      have ⟨made, state⟩ := probe.given_of_probe cells sound declared.ground isCell
      refine (two ((one tidy sound trivial trivial).tidy.silently (.note .refl)) ?_
        ⟨declared, fun asks => by simp [plain] at asks⟩ fun cell same => ?_).leave _
      · exact (sound.mono (Arena.Proceeds.subset (.note probe.grows))).enter plain (.head _)
      · cases same
        exact ⟨made.mono (List.subset_cons_self _ _),
          state.imp_right (·.mono (List.subset_cons_self _ _))⟩
  | guarded entered probe _ one two =>
      have plain := (Bool.or_eq_false_iff.1 entered).2
      refine (two ((one tidy sound trivial trivial).tidy.silently (.note .refl)) ?_
        ⟨declared, fun asks => by simp [plain] at asks⟩ fun _ none => by cases none).leave _
      exact (sound.mono (Arena.Proceeds.subset (.note probe.grows))).enter plain (.head _)
  | notDeferred _ _ _ ih =>
      exact .inl ⟨nofun, (ih tidy sound trivial trivial).tidy.silently (.note .refl)⟩
  | probeHalts _ _ ih => exact ih tidy sound trivial trivial
  | paramsHalt _ ih | paramHalts _ ih => exact (ih tidy sound trivial trivial).of_error
  | paramsFail _ ih => exact .inl ⟨nofun, (ih tidy sound trivial trivial).tidy⟩
  | paramsSettled params _ one two =>
      exact two (one tidy sound trivial trivial).tidy (params.keepsSound sound rfl rfl) declared
        (given.of_params cells tidy sound params)
  | paramFails _ ih =>
      exact .inl ⟨nofun, (ih tidy sound trivial trivial).tidy.silently (.noted .refl _ _)⟩
  | paramFound goal _ one two =>
      have passed := goal.sound_of_passed sound
      have tidy := (one tidy sound trivial trivial).tidy
      refine (two (tidy.silently .passing) ?_ trivial trivial).map _
      exact Branch.Sound.mono ⟨passed.orderly.enroll _, passed.recorded, passed.passed⟩
        (Arena.Proceeds.subset (.enrolled .refl _ _ _))
  | slotOpen => exact .inl ⟨nofun, tidy.silently (.noted .refl _ _)⟩
  | noView _ failed =>
      obtain ⟨_, rfl⟩ := Solver.inputs_error failed
      exact .inl ⟨nofun, tidy.silently (.note .refl)⟩
  | bodyFails _ _ ran =>
      refine .inl ⟨fun goal same => ?_, tidy.silently (.note (.calling ran))⟩
      cases same
      exact bodies goal ⟨_, _, _, declared.1.declared, by rw [ran]⟩
  | declines _ _ ran => exact .inl ⟨nofun, tidy.silently (.noted (.calling ran) _ _)⟩
  | tiedBefore _ _ ran failed =>
      obtain ⟨made, state⟩ := given _ rfl
      exact .inr (tidy.knotted (Recipe.run_extends ran) made state failed)
  | built _ _ ran settled =>
      have after := tidy.settle cells declared.1 declared.2 (fun cell same => (given cell same).1)
        ran settled
      exact .inl ⟨nofun, after.silently (.noted .refl _ _)⟩

/-! ## 4. Whole searches -/

theorem Solver.sound_startingBranch (solver : Solver) (values : List Value) (log : List LogEntry) :
    (solver.startingBranch values).Sound solver log where
  orderly := solver.orderly_startingBranch values
  recorded := Memo.recorded_empty log
  passed := fun _ _ found => by cases found

/-- A whole search keeps the cells of goals in order, or it ends because a goal was built twice. -/
theorem Derives.knots {solver : Solver} (cells : solver.MakesCells)
    (bodies : ∀ goal, ¬ solver.Raises (.knotAlreadyTied goal)) {fuel : Nat} {goal : Term}
    {providers : List Value} {arena reached : Arena} {result : Except Halt Found}
    (ends : Derives solver fuel goal providers arena result reached)
    (tidy : Tidy solver.settings.placeholder arena.log arena.heap) :
    Ends solver.settings.placeholder result reached := by
  have searched {started reached : Arena} {result : Except Halt (Option Found)}
      (reports : arena.Reports started)
      (run : Runs solver (.goal fuel goal (solver.startingBranch providers) 0) started result
        reached) : Ends solver.settings.placeholder result reached :=
    run.knots cells bodies (tidy.silently (.of_reports reports)) (solver.sound_startingBranch ..)
      trivial trivial
  cases ends with
  | openGoal => exact .inl ⟨nofun, tidy.silently (.note .refl)⟩
  | unknownProvider reports =>
      exact .inl ⟨nofun, (tidy.silently (.of_reports reports)).silently (.note .refl)⟩
  | halts _ reports run => exact (searched reports run).of_error
  | fails _ reports run => exact .inl ⟨nofun, (searched reports run).tidy.silently (.note .refl)⟩
  | finds _ reports run =>
      exact .inl ⟨nofun, (searched reports run).tidy.silently (.noted .refl _ _)⟩

/-- If only placeholder rules return goals that ask for cells and no rule body raises this failure
itself, a whole search ends because the cell of a goal was tied a second time if and only if the
goal was built twice for a cell that was passed as an argument. -/
theorem solve_knotAlreadyTied_iff {solver : Solver} (cells : solver.MakesCells)
    (bodies : ∀ goal, ¬ solver.Raises (.knotAlreadyTied goal)) (fuel : Nat) (goal : Term)
    (providers : List Value) (heap : Heap) (stamp : Nat) (built : Term) :
    ((solver.solve fuel goal providers).runFrom ⟨heap, stamp, []⟩).1 =
        .error (.failed (.knotAlreadyTied built)) ↔
      ∃ cell,
        PassedOn solver.settings.placeholder
          ((solver.solve fuel goal providers).runFrom ⟨heap, stamp, []⟩).2.log built cell ∧
        BuiltTwice ((solver.solve fuel goal providers).runFrom ⟨heap, stamp, []⟩).2.log built
          cell := by
  rw [runFrom_solve]
  have ends := ((derives solver fuel goal providers ⟨heap, stamp, []⟩).knots cells bodies
    (.nil heap)).map (·.value)
  constructor
  · intro halted
    rcases ends with ⟨other, -⟩ | ⟨ended, cell, same, passed, twice, -⟩
    · exact absurd halted (other built)
    · cases halted.symm.trans same
      exact ⟨cell, passed, twice⟩
  · rintro ⟨cell, -, twice⟩
    rcases ends with ⟨-, tidy⟩ | ⟨ended, _, same, -, -, only⟩
    · exact absurd twice (tidy.once.not_builtTwice built cell)
    · rw [only built cell twice]
      exact same

/-! ## 5. A cell that is tied twice -/

theorem knottingSolver_raises_nothing (failure : Failure) : ¬ knottingSolver.Raises failure := by
  rintro ⟨rule, given, heap, ⟨shape, member, declared⟩, raised⟩
  obtain rfl := List.mem_singleton.1 member
  obtain ⟨decl, listed, rfl⟩ := List.mem_map.1 ((orderRules_perm _).mem_iff.1 declared)
  simp only [knotting, List.mem_cons, List.not_mem_nil, or_false] at listed
  rcases listed with rfl | rfl | rfl | rfl | rfl | rfl | rfl <;> cases raised

/-- A search for `Top` ties the cell of a node for `bad`, which is given up, and again for `second`.
-/
theorem knottingSolver_halts_top :
    ((knottingSolver.solve 8 (.constant "Top") [knottingHost]).runFrom ⟨⟨1, []⟩, 0, []⟩).1 =
      .error (.failed (.knotAlreadyTied (.constant "Node"))) :=
  Search.error_of_failsWith (by decide +kernel)

theorem solve_knotAlreadyTied_iff_top : knottingSolver.MakesCells ∧
    (∀ goal, ¬ knottingSolver.Raises (.knotAlreadyTied goal)) ∧
    ∃ cell,
      PassedOn knottingSolver.settings.placeholder
        ((knottingSolver.solve 8 (.constant "Top") [knottingHost]).runFrom ⟨⟨1, []⟩, 0, []⟩).2.log
        (.constant "Node") cell ∧
      BuiltTwice
        ((knottingSolver.solve 8 (.constant "Top") [knottingHost]).runFrom ⟨⟨1, []⟩, 0, []⟩).2.log
        (.constant "Node") cell :=
  ⟨knottingSolver_makesCells, fun _ => knottingSolver_raises_nothing _,
    (solve_knotAlreadyTied_iff knottingSolver_makesCells (fun _ => knottingSolver_raises_nothing _)
      8 (.constant "Top") [knottingHost] ⟨1, []⟩ 0 (.constant "Node")).1 knottingSolver_halts_top⟩

/-- A cell may be tied a second time, although each cell is made by a placeholder rule and no rule
body fails. -/
theorem solve_ties_cell_twice : knottingSolver.MakesCells ∧
    (∀ failure, ¬ knottingSolver.Raises failure) ∧
    ((knottingSolver.solve 8 (.constant "Top") [knottingHost]).runFrom ⟨⟨1, []⟩, 0, []⟩).1 =
      .error (.failed (.knotAlreadyTied (.constant "Node"))) :=
  ⟨knottingSolver_makesCells, knottingSolver_raises_nothing, knottingSolver_halts_top⟩

end Synthesis
