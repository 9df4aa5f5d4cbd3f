import Synthesis.Proofs.Placeholders
import Synthesis.Script

/-!
# What a run does to the cells that are there

A branch can reach a cell by the memo only if a goal that asks for it has been settled there. These
are the cells that a part of a search may tie, and it ties one of them when it builds the goal of
the cell.

Results:
1. `Runs.leavesCells`: a run adds only new cells to those that its branch holds.
2. `Runs.frame`: a run leaves the cells that were there alone, of those apart that its branch holds.
3. `Runs.ties`: what is produced for a goal with a cell stays in the cell.
4. `failed_find_keeps_cells_iff`: a search for a goal that finds nothing leaves the cells alone if
   and only if it builds no goal whose cell the branch holds.
-/
namespace Synthesis

/-! ## 1. Frames -/

def Memo.HoldsCell (memo : Memo) (placeholder : String) (goal : Term) (cell : Nat) : Prop :=
  ∃ value, memo.get? (goal.under placeholder) = some (.ready value) ∧ value.cell? = some cell

/-- A cell was empty and is tied to a value that was built for a goal in between. -/
structure TiedBetween (may : Term → Nat → Prop) (arena reached : Arena) (cell : Nat) : Prop where
  empty : arena.heap.content? cell = none
  tied : ∃ goal value, may goal cell ∧ arena.Wrote reached (.produced goal (some cell) value) ∧
    reached.heap.content? cell = some value

/-- What is shared only grows, and the cells that were there are left alone or tied for goals for
which this may happen. -/
structure Frame (may : Term → Nat → Prop) (arena reached : Arena) : Prop where
  grown : arena.Grows reached
  kept : ∀ cell < arena.heap.cells.length,
    reached.heap.content? cell = arena.heap.content? cell ∨ TiedBetween may arena reached cell

namespace Frame

variable {may might : Term → Nat → Prop} {first second third : Arena}

theorem refl (arena : Arena) : Frame may arena arena := ⟨.refl, fun _ _ => .inl rfl⟩

theorem trans (one : Frame may first second) (two : Frame might second third)
    (allowed : ∀ goal cell, cell < first.heap.cells.length → might goal cell → may goal cell) :
    Frame may first third := by
  refine ⟨one.grown.trans two.grown, ?_⟩
  intro cell there
  rcases two.kept cell (Nat.lt_of_lt_of_le there one.grown.heap.cells_le) with same | ⟨empty, now⟩
  · rcases one.kept cell there with before | ⟨empty, tied⟩
    · exact .inl (same.trans before)
    · obtain ⟨goal, value, allowed, wrote, content⟩ := tied
      exact .inr ⟨empty, goal, value, allowed, wrote.of_earlier two.grown, same.trans content⟩
  · obtain ⟨goal, value, possible, wrote, content⟩ := now
    rcases one.kept cell there with before | ⟨-, tied⟩
    · exact .inr ⟨before ▸ empty, goal, value, allowed goal cell there possible,
        wrote.of_later one.grown, content⟩
    · obtain ⟨_, _, _, _, full⟩ := tied
      rw [empty] at full
      cases full

theorem append (one : Frame may first second) (two : Frame may second third) :
    Frame may first third := trans one two fun _ _ _ => id

theorem weaken (frame : Frame might first second)
    (allowed : ∀ goal cell, cell < first.heap.cells.length → might goal cell → may goal cell) :
    Frame may first second := trans (refl first) frame allowed

theorem of_extends (grown : first.Grows second) (extended : first.heap.Extends second.heap) :
    Frame may first second := ⟨grown, fun _ there => .inl (extended.content?_eq there)⟩

theorem of_silent (silent : first.Silently second) : Frame may first second :=
  of_extends silent.grows silent.heap_extends

/-- A value that was produced for a goal may be tied to the cell of the goal. -/
theorem of_settle {goal : Term} {own : Option Nat} {value : Value} {tied : Heap}
    (success : first.heap.settle? own value = some tied)
    (allowed : ∀ cell, own = some cell → may goal cell) :
    Frame may first ((first.note (.produced goal own value)).onHeap tied) := by
  refine ⟨.settled .refl success, fun cell there => ?_⟩
  cases own with
  | none =>
      cases success
      exact .inl rfl
  | some own =>
      by_cases here : cell = own
      · subst here
        exact .inr ⟨(Heap.tie?_eq_some success).1, goal, value, allowed cell rfl,
          ⟨[_], rfl, .head _⟩, Heap.content?_tie success there⟩
      · exact .inl (Heap.content?_tie_of_ne success here)

end Frame

/-! ## 2. The cells that a branch holds -/

/-- Whether a part of a search looks its goal up in the memo. -/
def Task.looksUp : {α : Type} → Task α → Bool
  | _, .goal .. => true
  | _, .offers .. | _, .build .. | _, .complete .. | _, .params .. | _, .invoke .. => false

/-- The cells that the memo holds in the end were held from the start or are new. The value that is
given for a goal that asks for a cell is in the memo; if its cell is a new one, it is empty. -/
structure Task.LeavesCells (solver : Solver) {α : Type} (task : Task α) (arena reached : Arena)
    (outcome : α) (last : Branch) : Prop where
  holds : ∀ {goal : Term} {cell : Nat},
    last.memo.HoldsCell solver.settings.placeholder goal cell →
    task.start.memo.HoldsCell solver.settings.placeholder goal cell ∨
      arena.heap.cells.length ≤ cell
  gives : ∀ (goal : Term) {value : Value} {cell : Nat},
    task.delivered outcome = some (goal.under solver.settings.placeholder, value) →
    value.cell? = some cell →
    (task.looksUp = true ∧
        task.start.memo.HoldsCell solver.settings.placeholder goal cell) ∨
      (arena.heap.cells.length ≤ cell ∧ reached.heap.content? cell = none)
  remembers : ∀ (goal : Term) {value : Value},
    task.delivered outcome = some (goal.under solver.settings.placeholder, value) →
    last.memo.get? (goal.under solver.settings.placeholder) = some (.ready value)

@[simp] theorem Solver.asksForCell_under (solver : Solver) (goal : Term) :
    solver.asksForCell (goal.under solver.settings.placeholder) = true := by
  simp [asksForCell, Term.under, Term.head?]

/-- An entry for a goal that does not ask for a cell does not add to the cells that are held. -/
theorem Memo.HoldsCell.of_insert {solver : Solver} {memo : Memo} {aim : Term} {entry : Memo.Entry}
    (plain : solver.asksForCell aim = false) {goal : Term} {cell : Nat}
    (holds : (memo.insert aim entry).HoldsCell solver.settings.placeholder goal cell) :
    memo.HoldsCell solver.settings.placeholder goal cell := by
  obtain ⟨value, found, same⟩ := holds
  rw [Memo.get?_insert] at found
  split at found
  · next here => simp [← here] at plain
  · exact ⟨value, found, same⟩

/-- What is produced for a goal that asks for a cell is a new, empty one. -/
theorem Rule.Returns.produced_eq {solver : Solver} (cells : solver.MakesCells) {rule : Rule}
    {goal : Term} (returns : rule.Returns solver.registry goal)
    (asks : solver.asksForCell goal = true) {given : Inputs} {heap after : Heap} {value : Value}
    (ran : (rule.recipe.run given heap).val = (.ok (.produced value), after)) :
    value.cell? = some heap.cells.length ∧ after.cells = heap.cells ++ [none] := by
  have made := returns.run_eq cells asks given heap
  rw [ran] at made
  cases made
  exact ⟨rfl, rfl⟩

namespace Task.LeavesCells

variable {solver : Solver} {α : Type} {task : Task α} {first second arena reached : Arena}
  {outcome : α} {last : Branch}

theorem earlier (leaves : task.LeavesCells solver second reached outcome last)
    (grown : first.Grows second) : task.LeavesCells solver first reached outcome last where
  holds held := (leaves.holds held).imp_right (Nat.le_trans grown.heap.cells_le)
  gives goal _ _ delivered same := (leaves.gives goal delivered same).imp_right
    fun ⟨new, empty⟩ => ⟨Nat.le_trans grown.heap.cells_le new, empty⟩
  remembers := leaves.remembers

/-- A part of a search that does not look its goal up gives a new cell only. -/
theorem fresh (leaves : task.LeavesCells solver arena reached outcome last)
    (blind : task.looksUp = false) (goal : Term) {value : Value} {cell : Nat}
    (delivered :
      task.delivered outcome = some (goal.under solver.settings.placeholder, value))
    (same : value.cell? = some cell) :
    arena.heap.cells.length ≤ cell ∧ reached.heap.content? cell = none :=
  (leaves.gives goal delivered same).resolve_left fun ⟨looked, _⟩ => by
    rw [blind] at looked
    cases looked

/-- A part of a search that ends like another one from the same branch, which does not look the goal
up, and gives the same. -/
theorem of_part {β : Type} {part : Task β} {result : β}
    (leaves : part.LeavesCells solver arena reached result last)
    (blind : part.looksUp = false) (start : task.start.memo = part.start.memo)
    (same : task.delivered outcome = part.delivered result) :
    task.LeavesCells solver arena reached outcome last where
  holds held := start ▸ leaves.holds held
  gives goal _ _ delivered isCell :=
    .inr (leaves.fresh blind goal (same.symm.trans delivered) isCell)
  remembers goal _ delivered := leaves.remembers goal (same.symm.trans delivered)

/-- The attempt that has entered a goal adds nothing to the cells that are held. -/
theorem of_entered {fuel depth : Nat} {offer : Offer} {renamed : Renamed} {aim : Term}
    {own : Option Nat} {entry : Memo.Entry} {branch : Branch} {outcome : Option Found}
    (plain : solver.asksForCell aim = false)
    (leaves : Task.LeavesCells solver (.complete fuel offer renamed aim own
      { branch with memo := branch.memo.insert aim entry } depth) arena first outcome last) :
    Task.LeavesCells solver (.build fuel offer renamed aim branch depth) arena reached outcome
      last := by
  have other (goal : Term) (value : Value) :
      outcome.map (fun found => (aim, found.value)) ≠
        some (goal.under solver.settings.placeholder, value) := by
    intro delivered
    obtain ⟨found, -, same⟩ := Option.map_eq_some_iff.1 delivered
    cases same
    simp at plain
  constructor
  case holds => exact fun held => (leaves.holds held).imp_left (·.of_insert plain)
  case gives => exact fun goal _ _ delivered => absurd delivered (other goal _)
  case remembers => exact fun goal _ delivered => absurd delivered (other goal _)

/-- What a memo gives for a goal that asks for a cell is in the memo. -/
theorem of_recall {fuel depth : Nat} {sought : Term} {branch : Branch} {entry : Memo.Entry}
    {value : Value} {heap : Heap} (orderly : branch.Orderly solver)
    (known : Solver.known? (branch.subst.apply sought) branch.memo = some entry)
    (read : entry.recall (branch.subst.apply sought) arena.heap = (.ok value, heap))
    (history : List Settled) :
    Task.LeavesCells solver (.goal fuel sought branch depth) arena reached
      (some ⟨value, { branch with history }⟩) { branch with history } := by
  have held (goal : Term) (other : Value)
      (delivered : Task.delivered (.goal fuel sought branch depth)
        (some ⟨value, { branch with history }⟩) =
          some (goal.under solver.settings.placeholder, other)) :
      branch.memo.get? (goal.under solver.settings.placeholder) = some (.ready other) := by
    obtain ⟨asked, rfl⟩ := Prod.mk.inj (Option.some.inj delivered)
    have found := (isGround_of_known? known).2
    rw [show branch.subst.apply sought = _ from asked] at found
    obtain ⟨value, rfl⟩ := orderly.ready (solver.asksForCell_under _) found
    cases read
    exact found
  constructor
  case holds => exact .inl
  case gives =>
    intro goal other cell delivered same
    exact .inl ⟨rfl, other, held goal other delivered, same⟩
  case remembers => exact fun goal _ delivered => held goal _ delivered

/-- What one part adds to the cells that are held, and what the next part adds. -/
theorem holds_trans {β : Type} {part : Task β} {settled : β} {middle : Branch} {later : Arena}
    (one : part.LeavesCells solver arena first settled middle)
    (two : task.LeavesCells solver arena later outcome last)
    (same : task.start.memo = middle.memo) {goal : Term} {cell : Nat}
    (held : last.memo.HoldsCell solver.settings.placeholder goal cell) :
    part.start.memo.HoldsCell solver.settings.placeholder goal cell ∨
      arena.heap.cells.length ≤ cell := by
  rcases two.holds held with held | new
  · exact one.holds (same ▸ held)
  · exact .inr new

/-- Only a rule for a goal that asks for a cell adds to the cells that are held: its new one. -/
theorem built (cells : solver.MakesCells) {offer : Offer} {renamed : Renamed} {aim : Term}
    {own : Option Nat} {args : List Value} {branch : Branch} {depth : Nat}
    (declared : Task.Declared solver (.invoke offer renamed aim own args branch depth))
    {given : Inputs} {value : Value} {heap : Heap}
    (ran : (offer.rule.recipe.run given arena.heap).val = (.ok (.produced value), heap))
    (settled : heap.settle? own value = some reached.heap) (history : List Settled) :
    Task.LeavesCells solver (.invoke offer renamed aim own args branch depth) arena reached
      (some ⟨value, { branch with memo := branch.memo.insert aim (.ready value), history }⟩)
      { branch with memo := branch.memo.insert aim (.ready value), history } where
  holds := by
    intro goal cell held
    cases asks : solver.asksForCell aim with
    | false => exact .inl (held.of_insert asks)
    | true =>
        have made := (declared.1.produced_eq cells asks ran).1
        obtain ⟨other, found, same⟩ := held
        rw [Memo.get?_insert] at found
        split at found
        · cases found
          cases made.symm.trans same
          exact .inr (Nat.le_refl _)
        · exact .inl ⟨other, found, same⟩
  gives := by
    intro goal other cell delivered same
    obtain ⟨rfl, rfl⟩ := Prod.mk.inj (Option.some.inj delivered)
    obtain ⟨made, new⟩ := declared.1.produced_eq cells (solver.asksForCell_under _) ran
    cases made.symm.trans same
    cases declared.2 (solver.asksForCell_under _)
    rw [← Option.some.inj settled]
    exact .inr ⟨Nat.le_refl _, by simp [Heap.content?, new]⟩
  remembers := by
    intro goal other delivered
    cases Option.some.inj delivered
    simp

end Task.LeavesCells

/-- A run adds only new cells to those that a branch holds. -/
theorem Runs.leavesCells {solver : Solver} (cells : solver.MakesCells) {α : Type} {task : Task α}
    {arena reached : Arena} {result : Except Halt α} (run : Runs solver task arena result reached)
    (orderly : task.start.Orderly solver) (declared : task.Declared solver) {outcome : α}
    (ok : result = .ok outcome) {last : Branch} (finished : task.finish? outcome = some last) :
    task.LeavesCells solver arena reached outcome last := by
  induction run generalizing last with
  | exhausted | tooDeep | cyclic | notDeferred | probeHalts | paramsHalt | paramHalts | noView
  | bodyFails | tiedBefore => cases ok
  | unfound | noOffers | paramsFail | paramFails | slotOpen | declines =>
      cases ok
      cases finished
  | known same known read =>
      cases ok
      cases finished
      subst same
      exact .of_recall orderly known read _
  | searched same _ tries _ _ ih =>
      have leaves := (ih orderly orderly.offers ok finished).earlier .asking
      subst ok
      exact leaves.of_part rfl rfl (tries.delivered_sought same orderly.triangular)
  | mismatch _ _ ih | leftOpen _ _ _ ih =>
      have later := ih orderly (fun offer member => declared offer (.tail _ member)) ok finished
      exact (later.earlier .skipping).of_part rfl rfl rfl
  | settles matched same ground run _ ih =>
      have matching := orderly.matched matched
      have returns := returns_of_matching orderly.triangular matched same
      have leaves := (ih matching ⟨ground, declared _ (.head _), _, returns⟩ ok finished).earlier
        .trying
      subst ok
      exact leaves.of_part rfl rfl (run.delivered_asked same matching.triangular ground)
  | moveOn _ _ _ first _ _ ih =>
      have later := ih orderly (fun offer member => declared offer (.tail _ member)) ok finished
      exact (later.earlier (.trans .trying first.grows)).of_part rfl rfl rfl
  | plain _ _ ih => exact (ih orderly ⟨declared, fun _ => rfl⟩ ok finished).of_part rfl rfl rfl
  | withCell entered probe _ _ _ ih | guarded entered probe _ _ ih =>
      have plain := (Bool.or_eq_false_iff.1 entered).2
      have leaves := ih (orderly.enter plain _) ⟨declared, fun asks => by simp [plain] at asks⟩ ok
        finished
      exact .of_entered plain (leaves.earlier (.note probe.grows))
  | paramsSettled params _ one two =>
      have first := one orderly trivial rfl rfl
      have second := (two (params.keepsOrderly orderly rfl rfl) declared ok finished).earlier
        params.grows
      constructor
      case holds => exact first.holds_trans second rfl
      case gives => exact fun goal _ _ delivered same => .inr (second.fresh rfl goal delivered same)
      case remembers => exact second.remembers
  | noParams =>
      cases ok
      cases finished
      exact ⟨.inl, nofun, nofun⟩
  | @paramFound _ _ _ _ _ _ _ _ _ _ _ result goal _ one two =>
      obtain _ | ⟨_ | _⟩ := result <;> cases ok <;> cases finished
      have first := one orderly trivial rfl rfl
      have second := (two ((goal.keepsOrderly orderly rfl rfl).enroll _) trivial rfl rfl).earlier
        (.trans goal.grows .passing)
      exact ⟨first.holds_trans second rfl, nofun, nofun⟩
  | built _ _ ran settled =>
      cases ok
      cases finished
      exact .built cells declared ran (by simpa using settled) _

/-! ## 3. The cells that a part of a search may tie -/

/-- The cells that a part of a search may tie for a goal: those that its branch holds, and the one
that the goal under construction has been given. -/
def Task.MayTie (solver : Solver) {α : Type} (task : Task α) (goal : Term) (cell : Nat) : Prop :=
  task.start.memo.HoldsCell solver.settings.placeholder goal cell ∨
    match task with
    | .complete _ _ _ aim own _ _ | .invoke _ _ aim own _ _ _ => goal = aim ∧ own = some cell
    | .goal .. | .offers .. | .build .. | .params .. => False

theorem Task.delivered_under {fuel depth : Nat} {aim : Term} {placeholder : String}
    {branch : Branch} (ground : aim.isGround = true) (found : Found) :
    Task.delivered (.goal fuel (aim.under placeholder) branch depth) (some found) =
      some (aim.under placeholder, found.value) := by
  rw [Task.delivered, Option.map_some,
    Substitution.apply_of_ground _ ((Term.isGround_under _ _).trans ground)]

/-- The cell with which a goal is entered is one that the branch held before, or a new one. -/
theorem Runs.held_of_probe {solver : Solver} (cells : solver.MakesCells) {fuel depth cell : Nat}
    {aim : Term} {branch : Branch} {arena middle : Arena} {found : Found}
    (probe : Runs solver (.goal fuel (aim.under solver.settings.placeholder) branch depth) arena
      (.ok (some found)) middle)
    (orderly : branch.Orderly solver) (ground : aim.isGround = true)
    (isCell : found.value.cell? = some cell) :
    branch.memo.HoldsCell solver.settings.placeholder aim cell ∨
      (arena.heap.cells.length ≤ cell ∧ middle.heap.content? cell = none) := by
  have leaves := probe.leavesCells cells orderly trivial rfl rfl
  exact (leaves.gives aim (Task.delivered_under ground found) isCell).imp_left And.right

/-- The attempt that has entered a goal may tie what its branch held before, since the cell of the
goal was held there or is a new one. -/
theorem Frame.of_entered {solver : Solver} {fuel depth : Nat} {offer : Offer} {renamed : Renamed}
    {aim : Term} {own : Option Nat} {entry : Memo.Entry} {branch : Branch}
    {arena middle reached : Arena} {result : Except Halt (Option Found)}
    (plain : solver.asksForCell aim = false)
    (probed : Frame (Task.MayTie solver (.build fuel offer renamed aim branch depth)) arena middle)
    (owned : ∀ cell, own = some cell → cell < arena.heap.cells.length →
      branch.memo.HoldsCell solver.settings.placeholder aim cell)
    (completed : Frame (Task.MayTie solver (.complete fuel offer renamed aim own
      { branch with memo := branch.memo.insert aim entry } depth))
      (middle.note (.entered aim own)) reached) :
    Frame (Task.MayTie solver (.build fuel offer renamed aim branch depth)) arena
      (reached.leave aim result) := by
  refine ((probed.append (.of_silent (.note .refl))).trans completed ?_).append
    (.of_silent (.leave .refl _ _))
  intro goal cell there might
  rcases might with held | ⟨rfl, same⟩
  · exact .inl (held.of_insert plain)
  · exact .inl (owned cell same there)

/-- What may be tied while parameters are settled may be tied by the attempt that settles them. -/
theorem Frame.of_params {solver : Solver} {fuel depth index : Nat} {rule : Signature}
    {patterns : List Term} {offer : Offer} {renamed : Renamed} {aim : Term} {own : Option Nat}
    {branch : Branch} {first second : Arena}
    (frame : Frame (Task.MayTie solver (.params fuel rule depth index patterns branch)) first
      second) :
    Frame (Task.MayTie solver (.complete fuel offer renamed aim own branch depth)) first second :=
  frame.weaken fun _ _ _ might => .inl (might.resolve_right id)

/-- A run leaves the cells that were there alone, of those apart that its branch may tie. -/
theorem Runs.frame {solver : Solver} (cells : solver.MakesCells) {α : Type} {task : Task α}
    {arena reached : Arena} {result : Except Halt α} (run : Runs solver task arena result reached)
    (orderly : task.start.Orderly solver) (declared : task.Declared solver) :
    Frame (task.MayTie solver) arena reached := by
  induction run with
  | exhausted | noOffers | noParams => exact .refl _
  | tooDeep | cyclic => exact .of_silent (.note (.note .refl))
  | known _ _ read => exact .of_silent (.reading read)
  | unfound _ _ _ _ ih =>
      exact (Frame.append (.of_silent .asking) (ih orderly orderly.offers)).append
        (.of_silent (.noted .refl _ _))
  | searched _ _ _ _ _ ih => exact Frame.append (.of_silent .asking) (ih orderly orderly.offers)
  | mismatch _ _ ih | leftOpen _ _ _ ih =>
      have later := ih orderly fun offer member => declared offer (.tail _ member)
      exact Frame.append (.of_silent .skipping) later
  | settles matched same ground _ _ ih =>
      have returns := returns_of_matching orderly.triangular matched same
      have attempt := ih (orderly.matched matched) ⟨ground, declared _ (.head _), _, returns⟩
      exact Frame.append (.of_silent .trying) attempt
  | moveOn matched same ground _ _ one two =>
      have returns := returns_of_matching orderly.triangular matched same
      have attempt := one (orderly.matched matched) ⟨ground, declared _ (.head _), _, returns⟩
      have later := two orderly fun offer member => declared offer (.tail _ member)
      exact (Frame.append (.of_silent .trying) attempt).append later
  | plain _ _ ih =>
      refine (ih orderly ⟨declared, fun _ => rfl⟩).weaken ?_
      rintro goal cell - (held | ⟨-, own⟩)
      · exact .inl held
      · cases own
  | withCell entered probe isCell _ one two =>
      have plain := (Bool.or_eq_false_iff.1 entered).2
      refine .of_entered plain (one orderly trivial) ?_
        (two (orderly.enter plain _) ⟨declared, fun asks => by simp [plain] at asks⟩)
      intro cell same there
      cases same
      rcases probe.held_of_probe cells orderly declared.ground isCell with held | ⟨new, -⟩
      · exact held
      · exact absurd there (Nat.not_lt.2 new)
  | guarded entered _ _ one two =>
      have plain := (Bool.or_eq_false_iff.1 entered).2
      exact .of_entered plain (one orderly trivial) (fun _ none => by cases none)
        (two (orderly.enter plain _) ⟨declared, fun asks => by simp [plain] at asks⟩)
  | notDeferred _ _ _ ih => exact (ih orderly trivial).append (.of_silent (.note .refl))
  | probeHalts _ _ ih | paramHalts _ ih => exact ih orderly trivial
  | paramsHalt _ ih | paramsFail _ ih => exact .of_params (ih orderly trivial)
  | paramsSettled params _ one two =>
      have leaves := params.leavesCells cells orderly trivial rfl rfl
      have settled := two (params.keepsOrderly orderly rfl rfl) declared
      refine (Frame.of_params (one orderly trivial)).trans settled ?_
      -- of the cells that were there, the parameters leave those to tie that the branch held
      rintro goal cell there (held | own)
      · exact .inl ((leaves.holds held).resolve_right (Nat.not_le.2 there))
      · exact .inr own
  | paramFails _ ih => exact (ih orderly trivial).append (.of_silent (.noted .refl _ _))
  | paramFound goal _ one two =>
      have leaves := goal.leavesCells cells orderly trivial rfl rfl
      have later := two ((goal.keepsOrderly orderly rfl rfl).enroll _) trivial
      refine ((one orderly trivial).append (.of_silent .passing)).trans later ?_
      rintro goal cell there (held | none)
      · exact .inl ((leaves.holds held).resolve_right (Nat.not_le.2 there))
      · cases none
  | slotOpen => exact .of_silent (.noted .refl _ _)
  | noView => exact .of_silent (.note .refl)
  | bodyFails _ _ ran => exact .of_silent (.note (.calling ran))
  | declines _ _ ran => exact .of_silent (.noted (.calling ran) _ _)
  | tiedBefore _ _ ran failed =>
      have unsettled : Heap.settle? _ (some _) _ = none := failed
      exact .of_extends (.note (.unsettled (.calling ran) unsettled)) (Recipe.run_extends ran)
  | built _ _ ran settled =>
      exact ((Frame.of_silent (.calling ran)).append (.of_settle settled fun _ same =>
        .inr ⟨rfl, same⟩)).append (.of_silent (.noted .refl _ _))

/-! ## 4. What is produced stays -/

/-- What is shared only grows, and a cell that was there is tied to what was produced for it. -/
structure Ties (arena reached : Arena) : Prop where
  grown : arena.Grows reached
  tied : ∀ {goal : Term} {cell : Nat} {value : Value},
    arena.Wrote reached (.produced goal (some cell) value) → cell < arena.heap.cells.length →
    arena.heap.content? cell = none ∧ reached.heap.content? cell = some value

namespace Ties

variable {first second third : Arena}

theorem trans (one : Ties first second) (two : Ties second third) : Ties first third := by
  refine ⟨one.grown.trans two.grown, ?_⟩
  intro goal cell value wrote there
  rcases wrote.cases one.grown two.grown with early | late
  · obtain ⟨empty, full⟩ := one.tied early there
    exact ⟨empty, two.grown.heap.keeps full⟩
  · obtain ⟨empty, full⟩ := two.tied late (Nat.lt_of_lt_of_le there one.grown.heap.cells_le)
    refine ⟨Option.eq_none_iff_forall_not_mem.2 ?_, full⟩
    intro other held
    rw [one.grown.heap.keeps held] at empty
    cases empty

theorem of_silent (silent : first.Silently second) : Ties first second where
  grown := silent.grows
  tied wrote _ := by
    have silent : LogEntry.produces _ = false := wrote.of_proceeds silent fun _ _ => id
    cases silent

theorem of_step {due : Arena → LogEntry → Prop} (step : first.Step (Arena.Smoothly due) second) :
    Ties first second := by
  cases step with
  | @note entry plain =>
      exact of_silent (.note .refl (by cases entry <;> first | rfl | cases plain) plain)
  | tried => exact of_silent (.tried .refl ..)
  | recalled read => exact of_silent (.recalled .refl read)
  | called same ran => exact of_silent (.tail .refl (.called same ran rfl))
  | settled success =>
      refine ⟨.settled .refl success, fun wrote there => ?_⟩
      obtain ⟨new, same, member⟩ := wrote
      obtain rfl : new = [_] := List.append_cancel_right same.symm
      cases List.mem_singleton.1 member
      exact ⟨(Heap.tie?_eq_some success).1, Heap.content?_tie success there⟩
  | unsettled failed now => exact absurd failed now.2

end Ties

/-- In a run that does not end the search, whatever is produced for a goal with a cell that was
there is tied to it. -/
theorem Runs.ties {solver : Solver} {α : Type} {task : Task α} {arena reached : Arena}
    {outcome : α} (run : Runs solver task arena (.ok outcome) reached) : Ties arena reached :=
  run.leads.smoothly.keeps (motive := Ties arena) (fun step before => before.trans (.of_step step))
    (.of_silent .refl)

/-! ## 5. Searches that find nothing -/

/-- The branches in which a search starts with some providers, and those to which it leads by
finding one goal after the other. -/
inductive Solver.Reaches (solver : Solver) : Branch → Prop
  | start {values : List Value} {branch : Branch} {arena reached : Arena} :
      (solver.start values).runFrom arena = (.ok branch, reached) → Reaches solver branch
  | find {fuel depth : Nat} {goal : Term} {branch : Branch} {arena reached : Arena}
      {found : Found} : Reaches solver branch →
      (solver.find fuel goal branch depth).runFrom arena = (.ok (some found), reached) →
      Reaches solver found.branch

theorem Runs.of_find {solver : Solver} {fuel depth : Nat} {goal : Term} {branch : Branch}
    {arena reached : Arena} {result : Except Halt (Option Found)}
    (ran : (solver.find fuel goal branch depth).runFrom arena = (result, reached)) :
    Runs solver (.goal fuel goal branch depth) arena result reached :=
  of_perform ran

theorem Solver.Reaches.orderly {solver : Solver} {branch : Branch}
    (reaches : solver.Reaches branch) : branch.Orderly solver := by
  induction reaches with
  | @start values branch arena reached ran =>
      rcases solver.runFrom_enrollAll {} values arena with ⟨_, _, all⟩ | ⟨_, _, _, all⟩ <;>
        simp only [Solver.start, Search.runFrom_bind, all, Search.runFrom_pure] at ran <;> cases ran
      exact solver.orderly_startingBranch values
  | find _ ran ih => exact (Runs.of_find ran).keepsOrderly ih rfl rfl

/-- Let the rules that return goals for cells be placeholder rules. A search from a branch that
finds nothing leaves the cells that were there as they are if and only if it builds no goal for
whose cell the branch holds a value. -/
theorem failed_find_keeps_cells_iff {solver : Solver} (cells : solver.MakesCells) {branch : Branch}
    (reaches : solver.Reaches branch) {fuel depth : Nat} {goal : Term} {arena reached : Arena}
    (failed : (solver.find fuel goal branch depth).runFrom arena = (.ok none, reached)) :
    (∀ cell < arena.heap.cells.length,
        reached.heap.content? cell = arena.heap.content? cell) ↔
      ∀ built cell value, branch.memo.HoldsCell solver.settings.placeholder built cell →
        cell < arena.heap.cells.length →
        ¬ arena.Wrote reached (.produced built (some cell) value) := by
  have run := Runs.of_find failed
  constructor
  · intro same built cell value _ there wrote
    obtain ⟨empty, full⟩ := run.ties.tied wrote there
    rw [same cell there, empty] at full
    cases full
  · intro none cell there
    rcases (run.frame cells reaches.orderly trivial).kept cell there with same | ⟨-, tied⟩
    · exact same
    · obtain ⟨built, value, held | impossible, wrote, -⟩ := tied
      · exact absurd wrote (none built cell value held there)
      · cases impossible

/-! ## 6. A cell that is tied by a search that finds nothing -/

def RuleDecl.producing (name : String) (returns : Term) (params : List Term) : RuleDecl :=
  ⟨name, returns, params, Script.recipe [] [.produce .unit]⟩

/-- A shape with a placeholder for nodes. A node can be built, but not what `bad` needs beside it.
-/
def knotting : ShapeDecl where
  kind := .provider 0
  name := "Host"
  bearing := true
  base := none
  rules := [
    .placeholder "Recursive" (.constant "Node"),
    .producing "node" (.constant "Node") [.constant "Leaf"],
    .producing "leaf" (.constant "Leaf") [],
    .producing "bad" (.constant "Bad") [.constant "Node", .constant "Missing"],
    .producing "first" (.constant "Pair") [.constant "Bad"],
    .producing "second" (.constant "Pair") [.constant "Node"],
    .producing "top" (.constant "Top") [.app "Recursive" [.constant "Node"], .constant "Pair"]]

def knottingSolver : Solver := ⟨⟨[knotting.toShape]⟩, .silent, .word⟩

def knottingHost : Value := .mk 0 (.provider 0 "p" none)

theorem knottingSolver_makesCells : knottingSolver.MakesCells := by
  rintro rule ⟨shape, member, declared⟩ slots asks
  obtain rfl := List.mem_singleton.1 member
  obtain ⟨decl, listed, rfl⟩ := List.mem_map.1 ((orderRules_perm _).mem_iff.1 declared)
  rcases List.mem_cons.1 listed with rfl | others
  · exact ⟨_, _, rfl⟩
  · have asks : ((decl.returns.subst slots).head? == some "Recursive") = true := asks
    simp only [List.mem_cons, List.not_mem_nil, or_false] at others
    rcases others with rfl | rfl | rfl | rfl | rfl | rfl <;>
      simp [RuleDecl.producing, Term.constant, Term.head?] at asks

/-- From the state in which the cell of a node was found, a search for `Bad` finds nothing and ties
the cell. -/
theorem exists_tying_search : ∃ started found first second third,
    (knottingSolver.start [knottingHost]).runFrom ⟨⟨1, []⟩, 0, []⟩ = (.ok started, first) ∧
    (knottingSolver.find 8 (.app "Recursive" [.constant "Node"]) started 0).runFrom first =
      (.ok (some found), second) ∧
    (knottingSolver.find 8 (.constant "Bad") found.branch 0).runFrom second = (.ok none, third) ∧
    0 < second.heap.cells.length ∧ second.heap.isTied 0 = false ∧ third.heap.isTied 0 = true := by
  have passed : (knottingSolver.start [knottingHost]).passes ⟨⟨1, []⟩, 0, []⟩ (fun branch arena =>
      (knottingSolver.find 8 (.app "Recursive" [.constant "Node"]) branch 0).passes arena
        fun found arena => found.any fun found =>
          (knottingSolver.find 8 (.constant "Bad") found.branch 0).passes arena
            fun failed reached => failed.isNone && decide (0 < arena.heap.cells.length) &&
              !arena.heap.isTied 0 && reached.heap.isTied 0) = true := by decide +kernel
  obtain ⟨started, first, start, passed⟩ := Search.exists_of_passes passed
  obtain ⟨found, second, find, passed⟩ := Search.exists_of_passes passed
  obtain _ | found := found
  · cases passed
  obtain ⟨failed, third, fail, passed⟩ := Search.exists_of_passes passed
  simp only [Bool.and_eq_true, Option.isNone_iff_eq_none, decide_eq_true_eq,
    Bool.not_eq_true'] at passed
  obtain ⟨⟨⟨rfl, there⟩, empty⟩, full⟩ := passed
  exact ⟨started, found, first, second, third, start, find, fail, there, empty, full⟩

theorem failed_find_keeps_cells_iff_bad : ∃ branch arena reached, knottingSolver.MakesCells ∧
    knottingSolver.Reaches branch ∧
    (knottingSolver.find 8 (.constant "Bad") branch 0).runFrom arena = (.ok none, reached) ∧
    ((∀ cell < arena.heap.cells.length,
        reached.heap.content? cell = arena.heap.content? cell) ↔
      ∀ built cell value,
        branch.memo.HoldsCell knottingSolver.settings.placeholder built cell →
        cell < arena.heap.cells.length →
        ¬ arena.Wrote reached (.produced built (some cell) value)) := by
  obtain ⟨_, found, _, second, third, start, find, fail, -⟩ := exists_tying_search
  have reaches : knottingSolver.Reaches found.branch := .find (.start start) find
  exact ⟨found.branch, second, third, knottingSolver_makesCells, reaches, fail,
    failed_find_keeps_cells_iff knottingSolver_makesCells reaches fail⟩

/-- A search that finds nothing may tie a cell that was empty before, although the cell was made by
a placeholder rule. -/
theorem failed_find_ties_cell : knottingSolver.MakesCells ∧
    ∃ started found first second third cell,
      (knottingSolver.start [knottingHost]).runFrom ⟨⟨1, []⟩, 0, []⟩ = (.ok started, first) ∧
      (knottingSolver.find 8 (.app "Recursive" [.constant "Node"]) started 0).runFrom first =
        (.ok (some found), second) ∧
      (knottingSolver.find 8 (.constant "Bad") found.branch 0).runFrom second =
        (.ok none, third) ∧
      cell < second.heap.cells.length ∧
      third.heap.content? cell ≠ second.heap.content? cell := by
  obtain ⟨started, found, first, second, third, start, find, fail, there, empty, full⟩ :=
    exists_tying_search
  refine ⟨knottingSolver_makesCells, started, found, first, second, third, 0, start, find, fail,
    there, ?_⟩
  intro same
  rw [Heap.isTied, same, ← Heap.isTied, empty] at full
  cases full

end Synthesis
