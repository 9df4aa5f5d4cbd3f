import Synthesis.Proofs.Determined
import Synthesis.Proofs.Marks
import Synthesis.Proofs.Reentrance

/-!
# Every goal is built once

The history of a branch lists the goals that were settled on the way to it. What was given up, and
the probes for cells, are not in it. If the rules are determined and goals that ask for cells need
no parameters, no goal is built twice on the way to a result, and all parameters with one goal share
its value.

Results:
1. `Runs.continues`: a run continues the history of its branch and leaves the entries of the memo as
   they are, that of the goal apart which it builds.
2. `Runs.shares`: in a branch, every argument is the value of its goal, or the cell of the goal, as
   long as the goal is under construction and after it was built.
3. `solve_shares`: in the branch in which a search ends, no goal is built twice and each argument is
   what was built for its goal, or the cell that is tied to it.
-/
namespace Synthesis

/-! ## 1. What a run leaves in the memo and in the history -/

/-- No rule that can return a goal that asks for a cell has parameters. -/
def Solver.CellsNeedNothing (solver : Solver) : Prop :=
  ∀ rule, solver.registry.Declares rule → ∀ slots : String → Term,
    solver.asksForCell (rule.returns.subst slots) = true → rule.params = []

/-- A rule that was chosen for a goal that asks for a cell has no parameters. -/
theorem Solver.CellsNeedNothing.params_eq_nil {solver : Solver} (cells : solver.CellsNeedNothing)
    {offer : Offer} {renamed : Renamed} {aim : Term} {subst : Substitution}
    (chosen : Chosen solver.registry offer renamed aim subst)
    (asks : solver.asksForCell aim = true) : renamed.params = [] := by
  obtain ⟨stamp, rfl, returns⟩ := chosen.returns_slots
  have none := cells _ chosen.declared _ (returns ▸ asks)
  simp [Signature.rename, none]

/-- The goal that a part of a search starts to build is not in the memo. While it is built, its
entry is the one that was made for it, or it has none and its rule has no parameters. -/
def Task.Unsettled : {α : Type} → Task α → Prop
  | _, .offers _ asked branch _ _ => branch.memo.get? asked = none
  | _, .build _ _ _ aim branch _ => branch.memo.get? aim = none
  | _, .complete _ _ renamed aim own branch _ => branch.memo.get? aim = some (.entered own) ∨
      renamed.params = [] ∧ own = none ∧ branch.memo.get? aim = none
  | _, .invoke _ _ aim own _ branch _ => branch.memo.get? aim = some (.entered own) ∨
      own = none ∧ branch.memo.get? aim = none
  | _, .goal .. | _, .params .. => True

/-- A branch continues the one in which a part of a search starts. -/
structure Task.Continues {α : Type} (task : Task α) (last : Branch) : Prop where
  history : task.start.history <:+ last.history
  memo : ∀ {key : Term} {entry : Memo.Entry}, task.start.memo.get? key = some entry →
    task.own ≠ some key → last.memo.get? key = some entry

def Task.idle : {α : Type} → Task α → Bool
  | _, .params _ _ _ _ [] _ => true
  | _, _ => false

/-- Where there is nothing to settle, the branch stays as it is. -/
theorem Runs.eq_of_idle {solver : Solver} {α : Type} {task : Task α} {arena reached : Arena}
    {result : Except Halt α} (run : Runs solver task arena result reached)
    (idle : task.idle = true) {outcome : α} (ok : result = .ok outcome) {last : Branch}
    (finished : task.finish? outcome = some last) : last = task.start := by
  induction run with
  | noParams =>
      cases ok
      cases finished
      rfl
  | _ => cases idle

namespace Task.Unsettled

variable {solver : Solver} {fuel depth stamp : Nat} {asked aim : Term} {branch : Branch}
  {offer : Offer} {tries : List Offer} {renamed : Renamed} {own : Option Nat}

theorem of_unknown (ground : asked.isGround = true)
    (unknown : Solver.known? asked branch.memo = none) :
    (Task.offers fuel asked branch depth tries).Unsettled := by
  rwa [Solver.known?, if_pos ground] at unknown

theorem build (unsettled : (Task.offers fuel asked branch depth tries).Unsettled)
    {subst : Substitution} (ground : asked.isGround = true) (same : subst.apply asked = aim) :
    (Task.build fuel offer renamed aim { branch with subst } depth).Unsettled := by
  rw [subst.apply_of_ground ground] at same
  subst same
  exact unsettled

theorem plain (unsettled : (Task.build fuel offer renamed aim branch depth).Unsettled)
    (cells : solver.CellsNeedNothing)
    (chosen : Chosen solver.registry offer renamed aim branch.subst)
    (plain : (renamed.params.isEmpty || solver.asksForCell aim) = true) :
    (Task.complete fuel offer renamed aim none branch depth).Unsettled := by
  refine .inr ⟨?_, rfl, unsettled⟩
  rcases Bool.or_eq_true_iff.1 plain with empty | asks
  · exact List.isEmpty_iff.1 empty
  · exact cells.params_eq_nil chosen asks

theorem entered (own : Option Nat) :
    (Task.complete fuel offer renamed aim own
      { branch with memo := branch.memo.insert aim (.entered own) } depth).Unsettled :=
  .inl (by simp)

end Task.Unsettled

namespace Task.Continues

variable {α β : Type} {task : Task α} {part : Task β} {branch middle last : Branch}

theorem refl (same : last.memo = task.start.memo) (history : last.history = task.start.history) :
    task.Continues last where
  history := history ▸ List.suffix_refl _
  memo held _ := by rwa [same]

/-- A part of a search that ends like another one from the same branch. -/
theorem of_part (after : part.Continues last)
    (history : part.start.history = task.start.history)
    (memo : part.start.memo = task.start.memo) (own : part.own = none ∨ part.own = task.own) :
    task.Continues last where
  history := history ▸ after.history
  memo held apart := by
    refine after.memo (by rwa [memo]) ?_
    rcases own with none | same
    · rw [none]
      nofun
    · rwa [same]

end Task.Continues

/-- What is built for a goal leaves the entries of other goals, and the goal had none before. -/
theorem Task.Continues.of_attempt {fuel depth : Nat} {offer : Offer} {renamed : Renamed}
    {aim : Term} {own : Option Nat} {memo : Memo} {branch last : Branch}
    (after : Task.Continues (.complete fuel offer renamed aim own { branch with memo } depth) last)
    (unsettled : branch.memo.get? aim = none)
    (others : ∀ key, key ≠ aim → memo.get? key = branch.memo.get? key) :
    Task.Continues (.build fuel offer renamed aim branch depth) last where
  history := after.history
  memo := by
    intro key entry held _
    have differs : key ≠ aim := by
      rintro rfl
      rw [Task.start, unsettled] at held
      cases held
    refine after.memo ?_ fun same => differs (Option.some.inj same).symm
    rwa [Task.start, others key differs]

theorem Task.Unsettled.invoke {fuel depth : Nat} {offer : Offer} {renamed : Renamed} {aim : Term}
    {own : Option Nat} {branch later : Branch} {rule : Signature} {args : List Value}
    (unsettled : (Task.complete fuel offer renamed aim own branch depth).Unsettled)
    (after : (Task.params fuel rule depth 0 renamed.params branch).Continues later)
    (still : renamed.params = [] → later = branch) :
    (Task.invoke offer renamed aim own args later depth).Unsettled := by
  rcases unsettled with entered | ⟨idle, plain, unknown⟩
  · exact .inl (after.memo entered nofun)
  · rw [still idle]
    exact .inr ⟨plain, unknown⟩

/-- A run leads to a branch that continues its first one. -/
theorem Runs.continues {solver : Solver} (determined : solver.Determined)
    (cells : solver.CellsNeedNothing) {α : Type} {task : Task α} {arena reached : Arena}
    {result : Except Halt α} (run : Runs solver task arena result reached)
    (ready : task.Ready solver arena.stamp) (unsettled : task.Unsettled)
    {outcome : α} (ok : result = .ok outcome) {last : Branch}
    (finished : task.finish? outcome = some last) : task.Continues last := by
  induction run generalizing last with
  | exhausted | tooDeep | cyclic | notDeferred | probeHalts | paramsHalt | paramHalts | noView
  | bodyFails | tiedBefore => cases ok
  | unfound | noOffers | paramsFail | paramFails | slotOpen | declines =>
      cases ok
      cases finished
  | known =>
      cases ok
      cases finished
      exact ⟨List.suffix_cons _ _, fun held _ => held⟩
  | noParams =>
      cases ok
      cases finished
      exact .refl rfl rfl
  | searched same unknown _ _ _ ih =>
      have after := ih (by simpa using ready.offers same)
        (.of_unknown (same ▸ ready.ground) unknown)
        ok finished
      exact after.of_part rfl rfl (.inl rfl)
  | mismatch _ _ ih | leftOpen _ _ _ ih =>
      exact (ih (by simpa using ready.rest) unsettled ok finished).of_part rfl rfl (.inl rfl)
  | settles matched same ground _ _ ih =>
      have after := ih (by simpa using ready.build matched same ground)
        (unsettled.build ready.ground.1 same) ok finished
      exact after.of_part rfl rfl (.inl rfl)
  | moveOn _ _ _ first _ _ ih =>
      have stamps := first.grows.stamp
      simp only [Solver.stamp_noted, Arena.stamp_note, Arena.stamp_tried] at stamps
      exact (ih (ready.rest.mono stamps) unsettled ok finished).of_part rfl rfl (.inl rfl)
  | plain plain _ ih =>
      have after := ih (ready.complete _ _) (unsettled.plain cells ready.ground plain) ok finished
      exact after.of_attempt unsettled fun _ _ => rfl
  | withCell _ probe _ _ _ ih =>
      have after := ih ((ready.complete _ _).mono probe.grows.stamp) (.entered (some _)) ok finished
      exact after.of_attempt unsettled fun _ differs => by rw [Memo.get?_insert, if_neg differs]
  | guarded _ probe _ _ ih =>
      have after := ih ((ready.complete _ _).mono probe.grows.stamp) (.entered none) ok finished
      exact after.of_attempt unsettled fun _ differs => by rw [Memo.get?_insert, if_neg differs]
  | @paramsSettled _ _ _ renamed _ _ _ _ _ _ _ _ _ params _ one ih =>
      have first := one (ready.params determined) trivial rfl rfl
      have still (none : renamed.params = []) := params.eq_of_idle (by rw [none]; rfl) rfl rfl
      have second := ih (ready.invoke determined params) (unsettled.invoke first still) ok finished
      refine ⟨first.history.trans second.history, fun held apart => ?_⟩
      exact second.memo (first.memo held nofun) apart
  | @paramFound _ _ _ _ _ _ _ _ _ _ _ result goal _ one ih =>
      obtain _ | _ | settled := result <;> cases ok <;> cases finished
      have first := one ready.param trivial rfl rfl
      have second := ih (by simpa using ready.later determined goal) trivial rfl rfl
      refine ⟨first.history.trans second.history, fun held _ => ?_⟩
      exact second.memo (first.memo held nofun) nofun
  | built =>
      cases ok
      cases finished
      refine ⟨List.suffix_cons _ _, fun held apart => ?_⟩
      rw [Memo.get?_insert, if_neg fun same => apart (congrArg some same.symm)]
      exact held

/-! ## 2. What the arguments are -/

/-- The goals that were built, the latest first. -/
def builtGoals : List Settled → List Term
  | [] => []
  | .built goal _ _ _ :: before => goal :: builtGoals before
  | .known _ _ _ :: before => builtGoals before

theorem mem_builtGoals {history : List Settled} {goal : Term} :
    goal ∈ builtGoals history ↔ ∃ inputs own value, .built goal inputs own value ∈ history := by
  induction history with
  | nil => simp [builtGoals]
  | cons first before ih =>
      cases first with
      | known => simpa [builtGoals] using ih
      | built other => simp [builtGoals, ih, exists_or, eq_comm]

/-- An argument for a goal is shared with all that need the goal: it is the value that was built for
the goal. If it was read from the memo before the goal was built, while the goal was entered with a
cell, it is this cell, and the cell is tied to the value. -/
inductive Shared (history : List Settled) (heap : Heap) (goal : Term) (arg : Value) : Prop
  | value {inputs : Inputs} {own : Option Nat} : .built goal inputs own arg ∈ history →
      Shared history heap goal arg
  | cell {inputs : Inputs} {cell : Nat} {value : Value} {later earlier : List Settled} :
      history = later ++ .built goal inputs (some cell) value :: earlier →
      .known goal (.pending cell) arg ∈ earlier → arg.cell? = some cell →
      heap.content? cell = some value → Shared history heap goal arg

/-- An argument for a goal that is still under construction: what was read from its cell. -/
def Branch.Awaits (branch : Branch) (heap : Heap) (goal : Term) (arg : Value) : Prop :=
  ∃ cell, .known goal (.pending cell) arg ∈ branch.history ∧
    branch.memo.get? goal = some (.pending cell) ∧
    (arg.cell? = some cell ∨ heap.content? cell = some arg)

/-- An argument is shared, or its goal is still under construction. -/
def Branch.Answers (branch : Branch) (heap : Heap) (goal : Term) (arg : Value) : Prop :=
  Shared branch.history heap goal arg ∨ branch.Awaits heap goal arg

/-- The values in the memo are those that were built, no goal was built twice, and all arguments are
answers for their goals. -/
structure Branch.Sharing (heap : Heap) (branch : Branch) : Prop where
  ready : ∀ {goal : Term} {value : Value}, branch.memo.get? goal = some (.ready value) →
    ∃ inputs own, .built goal inputs own value ∈ branch.history
  settled : ∀ {goal : Term} {inputs : Inputs} {own : Option Nat} {value : Value},
    .built goal inputs own value ∈ branch.history →
      branch.memo.get? goal = some (.ready value)
  once : (builtGoals branch.history).Nodup
  args : ∀ {goal : Term} {inputs : Inputs} {own : Option Nat} {value : Value},
    .built goal inputs own value ∈ branch.history →
      List.Forall₂ (branch.Answers heap) inputs.goals inputs.args

section

variable {branch last : Branch} {heap later : Heap} {goal : Term} {arg : Value}

theorem Shared.mono {history more : List Settled} (shared : Shared history heap goal arg)
    (continued : history <:+ more) (grown : heap.Grows later) : Shared more later goal arg := by
  cases shared with
  | value built => exact .value (continued.subset built)
  | cell same known cell content =>
      obtain ⟨new, rfl⟩ := continued
      subst same
      exact .cell (List.append_assoc _ _ _).symm known cell (grown.keeps content)

/-- An answer stays one while the mark of its goal stays in the memo. -/
theorem Branch.Answers.mono (answers : branch.Answers heap goal arg)
    (continued : branch.history <:+ last.history)
    (kept : ∀ cell, branch.memo.get? goal = some (.pending cell) →
      last.memo.get? goal = some (.pending cell))
    (grown : heap.Grows later) : last.Answers later goal arg := by
  rcases answers with shared | ⟨cell, known, held, reads⟩
  · exact .inl (shared.mono continued grown)
  · exact .inr ⟨cell, continued.subset known, kept cell held, reads.imp_right grown.keeps⟩

namespace Branch.Sharing

theorem start (solver : Solver) (values : List Value) (heap : Heap) :
    (solver.startingBranch values).Sharing heap where
  ready held := by cases held
  settled built := by cases built
  once := .nil
  args built := by cases built

theorem grow (sharing : branch.Sharing heap) (grown : heap.Grows later) :
    branch.Sharing later where
  ready := sharing.ready
  settled := sharing.settled
  once := sharing.once
  args built := (sharing.args built).imp fun _ _ answers =>
    answers.mono (List.suffix_refl _) (fun _ => id) grown

theorem of_eq (sharing : branch.Sharing heap) (memo : last.memo = branch.memo)
    (history : last.history = branch.history) : last.Sharing heap := by
  obtain ⟨_, _, _, _⟩ := last
  subst memo history
  exact ⟨sharing.ready, sharing.settled, sharing.once, sharing.args⟩

/-- A goal that is read from the memo is not built. -/
theorem known (sharing : branch.Sharing heap) (entry : Memo.Entry) :
    Branch.Sharing heap { branch with history := .known goal entry arg :: branch.history } where
  ready held := by
    obtain ⟨inputs, own, built⟩ := sharing.ready held
    exact ⟨inputs, own, .tail _ built⟩
  settled built := sharing.settled ((List.mem_cons.1 built).resolve_left nofun)
  once := sharing.once
  args built := (sharing.args ((List.mem_cons.1 built).resolve_left nofun)).imp fun _ _ answers =>
    answers.mono (List.suffix_cons _ _) (fun _ => id) (.refl _)

/-- A goal that is entered was neither built nor read before. -/
theorem enter (sharing : branch.Sharing heap) (unsettled : branch.memo.get? goal = none)
    (own : Option Nat) :
    Branch.Sharing heap { branch with memo := branch.memo.insert goal (.entered own) } where
  ready held := by
    rw [Memo.get?_insert] at held
    split at held
    · cases own <;> cases held
    · exact sharing.ready held
  settled built := by
    have held := sharing.settled built
    rw [Memo.get?_insert, if_neg]
    · exact held
    · rintro rfl
      rw [unsettled] at held
      cases held
  once := sharing.once
  args built := (sharing.args built).imp fun other _ answers => by
    refine answers.mono (List.suffix_refl _) (fun cell held => ?_) (.refl _)
    rw [Memo.get?_insert, if_neg]
    · exact held
    · rintro rfl
      rw [unsettled] at held
      cases held

end Branch.Sharing

end

/-! ## 3. The step that builds a goal -/

section

variable {branch : Branch} {heap after tied : Heap} {aim : Term} {own : Option Nat} {given : Inputs}
  {value : Value}

def Branch.settle (branch : Branch) (aim : Term) (given : Inputs) (own : Option Nat)
    (value : Value) : Branch :=
  { branch with
    memo := branch.memo.insert aim (.ready value)
    history := .built aim given own value :: branch.history }

/-- What was answered before a goal is built is answered after it. The cell of the goal was empty,
so nothing but the cell itself was read from it. -/
theorem Branch.Answers.settle {goal : Term} {arg : Value} (answers : branch.Answers heap goal arg)
    (unsettled : branch.memo.get? aim = some (.entered own) ∨
      own = none ∧ branch.memo.get? aim = none)
    (grown : heap.Grows after) (settled : after.settle? own value = some tied) :
    (branch.settle aim given own value).Answers tied goal arg := by
  have more := grown.trans (Heap.settle?_grows settled)
  rcases answers with shared | ⟨cell, known, held, reads⟩
  · exact .inl (shared.mono (List.suffix_cons _ _) more)
  by_cases same : goal = aim
  · subst same
    obtain rfl : own = some cell := by
      rcases unsettled with entered | ⟨-, none⟩
      · rw [held] at entered
        cases own <;> cases entered
        rfl
      · rw [held] at none
        cases none
    refine .inl (.cell (List.nil_append _).symm known ?_
      (Heap.content?_tie settled (Heap.lt_of_tie? settled)))
    refine reads.resolve_right fun content => ?_
    have empty := (Heap.tie?_eq_some settled).1
    rw [grown.keeps content] at empty
    cases empty
  · refine .inr ⟨cell, .tail _ known, ?_, reads.imp_right more.keeps⟩
    rw [Branch.settle, Memo.get?_insert, if_neg same, held]

theorem Branch.Sharing.settle (sharing : branch.Sharing heap)
    (unsettled : branch.memo.get? aim = some (.entered own) ∨
      own = none ∧ branch.memo.get? aim = none)
    (grown : heap.Grows after) (tying : after.settle? own value = some tied)
    (args : List.Forall₂ (branch.Answers heap) given.goals given.args) :
    (branch.settle aim given own value).Sharing tied := by
  have new {goal : Term} {inputs : Inputs} {cell : Option Nat} {other : Value}
      (built : .built goal inputs cell other ∈ branch.history) : goal ≠ aim := by
    rintro rfl
    have held := sharing.settled built
    rcases unsettled with entered | ⟨-, none⟩
    · rw [held] at entered
      cases own <;> cases entered
    · rw [held] at none
      cases none
  constructor
  case ready =>
    intro goal other held
    rw [Branch.settle, Memo.get?_insert] at held
    split at held
    · next same =>
        cases held
        exact ⟨given, own, same ▸ .head _⟩
    · obtain ⟨inputs, cell, built⟩ := sharing.ready held
      exact ⟨inputs, cell, .tail _ built⟩
  case settled =>
    intro goal inputs cell other built
    rw [Branch.settle, Memo.get?_insert]
    rcases List.mem_cons.1 built with here | before
    · cases here
      rw [if_pos rfl]
    · rw [if_neg (new before), sharing.settled before]
  case once =>
    refine List.nodup_cons.2 ⟨fun member => ?_, sharing.once⟩
    obtain ⟨_, _, _, built⟩ := mem_builtGoals.1 member
    exact new built rfl
  case args =>
    intro goal inputs cell other built
    rcases List.mem_cons.1 built with here | before
    · cases here
      exact args.imp fun _ _ answers => answers.settle unsettled grown tying
    · exact (sharing.args before).imp fun _ _ answers => answers.settle unsettled grown tying

end

/-! ## 4. Runs -/

def Task.arguments : {α : Type} → Task α → α → Option (List Value)
  | _, .params .., settled => settled.map (·.1)
  | _, .goal .., _ | _, .offers .., _ | _, .build .., _ | _, .complete .., _ | _, .invoke .., _ =>
      none

/-- The arguments with which an offer is run are answers for its parameters. -/
def Task.Supplied (heap : Heap) : {α : Type} → Task α → Prop
  | _, .invoke _ renamed _ _ args branch _ =>
      List.Forall₂ (branch.Answers heap) (renamed.params.map branch.subst.apply) args
  | _, .goal .. | _, .offers .. | _, .build .. | _, .complete .. | _, .params .. => True

/-- A part of a search ends in a branch in which values are shared, and what it gives are answers
there. -/
structure Task.Shares {α : Type} (task : Task α) (heap : Heap) (outcome : α) (last : Branch) :
    Prop where
  sharing : last.Sharing heap
  given : ∀ {goal : Term} {value : Value}, task.delivered outcome = some (goal, value) →
    last.Answers heap goal value
  settled : ∀ {args : List Value}, task.arguments outcome = some args →
    List.Forall₂ (last.Answers heap) (task.goals.map last.subst.apply) args

namespace Task.Shares

variable {fuel depth deeper index : Nat} {sought goal asked aim param : Term}
  {patterns : List Term} {branch last : Branch} {rule : Signature} {offer : Offer}
  {tries : List Offer} {renamed : Renamed} {own : Option Nat} {args : List Value} {value : Value}
  {heap after : Heap}

/-- A part of a search that ends like another one and gives the same. -/
theorem of_part {α β : Type} {task : Task α} {part : Task β} {outcome : α} {result : β}
    (shares : part.Shares heap result last) (same : task.delivered outcome = part.delivered result)
    (silent : task.arguments outcome = none) (grown : heap.Grows after) :
    task.Shares after outcome last where
  sharing := shares.sharing.grow grown
  given delivered := (shares.given (same.symm.trans delivered)).mono (List.suffix_refl _)
    (fun _ => id) grown
  settled given := by
    rw [silent] at given
    cases given

/-- What is read from the memo is the value that was built for the goal, or it was read from the
cell with which the goal is entered. -/
theorem recalled (sharing : branch.Sharing heap) {entry : Memo.Entry}
    (same : branch.subst.apply sought = goal)
    (known : Solver.known? goal branch.memo = some entry)
    (read : entry.recall goal heap = (.ok value, after)) :
    (Task.goal fuel sought branch depth).Shares after
      (some ⟨value, { branch with history := .known goal entry value :: branch.history }⟩)
      { branch with history := .known goal entry value :: branch.history } where
  sharing := (sharing.grow (Memo.Entry.recall_extends read).grows).known entry
  given delivered := by
    have held := (isGround_of_known? known).2
    subst same
    cases delivered
    cases entry with
    | guarded => cases read
    | ready other =>
        cases read
        obtain ⟨inputs, own, built⟩ := sharing.ready held
        exact .inl (.value (.tail _ built))
    | pending cell =>
        refine .inr ⟨cell, .head _, held, ?_⟩
        simp only [Memo.Entry.recall] at read
        split at read
        · next content =>
            cases read
            exact .inr content
        · cases read
          exact .inl rfl
  settled given := by cases given

/-- What was found for a parameter stays an answer while the parameters after it are settled. -/
theorem paramFound {found : Found} {settled : List Value × Branch}
    (first : (Task.goal fuel param branch deeper).Shares heap (some found) found.branch)
    {providers : Providers}
    (rest : Task.Shares
      (.params fuel rule depth (index + 1) patterns { found.branch with providers }) after
      (some settled) last)
    (continues : Task.Continues
      (.params fuel rule depth (index + 1) patterns { found.branch with providers }) last)
    (kept : last.subst.apply param = found.branch.subst.apply param) (grown : heap.Grows after) :
    (Task.params fuel rule depth index (param :: patterns) branch).Shares after
      (some (found.value :: settled.1, settled.2)) last where
  sharing := rest.sharing
  given delivered := by cases delivered
  settled given := by
    cases given
    refine .cons ?_ (rest.settled rfl)
    rw [kept]
    exact Branch.Answers.mono (first.given rfl) continues.history
      (fun _ held => continues.memo held fun same => by cases same) grown

theorem built {solver : Solver} {arena : Arena}
    (ready : (Task.invoke offer renamed aim own args branch depth).Ready solver arena.stamp)
    (unsettled : (Task.invoke offer renamed aim own args branch depth).Unsettled)
    (supplied : (Task.invoke offer renamed aim own args branch depth).Supplied heap)
    (sharing : branch.Sharing heap) {types : List Term} {given : Inputs} {tied : Heap}
    (closed : Solver.slotTypes branch.subst renamed.slots = .ok types)
    (seen : Solver.inputs offer types args = .ok given)
    (ran : (offer.rule.recipe.run given heap).val = (.ok (.produced value), after))
    (tying : after.settle? own value = some tied) :
    (Task.invoke offer renamed aim own args branch depth).Shares tied
      (some ⟨value, branch.settle aim given own value⟩) (branch.settle aim given own value) where
  sharing := by
    obtain ⟨stamp, rfl⟩ := Chosen.stamped ready.ground
    rw [Task.Supplied, ← goals_of_inputs closed seen, ← args_of_inputs seen] at supplied
    exact sharing.settle unsettled (Recipe.run_extends ran).grows tying supplied
  given delivered := by
    cases delivered
    exact .inl (.value (.head _))
  settled given := by cases given

end Task.Shares

/-- A run leads from branches in which values are shared to such branches. -/
theorem Runs.shares {solver : Solver} (determined : solver.Determined)
    (cells : solver.CellsNeedNothing) {α : Type} {task : Task α} {arena reached : Arena}
    {result : Except Halt α} (run : Runs solver task arena result reached)
    (ready : task.Ready solver arena.stamp) (unsettled : task.Unsettled)
    (supplied : task.Supplied arena.heap) (sharing : task.start.Sharing arena.heap)
    {outcome : α} (ok : result = .ok outcome) {last : Branch}
    (finished : task.finish? outcome = some last) : task.Shares reached.heap outcome last := by
  induction run generalizing last with
  | exhausted | tooDeep | cyclic | notDeferred | probeHalts | paramsHalt | paramHalts | noView
  | bodyFails | tiedBefore => cases ok
  | unfound | noOffers | paramsFail | paramFails | slotOpen | declines =>
      cases ok
      cases finished
  | known same known read =>
      cases ok
      cases finished
      rw [Solver.heap_noted]
      exact .recalled sharing same known read
  | noParams =>
      cases ok
      cases finished
      exact ⟨sharing, (fun given => by cases given), fun given => by cases given; exact .nil⟩
  | searched same unknown tries _ _ ih =>
      have shares := ih (by simpa using ready.offers same)
        (.of_unknown (same ▸ ready.ground) unknown) trivial
        (by rw [Solver.heap_noted]; exact sharing) ok finished
      subst ok
      exact shares.of_part (tries.delivered_sought same ready.start.triangular) rfl (.refl _)
  | mismatch _ _ ih | leftOpen _ _ _ ih =>
      have shares := ih (by simpa using ready.rest) unsettled trivial
        (by rw [Solver.heap_noted]; exact sharing) ok finished
      exact shares.of_part rfl rfl (.refl _)
  | settles matched same ground run _ ih =>
      have later := (Substitution.matching_ok ready.start.triangular matched).2.1
      have shares := ih (by simpa using ready.build matched same ground)
        (unsettled.build ready.ground.1 same) trivial
        (by rw [Solver.heap_noted]; exact sharing.of_eq rfl rfl) ok finished
      subst ok
      exact shares.of_part (run.delivered_asked same later ground) rfl (.refl _)
  | moveOn _ _ _ first _ _ ih =>
      have stamps := first.grows.stamp
      have grown := first.grows.heap
      simp only [Solver.stamp_noted, Arena.stamp_note, Arena.stamp_tried] at stamps
      simp only [Solver.heap_noted, Arena.heap_note, Arena.heap_tried] at grown
      have shares := ih (ready.rest.mono stamps) unsettled trivial (sharing.grow grown) ok finished
      exact shares.of_part rfl rfl (.refl _)
  | plain plain _ ih =>
      have shares := ih (ready.complete _ _) (unsettled.plain cells ready.ground plain) trivial
        sharing ok finished
      exact shares.of_part rfl rfl (.refl _)
  | withCell _ probe _ _ _ ih =>
      have shares := ih ((ready.complete _ _).mono probe.grows.stamp) (.entered (some _)) trivial
        ((sharing.grow probe.grows.heap).enter unsettled (some _)) ok finished
      rw [Arena.heap_leave]
      exact shares.of_part rfl rfl (.refl _)
  | guarded _ probe _ _ ih =>
      have shares := ih ((ready.complete _ _).mono probe.grows.stamp) (.entered none) trivial
        ((sharing.grow probe.grows.heap).enter unsettled none) ok finished
      rw [Arena.heap_leave]
      exact shares.of_part rfl rfl (.refl _)
  | @paramsSettled _ _ _ renamed _ _ _ _ _ _ _ _ _ params _ one ih =>
      have first := one (ready.params determined) trivial trivial sharing rfl rfl
      have after := params.continues determined cells (ready.params determined) trivial rfl rfl
      have still (none : renamed.params = []) := params.eq_of_idle (by rw [none]; rfl) rfl rfl
      have second := ih (ready.invoke determined params) (unsettled.invoke after still)
        (first.settled rfl) first.sharing ok finished
      exact second.of_part rfl rfl (.refl _)
  | @paramFound _ _ _ _ _ _ _ _ _ _ _ result goal rest one ih =>
      obtain _ | _ | settled := result <;> cases ok <;> cases finished
      have first := one ready.param trivial trivial sharing rfl rfl
      have ready_rest := ready.later determined goal
      have second := ih (by simpa using ready_rest) trivial trivial
        (by rw [Solver.heap_enrolled]; exact first.sharing.of_eq rfl rfl) rfl rfl
      have settled := goal.keepsSubst ready.start.triangular rfl rfl
      have extended := (rest.keepsSubst ready_rest.start.triangular rfl rfl).extended
      have after := rest.continues determined cells (by simpa using ready_rest) trivial rfl rfl
      exact .paramFound first second after
        (extended.apply_of_ground settled.triangular (settled.ground _ (.head _)))
        (by simpa using rest.grows.heap)
  | built closed seen ran tying =>
      cases ok
      cases finished
      rw [Solver.heap_noted]
      exact .built ready unsettled supplied sharing closed seen ran tying

/-! ## 5. Whole searches -/

theorem Branch.Answers.shared {branch : Branch} {heap : Heap} {goal : Term} {arg : Value}
    (answers : branch.Answers heap goal arg)
    (unmarked : ∀ cell, branch.memo.get? goal ≠ some (.pending cell)) :
    Shared branch.history heap goal arg := by
  rcases answers with shared | ⟨cell, -, held, -⟩
  · exact shared
  · exact absurd held (unmarked cell)

/-- Let the rules be determined and goals that ask for cells need no parameters. In the branch in
which a search ends with a value, no goal was built twice, and each argument is the value that was
built for its goal or, if it was needed before that, the cell of the goal, which is tied to the
value. -/
theorem solve_shares {solver : Solver} (determined : solver.Determined)
    (cells : solver.CellsNeedNothing) {fuel : Nat} {goal : Term} {providers : List Value}
    {arena reached : Arena} {value : Value}
    (ran : (solver.solve fuel goal providers).runFrom arena = (.ok value, reached)) :
    ∃ found, (solver.derive fuel goal providers).runFrom arena = (.ok found, reached) ∧
      found.value = value ∧ (builtGoals found.branch.history).Nodup ∧
      ∀ built inputs own result, .built built inputs own result ∈ found.branch.history →
        List.Forall₂ (Shared found.branch.history reached.heap) inputs.goals inputs.args := by
  rw [runFrom_solve] at ran
  have ends := derives solver fuel goal providers arena
  generalize (solver.derive fuel goal providers).runFrom arena = derived at ends ran ⊢
  obtain ⟨result, last⟩ := derived
  cases ends with
  | openGoal | unknownProvider | halts | fails => cases ran
  | @finds _ _ found ground reports run =>
      cases ran
      have sharing := (run.shares determined cells (.of_start ground) trivial trivial
        (.start solver providers _) rfl rfl).sharing
      have marks := run.keepsMarks trivial rfl rfl
      refine ⟨found, rfl, rfl, sharing.once, fun built inputs own result member => ?_⟩
      show List.Forall₂ (Shared _ (solver.noted (.solved goal found.branch.memo.size) _).heap) _ _
      rw [Solver.heap_noted]
      refine (sharing.args member).imp fun _ _ answers => answers.shared fun cell held => ?_
      rcases marks.kept held with ⟨_, none⟩ | none <;> cases none

/-- A shape in which a node needs two things, the second one needs the first, and both need the
node. -/
def ringing : ShapeDecl where
  kind := .provider 0
  name := "Host"
  bearing := true
  base := none
  rules := [
    .placeholder "Recursive" (.constant "Node"),
    .producing "node" (.constant "Node") [.constant "Left", .constant "Right"],
    .producing "left" (.constant "Left") [.constant "Node"],
    .producing "right" (.constant "Right") [.constant "Left", .constant "Node"]]

def ringingSolver : Solver := ⟨⟨[ringing.toShape]⟩, .silent, .word⟩

theorem ringingSolver_determined : ringingSolver.Determined := by
  intro rule declared
  obtain ⟨decl, listed, rfl⟩ := Registry.declares_of_single declared
  simp only [ringing, List.mem_cons, List.not_mem_nil, or_false] at listed
  refine Signature.determined_of_ground ?_
  rcases listed with rfl | rfl | rfl | rfl <;> decide

theorem ringingSolver_cellsNeedNothing : ringingSolver.CellsNeedNothing := by
  intro rule declared slots asks
  obtain ⟨decl, listed, rfl⟩ := Registry.declares_of_single declared
  rcases List.mem_cons.1 listed with rfl | others
  · rfl
  · have asks : ((decl.returns.subst slots).head? == some "Recursive") = true := asks
    simp only [List.mem_cons, List.not_mem_nil, or_false] at others
    rcases others with rfl | rfl | rfl <;>
      simp [RuleDecl.producing, Term.constant, Term.head?] at asks

theorem solve_shares_node : ∃ value reached, ringingSolver.Determined ∧
    ringingSolver.CellsNeedNothing ∧
    (ringingSolver.solve 8 (.constant "Node") [.mk 0 (.provider 0 "p" none)]).runFrom
      ⟨⟨1, []⟩, 0, []⟩ = (.ok value, reached) ∧
    ∃ found, (ringingSolver.derive 8 (.constant "Node") [.mk 0 (.provider 0 "p" none)]).runFrom
        ⟨⟨1, []⟩, 0, []⟩ = (.ok found, reached) ∧
      found.value = value ∧ (builtGoals found.branch.history).Nodup ∧
      ∀ built inputs own result, .built built inputs own result ∈ found.branch.history →
        List.Forall₂ (Shared found.branch.history reached.heap) inputs.goals inputs.args := by
  have passed : (ringingSolver.solve 8 (.constant "Node") [.mk 0 (.provider 0 "p" none)]).passes
      ⟨⟨1, []⟩, 0, []⟩ (fun _ _ => true) = true := by decide +kernel
  obtain ⟨value, reached, ran, -⟩ := Search.exists_of_passes passed
  exact ⟨value, reached, ringingSolver_determined, ringingSolver_cellsNeedNothing, ran,
    solve_shares ringingSolver_determined ringingSolver_cellsNeedNothing ran⟩

end Synthesis
