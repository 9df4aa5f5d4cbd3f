import Synthesis.Proofs.Runs

/-!
# Every search has a run

Results:
1. `Runs.of_perform`, `Runs.perform`: a part of a search gives a result from an arena if and only if
   one of its runs does.
2. `derives`: a whole search either stops before it looks for its goal or is a run of the goal.
-/
namespace Synthesis

/-! ## 1. Depths that are allowed -/

namespace Solver

open Search

variable {solver : Solver} {depth : Nat}

theorem allows_or_exceeds (solver : Solver) (depth : Nat) :
    solver.Allows depth ∨ ∃ limit, solver.settings.maxDepth = some limit ∧ limit < depth := by
  rw [Classical.or_iff_not_imp_right]
  intro within limit limited
  exact Nat.le_of_not_lt fun deep => within ⟨limit, limited, deep⟩

theorem runFrom_checkDepth_of_allows (allows : solver.Allows depth) (goal : Term)
    (arena : Arena) : (solver.checkDepth goal depth).runFrom arena = (.ok (), arena) := by
  unfold checkDepth
  split
  · next limit limited => rw [if_neg (Nat.not_lt.2 (allows limit limited)), runFrom_pure]
  · rfl

theorem runFrom_checkDepth_of_exceeds {limit : Nat}
    (limited : solver.settings.maxDepth = some limit) (deep : limit < depth) (goal : Term)
    (arena : Arena) :
    (solver.checkDepth goal depth).runFrom arena =
      (.error (.failed (.depthLimit goal limit)),
        arena.note (.halted (.depthLimit goal limit))) := by
  simp [checkDepth, limited, deep]

end Solver

/-! ## 2. Every part of a search has a run -/

namespace Runs

open Search

variable {solver : Solver}

def HasRun (solver : Solver) {α : Type} (task : Task α) (arena : Arena) : Prop :=
  Runs solver task arena ((task.perform solver).runFrom arena).1
    ((task.perform solver).runFrom arena).2

theorem hasRun_of_eq {α : Type} {task : Task α} {arena reached : Arena} {result : Except Halt α}
    (run : Runs solver task arena result reached)
    (same : (task.perform solver).runFrom arena = (result, reached)) :
    HasRun solver task arena := by
  rwa [HasRun, same]

@[simp] theorem runFrom_runRecipe (rule : Rule) (goal : Term) (given : Inputs) (arena : Arena) :
    (Solver.runRecipe rule goal given).runFrom arena =
      match (rule.recipe.run given arena.heap).val with
      | (.ok verdict, heap) =>
          (.ok verdict, (arena.note (.called ⟨rule, goal, given, arena.heap⟩)).onHeap heap)
      | (.error failure, heap) =>
          (.error (.failed failure),
            ((arena.note (.called ⟨rule, goal, given, arena.heap⟩)).onHeap heap).note
              (.halted failure)) := by
  simp only [Solver.runRecipe, runFrom_bind, runFrom_get, runFrom_log, runFrom_onHeap,
    Arena.heap_note]
  rcases (rule.recipe.run given arena.heap).val with ⟨_ | _, _⟩ <;> rfl

@[simp] theorem runFrom_tieCell (cell : Option Nat) (goal : Term) (value : Value) (arena : Arena) :
    (Solver.tieCell cell goal value).runFrom arena =
      match arena.heap.settle? cell value with
      | some tied => (.ok (), arena.onHeap tied)
      | none =>
          (.error (.failed (.knotAlreadyTied goal)),
            arena.note (.halted (.knotAlreadyTied goal))) := by
  cases cell with
  | none => rfl
  | some cell =>
      simp only [Solver.tieCell, runFrom_onHeap, Heap.settle?]
      cases arena.heap.tie? cell value <;> rfl

theorem hasRun_invoke (offer : Offer) (renamed : Renamed) (aim : Term) (cell : Option Nat)
    (args : List Value) (branch : Branch) (depth : Nat) (arena : Arena) :
    HasRun solver (.invoke offer renamed aim cell args branch depth) arena := by
  cases types : Solver.slotTypes branch.subst renamed.slots with
  | error slot =>
      refine hasRun_of_eq (.slotOpen types) ?_
      simp [Task.perform, Solver.invoke, types]
  | ok slotTypes =>
      cases given : Solver.inputs offer slotTypes args with
      | error failure =>
          refine hasRun_of_eq (.noView types given) ?_
          simp [Task.perform, Solver.invoke, types, given]
      | ok inputs =>
          rcases ran : (offer.rule.recipe.run inputs arena.heap).val with ⟨failure | verdict, heap⟩
          · refine hasRun_of_eq (.bodyFails types given ran) ?_
            simp [Task.perform, Solver.invoke, types, given, ran]
          cases verdict with
          | declined =>
              refine hasRun_of_eq (.declines types given ran) ?_
              simp [Task.perform, Solver.invoke, types, given, ran]
          | produced value =>
              cases tied : heap.settle? cell value with
              | some after =>
                  refine hasRun_of_eq (.built types given ran tied) ?_
                  simp [Task.perform, Solver.invoke, types, given, ran, tied]
              | none =>
                  obtain _ | cell := cell
                  · cases tied
                  refine hasRun_of_eq (.tiedBefore types given ran tied) ?_
                  simp [Task.perform, Solver.invoke, types, given, ran, tied]

theorem runFrom_tryOffer_of_ground (solver : Solver) (inner : Finder) (depth : Nat) {offer : Offer}
    {asked : Term} {branch : Branch} {arena : Arena} {subst : Substitution}
    (matched : branch.subst.matching (offer.rule.rename (arena.stamp + 1)).returns asked =
      .ok subst) (ground : (subst.apply asked).isGround = true) :
    (solver.tryOffer inner offer asked branch depth).runFrom arena =
      (solver.build inner offer (offer.rule.rename (arena.stamp + 1)) (subst.apply asked)
        { branch with subst } depth).runFrom
        (solver.noted (.trying depth offer.rule.toSignature (subst.apply asked))
          ((arena.tried offer.rule.toSignature asked branch.subst).note
            (.matched asked (subst.apply asked)))) := by
  simp only [Solver.tryOffer, runFrom_bind, runFrom_freshStamp, runFrom_log, matched, ground,
    Solver.runFrom_report, if_true]
  rfl

theorem runFrom_tryOffers_of_clash (solver : Solver) (inner : Finder) (depth : Nat) {offer : Offer}
    {tries : List Offer} {asked : Term} {branch : Branch} {arena : Arena} {clash : Clash}
    (clashes : branch.subst.matching (offer.rule.rename (arena.stamp + 1)).returns asked =
      .error clash) :
    (solver.tryOffers inner asked branch depth (offer :: tries)).runFrom arena =
      (solver.tryOffers inner asked branch depth tries).runFrom
        (solver.noted (.skippedMismatch depth offer.rule.toSignature clash)
          (arena.tried offer.rule.toSignature asked branch.subst)) := by
  simp only [Solver.tryOffers, Solver.tryOffer, runFrom_bind, runFrom_freshStamp, runFrom_log,
    clashes, Solver.runFrom_report, runFrom_pure]
  rfl

theorem runFrom_tryOffers_of_open (solver : Solver) (inner : Finder) (depth : Nat) {offer : Offer}
    {tries : List Offer} {asked : Term} {branch : Branch} {arena : Arena} {subst : Substitution}
    (matched : branch.subst.matching (offer.rule.rename (arena.stamp + 1)).returns asked =
      .ok subst) (leftOpen : (subst.apply asked).isGround = false) :
    (solver.tryOffers inner asked branch depth (offer :: tries)).runFrom arena =
      (solver.tryOffers inner asked branch depth tries).runFrom
        (solver.noted (.skippedOpen depth offer.rule.toSignature (subst.apply asked))
          (arena.tried offer.rule.toSignature asked branch.subst)) := by
  simp only [Solver.tryOffers, Solver.tryOffer, runFrom_bind, runFrom_freshStamp, runFrom_log,
    matched, leftOpen, Solver.runFrom_report, runFrom_pure, Bool.false_eq_true, if_false]
  rfl

section Levels

variable {fuel : Nat}
  (inner : ∀ (sought : Term) (branch : Branch) (depth : Nat) (arena : Arena),
    HasRun solver (.goal fuel sought branch depth) arena)
include inner

theorem hasRun_params (rule : Signature) (depth index : Nat) (patterns : List Term)
    (branch : Branch) (arena : Arena) :
    HasRun solver (.params fuel rule depth index patterns branch) arena := by
  induction patterns generalizing index branch arena with
  | nil => exact hasRun_of_eq .noParams rfl
  | cons param patterns ih =>
      have first := inner param branch (solver.depths.next depth) arena
      simp only [HasRun, Task.perform] at first
      rcases ran : (solver.find fuel param branch (solver.depths.next depth)).runFrom arena with
        ⟨halt | _ | found, middle⟩ <;> rw [ran] at first
      · refine hasRun_of_eq (.paramHalts first) ?_
        simp [Task.perform, Solver.findParams, ran]
      · refine hasRun_of_eq (.paramFails first) ?_
        simp [Task.perform, Solver.findParams, ran]
      · refine hasRun_of_eq (.paramFound first (ih _ _ _)) ?_
        simp only [Task.perform, Solver.findParams, runFrom_bind, ran, runFrom_log,
          Solver.runFrom_enroll]
        rcases (solver.findParams (solver.find fuel) rule depth (index + 1) patterns _).runFrom _
          with ⟨_ | _, _⟩ <;> rfl

theorem hasRun_complete (offer : Offer) (renamed : Renamed) (aim : Term) (cell : Option Nat)
    (branch : Branch) (depth : Nat) (arena : Arena) :
    HasRun solver (.complete fuel offer renamed aim cell branch depth) arena := by
  have params := hasRun_params inner offer.rule.toSignature depth 0 renamed.params branch arena
  simp only [HasRun, Task.perform] at params
  rcases ran : (solver.findParams (solver.find fuel) offer.rule.toSignature depth 0 renamed.params
    branch).runFrom arena with ⟨halt | _ | ⟨args, later⟩, middle⟩ <;> rw [ran] at params
  · refine hasRun_of_eq (.paramsHalt params) ?_
    simp [Task.perform, Solver.complete, ran]
  · refine hasRun_of_eq (.paramsFail params) ?_
    simp [Task.perform, Solver.complete, ran]
  · refine hasRun_of_eq (.paramsSettled params (hasRun_invoke ..)) ?_
    simp [Task.perform, Solver.complete, ran]

theorem hasRun_build (offer : Offer) (renamed : Renamed) (aim : Term) (branch : Branch)
    (depth : Nat) (arena : Arena) :
    HasRun solver (.build fuel offer renamed aim branch depth) arena := by
  cases unentered : renamed.params.isEmpty || solver.asksForCell aim with
  | true =>
      refine hasRun_of_eq (.plain unentered (hasRun_complete inner ..)) ?_
      simp only [Task.perform, Solver.build, unentered, if_true]
  | false =>
      have probe := inner (aim.under solver.settings.placeholder) branch
        (solver.depths.next depth) arena
      simp only [HasRun, Task.perform] at probe
      rcases ran : (solver.find fuel (aim.under solver.settings.placeholder) branch
        (solver.depths.next depth)).runFrom arena with ⟨halt | _ | found, middle⟩ <;>
        rw [ran] at probe
      · refine hasRun_of_eq (.probeHalts unentered probe) ?_
        simp [Task.perform, Solver.build, Solver.enterGoal, unentered, ran]
      · refine hasRun_of_eq (.guarded unentered probe (hasRun_complete inner ..)) ?_
        simp only [Task.perform, Solver.build, Solver.enterGoal, unentered, runFrom_bind, ran,
          runFrom_log, runFrom_pure, Bool.false_eq_true, if_false]
        rcases (solver.complete (solver.find fuel) offer renamed aim none _ depth).runFrom _
          with ⟨_ | _, _⟩ <;> rfl
      · cases cell : found.value.cell? with
        | none =>
            refine hasRun_of_eq (.notDeferred unentered probe cell) ?_
            simp [Task.perform, Solver.build, Solver.enterGoal, unentered, ran, cell]
        | some cell' =>
            refine hasRun_of_eq (.withCell unentered probe cell (hasRun_complete inner ..)) ?_
            simp only [Task.perform, Solver.build, Solver.enterGoal, unentered, runFrom_bind, ran,
              cell, runFrom_log, runFrom_pure, Bool.false_eq_true, if_false]
            rcases (solver.complete (solver.find fuel) offer renamed aim (some cell') _
              depth).runFrom _ with ⟨_ | _, _⟩ <;> rfl

theorem hasRun_offers (asked : Term) (branch : Branch) (depth : Nat) (tries : List Offer)
    (arena : Arena) : HasRun solver (.offers fuel asked branch depth tries) arena := by
  induction tries generalizing arena with
  | nil => exact hasRun_of_eq .noOffers rfl
  | cons offer tries ih =>
      cases matched : branch.subst.matching (offer.rule.rename (arena.stamp + 1)).returns asked with
      | error clash =>
          exact hasRun_of_eq (.mismatch matched (ih _))
            (runFrom_tryOffers_of_clash solver _ depth matched)
      | ok subst =>
          cases ground : (subst.apply asked).isGround with
          | false =>
              exact hasRun_of_eq (.leftOpen matched ground (ih _))
                (runFrom_tryOffers_of_open solver _ depth matched ground)
          | true =>
              have attempt := hasRun_build inner offer (offer.rule.rename (arena.stamp + 1))
                (subst.apply asked) { branch with subst } depth
                (solver.noted (.trying depth offer.rule.toSignature (subst.apply asked))
                  ((arena.tried offer.rule.toSignature asked branch.subst).note
                    (.matched asked (subst.apply asked))))
              have same := runFrom_tryOffer_of_ground solver (solver.find fuel) depth matched
                ground
              simp only [HasRun, Task.perform] at attempt
              rw [← same] at attempt
              rcases ran : (solver.tryOffer (solver.find fuel) offer asked branch depth).runFrom
                arena with ⟨halt | _ | found, middle⟩ <;> rw [ran] at attempt
              · refine hasRun_of_eq (.settles matched rfl ground attempt nofun) ?_
                simp [Task.perform, Solver.tryOffers, ran]
              · refine hasRun_of_eq (.moveOn matched rfl ground attempt (ih _)) ?_
                simp [Task.perform, Solver.tryOffers, ran]
              · refine hasRun_of_eq (.settles matched rfl ground attempt nofun) ?_
                simp [Task.perform, Solver.tryOffers, ran]

theorem hasRun_goal_succ (sought : Term) (branch : Branch) (depth : Nat) (arena : Arena) :
    HasRun solver (.goal (fuel + 1) sought branch depth) arena := by
  obtain ⟨limit, limited, deep⟩ | allows := (solver.allows_or_exceeds depth).symm
  · refine hasRun_of_eq (.tooDeep rfl limited deep) ?_
    simp [Task.perform, Solver.find, Solver.findStep,
      Solver.runFrom_checkDepth_of_exceeds limited deep]
  have within := Solver.runFrom_checkDepth_of_allows allows (branch.subst.apply sought)
  cases known : Solver.known? (branch.subst.apply sought) branch.memo with
  | some entry =>
      rcases read : entry.recall (branch.subst.apply sought) arena.heap with ⟨failure | value, heap⟩
      · obtain rfl : entry = .guarded := by
          cases entry with
          | guarded => rfl
          | ready value => cases read
          | pending cell =>
              simp only [Memo.Entry.recall] at read
              split at read <;> cases read
        cases read
        refine hasRun_of_eq (.cyclic rfl known allows) ?_
        simp [Task.perform, Solver.find, Solver.findStep, within, known, Memo.Entry.recall]
        rfl
      · refine hasRun_of_eq (.known rfl known read allows) ?_
        simp [Task.perform, Solver.find, Solver.findStep, within, known, read]
  | none =>
      have tries := hasRun_offers inner (branch.subst.apply sought) branch depth
        branch.providers.offers (solver.noted (.attempting depth (branch.subst.apply sought))
          (arena.note (.demanded (branch.subst.apply sought))))
      simp only [HasRun, Task.perform] at tries
      rcases ran : (solver.tryOffers (solver.find fuel) (branch.subst.apply sought) branch depth
        branch.providers.offers).runFrom (solver.noted (.attempting depth
          (branch.subst.apply sought)) (arena.note (.demanded (branch.subst.apply sought))))
        with ⟨halt | _ | found, reached⟩ <;>
        rw [ran] at tries
      · refine hasRun_of_eq (.searched rfl known tries nofun allows) ?_
        simp [Task.perform, Solver.find, Solver.findStep, within, known, ran]
      · refine hasRun_of_eq (.unfound rfl known tries allows) ?_
        simp [Task.perform, Solver.find, Solver.findStep, within, known, ran]
      · refine hasRun_of_eq (.searched rfl known tries nofun allows) ?_
        simp [Task.perform, Solver.find, Solver.findStep, within, known, ran]

end Levels

/-- Every search for a goal has a run. -/
theorem hasRun_goal (solver : Solver) (fuel : Nat) (sought : Term) (branch : Branch) (depth : Nat)
    (arena : Arena) :
    HasRun solver (.goal fuel sought branch depth) arena := by
  induction fuel generalizing sought branch depth arena with
  | zero => exact hasRun_of_eq .exhausted rfl
  | succ fuel ih => exact hasRun_goal_succ ih sought branch depth arena

/-- What a part of a search gives is what one of its runs gives. -/
theorem of_perform {α : Type} {task : Task α} {arena reached : Arena} {result : Except Halt α}
    (ran : (task.perform solver).runFrom arena = (result, reached)) :
    Runs solver task arena result reached := by
  have run : HasRun solver task arena := by
    cases task with
    | goal => exact hasRun_goal ..
    | offers => exact hasRun_offers (hasRun_goal solver _) ..
    | build => exact hasRun_build (hasRun_goal solver _) ..
    | complete => exact hasRun_complete (hasRun_goal solver _) ..
    | params => exact hasRun_params (hasRun_goal solver _) ..
    | invoke => exact hasRun_invoke ..
  rwa [HasRun, ran] at run

theorem perform {α : Type} {task : Task α} {arena reached : Arena} {result : Except Halt α}
    (run : Runs solver task arena result reached) :
    (task.perform solver).runFrom arena = (result, reached) := by
  induction run with
  | exhausted | noOffers | noParams => rfl
  | tooDeep same limited deep =>
      subst same
      simp [Task.perform, Solver.find, Solver.findStep,
        Solver.runFrom_checkDepth_of_exceeds limited deep]
  | cyclic same known allows =>
      subst same
      simp [Task.perform, Solver.find, Solver.findStep,
        Solver.runFrom_checkDepth_of_allows allows, known, Memo.Entry.recall]
      rfl
  | known same known read allows =>
      subst same
      simp [Task.perform, Solver.find, Solver.findStep,
        Solver.runFrom_checkDepth_of_allows allows, known, read]
  | unfound same known _ allows ih =>
      subst same
      simp only [Task.perform] at ih
      simp [Task.perform, Solver.find, Solver.findStep,
        Solver.runFrom_checkDepth_of_allows allows, known, ih]
  | @searched _ _ _ _ _ _ _ result same known _ found allows ih =>
      subst same
      simp only [Task.perform] at ih
      obtain _ | _ | _ := result <;>
        simp [Task.perform, Solver.find, Solver.findStep,
          Solver.runFrom_checkDepth_of_allows allows, known, ih] at found ⊢
  | mismatch clashes _ ih => exact (runFrom_tryOffers_of_clash solver _ _ clashes).trans ih
  | leftOpen matched leftOpen _ ih =>
      exact (runFrom_tryOffers_of_open solver _ _ matched leftOpen).trans ih
  | @settles _ _ _ _ _ _ _ _ _ _ result matched same ground _ found ih =>
      subst same
      simp only [Task.perform] at ih
      rw [← runFrom_tryOffer_of_ground solver _ _ matched ground] at ih
      obtain _ | _ | _ := result <;> simp [Task.perform, Solver.tryOffers, ih] at found ⊢
  | moveOn matched same ground _ _ one two =>
      subst same
      simp only [Task.perform] at one two
      rw [← runFrom_tryOffer_of_ground solver _ _ matched ground] at one
      simp [Task.perform, Solver.tryOffers, one, two]
  | plain unentered _ ih => simpa only [Task.perform, Solver.build, unentered, if_true] using ih
  | @withCell _ _ _ _ _ _ _ _ _ _ _ result entered _ isCell _ one two =>
      simp only [Task.perform] at one two
      obtain _ | _ := result <;>
        simp [Task.perform, Solver.build, Solver.enterGoal, entered, one, isCell, two, Arena.leave]
  | @guarded _ _ _ _ _ _ _ _ _ result entered _ _ one two =>
      simp only [Task.perform] at one two
      obtain _ | _ := result <;>
        simp [Task.perform, Solver.build, Solver.enterGoal, entered, one, two, Arena.leave]
  | notDeferred entered _ noCell ih =>
      simp only [Task.perform] at ih
      simp [Task.perform, Solver.build, Solver.enterGoal, entered, ih, noCell]
  | probeHalts entered _ ih =>
      simp only [Task.perform] at ih
      simp [Task.perform, Solver.build, Solver.enterGoal, entered, ih]
  | paramsHalt _ ih | paramsFail _ ih =>
      simp only [Task.perform] at ih
      simp [Task.perform, Solver.complete, ih]
  | paramsSettled _ _ one two =>
      simp only [Task.perform] at one two
      simp [Task.perform, Solver.complete, one, two]
  | paramHalts _ ih | paramFails _ ih =>
      simp only [Task.perform] at ih
      simp [Task.perform, Solver.findParams, ih]
  | @paramFound _ _ _ _ _ _ _ _ _ _ _ result _ _ one two =>
      simp only [Task.perform] at one two
      obtain _ | _ := result <;>
        simp [Task.perform, Solver.findParams, one, two, Except.map, consValue]
  | slotOpen types => simp [Task.perform, Solver.invoke, types]
  | noView types given => simp [Task.perform, Solver.invoke, types, given]
  | bodyFails types given ran | declines types given ran =>
      simp [Task.perform, Solver.invoke, types, given, ran]
  | tiedBefore types given ran tied =>
      simp [Task.perform, Solver.invoke, types, given, ran, Heap.settle?, tied]
  | built types given ran tied => simp [Task.perform, Solver.invoke, types, given, ran, tied]

end Runs

/-! ## 3. A whole search -/

namespace Solver

variable (solver : Solver)

/-- Taking in providers reports them, or it stops at the first value that is none. -/
theorem runFrom_enrollAll (providers : Providers) (values : List Value) (arena : Arena) :
    (∃ reached, arena.Reports reached ∧
      (solver.enrollAll providers values).runFrom arena =
        (.ok (values.foldl (·.enroll solver.registry ·) providers), reached)) ∨
      ∃ kind middle, arena.Reports middle ∧
        (solver.enrollAll providers values).runFrom arena =
          (.error (.failed (.unknownProvider kind)),
            middle.note (.halted (.unknownProvider kind))) := by
  induction values generalizing providers arena with
  | nil => exact .inl ⟨arena, .refl arena, rfl⟩
  | cons value values ih =>
      by_cases bears : solver.registry.bearsRules value
      · have first := solver.reports_enrolled value providers arena
        have step : (solver.enrollAll providers (value :: values)).runFrom arena =
            (solver.enrollAll (providers.enroll solver.registry value) values).runFrom
              (solver.enrolled value providers arena) := by
          simp [enrollAll, bears]
        rw [step, List.foldl_cons]
        rcases ih (providers.enroll solver.registry value) (solver.enrolled value providers arena)
          with ⟨reached, more, same⟩ | ⟨kind, middle, more, same⟩
        · exact .inl ⟨reached, first.trans more, same⟩
        · exact .inr ⟨kind, middle, first.trans more, same⟩
      · exact .inr ⟨value.kind, arena, .refl arena, by simp [enrollAll, bears]⟩

/-- The branch in which a search with some providers starts. -/
def startingBranch (providers : List Value) : Branch :=
  { providers := providers.foldl (·.enroll solver.registry ·) {} }

theorem start_ok {values : List Value} {arena reached : Arena} {branch : Branch}
    (ran : (solver.start values).runFrom arena = (.ok branch, reached)) :
    branch = solver.startingBranch values ∧ arena.Reports reached := by
  rcases solver.runFrom_enrollAll {} values arena with
    ⟨last, reports, all⟩ | ⟨kind, last, reports, all⟩ <;>
    simp only [start, Search.runFrom_bind, all, Search.runFrom_pure] at ran <;> cases ran
  exact ⟨rfl, reports⟩

end Solver

/-- How a whole search for a goal ends: before the goal is looked for, or with a run of the goal. -/
inductive Derives (solver : Solver) (fuel : Nat) (goal : Term) (providers : List Value)
    (arena : Arena) : Except Halt Found → Arena → Prop where
  | openGoal :
      Derives solver fuel goal providers arena (.error (.failed (.unboundGoal goal)))
        (arena.note (.halted (.unboundGoal goal)))
  | unknownProvider {kind : Kind} {middle : Arena} :
      arena.Reports middle →
      Derives solver fuel goal providers arena (.error (.failed (.unknownProvider kind)))
        (middle.note (.halted (.unknownProvider kind)))
  | halts {started reached : Arena} {halt : Halt} :
      goal.isGround = true → arena.Reports started →
      Runs solver (.goal fuel goal (solver.startingBranch providers) 0) started (.error halt)
        reached →
      Derives solver fuel goal providers arena (.error halt) reached
  | fails {started reached : Arena} :
      goal.isGround = true → arena.Reports started →
      Runs solver (.goal fuel goal (solver.startingBranch providers) 0) started (.ok none) reached →
      Derives solver fuel goal providers arena (.error (.failed (.noDerivation goal)))
        (reached.note (.halted (.noDerivation goal)))
  | finds {started reached : Arena} {found : Found} :
      goal.isGround = true → arena.Reports started →
      Runs solver (.goal fuel goal (solver.startingBranch providers) 0) started (.ok (some found))
        reached →
      Derives solver fuel goal providers arena (.ok found)
        (solver.noted (.solved goal found.branch.memo.size) reached)

/-- Every search ends in one of these ways. -/
theorem derives (solver : Solver) (fuel : Nat) (goal : Term) (providers : List Value)
    (arena : Arena) :
    Derives solver fuel goal providers arena
      ((solver.derive fuel goal providers).runFrom arena).1
      ((solver.derive fuel goal providers).runFrom arena).2 := by
  cases ground : goal.isGround with
  | false =>
      have same : (solver.derive fuel goal providers).runFrom arena =
          (.error (.failed (.unboundGoal goal)), arena.note (.halted (.unboundGoal goal))) := by
        simp [Solver.derive, ground]
      rw [same]
      exact .openGoal
  | true =>
      rcases solver.runFrom_enrollAll {} providers arena with
        ⟨middle, reports, started⟩ | ⟨kind, middle, reports, stopped⟩
      · have run := Runs.hasRun_goal solver fuel goal (solver.startingBranch providers) 0
          (solver.noted (.solving goal (solver.startingBranch providers).providers.members.length)
            middle)
        have reports := reports.trans (solver.reports_noted (.solving goal
          (solver.startingBranch providers).providers.members.length) middle)
        simp only [Runs.HasRun, Task.perform] at run
        rcases ran : (solver.find fuel goal (solver.startingBranch providers) 0).runFrom
          (solver.noted (.solving goal (solver.startingBranch providers).providers.members.length)
            middle) with ⟨halt | _ | found, reached⟩ <;> rw [ran] at run <;>
          simp only [Solver.startingBranch] at ran <;>
          simp only [Solver.derive, Solver.start, ground, if_true, Search.runFrom_bind, started,
            Search.runFrom_pure, Solver.runFrom_report, ran, Search.runFrom_fail]
        · exact .halts ground reports run
        · exact .fails ground reports run
        · exact .finds ground reports run
      · simp only [Solver.derive, Solver.start, ground, if_true, Search.runFrom_bind, stopped]
        exact .unknownProvider reports

theorem runFrom_solve (solver : Solver) (fuel : Nat) (goal : Term) (providers : List Value)
    (arena : Arena) :
    (solver.solve fuel goal providers).runFrom arena =
      (((solver.derive fuel goal providers).runFrom arena).1.map (·.value),
        ((solver.derive fuel goal providers).runFrom arena).2) := by
  simp only [Solver.solve, Search.runFrom_bind, Search.runFrom_pure]
  rcases (solver.derive fuel goal providers).runFrom arena with ⟨_ | _, _⟩ <;> rfl

end Synthesis
