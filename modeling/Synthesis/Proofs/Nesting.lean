import Synthesis.Proofs.Runs.Total

/-!
# How the parts of a search are nested

A part of a search consists of others, which are carried out one after the other. It comes to the
next one as soon as those before it have ended. A part that has not ended may have come to many
others, so what is said here holds of searches that go on for ever as well: each of their beginnings
is a search with some fuel.

Results:
1. `Task.Next`, `Task.ComesTo`: the parts to which a part of a search comes, directly or through
   others, and the arenas in which it does.
2. `Task.halts_iff`: a part of a search halts for a reason if and only if it comes to one that stops
   for this very reason (`Task.Stops`). Nothing is done after that. In particular a search runs out
   of fuel only at a goal for which none is left (`Task.runsOut`).
3. `Task.ComesTo.keeps`, `Task.never_runsOut`: what each step from a part to the next one keeps is
   kept on the whole way. If it says that there is fuel left, the search does not run out of it.
4. `Solver.begins_or_fails`: a whole search fails early, or it begins to look for its goal. What
   becomes of it then depends on the search for its goal (`Solver.Begins.solve_halts`,
   `Solver.Begins.solve_fails`, `Solver.Begins.solve_finds`).
-/
namespace Synthesis

open Search

/-! ## 1. Parts of parts -/

/-- What a part of a search comes to next, in the order of the code: a part of its own, in the arena
that the parts before it have left. -/
inductive Task.Next (solver : Solver) : {α β : Type} → Task α → Arena → Task β → Arena → Prop where
  | tries {fuel depth : Nat} {sought goal : Term} {branch : Branch} {arena : Arena} :
      branch.subst.apply sought = goal → solver.Allows depth →
      Solver.known? goal branch.memo = none →
      Next solver (.goal (fuel + 1) sought branch depth) arena
        (.offers fuel goal branch depth branch.providers.offers)
        (solver.noted (.attempting depth goal) (arena.note (.demanded goal)))
  -- the offers for a goal
  | afterMismatch {fuel depth : Nat} {asked : Term} {branch : Branch} {arena : Arena}
      {offer : Offer} {tries : List Offer} {clash : Clash} :
      branch.subst.matching (offer.rule.rename (arena.stamp + 1)).returns asked = .error clash →
      Next solver (.offers fuel asked branch depth (offer :: tries)) arena
        (.offers fuel asked branch depth tries)
        (solver.noted (.skippedMismatch depth offer.rule.toSignature clash)
          (arena.tried offer.rule.toSignature asked branch.subst))
  | afterOpen {fuel depth : Nat} {asked : Term} {branch : Branch} {arena : Arena} {offer : Offer}
      {tries : List Offer} {subst : Substitution} :
      branch.subst.matching (offer.rule.rename (arena.stamp + 1)).returns asked = .ok subst →
      (subst.apply asked).isGround = false →
      Next solver (.offers fuel asked branch depth (offer :: tries)) arena
        (.offers fuel asked branch depth tries)
        (solver.noted (.skippedOpen depth offer.rule.toSignature (subst.apply asked))
          (arena.tried offer.rule.toSignature asked branch.subst))
  | attempt {fuel depth : Nat} {asked aim : Term} {branch : Branch} {arena : Arena} {offer : Offer}
      {tries : List Offer} {subst : Substitution} :
      branch.subst.matching (offer.rule.rename (arena.stamp + 1)).returns asked = .ok subst →
      subst.apply asked = aim → aim.isGround = true →
      Next solver (.offers fuel asked branch depth (offer :: tries)) arena
        (.build fuel offer (offer.rule.rename (arena.stamp + 1)) aim { branch with subst } depth)
        (solver.noted (.trying depth offer.rule.toSignature aim)
          ((arena.tried offer.rule.toSignature asked branch.subst).note (.matched asked aim)))
  | afterAttempt {fuel depth : Nat} {asked aim : Term} {branch : Branch} {arena middle : Arena}
      {offer : Offer} {tries : List Offer} {subst : Substitution} :
      branch.subst.matching (offer.rule.rename (arena.stamp + 1)).returns asked = .ok subst →
      subst.apply asked = aim → aim.isGround = true →
      ((Task.build fuel offer (offer.rule.rename (arena.stamp + 1)) aim { branch with subst }
        depth).perform solver).runFrom
          (solver.noted (.trying depth offer.rule.toSignature aim)
            ((arena.tried offer.rule.toSignature asked branch.subst).note (.matched asked aim))) =
        (.ok none, middle) →
      Next solver (.offers fuel asked branch depth (offer :: tries)) arena
        (.offers fuel asked branch depth tries) middle
  -- an attempt for a ground goal
  | plain {fuel depth : Nat} {offer : Offer} {renamed : Renamed} {aim : Term} {branch : Branch}
      {arena : Arena} :
      (renamed.params.isEmpty || solver.asksForCell aim) = true →
      Next solver (.build fuel offer renamed aim branch depth) arena
        (.complete fuel offer renamed aim none branch depth) arena
  | probe {fuel depth : Nat} {offer : Offer} {renamed : Renamed} {aim : Term} {branch : Branch}
      {arena : Arena} :
      (renamed.params.isEmpty || solver.asksForCell aim) = false →
      Next solver (.build fuel offer renamed aim branch depth) arena
        (.goal fuel (aim.under solver.settings.placeholder) branch (solver.depths.next depth)) arena
  | withCell {fuel depth cell : Nat} {offer : Offer} {renamed : Renamed} {aim : Term}
      {branch : Branch} {arena middle : Arena} {found : Found} :
      (renamed.params.isEmpty || solver.asksForCell aim) = false →
      ((Task.goal fuel (aim.under solver.settings.placeholder) branch
        (solver.depths.next depth)).perform solver).runFrom arena = (.ok (some found), middle) →
      found.value.cell? = some cell →
      Next solver (.build fuel offer renamed aim branch depth) arena
        (.complete fuel offer renamed aim (some cell)
          { branch with memo := branch.memo.insert aim (.pending cell) } depth)
        (middle.note (.entered aim (some cell)))
  | guarded {fuel depth : Nat} {offer : Offer} {renamed : Renamed} {aim : Term} {branch : Branch}
      {arena middle : Arena} :
      (renamed.params.isEmpty || solver.asksForCell aim) = false →
      ((Task.goal fuel (aim.under solver.settings.placeholder) branch
        (solver.depths.next depth)).perform solver).runFrom arena = (.ok none, middle) →
      Next solver (.build fuel offer renamed aim branch depth) arena
        (.complete fuel offer renamed aim none
          { branch with memo := branch.memo.insert aim .guarded } depth)
        (middle.note (.entered aim none))
  -- the parameters of an offer, and the offer itself
  | params {fuel depth : Nat} {offer : Offer} {renamed : Renamed} {aim : Term} {cell : Option Nat}
      {branch : Branch} {arena : Arena} :
      Next solver (.complete fuel offer renamed aim cell branch depth) arena
        (.params fuel offer.rule.toSignature depth 0 renamed.params branch) arena
  | body {fuel depth : Nat} {offer : Offer} {renamed : Renamed} {aim : Term} {cell : Option Nat}
      {branch later : Branch} {arena middle : Arena} {args : List Value} :
      ((Task.params fuel offer.rule.toSignature depth 0 renamed.params branch).perform
        solver).runFrom arena = (.ok (some (args, later)), middle) →
      Next solver (.complete fuel offer renamed aim cell branch depth) arena
        (.invoke offer renamed aim cell args later depth) middle
  | param {fuel depth index : Nat} {rule : Signature} {param : Term} {patterns : List Term}
      {branch : Branch} {arena : Arena} :
      Next solver (.params fuel rule depth index (param :: patterns) branch) arena
        (.goal fuel param branch (solver.depths.next depth)) arena
  | afterParam {fuel depth index : Nat} {rule : Signature} {param : Term} {patterns : List Term}
      {branch : Branch} {arena middle : Arena} {found : Found} :
      ((Task.goal fuel param branch (solver.depths.next depth)).perform solver).runFrom arena =
        (.ok (some found), middle) →
      Next solver (.params fuel rule depth index (param :: patterns) branch) arena
        (.params fuel rule depth (index + 1) patterns
          { found.branch with
            providers := found.branch.providers.enroll solver.registry found.value })
        (solver.enrolled found.value found.branch.providers
          (middle.note (.passed (found.branch.subst.apply param) found.value)))

/-- A part of a search comes to another one, directly or through others. -/
inductive Task.ComesTo (solver : Solver) :
    {α β : Type} → Task α → Arena → Task β → Arena → Prop where
  | here {α : Type} {task : Task α} {arena : Arena} : ComesTo solver task arena task arena
  | next {α β γ : Type} {task : Task α} {part : Task β} {last : Task γ}
      {arena middle reached : Arena} :
      Task.Next solver task arena part middle → ComesTo solver part middle last reached →
      ComesTo solver task arena last reached

/-- A part of a search stops by itself, and the search with it. -/
inductive Task.Stops (solver : Solver) : {α : Type} → Task α → Arena → Halt → Arena → Prop where
  | exhausted {depth : Nat} {sought : Term} {branch : Branch} {arena : Arena} :
      Stops solver (.goal 0 sought branch depth) arena .outOfFuel arena
  | tooDeep {fuel depth limit : Nat} {sought goal : Term} {branch : Branch} {arena : Arena} :
      branch.subst.apply sought = goal → solver.settings.maxDepth = some limit → limit < depth →
      Stops solver (.goal (fuel + 1) sought branch depth) arena
        (.failed (.depthLimit goal limit))
        ((arena.note (.demanded goal)).note (.halted (.depthLimit goal limit)))
  | cyclic {fuel depth : Nat} {sought goal : Term} {branch : Branch} {arena : Arena} :
      branch.subst.apply sought = goal → solver.Allows depth →
      Solver.known? goal branch.memo = some .guarded →
      Stops solver (.goal (fuel + 1) sought branch depth) arena (.failed (.cyclicDemand goal))
        ((arena.note (.demanded goal)).note (.halted (.cyclicDemand goal)))
  | notDeferred {fuel depth : Nat} {offer : Offer} {renamed : Renamed} {aim : Term}
      {branch : Branch} {arena middle : Arena} {found : Found} :
      (renamed.params.isEmpty || solver.asksForCell aim) = false →
      ((Task.goal fuel (aim.under solver.settings.placeholder) branch
        (solver.depths.next depth)).perform solver).runFrom arena = (.ok (some found), middle) →
      found.value.cell? = none →
      Stops solver (.build fuel offer renamed aim branch depth) arena
        (.failed (.placeholderNotDeferred aim found.value.kind))
        (middle.note (.halted (.placeholderNotDeferred aim found.value.kind)))
  | noView {depth : Nat} {offer : Offer} {renamed : Renamed} {aim : Term} {cell : Option Nat}
      {args : List Value} {branch : Branch} {arena : Arena} {types : List Term}
      {failure : Failure} :
      Solver.slotTypes branch.subst renamed.slots = .ok types →
      Solver.inputs offer types args = .error failure →
      Stops solver (.invoke offer renamed aim cell args branch depth) arena (.failed failure)
        (arena.note (.halted failure))
  | bodyFails {depth : Nat} {offer : Offer} {renamed : Renamed} {aim : Term} {cell : Option Nat}
      {args : List Value} {branch : Branch} {arena : Arena} {types : List Term} {given : Inputs}
      {failure : Failure} {heap : Heap} :
      Solver.slotTypes branch.subst renamed.slots = .ok types →
      Solver.inputs offer types args = .ok given →
      (offer.rule.recipe.run given arena.heap).val = (.error failure, heap) →
      Stops solver (.invoke offer renamed aim cell args branch depth) arena (.failed failure)
        (((arena.note (.called ⟨offer.rule, aim, given, arena.heap⟩)).onHeap heap).note
          (.halted failure))
  | tiedBefore {depth cell : Nat} {offer : Offer} {renamed : Renamed} {aim : Term}
      {args : List Value} {branch : Branch} {arena : Arena} {types : List Term} {given : Inputs}
      {value : Value} {heap : Heap} :
      Solver.slotTypes branch.subst renamed.slots = .ok types →
      Solver.inputs offer types args = .ok given →
      (offer.rule.recipe.run given arena.heap).val = (.ok (.produced value), heap) →
      heap.tie? cell value = none →
      Stops solver (.invoke offer renamed aim (some cell) args branch depth) arena
        (.failed (.knotAlreadyTied aim))
        ((((arena.note (.called ⟨offer.rule, aim, given, arena.heap⟩)).onHeap heap).note
          (.produced aim (some cell) value)).note (.halted (.knotAlreadyTied aim)))

section

variable {solver : Solver} {α β : Type} {task : Task α} {part : Task β}
  {arena middle reached : Arena} {halt : Halt}

/-! ## 2. What stops a part stops the whole -/

theorem Task.Stops.run (stops : task.Stops solver arena halt reached) :
    Runs solver task arena (.error halt) reached := by
  cases stops with
  | exhausted => exact .exhausted
  | tooDeep same limited deep => exact .tooDeep same limited deep
  | cyclic same allows known => exact .cyclic same known allows
  | notDeferred entered probe cell => exact .notDeferred entered (.of_perform probe) cell
  | noView closed unseen => exact .noView closed unseen
  | bodyFails closed seen ran => exact .bodyFails closed seen ran
  | tiedBefore closed seen ran tied => exact .tiedBefore closed seen ran tied

theorem Task.Stops.halts (stops : task.Stops solver arena halt reached) :
    (task.perform solver).runFrom arena = (.error halt, reached) := stops.run.perform

theorem Task.Next.halts (next : task.Next solver arena part middle)
    (ends : (part.perform solver).runFrom middle = (.error halt, reached)) :
    (task.perform solver).runFrom arena = (.error halt, reached) := by
  have run := Runs.of_perform ends
  cases next with
  | tries same allows unknown => exact (Runs.searched same unknown run nofun allows).perform
  | afterMismatch clashes => exact (Runs.mismatch clashes run).perform
  | afterOpen matched leftOpen => exact (Runs.leftOpen matched leftOpen run).perform
  | attempt matched same ground => exact (Runs.settles matched same ground run nofun).perform
  | afterAttempt matched same ground attempt =>
      exact (Runs.moveOn matched same ground (.of_perform attempt) run).perform
  | plain unentered => exact (Runs.plain unentered run).perform
  | probe entered => exact (Runs.probeHalts entered run).perform
  | withCell entered probe cell =>
      exact (Runs.withCell entered (.of_perform probe) cell run).perform
  | guarded entered probe => exact (Runs.guarded entered (.of_perform probe) run).perform
  | params => exact (Runs.paramsHalt run).perform
  | body params => exact (Runs.paramsSettled (.of_perform params) run).perform
  | param => exact (Runs.paramHalts run).perform
  | afterParam goal => exact (Runs.paramFound (.of_perform goal) run).perform

theorem Task.ComesTo.halts (comes : task.ComesTo solver arena part middle)
    (ends : (part.perform solver).runFrom middle = (.error halt, reached)) :
    (task.perform solver).runFrom arena = (.error halt, reached) := by
  induction comes with
  | here => exact ends
  | next first _ ih => exact first.halts (ih ends)

/-! ## 3. What halts has come to a part that stopped -/

/-- A part of a search comes to one that stops by itself. -/
def Task.HasStop (solver : Solver) (task : Task α) (arena : Arena) (halt : Halt)
    (reached : Arena) : Prop :=
  ∃ (β : Type) (part : Task β) (middle : Arena),
    task.ComesTo solver arena part middle ∧ part.Stops solver middle halt reached

theorem Task.Stops.hasStop (stops : task.Stops solver arena halt reached) :
    task.HasStop solver arena halt reached :=
  ⟨_, task, arena, .here, stops⟩

theorem Task.HasStop.before (stop : part.HasStop solver middle halt reached)
    (next : task.Next solver arena part middle) : task.HasStop solver arena halt reached := by
  obtain ⟨_, last, there, comes, stops⟩ := stop
  exact ⟨_, last, there, .next next comes, stops⟩

/-- A part of a search that halts has come to a part that stopped. -/
theorem Runs.hasStop {result : Except Halt α} (run : Runs solver task arena result reached)
    (halted : result = .error halt) : task.HasStop solver arena halt reached := by
  induction run with
  | known | unfound | noOffers | paramsFail | noParams | paramFails | slotOpen | declines
  | built => cases halted
  | exhausted =>
      cases halted
      exact Task.Stops.exhausted.hasStop
  | tooDeep same limited deep =>
      cases halted
      exact (Task.Stops.tooDeep same limited deep).hasStop
  | cyclic same known allows =>
      cases halted
      exact (Task.Stops.cyclic same allows known).hasStop
  | searched same unknown _ _ allows ih => exact (ih halted).before (.tries same allows unknown)
  | mismatch clashes _ ih => exact (ih halted).before (.afterMismatch clashes)
  | leftOpen matched leftOpen _ ih => exact (ih halted).before (.afterOpen matched leftOpen)
  | settles matched same ground _ _ ih => exact (ih halted).before (.attempt matched same ground)
  | moveOn matched same ground attempt _ _ ih =>
      exact (ih halted).before (.afterAttempt matched same ground attempt.perform)
  | plain unentered _ ih => exact (ih halted).before (.plain unentered)
  | withCell entered probe cell _ _ ih =>
      subst halted
      exact (ih rfl).before (.withCell entered probe.perform cell)
  | guarded entered probe _ _ ih =>
      subst halted
      exact (ih rfl).before (.guarded entered probe.perform)
  | notDeferred entered probe cell =>
      cases halted
      exact (Task.Stops.notDeferred entered probe.perform cell).hasStop
  | probeHalts entered _ ih =>
      cases halted
      exact (ih rfl).before (.probe entered)
  | paramsHalt _ ih =>
      cases halted
      exact (ih rfl).before .params
  | paramsSettled params _ _ ih => exact (ih halted).before (.body params.perform)
  | paramHalts _ ih =>
      cases halted
      exact (ih rfl).before .param
  | @paramFound _ _ _ _ _ _ _ _ _ _ _ result goal _ _ ih =>
      cases result <;> cases halted
      exact (ih rfl).before (.afterParam goal.perform)
  | noView closed unseen =>
      cases halted
      exact (Task.Stops.noView closed unseen).hasStop
  | bodyFails closed seen ran =>
      cases halted
      exact (Task.Stops.bodyFails closed seen ran).hasStop
  | tiedBefore closed seen ran tied =>
      cases halted
      exact (Task.Stops.tiedBefore closed seen ran tied).hasStop

end

namespace Task

variable {solver : Solver} {halt : Halt} {reached : Arena}

/-- A part of a search halts for a reason if and only if it comes to a part that stops for this
reason by itself. The arena that it leaves is the one in which that part stopped. -/
theorem halts_iff {α : Type} {task : Task α} {arena : Arena} :
    (task.perform solver).runFrom arena = (.error halt, reached) ↔
      task.HasStop solver arena halt reached := by
  constructor
  · exact fun ends => (Runs.of_perform ends).hasStop rfl
  · rintro ⟨_, part, middle, comes, stops⟩
    exact comes.halts stops.halts

/-- A search that runs out of fuel comes to a goal for which none is left. -/
theorem runsOut {fuel : Nat} {goal : Term} {branch : Branch} {depth : Nat} {arena : Arena}
    (ends : (solver.find fuel goal branch depth).runFrom arena = (.error .outOfFuel, reached)) :
    ∃ sought later deep,
      (Task.goal fuel goal branch depth).ComesTo solver arena (.goal 0 sought later deep)
        reached := by
  have run : Runs solver (.goal fuel goal branch depth) arena _ reached := .of_perform ends
  obtain ⟨_, part, middle, comes, stops⟩ := run.hasStop rfl
  cases stops
  exact ⟨_, _, _, comes⟩

/-! ## 4. What holds on the way -/

/-- What is kept by each part of a part is kept on the whole way. -/
theorem ComesTo.keeps {motive : {α : Type} → Task α → Arena → Prop}
    (step : ∀ {α β : Type} {task : Task α} {part : Task β} {arena middle : Arena},
      task.Next solver arena part middle → motive task arena → motive part middle)
    {α β : Type} {task : Task α} {part : Task β} {arena : Arena}
    (comes : task.ComesTo solver arena part reached) (holds : motive task arena) :
    motive part reached := by
  induction comes with
  | here => exact holds
  | next first _ ih => exact ih (step first holds)

/-- A search does not run out of fuel if what is kept on the way does not hold of a goal for which
no fuel is left. -/
theorem never_runsOut {motive : {α : Type} → Task α → Arena → Prop}
    (step : ∀ {α β : Type} {task : Task α} {part : Task β} {arena middle : Arena},
      task.Next solver arena part middle → motive task arena → motive part middle)
    (spent : ∀ sought branch depth arena, ¬ motive (.goal 0 sought branch depth) arena)
    {fuel : Nat} {goal : Term} {branch : Branch} {depth : Nat} {arena : Arena}
    (holds : motive (.goal fuel goal branch depth) arena) (reached : Arena) :
    (solver.find fuel goal branch depth).runFrom arena ≠ (.error .outOfFuel, reached) := by
  intro ends
  obtain ⟨sought, later, deep, comes⟩ := runsOut ends
  exact spent sought later deep reached (comes.keeps step holds)

end Task

/-! ## 5. Whole searches -/

/-- A whole search has taken in its providers and begins to look for its goal from an arena. -/
structure Solver.Begins (solver : Solver) (goal : Term) (values : List Value)
    (arena first : Arena) : Prop where
  ground : goal.isGround = true
  taken : ∃ started,
    (solver.start values).runFrom arena = (.ok (solver.startingBranch values), started) ∧
      first = solver.noted
        (.solving goal (solver.startingBranch values).providers.members.length) started

namespace Solver

variable {solver : Solver} {fuel : Nat} {goal : Term} {values : List Value}
  {arena first reached : Arena} {halt : Halt}

theorem Begins.solve_halts (begins : solver.Begins goal values arena first)
    (ends : (solver.find fuel goal (solver.startingBranch values) 0).runFrom first =
      (.error halt, reached)) :
    (solver.solve fuel goal values).runFrom arena = (.error halt, reached) := by
  obtain ⟨ground, started, start, rfl⟩ := begins
  simp [solve, derive, ground, start, ends]

theorem Begins.solve_fails (begins : solver.Begins goal values arena first)
    (ends : (solver.find fuel goal (solver.startingBranch values) 0).runFrom first =
      (.ok none, reached)) :
    (solver.solve fuel goal values).runFrom arena =
      (.error (.failed (.noDerivation goal)), reached.note (.halted (.noDerivation goal))) := by
  obtain ⟨ground, started, start, rfl⟩ := begins
  simp [solve, derive, ground, start, ends]

theorem Begins.solve_finds (begins : solver.Begins goal values arena first) {found : Found}
    (ends : (solver.find fuel goal (solver.startingBranch values) 0).runFrom first =
      (.ok (some found), reached)) :
    (solver.solve fuel goal values).runFrom arena =
      (.ok found.value, solver.noted (.solved goal found.branch.memo.size) reached) := by
  obtain ⟨ground, started, start, rfl⟩ := begins
  simp [solve, derive, ground, start, ends]

/-- A whole search begins to look for its goal, or it fails for the goal or for a provider. -/
theorem begins_or_fails (solver : Solver) (fuel : Nat) (goal : Term) (values : List Value)
    (arena : Arena) :
    (∃ first, solver.Begins goal values arena first) ∨
      ∃ failure, (failure = .unboundGoal goal ∨ ∃ kind, failure = .unknownProvider kind) ∧
        ((solver.solve fuel goal values).runFrom arena).1 = .error (.failed failure) := by
  cases ground : goal.isGround with
  | false => exact .inr ⟨_, .inl rfl, by simp [solve, derive, ground]⟩
  | true =>
      rcases solver.runFrom_enrollAll {} values arena with
        ⟨started, -, taken⟩ | ⟨kind, last, -, refused⟩
      · exact .inl ⟨_, ground, started, by simp [start, taken, startingBranch], rfl⟩
      · exact .inr ⟨_, .inr ⟨kind, rfl⟩, by simp [solve, derive, start, ground, refused]⟩

/-- A whole search halts because it cannot begin, because its goal is not found or because the
search for its goal halts. -/
theorem solve_halted
    (ends : (solver.solve fuel goal values).runFrom arena = (.error halt, reached)) :
    halt = .failed (.unboundGoal goal) ∨ (∃ kind, halt = .failed (.unknownProvider kind)) ∨
      halt = .failed (.noDerivation goal) ∨
      ∃ first, solver.Begins goal values arena first ∧
        (solver.find fuel goal (solver.startingBranch values) 0).runFrom first =
          (.error halt, reached) := by
  rcases solver.begins_or_fails fuel goal values arena with
    ⟨first, begins⟩ | ⟨failure, early, failed⟩
  · rcases found : (solver.find fuel goal (solver.startingBranch values) 0).runFrom first with
      ⟨other | _ | found, last⟩
    · rw [begins.solve_halts found] at ends
      cases ends
      exact .inr (.inr (.inr ⟨first, begins, found⟩))
    · rw [begins.solve_fails found] at ends
      cases ends
      exact .inr (.inr (.inl rfl))
    · rw [begins.solve_finds found] at ends
      cases ends
  · rw [ends] at failed
    cases failed
    rcases early with rfl | ⟨kind, rfl⟩
    · exact .inl rfl
    · exact .inr (.inl ⟨kind, rfl⟩)

end Solver

end Synthesis
