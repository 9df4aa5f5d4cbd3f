import Synthesis.Proofs.Runs.Total

/-!
# The search without a memo

The search that is defined here builds every goal as often as it is looked for: it forgets the memo
whenever it looks for a goal. It tries the same offers in the same order and keeps the first value
of each parameter. A goal that is needed for itself keeps it going until the fuel is used up, so
what matters is what it gives with enough of it.

Results:
1. `Solver.findAfresh_memo`: what the memo holds makes no difference to this search.
2. One rule for each step of the search, which says what the step settles on if the steps within it
   do (`Settles.unfound` to `Settles.paramFound`).
-/
namespace Synthesis

/-! ## 1. The search -/

namespace Solver

/-- Finds a value for a goal without a memo. -/
def findAfresh (solver : Solver) : (fuel : Nat) → Finder
  | 0 => fun _ _ _ => throw .outOfFuel
  | fuel + 1 => fun goal branch depth =>
      solver.findStep (solver.findAfresh fuel) goal { branch with memo := {} } depth

/-- What the memo holds makes no difference to this search. -/
theorem findAfresh_memo (solver : Solver) (fuel : Nat) (goal : Term) (branch : Branch) (depth : Nat)
    (memo : Memo) :
    solver.findAfresh fuel goal { branch with memo } depth =
      solver.findAfresh fuel goal branch depth := by
  cases fuel <;> rfl

/-- Builds a value for a ground goal from the rules of providers without a memo. -/
def solveAfresh (solver : Solver) (fuel : Nat) (goal : Term) (providers : List Value) :
    Search Value := do
  if goal.isGround then
    let branch ← solver.start providers
    match ← solver.findAfresh fuel goal branch 0 with
    | some found => return found.value
    | none => Search.fail (.noDerivation goal)
  else Search.fail (.unboundGoal goal)

end Solver

/-! ## 2. Results with enough fuel -/

/-- A part of a search gives a result and leaves an arena whenever its fuel is enough. -/
def Settles {α : Type} (part : Nat → Search α) (arena : Arena) (result : Except Halt α)
    (reached : Arena) : Prop :=
  ∃ least, ∀ fuel, least ≤ fuel → (part fuel).runFrom arena = (result, reached)

namespace Settles

variable {α β : Type} {part : Nat → Search α} {next : Nat → Search β} {arena middle reached : Arena}
  {result : Except Halt β}

theorem of_eq (same : ∀ fuel, (next fuel).runFrom arena = (result, reached)) :
    Settles next arena result reached :=
  ⟨0, fun fuel _ => same fuel⟩

theorem map {given : Except Halt α} (settles : Settles part middle given reached) {last : Arena}
    (step : ∀ fuel, (part fuel).runFrom middle = (given, reached) →
      (next fuel).runFrom arena = (result, last)) : Settles next arena result last := by
  obtain ⟨least, all⟩ := settles
  exact ⟨least, fun fuel enough => step fuel (all fuel enough)⟩

/-- What follows from two results follows for all fuels that are enough for both. -/
theorem map₂ {γ : Type} {other : Nat → Search γ} {given : Except Halt α} {also : Except Halt γ}
    {first second third : Arena} (settles : Settles part first given middle)
    (later : Settles other second also third) {last : Arena}
    (step : ∀ fuel, (part fuel).runFrom first = (given, middle) →
      (other fuel).runFrom second = (also, third) →
      (next fuel).runFrom arena = (result, last)) : Settles next arena result last := by
  obtain ⟨least, all⟩ := settles
  obtain ⟨more, rest⟩ := later
  refine ⟨max least more, fun fuel enough => step fuel (all fuel ?_) (rest fuel ?_)⟩ <;> omega

theorem succ (settles : Settles (fun fuel => next (fuel + 1)) arena result reached) :
    Settles next arena result reached := by
  obtain ⟨least, all⟩ := settles
  refine ⟨least + 1, fun fuel enough => ?_⟩
  cases fuel with
  | zero => omega
  | succ fuel => exact all fuel (by omega)

end Settles

/-! ## 3. The steps of the search -/

namespace Settles

variable {solver : Solver} {depth index : Nat} {sought goal asked aim param : Term}
  {branch later : Branch} {offer : Offer} {tries : List Offer} {renamed : Renamed}
  {rule : Signature} {patterns : List Term} {args : List Value} {arena middle reached : Arena}
  {found : Found} {halt : Halt} {subst : Substitution} {clash : Clash}
  {result : Except Halt (Option Found)}

theorem unfound (unlimited : solver.settings.maxDepth = none)
    (same : branch.subst.apply sought = goal)
    (tried : Settles (fun fuel => solver.tryOffers (solver.findAfresh fuel) goal
        { branch with memo := {} } depth branch.providers.offers)
      (solver.noted (.attempting depth goal) (arena.note (.demanded goal))) (.ok none) reached) :
    Settles (solver.findAfresh · sought branch depth) arena (.ok none)
      (solver.noted (.noRuleApplies depth goal) reached) := by
  refine succ (tried.map fun fuel ran => ?_)
  subst same
  simp [Solver.findAfresh, Solver.findStep, Solver.checkDepth, unlimited, Solver.known?, Memo.get?,
    ran]

theorem searched (unlimited : solver.settings.maxDepth = none)
    (same : branch.subst.apply sought = goal)
    (tried : Settles (fun fuel => solver.tryOffers (solver.findAfresh fuel) goal
        { branch with memo := {} } depth branch.providers.offers)
      (solver.noted (.attempting depth goal) (arena.note (.demanded goal))) result reached)
    (found : result ≠ .ok none) :
    Settles (solver.findAfresh · sought branch depth) arena result reached := by
  refine succ (tried.map fun fuel ran => ?_)
  subst same
  rcases result with halt | _ | found
  · simp [Solver.findAfresh, Solver.findStep, Solver.checkDepth, unlimited, Solver.known?,
      Memo.get?, ran]
  · exact absurd rfl found
  · simp [Solver.findAfresh, Solver.findStep, Solver.checkDepth, unlimited, Solver.known?,
      Memo.get?, ran]

theorem mismatch
    (clashes : branch.subst.matching (offer.rule.rename (arena.stamp + 1)).returns asked =
      .error clash)
    (rest : Settles (fun fuel => solver.tryOffers (solver.findAfresh fuel) asked branch depth tries)
      (solver.noted (.skippedMismatch depth offer.rule.toSignature clash)
        (arena.tried offer.rule.toSignature asked branch.subst)) result reached) :
    Settles (fun fuel =>
        solver.tryOffers (solver.findAfresh fuel) asked branch depth (offer :: tries))
      arena result reached := by
  refine rest.map fun fuel ran => ?_
  rwa [Runs.runFrom_tryOffers_of_clash solver _ depth clashes]

theorem attempt
    (matched : branch.subst.matching (offer.rule.rename (arena.stamp + 1)).returns asked =
      .ok subst) (same : subst.apply asked = aim) (ground : aim.isGround = true)
    (build : Settles (fun fuel => solver.build (solver.findAfresh fuel) offer
        (offer.rule.rename (arena.stamp + 1)) aim { branch with subst } depth)
      (solver.noted (.trying depth offer.rule.toSignature aim)
        ((arena.tried offer.rule.toSignature asked branch.subst).note (.matched asked aim)))
      result reached) (found : result ≠ .ok none) :
    Settles (fun fuel =>
        solver.tryOffers (solver.findAfresh fuel) asked branch depth (offer :: tries))
      arena result reached := by
  refine build.map fun fuel ran => ?_
  subst same
  rw [← Runs.runFrom_tryOffer_of_ground solver _ depth matched ground] at ran
  rcases result with halt | _ | found
  · simp [Solver.tryOffers, ran]
  · exact absurd rfl found
  · simp [Solver.tryOffers, ran]

theorem moveOn
    (matched : branch.subst.matching (offer.rule.rename (arena.stamp + 1)).returns asked =
      .ok subst) (same : subst.apply asked = aim) (ground : aim.isGround = true)
    (build : Settles (fun fuel => solver.build (solver.findAfresh fuel) offer
        (offer.rule.rename (arena.stamp + 1)) aim { branch with subst } depth)
      (solver.noted (.trying depth offer.rule.toSignature aim)
        ((arena.tried offer.rule.toSignature asked branch.subst).note (.matched asked aim)))
      (.ok none) middle)
    (rest : Settles (fun fuel => solver.tryOffers (solver.findAfresh fuel) asked branch depth tries)
      middle result reached) :
    Settles (fun fuel =>
        solver.tryOffers (solver.findAfresh fuel) asked branch depth (offer :: tries))
      arena result reached := by
  refine build.map₂ rest fun fuel ran next => ?_
  subst same
  rw [← Runs.runFrom_tryOffer_of_ground solver _ depth matched ground] at ran
  simp [Solver.tryOffers, ran, next]

theorem plain (unentered : (renamed.params.isEmpty || solver.asksForCell aim) = true)
    (complete : Settles (fun fuel => solver.complete (solver.findAfresh fuel) offer renamed aim none
      branch depth) arena result reached) :
    Settles (fun fuel => solver.build (solver.findAfresh fuel) offer renamed aim branch depth) arena
      result reached := by
  refine complete.map fun fuel ran => ?_
  rw [Solver.build, if_pos unentered, ran]

theorem guarded (entered : (renamed.params.isEmpty || solver.asksForCell aim) = false)
    (probe : Settles (solver.findAfresh · (aim.under solver.settings.placeholder) branch
      (solver.depths.next depth)) arena (.ok none) middle)
    (complete : Settles (fun fuel => solver.complete (solver.findAfresh fuel) offer renamed aim none
        { branch with memo := branch.memo.insert aim .guarded } depth)
      (middle.note (.entered aim none)) result reached) :
    Settles (fun fuel => solver.build (solver.findAfresh fuel) offer renamed aim branch depth) arena
      result (reached.leave aim result) := by
  refine probe.map₂ complete fun fuel none ran => ?_
  simp only [Solver.build, Solver.enterGoal, entered, Search.runFrom_bind, none,
    Search.runFrom_log, Search.runFrom_pure, Bool.false_eq_true, if_false, ran]
  cases result <;> rfl

theorem probeHalts (entered : (renamed.params.isEmpty || solver.asksForCell aim) = false)
    (probe : Settles (solver.findAfresh · (aim.under solver.settings.placeholder) branch
      (solver.depths.next depth)) arena (.error halt) reached) :
    Settles (fun fuel => solver.build (solver.findAfresh fuel) offer renamed aim branch depth) arena
      (.error halt) reached := by
  refine probe.map fun fuel ran => ?_
  simp [Solver.build, Solver.enterGoal, entered, ran]

theorem paramsHalt
    (params : Settles (fun fuel => solver.findParams (solver.findAfresh fuel)
      offer.rule.toSignature depth 0 renamed.params branch) arena (.error halt) reached) :
    Settles (fun fuel => solver.complete (solver.findAfresh fuel) offer renamed aim none branch
      depth) arena (.error halt) reached := by
  refine params.map fun fuel ran => ?_
  simp [Solver.complete, ran]

theorem paramsFail
    (params : Settles (fun fuel => solver.findParams (solver.findAfresh fuel)
      offer.rule.toSignature depth 0 renamed.params branch) arena (.ok none) reached) :
    Settles (fun fuel => solver.complete (solver.findAfresh fuel) offer renamed aim none branch
      depth) arena (.ok none) reached := by
  refine params.map fun fuel ran => ?_
  simp [Solver.complete, ran]

theorem paramsSettled
    (params : Settles (fun fuel => solver.findParams (solver.findAfresh fuel)
      offer.rule.toSignature depth 0 renamed.params branch) arena (.ok (some (args, later))) middle)
    (invoke : Settles (fun _ => solver.invoke offer renamed aim none args later depth) middle result
      reached) :
    Settles (fun fuel => solver.complete (solver.findAfresh fuel) offer renamed aim none branch
      depth) arena result reached := by
  refine params.map₂ invoke fun fuel settled ran => ?_
  simp [Solver.complete, settled, ran]

theorem paramHalts
    (first : Settles (solver.findAfresh · param branch (solver.depths.next depth)) arena
      (.error halt) reached) :
    Settles (fun fuel => solver.findParams (solver.findAfresh fuel) rule depth index
      (param :: patterns) branch) arena (.error halt) reached := by
  refine first.map fun fuel ran => ?_
  simp [Solver.findParams, ran]

theorem paramFails
    (first : Settles (solver.findAfresh · param branch (solver.depths.next depth)) arena
      (.ok none) reached) :
    Settles (fun fuel => solver.findParams (solver.findAfresh fuel) rule depth index
      (param :: patterns) branch) arena (.ok none)
      (solver.noted (.abandonedParameter depth rule index) reached) := by
  refine first.map fun fuel ran => ?_
  simp [Solver.findParams, ran]

theorem paramFound {settled : Except Halt (Option (List Value × Branch))}
    (first : Settles (solver.findAfresh · param branch (solver.depths.next depth)) arena
      (.ok (some found)) middle)
    (rest : Settles (fun fuel => solver.findParams (solver.findAfresh fuel) rule depth (index + 1)
        patterns { found.branch with
          providers := found.branch.providers.enroll solver.registry found.value })
      (solver.enrolled found.value found.branch.providers
        (middle.note (.passed (found.branch.subst.apply param) found.value))) settled reached) :
    Settles (fun fuel => solver.findParams (solver.findAfresh fuel) rule depth index
      (param :: patterns) branch) arena (settled.map (consValue found.value)) reached := by
  refine first.map₂ rest fun fuel ran others => ?_
  simp only [Solver.findParams, Search.runFrom_bind, ran, Search.runFrom_log, Solver.runFrom_enroll,
    others]
  cases settled <;> rfl

end Settles

end Synthesis
