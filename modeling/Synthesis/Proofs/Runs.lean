import Synthesis.Search

/-!
# Runs of a search

`Runs solver task arena result reached`: a part of a search starts from an arena, gives a result and
leaves the arena that it reached. There is one rule for each thing that the part can do, so what
holds of every run is proved by one induction over these rules. That every part of a search has a
run is shown in `Synthesis.Proofs.Runs.Total`.
-/
namespace Synthesis

/-! ## 1. Computations -/

namespace Arena

def note (arena : Arena) (entry : LogEntry) : Arena := { arena with log := entry :: arena.log }

/-- The arena after a rule was renamed and compared with a goal. -/
def tried (arena : Arena) (rule : Signature) (goal : Term) (subst : Substitution) : Arena :=
  { arena with
    stamp := arena.stamp + 1
    log := .tried rule (arena.stamp + 1) goal subst :: arena.log }

def onHeap (arena : Arena) (heap : Heap) : Arena := { arena with heap }

/-- The arena after the attempt that had entered a goal; nothing is written down if the search
stopped in it. -/
def leave {α : Type} (arena : Arena) (goal : Term) : Except Halt α → Arena
  | .ok _ => arena.note (.left goal)
  | .error _ => arena

@[simp] theorem heap_note (arena : Arena) (entry : LogEntry) :
    (arena.note entry).heap = arena.heap := rfl

@[simp] theorem log_note (arena : Arena) (entry : LogEntry) :
    (arena.note entry).log = entry :: arena.log := rfl

@[simp] theorem stamp_note (arena : Arena) (entry : LogEntry) :
    (arena.note entry).stamp = arena.stamp := rfl

@[simp] theorem heap_tried (arena : Arena) (rule : Signature) (goal : Term)
    (subst : Substitution) : (arena.tried rule goal subst).heap = arena.heap := rfl

@[simp] theorem log_tried (arena : Arena) (rule : Signature) (goal : Term)
    (subst : Substitution) : (arena.tried rule goal subst).log =
      .tried rule (arena.stamp + 1) goal subst :: arena.log := rfl

@[simp] theorem stamp_tried (arena : Arena) (rule : Signature) (goal : Term)
    (subst : Substitution) : (arena.tried rule goal subst).stamp = arena.stamp + 1 := rfl

@[simp] theorem heap_onHeap (arena : Arena) (heap : Heap) : (arena.onHeap heap).heap = heap := rfl

@[simp] theorem log_onHeap (arena : Arena) (heap : Heap) : (arena.onHeap heap).log = arena.log :=
  rfl

@[simp] theorem stamp_onHeap (arena : Arena) (heap : Heap) :
    (arena.onHeap heap).stamp = arena.stamp := rfl

@[simp] theorem heap_leave {α : Type} (arena : Arena) (goal : Term) (result : Except Halt α) :
    (arena.leave goal result).heap = arena.heap := by
  cases result <;> rfl

@[simp] theorem stamp_leave {α : Type} (arena : Arena) (goal : Term) (result : Except Halt α) :
    (arena.leave goal result).stamp = arena.stamp := by
  cases result <;> rfl

end Arena

namespace Solver

/-- The arena after an event was reported, if it is one that the settings ask for. -/
def noted (solver : Solver) (event : Event) (arena : Arena) : Arena :=
  if event.isProgress && !solver.settings.trace then arena else arena.note (.reported event)

def enrolled (solver : Solver) (value : Value) (providers : Providers) (arena : Arena) : Arena :=
  if providers.accepts solver.registry value then
    solver.noted (.admitting value.kind (solver.registry.offers value).length) arena
  else arena

end Solver

/-- An arena in which nothing but reports was written down since another one. -/
def Arena.Reports (arena reached : Arena) : Prop :=
  ∃ events : List Event, reached = { arena with log := events.map .reported ++ arena.log }

namespace Arena

theorem Reports.refl (arena : Arena) : arena.Reports arena := ⟨[], rfl⟩

theorem Reports.trans {first second third : Arena} (one : first.Reports second)
    (two : second.Reports third) : first.Reports third := by
  obtain ⟨events, rfl⟩ := one
  obtain ⟨later, rfl⟩ := two
  exact ⟨later ++ events, by simp⟩

/-- What a report leaves as it is, any number of reports leaves as it is. -/
theorem Reports.keeps {motive : Arena → Prop} {arena reached : Arena}
    (reports : arena.Reports reached)
    (step : ∀ arena event, motive arena → motive (arena.note (.reported event)))
    (holds : motive arena) : motive reached := by
  obtain ⟨events, rfl⟩ := reports
  induction events with
  | nil => exact holds
  | cons event events ih =>
      exact step { arena with log := events.map .reported ++ arena.log } event ih

end Arena

namespace Solver

variable (solver : Solver)

@[simp] theorem heap_noted (event : Event) (arena : Arena) :
    (solver.noted event arena).heap = arena.heap := by
  unfold noted
  split <;> rfl

@[simp] theorem heap_enrolled (value : Value) (providers : Providers) (arena : Arena) :
    (solver.enrolled value providers arena).heap = arena.heap := by
  unfold enrolled
  split
  · exact solver.heap_noted _ _
  · rfl

@[simp] theorem stamp_noted (event : Event) (arena : Arena) :
    (solver.noted event arena).stamp = arena.stamp := by
  unfold noted
  split <;> rfl

@[simp] theorem stamp_enrolled (value : Value) (providers : Providers) (arena : Arena) :
    (solver.enrolled value providers arena).stamp = arena.stamp := by
  unfold enrolled
  split
  · exact solver.stamp_noted _ _
  · rfl

theorem reports_noted (event : Event) (arena : Arena) :
    arena.Reports (solver.noted event arena) := by
  unfold noted
  split
  · exact .refl arena
  · exact ⟨[event], rfl⟩

theorem reports_enrolled (value : Value) (providers : Providers) (arena : Arena) :
    arena.Reports (solver.enrolled value providers arena) := by
  unfold enrolled
  split
  · exact solver.reports_noted _ _
  · exact .refl arena

end Solver

namespace Search

/-- What a part of a search gives from an arena, and the arena that it leaves. -/
def runFrom {α : Type} (part : Search α) (arena : Arena) : Except Halt α × Arena :=
  part.run.run arena

variable {α β : Type}

@[simp] theorem runFrom_bind (part : Search α) (next : α → Search β) (arena : Arena) :
    (part >>= next).runFrom arena =
      match part.runFrom arena with
      | (.ok result, reached) => (next result).runFrom reached
      | (.error halt, reached) => (.error halt, reached) := by
  change ExceptT.bindCont next (part.runFrom arena).1 (part.runFrom arena).2 = _
  obtain ⟨result | result, reached⟩ := part.runFrom arena <;> rfl

@[simp] theorem runFrom_map (f : α → β) (part : Search α) (arena : Arena) :
    (f <$> part).runFrom arena =
      match part.runFrom arena with
      | (.ok result, reached) => (.ok (f result), reached)
      | (.error halt, reached) => (.error halt, reached) := by
  rw [map_eq_pure_bind, runFrom_bind]
  rfl

@[simp] theorem runFrom_pure (result : α) (arena : Arena) :
    (pure result : Search α).runFrom arena = (.ok result, arena) := rfl

@[simp] theorem runFrom_log (entry : LogEntry) (arena : Arena) :
    (log entry).runFrom arena = (.ok (), arena.note entry) := rfl

@[simp] theorem runFrom_fail (failure : Failure) (arena : Arena) :
    (fail failure : Search α).runFrom arena =
      (.error (.failed failure), arena.note (.halted failure)) := rfl

@[simp] theorem runFrom_throw (halt : Halt) (arena : Arena) :
    (throw halt : Search α).runFrom arena = (.error halt, arena) := rfl

@[simp] theorem runFrom_get (arena : Arena) :
    (get : Search Arena).runFrom arena = (.ok arena, arena) := rfl

@[simp] theorem runFrom_freshStamp (arena : Arena) :
    freshStamp.runFrom arena = (.ok (arena.stamp + 1), { arena with stamp := arena.stamp + 1 }) :=
  rfl

@[simp] theorem runFrom_ofExcept (result : Except Failure α) (arena : Arena) :
    (ofExcept result).runFrom arena =
      match result with
      | .ok result => (.ok result, arena)
      | .error failure => (.error (.failed failure), arena.note (.halted failure)) := by
  cases result <;> rfl

@[simp] theorem runFrom_onHeap (run : Heap → Except Failure α × Heap) (arena : Arena) :
    (onHeap run).runFrom arena =
      match run arena.heap with
      | (.ok result, heap) => (.ok result, arena.onHeap heap)
      | (.error failure, heap) =>
          (.error (.failed failure), (arena.onHeap heap).note (.halted failure)) := by
  simp only [onHeap, runFrom_bind, runFrom_get]
  obtain ⟨result | result, heap⟩ := run arena.heap <;> rfl

def passes (part : Search α) (arena : Arena) (test : α → Arena → Bool) : Bool :=
  match part.runFrom arena with
  | (.ok result, reached) => test result reached
  | (.error _, _) => false

theorem exists_of_passes {part : Search α} {arena : Arena} {test : α → Arena → Bool}
    (passed : part.passes arena test = true) :
    ∃ result reached, part.runFrom arena = (.ok result, reached) ∧ test result reached = true := by
  unfold passes at passed
  split at passed
  · next result reached ran => exact ⟨result, reached, ran, passed⟩
  · cases passed

def failsWith (part : Search α) (arena : Arena) (failure : Failure) : Bool :=
  match (part.runFrom arena).1 with
  | .error (.failed other) => other = failure
  | .error .outOfFuel | .ok _ => false

theorem error_of_failsWith {part : Search α} {arena : Arena} {failure : Failure}
    (failed : part.failsWith arena failure = true) :
    (part.runFrom arena).1 = .error (.failed failure) := by
  unfold failsWith at failed
  split at failed
  · next ended => rw [ended, of_decide_eq_true failed]
  · cases failed
  · cases failed

end Search

namespace Solver

@[simp] theorem runFrom_report (solver : Solver) (event : Event) (arena : Arena) :
    (solver.report event).runFrom arena = (.ok (), solver.noted event arena) := by
  unfold report noted
  split <;> rfl

@[simp] theorem runFrom_enroll (solver : Solver) (value : Value) (providers : Providers)
    (arena : Arena) :
    (solver.enroll value providers).runFrom arena =
      (.ok (providers.enroll solver.registry value), solver.enrolled value providers arena) := by
  unfold enroll enrolled
  split <;> simp [Search.runFrom_map]

end Solver

/-- An offer whose provider cannot be viewed fails for the type of the provider. -/
theorem Offer.view_error {offer : Offer} {failure : Failure}
    (failed : offer.view = .error failure) :
    ∃ expected, failure = .providerType offer.rule.name expected := by
  obtain ⟨rule, provider, views⟩ := offer
  induction views generalizing provider with
  | nil => cases failed
  | cons view views ih =>
      cases seen : view provider.datum with
      | none =>
          refine ⟨.shape rule.shape, ?_⟩
          simpa [Offer.view, List.foldlM_cons, seen, bind, Except.bind] using failed.symm
      | some datum =>
          have rest : Offer.view ⟨rule, .mk provider.id datum, views⟩ = .error failure := by
            simpa [Offer.view, List.foldlM_cons, seen, bind, Except.bind] using failed
          exact ih _ rest

namespace Solver

theorem inputs_ok {offer : Offer} {types : List Term} {args : List Value} {given : Inputs}
    (seen : inputs offer types args = .ok given) :
    ∃ provider, given = ⟨offer.rule.toSignature, provider, types, args⟩ := by
  unfold inputs at seen
  cases view : offer.view with
  | error failure => rw [view] at seen; cases seen
  | ok provider =>
      rw [view] at seen
      cases seen
      exact ⟨provider, rfl⟩

theorem inputs_error {offer : Offer} {types : List Term} {args : List Value} {failure : Failure}
    (failed : inputs offer types args = .error failure) :
    ∃ expected, failure = .providerType offer.rule.name expected := by
  unfold inputs at failed
  cases view : offer.view with
  | error cause =>
      rw [view] at failed
      cases failed
      exact Offer.view_error view
  | ok provider => rw [view] at failed; cases failed

end Solver

/-! ## 2. Runs -/

/-- A part of a search: what it has to do, and how many levels it may nest. -/
inductive Task : Type → Type where
  /-- Find a value for a goal. -/
  | goal (fuel : Nat) (sought : Term) (branch : Branch) (depth : Nat) : Task (Option Found)
  /-- Try offers for a goal. -/
  | offers (fuel : Nat) (asked : Term) (branch : Branch) (depth : Nat) (tries : List Offer) :
      Task (Option Found)
  /-- Build a ground goal by an offer that returns it. -/
  | build (fuel : Nat) (offer : Offer) (renamed : Renamed) (aim : Term) (branch : Branch)
      (depth : Nat) : Task (Option Found)
  /-- Settle the parameters of an offer and run it. -/
  | complete (fuel : Nat) (offer : Offer) (renamed : Renamed) (aim : Term) (cell : Option Nat)
      (branch : Branch) (depth : Nat) : Task (Option Found)
  /-- Settle some parameters. -/
  | params (fuel : Nat) (rule : Signature) (depth index : Nat) (patterns : List Term)
      (branch : Branch) : Task (Option (List Value × Branch))
  /-- Run an offer whose parameters are settled. -/
  | invoke (offer : Offer) (renamed : Renamed) (aim : Term) (cell : Option Nat)
      (args : List Value) (branch : Branch) (depth : Nat) : Task (Option Found)

/-- How a part of a search is carried out. -/
def Task.perform (solver : Solver) : {α : Type} → Task α → Search α
  | _, .goal fuel sought branch depth => solver.find fuel sought branch depth
  | _, .offers fuel asked branch depth tries =>
      solver.tryOffers (solver.find fuel) asked branch depth tries
  | _, .build fuel offer renamed aim branch depth =>
      solver.build (solver.find fuel) offer renamed aim branch depth
  | _, .complete fuel offer renamed aim cell branch depth =>
      solver.complete (solver.find fuel) offer renamed aim cell branch depth
  | _, .params fuel rule depth index patterns branch =>
      solver.findParams (solver.find fuel) rule depth index patterns branch
  | _, .invoke offer renamed aim cell args branch depth =>
      solver.invoke offer renamed aim cell args branch depth

/-- A heap in which the cell of a goal, if it has one, is tied to the value that was built for it.
-/
def Heap.settle? (heap : Heap) (cell : Option Nat) (value : Value) : Option Heap :=
  match cell with
  | none => some heap
  | some cell => heap.tie? cell value

def consValue (value : Value) : Option (List Value × Branch) → Option (List Value × Branch) :=
  Option.map fun (values, branch) => (value :: values, branch)

def Solver.Allows (solver : Solver) (depth : Nat) : Prop :=
  ∀ limit, solver.settings.maxDepth = some limit → depth ≤ limit

/-- The runs of a part of a search, in the order of the code. -/
inductive Runs (solver : Solver) :
    {α : Type} → Task α → Arena → Except Halt α → Arena → Prop where
  -- a goal
  | exhausted {sought : Term} {branch : Branch} {depth : Nat} {arena : Arena} :
      Runs solver (.goal 0 sought branch depth) arena (.error .outOfFuel) arena
  | tooDeep {fuel depth limit : Nat} {sought goal : Term} {branch : Branch} {arena : Arena} :
      branch.subst.apply sought = goal →
      solver.settings.maxDepth = some limit → depth > limit →
      Runs solver (.goal (fuel + 1) sought branch depth) arena
        (.error (.failed (.depthLimit goal limit)))
        ((arena.note (.demanded goal)).note (.halted (.depthLimit goal limit)))
  | cyclic {fuel depth : Nat} {sought goal : Term} {branch : Branch} {arena : Arena} :
      branch.subst.apply sought = goal →
      Solver.known? goal branch.memo = some .guarded → solver.Allows depth →
      Runs solver (.goal (fuel + 1) sought branch depth) arena
        (.error (.failed (.cyclicDemand goal)))
        ((arena.note (.demanded goal)).note (.halted (.cyclicDemand goal)))
  | known {fuel depth : Nat} {sought goal : Term} {branch : Branch} {arena : Arena}
      {entry : Memo.Entry} {value : Value} {heap : Heap} :
      branch.subst.apply sought = goal →
      Solver.known? goal branch.memo = some entry →
      entry.recall goal arena.heap = (.ok value, heap) → solver.Allows depth →
      Runs solver (.goal (fuel + 1) sought branch depth) arena
        (.ok (some ⟨value, { branch with history := .known goal entry value :: branch.history }⟩))
        (solver.noted (.known depth goal value)
          (((arena.note (.demanded goal)).onHeap heap).note (.recalled goal entry value)))
  | unfound {fuel depth : Nat} {sought goal : Term} {branch : Branch} {arena reached : Arena} :
      branch.subst.apply sought = goal →
      Solver.known? goal branch.memo = none →
      Runs solver (.offers fuel goal branch depth branch.providers.offers)
        (solver.noted (.attempting depth goal) (arena.note (.demanded goal))) (.ok none) reached →
      solver.Allows depth →
      Runs solver (.goal (fuel + 1) sought branch depth) arena (.ok none)
        (solver.noted (.noRuleApplies depth goal) reached)
  | searched {fuel depth : Nat} {sought goal : Term} {branch : Branch} {arena reached : Arena}
      {result : Except Halt (Option Found)} :
      branch.subst.apply sought = goal →
      Solver.known? goal branch.memo = none →
      Runs solver (.offers fuel goal branch depth branch.providers.offers)
        (solver.noted (.attempting depth goal) (arena.note (.demanded goal))) result reached →
      result ≠ .ok none → solver.Allows depth →
      Runs solver (.goal (fuel + 1) sought branch depth) arena result reached
  -- the offers for a goal
  | noOffers {fuel depth : Nat} {asked : Term} {branch : Branch} {arena : Arena} :
      Runs solver (.offers fuel asked branch depth []) arena (.ok none) arena
  | mismatch {fuel depth : Nat} {asked : Term} {branch : Branch} {arena reached : Arena}
      {offer : Offer} {tries : List Offer} {clash : Clash} {result : Except Halt (Option Found)} :
      branch.subst.matching (offer.rule.rename (arena.stamp + 1)).returns asked = .error clash →
      Runs solver (.offers fuel asked branch depth tries)
        (solver.noted (.skippedMismatch depth offer.rule.toSignature clash)
          (arena.tried offer.rule.toSignature asked branch.subst)) result reached →
      Runs solver (.offers fuel asked branch depth (offer :: tries)) arena result reached
  | leftOpen {fuel depth : Nat} {asked : Term} {branch : Branch} {arena reached : Arena}
      {offer : Offer} {tries : List Offer} {subst : Substitution}
      {result : Except Halt (Option Found)} :
      branch.subst.matching (offer.rule.rename (arena.stamp + 1)).returns asked = .ok subst →
      (subst.apply asked).isGround = false →
      Runs solver (.offers fuel asked branch depth tries)
        (solver.noted (.skippedOpen depth offer.rule.toSignature (subst.apply asked))
          (arena.tried offer.rule.toSignature asked branch.subst)) result reached →
      Runs solver (.offers fuel asked branch depth (offer :: tries)) arena result reached
  | settles {fuel depth : Nat} {asked aim : Term} {branch : Branch} {arena reached : Arena}
      {offer : Offer} {tries : List Offer} {subst : Substitution}
      {result : Except Halt (Option Found)} :
      branch.subst.matching (offer.rule.rename (arena.stamp + 1)).returns asked = .ok subst →
      subst.apply asked = aim → aim.isGround = true →
      Runs solver
        (.build fuel offer (offer.rule.rename (arena.stamp + 1)) aim { branch with subst } depth)
        (solver.noted (.trying depth offer.rule.toSignature aim)
          ((arena.tried offer.rule.toSignature asked branch.subst).note (.matched asked aim)))
        result reached →
      result ≠ .ok none →
      Runs solver (.offers fuel asked branch depth (offer :: tries)) arena result reached
  | moveOn {fuel depth : Nat} {asked aim : Term} {branch : Branch} {arena middle reached : Arena}
      {offer : Offer} {tries : List Offer} {subst : Substitution}
      {result : Except Halt (Option Found)} :
      branch.subst.matching (offer.rule.rename (arena.stamp + 1)).returns asked = .ok subst →
      subst.apply asked = aim → aim.isGround = true →
      Runs solver
        (.build fuel offer (offer.rule.rename (arena.stamp + 1)) aim { branch with subst } depth)
        (solver.noted (.trying depth offer.rule.toSignature aim)
          ((arena.tried offer.rule.toSignature asked branch.subst).note (.matched asked aim)))
        (.ok none) middle →
      Runs solver (.offers fuel asked branch depth tries) middle result reached →
      Runs solver (.offers fuel asked branch depth (offer :: tries)) arena result reached
  -- an attempt for a ground goal
  | plain {fuel depth : Nat} {offer : Offer} {renamed : Renamed} {aim : Term} {branch : Branch}
      {arena reached : Arena} {result : Except Halt (Option Found)} :
      (renamed.params.isEmpty || solver.asksForCell aim) = true →
      Runs solver (.complete fuel offer renamed aim none branch depth) arena result reached →
      Runs solver (.build fuel offer renamed aim branch depth) arena result reached
  | withCell {fuel depth cell : Nat} {offer : Offer} {renamed : Renamed} {aim : Term}
      {branch : Branch} {arena middle reached : Arena} {found : Found}
      {result : Except Halt (Option Found)} :
      (renamed.params.isEmpty || solver.asksForCell aim) = false →
      Runs solver (.goal fuel (aim.under solver.settings.placeholder) branch
        (solver.depths.next depth)) arena (.ok (some found)) middle →
      found.value.cell? = some cell →
      Runs solver (.complete fuel offer renamed aim (some cell)
        { branch with memo := branch.memo.insert aim (.pending cell) } depth)
        (middle.note (.entered aim (some cell))) result reached →
      Runs solver (.build fuel offer renamed aim branch depth) arena result
        (reached.leave aim result)
  | guarded {fuel depth : Nat} {offer : Offer} {renamed : Renamed} {aim : Term}
      {branch : Branch} {arena middle reached : Arena} {result : Except Halt (Option Found)} :
      (renamed.params.isEmpty || solver.asksForCell aim) = false →
      Runs solver (.goal fuel (aim.under solver.settings.placeholder) branch
        (solver.depths.next depth)) arena (.ok none) middle →
      Runs solver (.complete fuel offer renamed aim none
        { branch with memo := branch.memo.insert aim .guarded } depth)
        (middle.note (.entered aim none)) result reached →
      Runs solver (.build fuel offer renamed aim branch depth) arena result
        (reached.leave aim result)
  | notDeferred {fuel depth : Nat} {offer : Offer} {renamed : Renamed} {aim : Term}
      {branch : Branch} {arena middle : Arena} {found : Found} :
      (renamed.params.isEmpty || solver.asksForCell aim) = false →
      Runs solver (.goal fuel (aim.under solver.settings.placeholder) branch
        (solver.depths.next depth)) arena (.ok (some found)) middle →
      found.value.cell? = none →
      Runs solver (.build fuel offer renamed aim branch depth) arena
        (.error (.failed (.placeholderNotDeferred aim found.value.kind)))
        (middle.note (.halted (.placeholderNotDeferred aim found.value.kind)))
  | probeHalts {fuel depth : Nat} {offer : Offer} {renamed : Renamed} {aim : Term}
      {branch : Branch} {arena reached : Arena} {halt : Halt} :
      (renamed.params.isEmpty || solver.asksForCell aim) = false →
      Runs solver (.goal fuel (aim.under solver.settings.placeholder) branch
        (solver.depths.next depth)) arena (.error halt) reached →
      Runs solver (.build fuel offer renamed aim branch depth) arena (.error halt) reached
  -- the parameters of an offer, and the offer itself
  | paramsHalt {fuel depth : Nat} {offer : Offer} {renamed : Renamed} {aim : Term}
      {cell : Option Nat} {branch : Branch} {arena reached : Arena} {halt : Halt} :
      Runs solver (.params fuel offer.rule.toSignature depth 0 renamed.params branch) arena
        (.error halt) reached →
      Runs solver (.complete fuel offer renamed aim cell branch depth) arena (.error halt) reached
  | paramsFail {fuel depth : Nat} {offer : Offer} {renamed : Renamed} {aim : Term}
      {cell : Option Nat} {branch : Branch} {arena reached : Arena} :
      Runs solver (.params fuel offer.rule.toSignature depth 0 renamed.params branch) arena
        (.ok none) reached →
      Runs solver (.complete fuel offer renamed aim cell branch depth) arena (.ok none) reached
  | paramsSettled {fuel depth : Nat} {offer : Offer} {renamed : Renamed} {aim : Term}
      {cell : Option Nat} {branch later : Branch} {arena middle reached : Arena}
      {args : List Value} {result : Except Halt (Option Found)} :
      Runs solver (.params fuel offer.rule.toSignature depth 0 renamed.params branch) arena
        (.ok (some (args, later))) middle →
      Runs solver (.invoke offer renamed aim cell args later depth) middle result reached →
      Runs solver (.complete fuel offer renamed aim cell branch depth) arena result reached
  | noParams {fuel depth index : Nat} {rule : Signature} {branch : Branch} {arena : Arena} :
      Runs solver (.params fuel rule depth index [] branch) arena (.ok (some ([], branch))) arena
  | paramHalts {fuel depth index : Nat} {rule : Signature} {param : Term} {patterns : List Term}
      {branch : Branch} {arena reached : Arena} {halt : Halt} :
      Runs solver (.goal fuel param branch (solver.depths.next depth)) arena (.error halt)
        reached →
      Runs solver (.params fuel rule depth index (param :: patterns) branch) arena (.error halt)
        reached
  | paramFails {fuel depth index : Nat} {rule : Signature} {param : Term} {patterns : List Term}
      {branch : Branch} {arena reached : Arena} :
      Runs solver (.goal fuel param branch (solver.depths.next depth)) arena (.ok none) reached →
      Runs solver (.params fuel rule depth index (param :: patterns) branch) arena (.ok none)
        (solver.noted (.abandonedParameter depth rule index) reached)
  | paramFound {fuel depth index : Nat} {rule : Signature} {param : Term} {patterns : List Term}
      {branch : Branch} {arena middle reached : Arena} {found : Found}
      {result : Except Halt (Option (List Value × Branch))} :
      Runs solver (.goal fuel param branch (solver.depths.next depth)) arena (.ok (some found))
        middle →
      Runs solver (.params fuel rule depth (index + 1) patterns
        { found.branch with
          providers := found.branch.providers.enroll solver.registry found.value })
        (solver.enrolled found.value found.branch.providers
          (middle.note (.passed (found.branch.subst.apply param) found.value))) result reached →
      Runs solver (.params fuel rule depth index (param :: patterns) branch) arena
        (result.map (consValue found.value)) reached
  | slotOpen {depth : Nat} {offer : Offer} {renamed : Renamed} {aim : Term} {cell : Option Nat}
      {args : List Value} {branch : Branch} {arena : Arena} {slot : String} :
      Solver.slotTypes branch.subst renamed.slots = .error slot →
      Runs solver (.invoke offer renamed aim cell args branch depth) arena (.ok none)
        (solver.noted (.abandonedSlot depth offer.rule.toSignature slot) arena)
  | noView {depth : Nat} {offer : Offer} {renamed : Renamed} {aim : Term} {cell : Option Nat}
      {args : List Value} {branch : Branch} {arena : Arena} {types : List Term}
      {failure : Failure} :
      Solver.slotTypes branch.subst renamed.slots = .ok types →
      Solver.inputs offer types args = .error failure →
      Runs solver (.invoke offer renamed aim cell args branch depth) arena
        (.error (.failed failure)) (arena.note (.halted failure))
  | bodyFails {depth : Nat} {offer : Offer} {renamed : Renamed} {aim : Term} {cell : Option Nat}
      {args : List Value} {branch : Branch} {arena : Arena} {types : List Term} {given : Inputs}
      {failure : Failure} {heap : Heap} :
      Solver.slotTypes branch.subst renamed.slots = .ok types →
      Solver.inputs offer types args = .ok given →
      (offer.rule.recipe.run given arena.heap).val = (.error failure, heap) →
      Runs solver (.invoke offer renamed aim cell args branch depth) arena
        (.error (.failed failure))
        (((arena.note (.called ⟨offer.rule, aim, given, arena.heap⟩)).onHeap heap).note
          (.halted failure))
  | declines {depth : Nat} {offer : Offer} {renamed : Renamed} {aim : Term} {cell : Option Nat}
      {args : List Value} {branch : Branch} {arena : Arena} {types : List Term} {given : Inputs}
      {heap : Heap} :
      Solver.slotTypes branch.subst renamed.slots = .ok types →
      Solver.inputs offer types args = .ok given →
      (offer.rule.recipe.run given arena.heap).val = (.ok .declined, heap) →
      Runs solver (.invoke offer renamed aim cell args branch depth) arena (.ok none)
        (solver.noted (.declined depth offer.rule.toSignature)
          ((arena.note (.called ⟨offer.rule, aim, given, arena.heap⟩)).onHeap heap))
  | tiedBefore {depth : Nat} {offer : Offer} {renamed : Renamed} {aim : Term} {cell : Nat}
      {args : List Value} {branch : Branch} {arena : Arena} {types : List Term} {given : Inputs}
      {value : Value} {heap : Heap} :
      Solver.slotTypes branch.subst renamed.slots = .ok types →
      Solver.inputs offer types args = .ok given →
      (offer.rule.recipe.run given arena.heap).val = (.ok (.produced value), heap) →
      heap.tie? cell value = none →
      Runs solver (.invoke offer renamed aim (some cell) args branch depth) arena
        (.error (.failed (.knotAlreadyTied aim)))
        ((((arena.note (.called ⟨offer.rule, aim, given, arena.heap⟩)).onHeap heap).note
          (.produced aim (some cell) value)).note (.halted (.knotAlreadyTied aim)))
  | built {depth : Nat} {offer : Offer} {renamed : Renamed} {aim : Term} {cell : Option Nat}
      {args : List Value} {branch : Branch} {arena : Arena} {types : List Term} {given : Inputs}
      {value : Value} {heap tied : Heap} :
      Solver.slotTypes branch.subst renamed.slots = .ok types →
      Solver.inputs offer types args = .ok given →
      (offer.rule.recipe.run given arena.heap).val = (.ok (.produced value), heap) →
      heap.settle? cell value = some tied →
      Runs solver (.invoke offer renamed aim cell args branch depth) arena
        (.ok (some ⟨value, { branch with
          memo := branch.memo.insert aim (.ready value)
          history := .built aim given cell value :: branch.history }⟩))
        (solver.noted (.built depth offer.rule.toSignature aim value)
          ((((arena.note (.called ⟨offer.rule, aim, given, arena.heap⟩)).onHeap heap).note
            (.produced aim cell value)).onHeap tied))

end Synthesis
