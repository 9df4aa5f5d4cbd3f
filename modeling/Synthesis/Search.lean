import Synthesis.Depth
import Synthesis.Log
import Synthesis.Settings

/-!
# The search

A goal is built depth first. Its rules are tried in the order in which they were discovered, and
the first one that builds a value settles the goal. The parameters of a rule are goals of their
own. They are settled from left to right, and the first value of each is kept: a parameter that
cannot be built abandons the rule.

Every ground goal is entered in the memo before the parameters of its rule are settled. If a
placeholder rule provides a cell for it, a demand for the goal from inside its own construction
is answered with the cell, which is tied to the value as soon as that is built. Otherwise such a
demand ends the search.

Providers, memo and substitution are passed on along a branch of the search, so whatever was
abandoned leaves them as they were. The heap, the stamps by which rules are renamed and the log
are shared by all branches and only move forward.
-/
namespace Synthesis

/-! ## 1. What a search carries -/

/-- What is passed on along a branch of the search. `history` are the goals settled on the way, the
latest first. -/
structure Branch where
  providers : Providers := {}
  memo : Memo := {}
  subst : Substitution := {}
  history : List Settled := []

/-- The value of a goal, and the branch after building it. -/
structure Found where
  value : Value
  branch : Branch

/-- What all branches of a search share: the heap, the stamp that was used last, and the
log, latest entry first. Stamps are numbers without a bound: a counter of fixed width is assumed not
to run over. -/
structure Arena where
  heap : Heap := {}
  stamp : Nat := 0
  log : List LogEntry := []

/-- Why a search stopped. -/
inductive Halt where
  /-- A failure ended it. -/
  | failed (failure : Failure)
  /-- It was not allowed to nest rules any deeper; nothing is known about the goal. -/
  | outOfFuel

/-- A part of a search. -/
abbrev Search := ExceptT Halt (StateM Arena)

/-- The registered shapes and the settings of a search, and how it counts depths. -/
structure Solver where
  registry : Registry := .empty
  settings : Settings := .default
  depths : DepthCount := .word

/-- A way to find a value for a goal in a branch and at a depth. `none` is an ordinary dead end. -/
abbrev Finder := Term → Branch → Nat → Search (Option Found)

namespace Search

def log (entry : LogEntry) : Search Unit :=
  modify fun arena => { arena with log := entry :: arena.log }

/-- Ends the search with a failure, which is written down as the last entry of the log. -/
def fail {α : Type} (failure : Failure) : Search α := do
  log (.halted failure)
  throw (.failed failure)

def ofExcept {α : Type} : Except Failure α → Search α
  | .ok result => return result
  | .error failure => fail failure

def freshStamp : Search Nat := do
  modify fun arena => { arena with stamp := arena.stamp + 1 }
  return (← get).stamp

def onHeap {α : Type} (run : Heap → Except Failure α × Heap) : Search α := do
  let arena ← get
  let (result, heap) := run arena.heap
  set { arena with heap := heap }
  ofExcept result

end Search

namespace Solver

def version : String := "0.1.0"

/-! ## 2. Reports and providers -/

/-- Reports an event; progress is reported only if the settings ask for it. -/
def report (solver : Solver) (event : Event) : Search Unit :=
  if event.isProgress && !solver.settings.trace then return ()
  else Search.log (.reported event)

def enroll (solver : Solver) (value : Value) (providers : Providers) : Search Providers := do
  if providers.accepts solver.registry value then
    solver.report (.admitting value.kind (solver.registry.offers value).length)
  return providers.enroll solver.registry value

/-- Takes the values given for a search in as providers, from left to right. -/
def enrollAll (solver : Solver) (providers : Providers) : List Value → Search Providers
  | [] => return providers
  | value :: values => do
      if solver.registry.bearsRules value then
        solver.enrollAll (← solver.enroll value providers) values
      else Search.fail (.unknownProvider value.kind)

/-- The branch in which a search starts. Each of the given values has to be a provider. -/
def start (solver : Solver) (values : List Value) : Search Branch := do
  return { providers := ← solver.enrollAll {} values }

/-! ## 3. One level of the search

Everything in this section settles the goals one level deeper by a finder that it is given. -/

/-- Whether a goal asks for the cell of another goal. -/
def asksForCell (solver : Solver) (goal : Term) : Bool :=
  goal.head? == some solver.settings.placeholder

/-- Enters a goal in the memo before the parameters of its rule are settled: with the cell that a
placeholder rule provides, which is returned, or as guarded if there is none. What was learned on
the way to the cell is dropped. -/
def enterGoal (solver : Solver) (inner : Finder) (goal : Term) (branch : Branch)
    (depth : Nat) : Search (Option Nat × Branch) := do
  match ← inner (goal.under solver.settings.placeholder) branch
      (solver.depths.next depth) with
  | some found =>
      match found.value.cell? with
      | some cell =>
          Search.log (.entered goal (some cell))
          return (some cell, { branch with memo := branch.memo.insert goal (.pending cell) })
      | none => Search.fail (.placeholderNotDeferred goal found.value.kind)
  | none =>
      Search.log (.entered goal none)
      return (none, { branch with memo := branch.memo.insert goal .guarded })

/-- Finds values for the parameters of a rule from left to right. Each value may be a provider for
the parameters after it. `index` is the position of the first parameter. -/
def findParams (solver : Solver) (inner : Finder) (rule : Signature) (depth : Nat) :
    (index : Nat) → List Term → Branch → Search (Option (List Value × Branch))
  | _, [], branch => return some ([], branch)
  | index, param :: params, branch => do
      match ← inner param branch (solver.depths.next depth) with
      | none =>
          solver.report (.abandonedParameter depth rule index)
          return none
      | some found =>
          Search.log (.passed (found.branch.subst.apply param) found.value)
          let providers ← solver.enroll found.value found.branch.providers
          let rest ← solver.findParams inner rule depth (index + 1) params
            { found.branch with providers }
          return rest.map fun (values, branch) => (found.value :: values, branch)

/-- The ground types of generic slots, or the first slot that is still open. -/
def slotTypes (subst : Substitution) : List String → Except String (List Term)
  | [] => .ok []
  | slot :: slots =>
      let type := subst.apply (.var slot)
      if type.isGround then (slotTypes subst slots).map (type :: ·) else .error slot

/-- What the body of an offered rule is given. -/
def inputs (offer : Offer) (types : List Term) (args : List Value) :
    Except Failure Inputs := do
  return ⟨offer.rule.toSignature, ← offer.view, types, args⟩

def runRecipe (rule : Rule) (goal : Term) (inputs : Inputs) : Search Verdict := do
  Search.log (.called ⟨rule, goal, inputs, (← get).heap⟩)
  Search.onHeap fun heap => (rule.recipe.run inputs heap).val

/-- Ties the cell of a goal, if it has one, to the value that was built for it. -/
def tieCell (cell : Option Nat) (goal : Term) (value : Value) : Search Unit :=
  match cell with
  | none => return ()
  | some cell =>
      Search.onHeap fun heap =>
        match heap.tie? cell value with
        | some heap => (.ok (), heap)
        | none => (.error (.knotAlreadyTied goal), heap)

/-- Runs an offered rule for a goal once its parameters have values, and settles the goal with what
it produces. -/
def invoke (solver : Solver) (offer : Offer) (renamed : Renamed) (goal : Term)
    (cell : Option Nat) (args : List Value) (branch : Branch) (depth : Nat) :
    Search (Option Found) := do
  let rule := offer.rule.toSignature
  match slotTypes branch.subst renamed.slots with
  | .error slot =>
      solver.report (.abandonedSlot depth rule slot)
      return none
  | .ok types =>
      let given ← Search.ofExcept (inputs offer types args)
      match ← runRecipe offer.rule goal given with
      | .declined =>
          solver.report (.declined depth rule)
          return none
      | .produced value =>
          Search.log (.produced goal cell value)
          tieCell cell goal value
          solver.report (.built depth rule goal value)
          return some ⟨value, { branch with
            memo := branch.memo.insert goal (.ready value)
            history := .built goal given cell value :: branch.history }⟩

/-- Settles the parameters of an offered rule and runs it for a goal, which is in the memo already
if it has to be. -/
def complete (solver : Solver) (inner : Finder) (offer : Offer) (renamed : Renamed) (goal : Term)
    (cell : Option Nat) (branch : Branch) (depth : Nat) : Search (Option Found) := do
  match ← solver.findParams inner offer.rule.toSignature depth 0 renamed.params branch with
  | none => return none
  | some (args, branch) => solver.invoke offer renamed goal cell args branch depth

/-- Builds a ground goal by a rule that returns it, from a branch in which the goal and the
rule's return pattern are matched. -/
def build (solver : Solver) (inner : Finder) (offer : Offer) (renamed : Renamed)
    (goal : Term) (branch : Branch) (depth : Nat) : Search (Option Found) := do
  -- a goal without parameters cannot be needed for itself, and a cell needs no cell of its own
  if renamed.params.isEmpty || solver.asksForCell goal then
    solver.complete inner offer renamed goal none branch depth
  else
    let (cell, branch) ← solver.enterGoal inner goal branch depth
    let found ← solver.complete inner offer renamed goal cell branch depth
    Search.log (.left goal)
    return found

def tryOffer (solver : Solver) (inner : Finder) (offer : Offer) (goal : Term)
    (branch : Branch) (depth : Nat) : Search (Option Found) := do
  let rule := offer.rule.toSignature
  let stamp ← Search.freshStamp
  Search.log (.tried rule stamp goal branch.subst)
  let renamed := rule.rename stamp
  match branch.subst.matching renamed.returns goal with
  | .error cause =>
      solver.report (.skippedMismatch depth rule cause)
      return none
  | .ok subst =>
      let aim := subst.apply goal
      if aim.isGround then
        Search.log (.matched goal aim)
        solver.report (.trying depth rule aim)
        solver.build inner offer renamed aim { branch with subst } depth
      else
        solver.report (.skippedOpen depth rule aim)
        return none

/-- Tries offers for a goal until one of them builds it. -/
def tryOffers (solver : Solver) (inner : Finder) (goal : Term) (branch : Branch)
    (depth : Nat) : List Offer → Search (Option Found)
  | [] => return none
  | offer :: offers => do
      match ← solver.tryOffer inner offer goal branch depth with
      | some found => return some found
      | none => solver.tryOffers inner goal branch depth offers

/-- Ends the search if it is nested deeper than the settings allow. -/
def checkDepth (solver : Solver) (goal : Term) (depth : Nat) : Search Unit :=
  match solver.settings.maxDepth with
  | some limit => if depth > limit then Search.fail (.depthLimit goal limit) else return ()
  | none => return ()

/-- The memo entry of a goal; only ground goals have one. -/
def known? (goal : Term) (memo : Memo) : Option Memo.Entry :=
  if goal.isGround then memo.get? goal else none

/-- Finds a value for a goal: in the memo if it is known there, and by the rules of the providers
otherwise. -/
def findStep (solver : Solver) (inner : Finder) : Finder := fun goal branch depth => do
  let goal := branch.subst.apply goal
  Search.log (.demanded goal)
  solver.checkDepth goal depth
  match known? goal branch.memo with
  | some entry =>
      let value ← Search.onHeap (entry.recall goal)
      Search.log (.recalled goal entry value)
      solver.report (.known depth goal value)
      return some ⟨value, { branch with history := .known goal entry value :: branch.history }⟩
  | none =>
      solver.report (.attempting depth goal)
      match ← solver.tryOffers inner goal branch depth branch.providers.offers with
      | some found => return some found
      | none =>
          solver.report (.noRuleApplies depth goal)
          return none

/-! ## 4. The search at all levels -/

/-- Finds a value for a goal. `fuel` is the number of levels that the search may nest, this one
included. -/
def find (solver : Solver) : (fuel : Nat) → Finder
  | 0 => fun _ _ _ => throw .outOfFuel
  | fuel + 1 => solver.findStep (solver.find fuel)

/-- Builds a value for a ground goal from the rules of providers, and gives the branch in which
the search ends with it. -/
def derive (solver : Solver) (fuel : Nat) (goal : Term) (providers : List Value) :
    Search Found := do
  if goal.isGround then
    let branch ← solver.start providers
    solver.report (.solving goal branch.providers.members.length)
    match ← solver.find fuel goal branch 0 with
    | some found =>
        solver.report (.solved goal found.branch.memo.size)
        return found
    | none => Search.fail (.noDerivation goal)
  else Search.fail (.unboundGoal goal)

def solve (solver : Solver) (fuel : Nat) (goal : Term) (providers : List Value) : Search Value := do
  return (← solver.derive fuel goal providers).value

/-- Builds a value of a kind, whose type term is the goal. -/
def solveAs (solver : Solver) (fuel : Nat) (kind : Kind) (goal : Term) (providers : List Value) :
    Search Value := do
  let value ← solver.solve fuel goal providers
  match value.as? kind with
  | some value => return value
  | none => Search.fail (.resultType goal kind value.kind)

end Solver
end Synthesis
