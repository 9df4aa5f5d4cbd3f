import Synthesis.Session.Command

/-!
# Sessions

A session runs commands against one solver. It keeps a current branch of the search, which
commands may read, change and replace, and it shows every value that it met by number when the
value appears again.
-/
namespace Synthesis

/-- A session between two commands. `home` is the name of the module that declares the kinds of
records and providers. -/
structure Session where
  home : String
  solver : Solver
  shared : List (String × Value)
  heap : Heap := {}
  stamp : Nat := 0
  sightings : Sightings := {}
  branch : Branch := {}

namespace Session

open Script (Expr)

/-! ## 1. Parts of a command -/

/-- How many levels a search without a depth limit may nest. -/
def unlimitedFuel : Nat := 1000000

/-- How many levels a search may nest: as many as its depth limit lets it reach. -/
def fuel (settings : Settings) : Nat :=
  match settings.maxDepth with
  | some limit => limit + 2
  | none => unlimitedFuel

abbrev Run := ExceptT Trouble (StateM (Session × List LogEntry))

def current : Run Session := return (← get).1

def update (change : Session → Session) : Run Unit :=
  modify fun (session, log) => (change session, log)

def search {α : Type} (part : Search α) : Run α := do
  let (session, log) ← get
  let (result, arena) := part.run.run ⟨session.heap, session.stamp, log⟩
  set ({ session with heap := arena.heap, stamp := arena.stamp }, arena.log)
  match result with
  | .ok result => return result
  | .error (.failed failure) => throw (.failed failure)
  | .error .outOfFuel => throw .outOfFuel

def evaluate (expr : Expr) : Run Value := do
  let scope := Script.Scope.outside (← current).shared
  search (Search.onHeap fun heap => (expr.eval scope heap).val)

def evaluateAll : List Expr → Run (List Value)
  | [] => return []
  | expr :: exprs => do
      let value ← evaluate expr
      return value :: (← evaluateAll exprs)

/-! ## 2. Showing values and states -/

def portray (value : Value) : Run Portrait := do
  let session ← current
  let (portrait, sightings) := Portrait.draw session.home session.heap value session.sightings
  update fun session => { session with sightings }
  return portrait

def viewEntry (goal : Term) (entry : Memo.Entry) : Run EntryView := do
  let kind : EntryKind :=
    match entry with
    | .ready _ => .ready
    | .pending _ => .pending
    | .guarded => .guarded
  let (content, heap) := entry.recall goal (← current).heap
  update fun session => { session with heap }
  match content with
  | .error failure => return ⟨kind, .error failure⟩
  | .ok value => return ⟨kind, .ok (← portray value)⟩

def viewEntries (memo : Memo) : List Term → Run (List (Option EntryView))
  | [] => return []
  | goal :: goals => do
      let view ←
        match memo.get? goal with
        | none => pure none
        | some entry => pure (some (← viewEntry goal entry))
      return view :: (← viewEntries memo goals)

def view (branch : Branch) (probe : List Term) : Run BranchView := do
  let heap := (← current).heap
  return {
    providers := branch.providers.members.map (·.render heap)
    offers := branch.providers.offers.map (·.rule.render)
    memoSize := branch.memo.size
    bindings := branch.subst.bindings
    probe := ← viewEntries branch.memo probe }

/-! ## 3. Running commands -/

/-- The memo entry of a kind. An entry that is guarded holds no value, so its expression is not
evaluated. -/
def memoEntry (kind : EntryKind) (expr : Expr) : Run Memo.Entry := do
  match kind with
  | .guarded => return .guarded
  | .ready => return .ready (← evaluate expr)
  | .pending =>
      let value ← evaluate expr
      match value.cell? with
      | some cell => return .pending cell
      | none => return .ready value

def perform : Command → Run Reply
  | .solve goal providers => do
      let providers ← evaluateAll providers
      let solver := (← current).solver
      return .portrait (← portray (← search (solver.solve (fuel solver.settings) goal providers)))
  | .solveAs kind providers => do
      let providers ← evaluateAll providers
      let solver := (← current).solver
      let goal := kind.term?.getD (.var "a")
      let value ← search (solver.solveAs (fuel solver.settings) kind goal providers)
      return .portrait (← portray value)
  | .start providers probe => do
      let providers ← evaluateAll providers
      let branch ← search ((← current).solver.start providers)
      update fun session => { session with branch }
      return .branch (← view branch probe)
  | .find goal depth commit probe => do
      let session ← current
      let finder := session.solver.find (fuel session.solver.settings)
      match ← search (finder goal session.branch depth) with
      | none => return .found none
      | some found =>
          let portrait ← portray found.value
          let shown ← view found.branch probe
          if commit then update fun session => { session with branch := found.branch }
          return .found (some (portrait, shown))
  | .bind name term => do
      let branch := (← current).branch
      match branch.subst.bind name term with
      | .ok subst =>
          update fun session => { session with branch := { branch with subst } }
          return .bindings subst.bindings
      | .error stuck =>
          update fun session => { session with branch := { branch with subst := stuck.reached } }
          throw (.clash stuck.clash)
  | .memo goal kind expr => do
      let entry ← memoEntry kind expr
      let branch := (← current).branch
      let memo := branch.memo.insert goal entry
      update fun session => { session with branch := { branch with memo } }
      return .count memo.size
  | .branch probe => do return .branch (← view (← current).branch probe)
  | .enroll expr => do
      let value ← evaluate expr
      let session ← current
      let providers ← search (session.solver.enroll value session.branch.providers)
      let branch := { session.branch with providers }
      update fun session => { session with branch }
      return .enrolled (providers.contains value) (← view branch [])
  | .providers => do
      let session ← current
      return .text (session.branch.providers.debug session.home)
  | .isProvider expr => do
      let value ← evaluate expr
      return .flag ((← current).solver.registry.bearsRules value)
  | .shapeName expr => do
      let value ← evaluate expr
      return .name (((← current).solver.registry.shape? value.kind).map (·.name))
  | .offers expr => do
      let value ← evaluate expr
      let session ← current
      return .rules ((session.solver.registry.offers value).map fun offer =>
        ⟨offer.rule.toSignature, offer.debug session.home, offer.provider.same value⟩)
  | .settings => return .settings (← current).solver.settings

/-- The text of a call of a rule body: the rule, its types and its arguments. A recipe without a
body is not shown. -/
def callText? (call : Call) : Option String :=
  match call.rule.recipe with
  | .freshCell => none
  | .body _ =>
      let types := ";".intercalate (call.inputs.types.map Term.render)
      let args := ", ".intercalate (Value.renderAll call.heap call.inputs.args)
      some (call.rule.name ++ "[" ++ types ++ "](" ++ args ++ ")")

def answer (command : Command) (session : Session) : Answer × Session :=
  let (reply, session, log) := (perform command).run.run (session, [])
  let log := log.reverse
  ({ reply
     calls := log.filterMap fun entry => entry.call?.bind callText?
     events := log.filterMap fun entry => entry.event?.map (·.render session.home) },
   session)

def answerAll : List Command → Session → List Answer
  | [], _ => []
  | command :: commands, session =>
      let (first, session) := answer command session
      first :: answerAll commands session

end Session
end Synthesis
