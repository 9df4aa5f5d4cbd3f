import Synthesis.Proofs.Runs.Steps
import Synthesis.Proofs.Unification

/-!
# What a branch learns

A part of a search that is carried out leads from one branch to another one.

Results:
1. `Runs.keepsSubst`: the branch reached extends the substitution, and the goals that were asked for
   are ground under it.
2. `Runs.keepsMemo`: every entry of the memo is that of a goal in the log: a value that was produced
   for it, or the cell with which it was entered.
-/
namespace Synthesis

open Substitution (Triangular)

/-! ## 1. From branch to branch -/

/-- The branch from which a part of a search starts. -/
def Task.start : {α : Type} → Task α → Branch
  | _, .goal _ _ branch _ => branch
  | _, .offers _ _ branch _ _ => branch
  | _, .build _ _ _ _ branch _ => branch
  | _, .complete _ _ _ _ _ branch _ => branch
  | _, .params _ _ _ _ _ branch => branch
  | _, .invoke _ _ _ _ _ branch _ => branch

/-- The branch in which a part of a search ends, if it is carried out. -/
def Task.finish? : {α : Type} → Task α → α → Option Branch
  | _, .goal .., found => found.map (·.branch)
  | _, .offers .., found => found.map (·.branch)
  | _, .build .., found => found.map (·.branch)
  | _, .complete .., found => found.map (·.branch)
  | _, .params .., settled => settled.map (·.2)
  | _, .invoke .., found => found.map (·.branch)

/-- The goals that a part of a search looks for, as they are asked for. -/
def Task.goals : {α : Type} → Task α → List Term
  | _, .goal _ sought _ _ => [sought]
  | _, .offers _ asked _ _ _ => [asked]
  | _, .params _ _ _ _ patterns _ => patterns
  | _, .build .. | _, .complete .. | _, .invoke .. => []

/-- The goal that a part of a search settles, and the value that it gives for it. -/
def Task.delivered : {α : Type} → Task α → α → Option (Term × Value)
  | _, .goal _ sought _ _, found =>
      found.map fun found => (found.branch.subst.apply sought, found.value)
  | _, .offers _ asked _ _ _, found =>
      found.map fun found => (found.branch.subst.apply asked, found.value)
  | _, .build _ _ _ aim _ _, found => found.map fun found => (aim, found.value)
  | _, .complete _ _ _ aim _ _ _, found => found.map fun found => (aim, found.value)
  | _, .invoke _ _ aim _ _ _ _, found => found.map fun found => (aim, found.value)
  | _, .params .., _ => none

/-! ## 2. Substitutions -/

theorem isGround_of_known? {goal : Term} {memo : Memo} {entry : Memo.Entry}
    (known : Solver.known? goal memo = some entry) :
    goal.isGround = true ∧ memo.get? goal = some entry := by
  unfold Solver.known? at known
  split at known
  · next ground => exact ⟨ground, known⟩
  · cases known

/-- A substitution that extends another one, is triangular and leaves nothing open in some goals. -/
structure Substitution.Settles (subst : Substitution) (goals : List Term) (last : Substitution) :
    Prop where
  extended : subst.Extends last
  triangular : Triangular last.bindings
  ground : ∀ goal ∈ goals, (last.apply goal).isGround = true

/-- A run leads to a branch with more bindings, in which the goals that it looked for are ground. -/
theorem Runs.keepsSubst {solver : Solver} {α : Type} {task : Task α} {arena reached : Arena}
    {result : Except Halt α} (run : Runs solver task arena result reached)
    (triangular : Triangular task.start.subst.bindings) {outcome : α} (ok : result = .ok outcome)
    {last : Branch} (finished : task.finish? outcome = some last) :
    task.start.subst.Settles task.goals last.subst := by
  induction run generalizing last with
  | exhausted | tooDeep | cyclic | notDeferred | probeHalts | paramsHalt | paramHalts | noView
  | bodyFails | tiedBefore => cases ok
  | unfound | noOffers | paramsFail | paramFails | slotOpen | declines =>
      cases ok
      cases finished
  | known same known =>
      cases ok
      cases finished
      refine ⟨.refl _, triangular, ?_⟩
      simpa [Task.goals, same] using (isGround_of_known? known).1
  | @searched _ _ sought goal branch _ _ _ same _ _ _ _ ih =>
      have leads : branch.subst.Settles [goal] last.subst := ih triangular ok finished
      have ground := leads.ground _ (.head _)
      rw [← same, leads.extended.apply_apply triangular] at ground
      exact ⟨leads.extended, leads.triangular, by simpa [Task.goals] using ground⟩
  | mismatch _ _ ih | leftOpen _ _ _ ih => exact ih triangular ok finished
  | moveOn _ _ _ _ _ _ rest => exact rest triangular ok finished
  | @settles _ _ asked _ _ _ _ _ _ subst _ matched same ground _ _ ih =>
      have ⟨extended, later, _⟩ := Substitution.matching_ok triangular matched
      have leads : subst.Settles [] last.subst := ih later ok finished
      refine ⟨extended.trans leads.extended, leads.triangular, ?_⟩
      subst same
      simpa [Task.goals, leads.extended.apply_of_ground later ground] using ground
  | plain _ _ ih => exact ih triangular ok finished
  | withCell _ _ _ _ _ ih | guarded _ _ _ _ ih => exact ih triangular ok finished
  | paramsSettled _ _ params invoked =>
      have first := params triangular rfl rfl
      have second := invoked first.triangular ok finished
      exact ⟨first.extended.trans second.extended, second.triangular, fun _ none => by cases none⟩
  | noParams =>
      cases ok
      cases finished
      exact ⟨.refl _, triangular, fun _ none => by cases none⟩
  | @paramFound _ _ _ _ _ _ _ _ _ _ _ result _ _ goal rest =>
      obtain _ | settled := result
      · cases ok
      cases ok
      have first := goal triangular rfl rfl
      obtain ⟨_, _⟩ | _ := settled
      · cases finished
      have second := rest first.triangular rfl finished
      refine ⟨first.extended.trans second.extended, second.triangular, ?_⟩
      intro other member
      cases member with
      | head =>
          have ground := first.ground _ (.head _)
          rwa [second.extended.apply_of_ground first.triangular ground]
      | tail _ member => exact second.ground other member
  | built =>
      cases ok
      cases finished
      exact ⟨.refl _, triangular, fun _ none => by cases none⟩

theorem Task.Next.keepsTriangular {solver : Solver} {α β : Type} {task : Task α} {part : Task β}
    {arena middle : Arena} (next : task.Next solver arena part middle)
    (triangular : Triangular task.start.subst.bindings) :
    Triangular part.start.subst.bindings := by
  cases next with
  | tries | afterMismatch | afterOpen | afterAttempt | plain | probe | withCell | guarded | params
  | param => exact triangular
  | attempt matched => exact (Substitution.matching_ok triangular matched).2.1
  | body params => exact ((Runs.of_perform params).keepsSubst triangular rfl rfl).triangular
  | afterParam goal => exact ((Runs.of_perform goal).keepsSubst triangular rfl rfl).triangular

/-- The branch in which a search ends has the bindings with which the goal was looked for. -/
theorem Runs.apply_sought {solver : Solver} {fuel depth : Nat} {sought : Term} {branch : Branch}
    {offers : List Offer} {arena reached : Arena} {found : Found}
    (run : Runs solver (.offers fuel (branch.subst.apply sought) branch depth offers) arena
      (.ok (some found)) reached) (triangular : Triangular branch.subst.bindings) :
    found.branch.subst.apply (branch.subst.apply sought) = found.branch.subst.apply sought :=
  (run.keepsSubst triangular rfl rfl).extended.apply_apply triangular sought

/-- The goal that a match has made ground stays the same while it is built. -/
theorem Runs.apply_asked {solver : Solver} {fuel depth : Nat} {offer : Offer} {renamed : Renamed}
    {aim asked : Term} {branch : Branch} {arena reached : Arena} {found : Found}
    (run : Runs solver (.build fuel offer renamed aim branch depth) arena (.ok (some found))
      reached) (triangular : Triangular branch.subst.bindings)
    (ground : (branch.subst.apply asked).isGround = true) :
    found.branch.subst.apply asked = branch.subst.apply asked :=
  (run.keepsSubst triangular rfl rfl).extended.apply_of_ground triangular ground

/-- What the offers for a goal deliver is delivered for what was looked for. -/
theorem Runs.delivered_sought {solver : Solver} {fuel depth more : Nat} {sought goal : Term}
    {branch : Branch} {offers : List Offer} {arena reached : Arena} {outcome : Option Found}
    (run : Runs solver (.offers fuel goal branch depth offers) arena (.ok outcome) reached)
    (same : branch.subst.apply sought = goal) (triangular : Triangular branch.subst.bindings) :
    Task.delivered (.goal more sought branch depth) outcome =
      Task.delivered (.offers fuel goal branch depth offers) outcome := by
  subst same
  cases outcome with
  | none => rfl
  | some found =>
      rw [Task.delivered, Task.delivered, Option.map_some, Option.map_some,
        run.apply_sought triangular]

/-- What is built for a goal is delivered for the goal as it was before the match. -/
theorem Runs.delivered_asked {solver : Solver} {fuel depth : Nat} {offer : Offer}
    {offers : List Offer} {renamed : Renamed} {asked aim : Term} {branch before : Branch}
    {arena reached : Arena} {outcome : Option Found}
    (run : Runs solver (.build fuel offer renamed aim branch depth) arena (.ok outcome) reached)
    (same : branch.subst.apply asked = aim) (triangular : Triangular branch.subst.bindings)
    (ground : aim.isGround = true) :
    Task.delivered (.offers fuel asked before depth offers) outcome =
      Task.delivered (.build fuel offer renamed aim branch depth) outcome := by
  subst same
  cases outcome with
  | none => rfl
  | some found =>
      rw [Task.delivered, Task.delivered, Option.map_some, Option.map_some,
        run.apply_asked triangular ground]

/-- What a substitution gives for the generic slots of a rule that was renamed by a stamp. -/
def slotTerm (subst : Substitution) (stamp : Nat) (slot : String) : Term :=
  subst.apply (.var (Signature.stamped stamp slot))

theorem apply_returns_rename (subst : Substitution) (signature : Signature) (stamp : Nat) :
    subst.apply (signature.rename stamp).returns = signature.returns.subst (slotTerm subst stamp) :=
  Term.subst_subst _ _ _

/-- A renamed return pattern that matches a goal is an instance of the return pattern. -/
theorem returns_of_matching {subst later : Substitution} {signature : Signature} {stamp : Nat}
    {asked aim : Term} (triangular : Triangular subst.bindings)
    (matched : subst.matching (signature.rename stamp).returns asked = .ok later)
    (same : later.apply asked = aim) : signature.returns.subst (slotTerm later stamp) = aim := by
  rw [← apply_returns_rename, (Substitution.matching_ok triangular matched).2.2, same]

/-! ## 3. Memos -/

/-- What a log says of the memo entry of a goal: that its value was produced for the goal, or that
the goal was entered like this. -/
def Memo.Entry.Recorded (goal : Term) (log : List LogEntry) : Memo.Entry → Prop
  | .ready value => ∃ cell, .produced goal cell value ∈ log
  | .pending cell => .entered goal (some cell) ∈ log
  | .guarded => .entered goal none ∈ log

def Memo.Recorded (memo : Memo) (log : List LogEntry) : Prop :=
  ∀ goal entry, memo.get? goal = some entry → entry.Recorded goal log

namespace Memo

theorem Entry.Recorded.mono {goal : Term} {entry : Entry} {log later : List LogEntry}
    (recorded : entry.Recorded goal log) (more : log ⊆ later) : entry.Recorded goal later := by
  cases entry with
  | ready => exact recorded.imp fun _ member => more member
  | pending | guarded => exact more recorded

theorem Recorded.mono {memo : Memo} {log later : List LogEntry} (recorded : memo.Recorded log)
    (more : log ⊆ later) : memo.Recorded later :=
  fun goal entry found => (recorded goal entry found).mono more

theorem Recorded.insert {memo : Memo} {log : List LogEntry} (recorded : memo.Recorded log)
    {goal : Term} {entry : Entry} (new : entry.Recorded goal log) :
    (memo.insert goal entry).Recorded log := by
  intro other found here
  rw [get?_insert] at here
  split at here
  · next same =>
      cases here
      exact same ▸ new
  · exact recorded other found here

theorem recorded_empty (log : List LogEntry) : Memo.Recorded {} log := by
  intro goal entry found
  cases found

end Memo

/-- A run keeps all entries of the memo in the log. -/
theorem Runs.keepsMemo {solver : Solver} {α : Type} {task : Task α} {arena reached : Arena}
    {result : Except Halt α} (run : Runs solver task arena result reached)
    (recorded : task.start.memo.Recorded arena.log) {outcome : α} (ok : result = .ok outcome)
    {last : Branch} (finished : task.finish? outcome = some last) :
    last.memo.Recorded reached.log := by
  induction run generalizing last with
  | exhausted | tooDeep | cyclic | notDeferred | probeHalts | paramsHalt | paramHalts | noView
  | bodyFails | tiedBefore => cases ok
  | unfound | noOffers | paramsFail | paramFails | slotOpen | declines =>
      cases ok
      cases finished
  | known _ _ read =>
      cases ok
      cases finished
      exact recorded.mono (Arena.Proceeds.subset (.reading read))
  | searched _ _ _ _ _ ih =>
      exact ih (recorded.mono (Arena.Proceeds.subset .asking)) ok finished
  | mismatch _ _ ih | leftOpen _ _ _ ih =>
      exact ih (recorded.mono (Arena.Proceeds.subset .skipping)) ok finished
  | settles _ _ _ _ _ ih =>
      exact ih (recorded.mono (Arena.Proceeds.subset .trying)) ok finished
  | moveOn _ _ _ first _ _ ih =>
      exact ih (recorded.mono (Arena.Proceeds.subset (.trans .trying first.grows))) ok finished
  | plain _ _ ih => exact ih recorded ok finished
  | withCell _ probe _ _ _ ih | guarded _ probe _ _ ih =>
      cases ok
      refine Memo.Recorded.mono (ih ?_ rfl finished) (List.subset_cons_self _ _)
      exact (recorded.mono (Arena.Proceeds.subset (.note probe.grows))).insert (.head _)
  | paramsSettled _ _ params ih => exact ih (params recorded rfl rfl) ok finished
  | noParams =>
      cases ok
      cases finished
      exact recorded
  | @paramFound _ _ _ _ _ _ _ _ _ _ _ result _ _ goal ih =>
      obtain _ | ⟨_ | _⟩ := result <;> cases ok
      · cases finished
      exact ih ((goal recorded rfl rfl).mono (Arena.Proceeds.subset .passing)) rfl finished
  | built _ _ ran tied =>
      cases ok
      cases finished
      exact (recorded.mono (Arena.Proceeds.subset (.building ran tied))).insert
        ⟨_, Arena.Proceeds.subset (.noted .refl _ _) (.head _)⟩

/-- From each part to the next one, all entries of the memo are in the log. -/
theorem Task.Next.keepsRecorded {solver : Solver} {α β : Type} {task : Task α} {part : Task β}
    {arena middle : Arena} (next : task.Next solver arena part middle)
    (recorded : task.start.memo.Recorded arena.log) : part.start.memo.Recorded middle.log := by
  have grown := next.proceeds.grows.subset
  cases next with
  | tries | afterMismatch | afterOpen | attempt | afterAttempt | plain | probe | params | param =>
      exact recorded.mono grown
  | withCell | guarded => exact (recorded.mono grown).insert (.head _)
  | body params => exact (Runs.of_perform params).keepsMemo recorded rfl rfl
  | afterParam goal =>
      exact ((Runs.of_perform goal).keepsMemo recorded rfl rfl).mono
        (Arena.Proceeds.subset .passing)

end Synthesis
