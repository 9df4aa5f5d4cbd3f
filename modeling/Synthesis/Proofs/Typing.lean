import Mathlib.Data.List.Forall2
import Synthesis.Proofs.Branches
import Synthesis.Proofs.Runs.Total

/-!
# Rule bodies are called with what their signatures say

A call fits a signature if ground terms for the generic slots make the goal of the return pattern
and the goals of the arguments of the parameter patterns. The terms are found while the parameters
are settled, so they are read off the branch in which the call is made.

Results:
1. `Runs.delivers`: every run gives values that were obtained for the goals that it looked for.
2. `Task.WritesWithin.callFits`: the calls that a part of a search makes fit.
3. `solve_calls_fit`: every call of a whole search fits.
-/
namespace Synthesis

open Substitution (Triangular)

/-! ## 1. Values of a goal -/

/-- How a value was obtained for a goal: a rule produced it for that goal, or it was read from the
memo while the goal was entered with a cell. Then it is this cell, or what the cell is tied to. -/
inductive Obtained (log : List LogEntry) (heap : Heap) (goal : Term) (value : Value) : Prop
  | produced {cell : Option Nat} : .produced goal cell value ∈ log → Obtained log heap goal value
  | cell {cell : Nat} : .entered goal (some cell) ∈ log →
      .recalled goal (.pending cell) value ∈ log → value.cell? = some cell →
      Obtained log heap goal value
  | content {cell : Nat} : .entered goal (some cell) ∈ log →
      .recalled goal (.pending cell) value ∈ log → heap.content? cell = some value →
      Obtained log heap goal value

theorem Obtained.mono {arena later : Arena} {goal : Term} {value : Value}
    (obtained : Obtained arena.log arena.heap goal value) (grown : arena.Grows later) :
    Obtained later.log later.heap goal value := by
  cases obtained with
  | produced member => exact .produced (grown.subset member)
  | cell entered read same => exact .cell (grown.subset entered) (grown.subset read) same
  | content entered read tied =>
      exact .content (grown.subset entered) (grown.subset read) (grown.heap.keeps tied)

/-- What an entry of the memo gives was obtained for its goal. -/
theorem Obtained.of_recall {log : List LogEntry} {goal : Term} {entry : Memo.Entry} {value : Value}
    {heap after : Heap} (recorded : entry.Recorded goal log)
    (read : entry.recall goal heap = (.ok value, after))
    (here : .recalled goal entry value ∈ log) : Obtained log after goal value := by
  cases entry with
  | guarded => cases read
  | ready known =>
      cases read
      obtain ⟨cell, member⟩ := recorded
      exact .produced member
  | pending cell =>
      simp only [Memo.Entry.recall] at read
      split at read
      · next tied =>
          cases read
          exact .content recorded here tied
      · cases read
        exact .cell recorded here rfl

/-! ## 2. Calls that fit -/

/-- A call fits its rule under a substitution for the generic slots, after what is in the log. -/
structure Call.Fits (call : Call) (slots : String → Term) (before : List LogEntry) : Prop where
  /-- An attempt was made for the goal. -/
  matched : ∃ asked, .matched asked call.goal ∈ before
  /-- The return pattern gives the goal. -/
  returns : call.rule.returns.subst slots = call.goal
  /-- The body sees the signature of its rule. -/
  signature : call.inputs.signature = call.rule.toSignature
  /-- The body sees the terms of the slots, in slot order. -/
  types : call.inputs.types = call.rule.slots.map slots
  /-- These terms are ground. -/
  ground : ∀ slot ∈ call.rule.slots, (slots slot).isGround = true
  /-- There is one argument for each parameter, obtained for the goal of its pattern. -/
  args : List.Forall₂ (fun param arg => Obtained before call.heap (param.subst slots) arg)
    call.rule.params call.inputs.args

/-- If an entry of a log writes down a call, then the call fits. -/
def LogEntry.CallFits (entry : LogEntry) (before : List LogEntry) : Prop :=
  ∀ call, entry = .called call → ∃ slots, call.Fits slots before

/-! ## 3. Renamed signatures -/

theorem apply_params_rename (subst : Substitution) (signature : Signature) (stamp : Nat) :
    (signature.rename stamp).params.map subst.apply =
      signature.params.map (Term.subst (slotTerm subst stamp)) := by
  simp only [Signature.rename, List.map_map]
  exact List.map_congr_left fun param _ => Term.subst_subst _ _ _

theorem slotTypes_ok {subst : Substitution} {slots : List String} {types : List Term}
    (success : Solver.slotTypes subst slots = .ok types) :
    types = slots.map (subst.apply <| .var ·) ∧ ∀ type ∈ types, type.isGround = true := by
  induction slots generalizing types with
  | nil =>
      cases success
      exact ⟨rfl, by simp⟩
  | cons slot slots ih =>
      simp only [Solver.slotTypes] at success
      split at success
      · next ground =>
          cases rest : Solver.slotTypes subst slots with
          | error => simp [rest, Except.map] at success
          | ok later =>
              obtain rfl : _ :: later = types := by simpa [rest, Except.map] using success
              obtain ⟨same, others⟩ := ih rest
              exact ⟨by rw [List.map_cons, ← same], List.forall_mem_cons.2 ⟨ground, others⟩⟩
      · cases success

theorem slotTypes_of_ground {subst : Substitution} {slots : List String}
    (ground : ∀ slot ∈ slots, (subst.apply (.var slot)).isGround = true) :
    Solver.slotTypes subst slots = .ok (slots.map (subst.apply <| .var ·)) := by
  induction slots with
  | nil => rfl
  | cons slot slots ih =>
      obtain ⟨first, others⟩ := List.forall_mem_cons.1 ground
      rw [Solver.slotTypes, if_pos first, ih others]
      rfl

/-! ## 4. Runs -/

/-- An attempt to build a ground goal by a renamed offer whose return pattern is equal to it. -/
structure Attempt (offer : Offer) (renamed : Renamed) (aim : Term) (subst : Substitution)
    (log : List LogEntry) : Prop where
  stamped : ∃ stamp, renamed = offer.rule.rename stamp
  matched : ∃ asked, .matched asked aim ∈ log
  ground : aim.isGround = true
  returns : subst.apply renamed.returns = aim

theorem Attempt.mono {offer : Offer} {renamed : Renamed} {aim : Term} {subst later : Substitution}
    {log more : List LogEntry} (attempt : Attempt offer renamed aim subst log)
    (triangular : Triangular subst.bindings) (extended : subst.Extends later) (added : log ⊆ more) :
    Attempt offer renamed aim later more where
  stamped := attempt.stamped
  matched := attempt.matched.imp fun _ member => added member
  ground := attempt.ground
  returns := by
    have ground := attempt.ground
    rw [← attempt.returns] at ground ⊢
    exact extended.apply_of_ground triangular ground

/-- What has to hold where a part of a search starts: an attempt is made for a goal that matches,
and the arguments of a call were obtained for its parameters. -/
def Task.Prepared (arena : Arena) : {α : Type} → Task α → Prop
  | _, .build _ offer renamed aim branch _ => Attempt offer renamed aim branch.subst arena.log
  | _, .complete _ offer renamed aim _ branch _ =>
      Attempt offer renamed aim branch.subst arena.log
  | _, .invoke offer renamed aim _ args branch _ =>
      Attempt offer renamed aim branch.subst arena.log ∧
        List.Forall₂ (Obtained arena.log arena.heap) (renamed.params.map branch.subst.apply) args
  | _, .goal .. | _, .offers .. | _, .params .. => True

/-- What is delivered was obtained for the goals that a part of a search looked for. -/
def Task.Delivers (reached : Arena) : {α : Type} → Task α → α → Prop
  | _, .goal _ sought _ _, outcome => ∀ found, outcome = some found →
      Obtained reached.log reached.heap (found.branch.subst.apply sought) found.value
  | _, .offers _ asked _ _ _, outcome => ∀ found, outcome = some found →
      Obtained reached.log reached.heap (found.branch.subst.apply asked) found.value
  | _, .params _ _ _ _ patterns _, outcome => ∀ args last, outcome = some (args, last) →
      List.Forall₂ (Obtained reached.log reached.heap) (patterns.map last.subst.apply) args
  | _, .build _ _ _ aim _ _, outcome | _, .complete _ _ _ aim _ _ _, outcome
  | _, .invoke _ _ aim _ _ _ _, outcome => ∀ found : Found, outcome = some found →
      Obtained reached.log reached.heap aim found.value

/-- The call of an offer fits if its return pattern is equal to the goal and its arguments were
obtained for its parameters. -/
theorem Attempt.callFits {offer : Offer} {renamed : Renamed} {aim : Term} {branch : Branch}
    {arena : Arena} {types : List Term} {args : List Value} {given : Inputs}
    (attempt : Attempt offer renamed aim branch.subst arena.log)
    (obtained : List.Forall₂ (Obtained arena.log arena.heap)
      (renamed.params.map branch.subst.apply) args)
    (closed : Solver.slotTypes branch.subst renamed.slots = .ok types)
    (seen : Solver.inputs offer types args = .ok given) :
    LogEntry.CallFits (.called ⟨offer.rule, aim, given, arena.heap⟩) arena.log := by
  intro call same
  cases same
  obtain ⟨stamp, rfl⟩ := attempt.stamped
  obtain ⟨provider, rfl⟩ := Solver.inputs_ok seen
  obtain ⟨rfl, ground⟩ := slotTypes_ok closed
  refine ⟨slotTerm branch.subst stamp, attempt.matched, ?_, rfl, ?_, ?_, ?_⟩
  · rw [← attempt.returns, apply_returns_rename]
  · simp only [Signature.rename, List.map_map]
    rfl
  · intro slot member
    exact ground _ (List.mem_map_of_mem (List.mem_map_of_mem member))
  · rwa [apply_params_rename, List.forall₂_map_left_iff] at obtained

/-- Every run delivers values that were obtained for the goals it looked for. -/
theorem Runs.delivers {solver : Solver} {α : Type} {task : Task α} {arena reached : Arena}
    {result : Except Halt α} (run : Runs solver task arena result reached)
    (triangular : Triangular task.start.subst.bindings)
    (recorded : task.start.memo.Recorded arena.log) {outcome : α} (ok : result = .ok outcome) :
    task.Delivers reached outcome := by
  induction run with
  | exhausted | tooDeep | cyclic | notDeferred | probeHalts | paramsHalt | paramHalts | noView
  | bodyFails | tiedBefore => cases ok
  | unfound | noOffers | paramsFail | slotOpen | declines =>
      cases ok
      intro found none
      cases none
  | paramFails =>
      cases ok
      intro args last none
      cases none
  | known same known read =>
      cases ok
      intro found now
      cases now
      subst same
      refine Obtained.mono ?_ (.noted .refl _ _)
      refine Obtained.of_recall ((recorded _ _ (isGround_of_known? known).2).mono ?_) read (.head _)
      exact List.subset_cons_of_subset _ (List.subset_cons_self _ _)
  | searched same _ run _ _ ih =>
      have delivers := ih triangular (recorded.mono (Arena.Proceeds.subset .asking)) ok
      intro found now
      have obtained := delivers found now
      subst ok same now
      rwa [run.apply_sought triangular] at obtained
  | mismatch _ _ ih | leftOpen _ _ _ ih =>
      exact ih triangular (recorded.mono (Arena.Proceeds.subset .skipping)) ok
  | settles matched same ground run _ ih =>
      have later := (Substitution.matching_ok triangular matched).2.1
      have delivers := ih later (recorded.mono (Arena.Proceeds.subset .trying)) ok
      intro found now
      have obtained := delivers found now
      subst ok same now
      rwa [← run.apply_asked later ground] at obtained
  | moveOn _ _ _ first _ _ ih =>
      exact ih triangular (recorded.mono (Arena.Proceeds.subset (.trans .trying first.grows))) ok
  | plain _ _ ih => exact ih triangular recorded ok
  | withCell _ probe _ _ _ ih | guarded _ probe _ _ ih =>
      intro found now
      refine Obtained.mono (ih triangular ?_ ok found now) (.leave .refl _ _)
      exact (recorded.mono (Arena.Proceeds.subset (.note probe.grows))).insert (.head _)
  | paramsSettled run _ _ ih =>
      have settled := run.keepsSubst triangular rfl rfl
      exact ih settled.triangular (run.keepsMemo recorded rfl rfl) ok
  | noParams =>
      cases ok
      intro args last found
      cases found
      exact .nil
  | @paramFound _ _ _ _ _ _ _ _ _ _ _ result goal rest ih later =>
      have delivers := ih triangular recorded rfl
      have settled := goal.keepsSubst triangular rfl rfl
      intro args last found
      obtain _ | _ | ⟨args, last⟩ := result <;> cases ok <;> cases found
      have others := later settled.triangular
        ((goal.keepsMemo recorded rfl rfl).mono (Arena.Proceeds.subset .passing)) rfl
      refine .cons ?_ (others _ _ rfl)
      have further := rest.keepsSubst settled.triangular rfl rfl
      rw [further.extended.apply_of_ground settled.triangular (settled.ground _ (.head _))]
      exact (delivers _ rfl).mono (.trans .passing rest.grows)
  | built =>
      cases ok
      intro found now
      cases now
      exact .produced ((Arena.Proceeds.subset (.noted .refl _ _)) (.head _))

/-- A part of a search that is prepared, with a memo whose values were produced. -/
structure Task.Typed {α : Type} (task : Task α) (arena : Arena) : Prop where
  triangular : Triangular task.start.subst.bindings
  recorded : task.start.memo.Recorded arena.log
  prepared : task.Prepared arena

/-- From each part to the next one, parts are prepared. -/
theorem Task.Next.keepsTyped {solver : Solver} {α β : Type} {task : Task α} {part : Task β}
    {arena middle : Arena} (next : task.Next solver arena part middle) (typed : task.Typed arena) :
    part.Typed middle := by
  obtain ⟨triangular, recorded, prepared⟩ := typed
  refine ⟨next.keepsTriangular triangular, next.keepsRecorded recorded, ?_⟩
  have grown := next.proceeds.grows.subset
  cases next with
  | tries | afterMismatch | afterOpen | afterAttempt | probe | params | param | afterParam =>
      trivial
  | attempt matched same ground =>
      have equal := (Substitution.matching_ok triangular matched).2.2
      exact ⟨⟨_, rfl⟩, ⟨_, Arena.Proceeds.subset (.noted .refl _ _) (.head _)⟩, ground,
        equal.trans same⟩
  | plain => exact prepared
  | withCell | guarded => exact prepared.mono triangular (.refl _) grown
  | body params =>
      have run := Runs.of_perform params
      have extended := (run.keepsSubst triangular rfl rfl).extended
      exact ⟨prepared.mono triangular extended grown,
        run.delivers triangular recorded rfl _ _ rfl⟩

/-- A call that is written down by a part of a search fits. -/
theorem Task.WritesWithin.callFits {solver : Solver} {α : Type} {task : Task α}
    {arena point : Arena} {entry : LogEntry}
    (writes : task.WritesWithin solver arena point entry) (typed : task.Typed arena) :
    entry.CallFits point.log := by
  obtain ⟨_, part, there, comes, writes⟩ := writes
  have typed := comes.keeps (motive := fun task arena => task.Typed arena) (·.keepsTyped) typed
  cases writes with
  | free free =>
      rintro call rfl
      cases free
  | called closed seen => exact typed.prepared.1.callFits typed.prepared.2 closed seen
  | recalled | tried | left | produced | refused | bodyFails | halted => exact nofun

/-! ## 5. Whole searches -/

/-- In a whole search every call of a rule fits: ground terms for its generic slots, which its body
sees, make the goal of its return pattern, and each argument was obtained for the goal that they
make of its parameter. -/
theorem solve_calls_fit (solver : Solver) (fuel : Nat) (goal : Term) (providers : List Value)
    (heap : Heap) (stamp : Nat) :
    AtEveryPoint LogEntry.CallFits
      ((solver.solve fuel goal providers).runFrom ⟨heap, stamp, []⟩).2.log := by
  refine AtEveryPoint.nil.proceeds (solve_leads rfl (fun _ _ => nofun) (fun _ _ _ => nofun)
    fun _ _ run => ?_).proceeds
  exact run.leads.mono fun _ _ writes =>
    writes.callFits ⟨trivial, Memo.recorded_empty _, trivial⟩

end Synthesis
