import Synthesis.Proofs.Growth
import Synthesis.Proofs.Nesting

/-!
# What a run writes down

A run goes on from its arena step by step until it gives a result. If it halts, it stops in the
arena to which it has come. Each entry is written down by a part of the search to which the run
comes, so what is known of the parts is known of the entries.

Results:
1. `Runs.leads`: a run goes on up to its result, and each entry is one that a part writes down
   (`Task.Writes`, `Task.WritesWithin`).
2. `solve_leads`: this for whole searches.
3. `Runs.grows`: a run only adds to what the parts of a search share.
-/
namespace Synthesis

/-! ## 1. Results -/

def Call.FailsWith (call : Call) (failure : Failure) : Prop :=
  (call.rule.recipe.run call.inputs call.heap).val.1 = .error failure

/-- A search goes on after an entry: it is no failure, no body that fails was called, and what was
produced can be tied. -/
def LogEntry.Smooth (point : Arena) : LogEntry → Prop
  | .halted _ => False
  | .called call => ∀ failure, ¬ call.FailsWith failure
  | .produced _ own value => point.heap.settle? own value ≠ none
  | _ => True

theorem LogEntry.Smooth.of_run {rule : Rule} {goal : Term} {given : Inputs} {verdict : Verdict}
    {point : Arena} {heap after : Heap}
    (ran : (rule.recipe.run given heap).val = (.ok verdict, after)) :
    LogEntry.Smooth point (.called ⟨rule, goal, given, heap⟩) := by
  intro failure fails
  rw [Call.FailsWith, ran] at fails
  cases fails

namespace Arena

def Smoothly (due : Arena → LogEntry → Prop) (point : Arena) (entry : LogEntry) : Prop :=
  due point entry ∧ entry.Smooth point

/-- How a search stops in an arena. -/
inductive Stops (due : Arena → LogEntry → Prop) (arena : Arena) : Halt → Arena → Prop where
  | outOfFuel : Stops due arena .outOfFuel arena
  | failed {failure : Failure} : due arena (.halted failure) →
      Stops due arena (.failed failure) (arena.note (.halted failure))
  | bodyFails {call : Call} {failure : Failure} {heap : Heap} : call.heap = arena.heap →
      (call.rule.recipe.run call.inputs call.heap).val = (.error failure, heap) →
      due arena (.called call) →
      due ((arena.note (.called call)).onHeap heap) (.halted failure) →
      Stops due arena (.failed failure)
        (((arena.note (.called call)).onHeap heap).note (.halted failure))
  | tiedBefore {goal : Term} {own : Option Nat} {value : Value} {failure : Failure} :
      arena.heap.settle? own value = none → due arena (.produced goal own value) →
      due (arena.note (.produced goal own value)) (.halted failure) →
      Stops due arena (.failed failure)
        ((arena.note (.produced goal own value)).note (.halted failure))

/-- A search goes on from an arena up to its result, or until it stops. -/
inductive Leads (due : Arena → LogEntry → Prop) {α : Type} (arena : Arena) :
    Except Halt α → Arena → Prop where
  | ok {outcome : α} {reached : Arena} :
      arena.Proceeds (Smoothly due) reached → Leads due arena (.ok outcome) reached
  | error {halt : Halt} {last reached : Arena} :
      arena.Proceeds (Smoothly due) last → last.Stops due halt reached →
      Leads due arena (.error halt) reached

variable {due may : Arena → LogEntry → Prop} {first second third arena reached : Arena}
  {α β : Type} {result : Except Halt α} {halt : Halt}

theorem Stops.mono (stops : arena.Stops due halt reached)
    (weaker : ∀ point entry, due point entry → may point entry) :
    arena.Stops may halt reached := by
  cases stops with
  | outOfFuel => exact .outOfFuel
  | failed now => exact .failed (weaker _ _ now)
  | bodyFails same ran called now =>
      exact .bodyFails same ran (weaker _ _ called) (weaker _ _ now)
  | tiedBefore untied made now => exact .tiedBefore untied (weaker _ _ made) (weaker _ _ now)

theorem Stops.proceeds (stops : arena.Stops due halt reached) : arena.Proceeds due reached := by
  cases stops with
  | outOfFuel => exact .refl
  | failed now => exact Proceeds.refl.note now
  | bodyFails same ran called now =>
      exact Proceeds.note (Proceeds.refl.tail (.called same ran called)) now
  | tiedBefore untied made now =>
      exact Proceeds.note (Proceeds.refl.tail (.unsettled untied made)) now

namespace Leads

theorem mono (leads : arena.Leads due result reached)
    (weaker : ∀ point entry, due point entry → may point entry) :
    arena.Leads may result reached := by
  cases leads with
  | ok before => exact .ok (before.mono fun _ _ => And.imp_left (weaker _ _))
  | error before stops =>
      exact .error (before.mono fun _ _ => And.imp_left (weaker _ _)) (stops.mono weaker)

/-- Whatever the result is, the search has gone on up to the arena that it leaves. -/
theorem proceeds (leads : arena.Leads due result reached) : arena.Proceeds due reached := by
  cases leads with
  | ok before => exact before.mono fun _ _ => And.left
  | error before stops => exact (before.mono fun _ _ => And.left).trans stops.proceeds

/-- A search that is carried out does not stop on the way. -/
theorem smoothly {outcome : α} (leads : arena.Leads due (.ok outcome : Except Halt α) reached) :
    arena.Proceeds (Smoothly due) reached := by
  cases leads with
  | ok before => exact before

theorem after (leads : second.Leads due result third)
    (before : first.Proceeds (Smoothly due) second) : first.Leads due result third := by
  cases leads with
  | ok later => exact .ok (before.trans later)
  | error later stops => exact .error (before.trans later) stops

theorem of_error (leads : arena.Leads due (.error halt : Except Halt α) reached) :
    arena.Leads due (.error halt : Except Halt β) reached := by
  cases leads with
  | error before stops => exact .error before stops

theorem map (leads : arena.Leads due result reached) (f : α → β) :
    arena.Leads due (result.map f) reached := by
  cases leads with
  | ok before => exact .ok before
  | error before stops => exact .error before stops

/-- The end of an attempt is written down only if the attempt came to no failure. -/
theorem leave (leads : arena.Leads due result reached) (goal : Term)
    (now : ∀ outcome, result = .ok outcome → due reached (.left goal)) :
    arena.Leads due result (reached.leave goal result) := by
  cases leads with
  | ok before => exact .ok (before.note ⟨now _ rfl, trivial⟩)
  | error before stops => exact .error before stops

end Leads

end Arena

/-! ## 2. What the parts of a search write down -/

def LogEntry.isFree : LogEntry → Bool
  | .reported _ | .demanded _ | .matched .. | .entered .. | .passed .. => true
  | .recalled .. | .tried .. | .left _ | .called _ | .produced .. | .halted _ => false

/-- What a part of a search that starts from an arena writes down by itself, and where. -/
inductive Task.Writes (solver : Solver) :
    {α : Type} → Task α → Arena → Arena → LogEntry → Prop where
  | free {α : Type} {task : Task α} {arena point : Arena} {entry : LogEntry} :
      entry.isFree = true → Writes solver task arena point entry
  | recalled {fuel depth : Nat} {sought goal : Term} {branch : Branch} {arena : Arena}
      {entry : Memo.Entry} {value : Value} :
      branch.subst.apply sought = goal → Solver.known? goal branch.memo = some entry →
      Writes solver (.goal (fuel + 1) sought branch depth) arena (arena.note (.demanded goal))
        (.recalled goal entry value)
  | tried {fuel depth : Nat} {asked : Term} {branch : Branch} {arena : Arena} {offer : Offer}
      {tries : List Offer} :
      Writes solver (.offers fuel asked branch depth (offer :: tries)) arena arena
        (.tried offer.rule.toSignature (arena.stamp + 1) asked branch.subst)
  | left {fuel depth : Nat} {offer : Offer} {renamed : Renamed} {aim : Term}
      {branch later : Branch} {own : Option Nat} {arena middle reached : Arena}
      {outcome : Option Found} :
      Runs solver (.complete fuel offer renamed aim own later depth)
        (middle.note (.entered aim own)) (.ok outcome) reached →
      Writes solver (.build fuel offer renamed aim branch depth) arena reached (.left aim)
  | called {depth : Nat} {offer : Offer} {renamed : Renamed} {aim : Term} {cell : Option Nat}
      {args : List Value} {branch : Branch} {arena : Arena} {types : List Term} {given : Inputs} :
      Solver.slotTypes branch.subst renamed.slots = .ok types →
      Solver.inputs offer types args = .ok given →
      Writes solver (.invoke offer renamed aim cell args branch depth) arena arena
        (.called ⟨offer.rule, aim, given, arena.heap⟩)
  | produced {depth : Nat} {offer : Offer} {renamed : Renamed} {aim : Term} {cell : Option Nat}
      {args : List Value} {branch : Branch} {arena point : Arena} {value : Value} :
      Writes solver (.invoke offer renamed aim cell args branch depth) arena point
        (.produced aim cell value)
  -- failures, after a demand, after a call or elsewhere
  | refused {fuel depth : Nat} {sought goal : Term} {branch : Branch} {arena : Arena}
      {failure : Failure} :
      Writes solver (.goal fuel sought branch depth) arena (arena.note (.demanded goal))
        (.halted failure)
  | bodyFails {α : Type} {task : Task α} {arena : Arena} {call : Call} {heap : Heap}
      {failure : Failure} :
      Writes solver task arena ((arena.note (.called call)).onHeap heap) (.halted failure)
  | halted {α : Type} {task : Task α} {arena point : Arena} {failure : Failure} :
      (∀ goal, failure ≠ .cyclicDemand goal) →
      Writes solver task arena point (.halted failure)

/-- What is written down by a part of a search or by those to which it comes. -/
def Task.WritesWithin (solver : Solver) {α : Type} (task : Task α) (arena point : Arena)
    (entry : LogEntry) : Prop :=
  ∃ (β : Type) (part : Task β) (there : Arena),
    task.ComesTo solver arena part there ∧ part.Writes solver there point entry

section

variable {solver : Solver} {α β : Type} {task : Task α} {part : Task β}
  {arena middle point reached : Arena} {entry : LogEntry} {result : Except Halt α}

theorem Task.Writes.here (writes : task.Writes solver arena point entry) :
    task.WritesWithin solver arena point entry := ⟨_, task, arena, .here, writes⟩

theorem Task.WritesWithin.before (writes : part.WritesWithin solver middle point entry)
    (next : task.Next solver arena part middle) : task.WritesWithin solver arena point entry := by
  obtain ⟨_, last, there, comes, writes⟩ := writes
  exact ⟨_, last, there, .next next comes, writes⟩

/-- A search goes on after an entry that may be written down anywhere. -/
theorem Task.smoothly_of_free (free : entry.isFree = true) :
    Arena.Smoothly (task.WritesWithin solver arena) point entry := by
  refine ⟨(Writes.free free).here, ?_⟩
  cases entry <;> trivial

/-- What a part does on the way is done by the part that comes to it. -/
theorem Arena.Leads.before {γ : Type} {outcome : Except Halt γ}
    (leads : middle.Leads (part.WritesWithin solver middle) outcome reached)
    (next : task.Next solver arena part middle) :
    middle.Leads (task.WritesWithin solver arena) outcome reached :=
  leads.mono fun _ _ writes => writes.before next

/-! ## 3. Runs -/

/-- A run goes on up to its result, and each entry is written down by a part to which it comes. -/
theorem Runs.leads (run : Runs solver task arena result reached) :
    arena.Leads (task.WritesWithin solver arena) result reached := by
  have free {γ : Type} {task : Task γ} {arena point : Arena} {entry : LogEntry}
      (free : entry.isFree = true := by rfl) :
      Arena.Smoothly (task.WritesWithin solver arena) point entry := Task.smoothly_of_free free
  induction run with
  | exhausted => exact .error .refl .outOfFuel
  | noOffers | noParams => exact .ok .refl
  | tooDeep | cyclic =>
      exact .error (.note .refl free) (.failed (Task.Writes.here .refused))
  | known same known read =>
      exact .ok (.reading read free ⟨(Task.Writes.recalled same known).here, trivial⟩
        fun _ => free)
  | unfound same unknown _ allows ih =>
      exact .ok (.noted ((ih.before (.tries same allows unknown)).after
        (.asking free free)).smoothly _ _ free)
  | searched same unknown _ _ allows ih =>
      exact (ih.before (.tries same allows unknown)).after (.asking free free)
  | mismatch clashes _ ih =>
      exact (ih.before (.afterMismatch clashes)).after
        (.skipping ⟨Task.Writes.tried.here, trivial⟩ free)
  | leftOpen matched leftOpen _ ih =>
      exact (ih.before (.afterOpen matched leftOpen)).after
        (.skipping ⟨Task.Writes.tried.here, trivial⟩ free)
  | settles matched same ground _ _ ih =>
      exact (ih.before (.attempt matched same ground)).after
        (.trying ⟨Task.Writes.tried.here, trivial⟩ free fun _ => free)
  | moveOn matched same ground attempt _ one two =>
      exact (two.before (.afterAttempt matched same ground attempt.perform)).after
        (.trans (.trying ⟨Task.Writes.tried.here, trivial⟩ free fun _ => free)
          (one.before (.attempt matched same ground)).smoothly)
  | plain unentered _ ih => exact ih.before (.plain unentered)
  | withCell entered probe cell run one two =>
      refine ((two.before (.withCell entered probe.perform cell)).after
        (.note (one.before (.probe entered)).smoothly free)).leave _ ?_
      intro outcome ok
      subst ok
      exact (Task.Writes.left run).here
  | guarded entered probe run one two =>
      refine ((two.before (.guarded entered probe.perform)).after
        (.note (one.before (.probe entered)).smoothly free)).leave _ ?_
      intro outcome ok
      subst ok
      exact (Task.Writes.left run).here
  | notDeferred entered _ _ ih =>
      exact .error (ih.before (.probe entered)).smoothly
        (.failed (Task.Writes.here (.halted nofun)))
  | probeHalts entered _ ih => exact (ih.before (.probe entered)).of_error
  | paramsHalt _ ih => exact (ih.before .params).of_error
  | paramsFail _ ih => exact .ok (ih.before .params).smoothly
  | paramsSettled params _ one two =>
      exact (two.before (.body params.perform)).after (one.before .params).smoothly
  | paramHalts _ ih => exact (ih.before .param).of_error
  | paramFails _ ih => exact .ok ((ih.before .param).smoothly.noted _ _ free)
  | paramFound goal _ one two =>
      exact ((two.before (.afterParam goal.perform)).after
        (.trans (one.before .param).smoothly (.passing free fun _ => free))).map _
  | slotOpen => exact .ok (.noted .refl _ _ free)
  | noView _ unseen =>
      obtain ⟨_, rfl⟩ := Solver.inputs_error unseen
      exact .error .refl (.failed (Task.Writes.here (.halted nofun)))
  | bodyFails closed seen ran =>
      exact .error .refl (.bodyFails rfl ran (Task.Writes.called closed seen).here
        (Task.Writes.here .bodyFails))
  | declines closed seen ran =>
      exact .ok (.noted (.calling ran ⟨(Task.Writes.called closed seen).here, .of_run ran⟩) _ _
        free)
  | tiedBefore closed seen ran tied =>
      exact .error (.calling ran ⟨(Task.Writes.called closed seen).here, .of_run ran⟩)
        (.tiedBefore tied Task.Writes.produced.here (Task.Writes.here (.halted nofun)))
  | built closed seen ran tied =>
      refine .ok (.noted (Arena.Proceeds.settled
        (.calling ran ⟨(Task.Writes.called closed seen).here, .of_run ran⟩) tied
        ⟨Task.Writes.produced.here, ?_⟩) _ _ free)
      rw [LogEntry.Smooth, Arena.heap_onHeap, tied]
      nofun

/-- On the way to the next part nothing else is written down. -/
theorem Task.Next.proceeds (next : task.Next solver arena part middle) :
    arena.Proceeds (task.WritesWithin solver arena) middle := by
  have free {point : Arena} {entry : LogEntry} (free : entry.isFree = true := by rfl) :
      task.WritesWithin solver arena point entry := Task.Writes.here (.free free)
  cases next with
  | tries => exact .asking free free
  | afterMismatch | afterOpen => exact .skipping (Task.Writes.here .tried) free
  | attempt => exact .trying (Task.Writes.here .tried) free fun _ => free
  | afterAttempt matched same ground attempt =>
      exact .trans (.trying (Task.Writes.here .tried) free fun _ => free)
        ((Runs.of_perform attempt).leads.before (.attempt matched same ground)).proceeds
  | plain | probe | params | param => exact .refl
  | withCell entered probe | guarded entered probe =>
      exact .note ((Runs.of_perform probe).leads.before (.probe entered)).proceeds free
  | body params => exact ((Runs.of_perform params).leads.before .params).proceeds
  | afterParam goal =>
      exact .trans ((Runs.of_perform goal).leads.before .param).proceeds
        (.passing free fun _ => free)

theorem Task.ComesTo.proceeds (comes : task.ComesTo solver arena part middle) :
    arena.Proceeds (task.WritesWithin solver arena) middle := by
  induction comes with
  | here => exact .refl
  | next first _ ih => exact first.proceeds.trans (ih.mono fun _ _ writes => writes.before first)

/-- What a whole search does goes on in the same way, before its run and after it. -/
theorem Derives.leads {due : Arena → LogEntry → Prop} {fuel : Nat} {goal : Term}
    {providers : List Value} {result : Except Halt Found}
    (derives : Derives solver fuel goal providers arena result reached)
    (reported : ∀ point event, due point (.reported event))
    (halted : ∀ point failure, (∀ goal, failure ≠ .cyclicDemand goal) →
      due point (.halted failure))
    (within : ∀ {started reached : Arena} {result : Except Halt (Option Found)},
      goal.isGround = true → arena.Reports started →
      Runs solver (.goal fuel goal (solver.startingBranch providers) 0) started result reached →
      started.Leads due result reached) :
    arena.Leads due result reached := by
  have start {started : Arena} (reports : arena.Reports started) :
      arena.Proceeds (Arena.Smoothly due) started :=
    .of_reports reports fun point event => ⟨reported point event, trivial⟩
  cases derives with
  | openGoal => exact .error .refl (.failed (halted _ _ nofun))
  | unknownProvider reports => exact .error (start reports) (.failed (halted _ _ nofun))
  | halts ground reports run => exact ((within ground reports run).after (start reports)).of_error
  | fails ground reports run =>
      exact .error ((within ground reports run).after (start reports)).smoothly
        (.failed (halted _ _ nofun))
  | finds ground reports run =>
      exact .ok (((within ground reports run).after (start reports)).smoothly.noted _ _
        ⟨reported _ _, trivial⟩)

theorem solve_leads {due : Arena → LogEntry → Prop} {fuel : Nat} {goal : Term}
    {providers : List Value} {result : Except Halt Value}
    (ran : (solver.solve fuel goal providers).runFrom arena = (result, reached))
    (reported : ∀ point event, due point (.reported event))
    (halted : ∀ point failure, (∀ goal, failure ≠ .cyclicDemand goal) →
      due point (.halted failure))
    (within : ∀ {started reached : Arena} {result : Except Halt (Option Found)},
      goal.isGround = true → arena.Reports started →
      Runs solver (.goal fuel goal (solver.startingBranch providers) 0) started result reached →
      started.Leads due result reached) :
    arena.Leads due result reached := by
  rw [runFrom_solve] at ran
  cases ran
  exact ((derives solver fuel goal providers arena).leads reported halted within).map _

/-- A run only adds to what the parts of a search share. -/
theorem Runs.grows (run : Runs solver task arena result reached) : arena.Grows reached :=
  run.leads.proceeds.grows

end

end Synthesis
