import Synthesis.Proofs.Branches
import Synthesis.Proofs.Runs.Total
import Synthesis.Script

/-!
# Demands for goals under construction

A goal is under construction from the entry that is made for it in the memo to the end of the
attempt that made the entry. If it is wanted in between, its cell has to answer for it, or the
search has to end.

Results:
1. `Runs.balanced`: a run leaves the goals under construction that were so when it started.
2. `Runs.covers`, `Runs.caught`: in a run, the memo has the entries of goals under construction and
   every demand for one is answered, unless a goal with variables becomes one by a match, or the
   limit for depths is exceeded first.
3. `reentrance_caught_iff`: in a whole search this is exactly when demands are missed.
-/
namespace Synthesis

/-! ## 1. Goals under construction -/

/-- The goals under construction after what is in a log, each with its cell, the latest first. -/
def underConstruction : List LogEntry → List (Term × Option Nat)
  | [] => []
  | .entered goal cell :: before => (goal, cell) :: underConstruction before
  | .left _ :: before => (underConstruction before).tail
  | _ :: before => underConstruction before

/-- What an entry of the log wants: a goal that is looked for, or the ground goal that a match makes
of one that is looked for. -/
inductive LogEntry.Wants (goal : Term) : LogEntry → Prop
  | demanded : Wants goal (.demanded goal)
  | matched {asked : Term} : Wants goal (.matched asked goal)

/-- An entry answers for a goal under construction: with the cell of the goal, with what the cell is
tied to, or, if the goal has no cell, with the end of the search. -/
inductive LogEntry.Answers (heap : Heap) (goal : Term) : Option Nat → LogEntry → Prop
  | cell {cell : Nat} {value : Value} : value.cell? = some cell →
      Answers heap goal (some cell) (.recalled goal (.pending cell) value)
  | content {cell : Nat} {value : Value} : heap.content? cell = some value →
      Answers heap goal (some cell) (.recalled goal (.pending cell) value)
  | cyclic : Answers heap goal none (.halted (.cyclicDemand goal))

/-- No goal is entered while it is under construction, and each time such a goal is wanted, it is
answered for at once. -/
structure Caught (log : List LogEntry) (heap : Heap) : Prop where
  once : ∀ {goal : Term} {cell other : Option Nat} {before : List LogEntry},
    .entered goal cell :: before <:+ log → (goal, other) ∉ underConstruction before
  answered : ∀ {entry : LogEntry} {goal : Term} {cell : Option Nat} {before : List LogEntry},
    entry :: before <:+ log → entry.Wants goal → (goal, cell) ∈ underConstruction before →
    ∃ answer : LogEntry, answer :: entry :: before <:+ log ∧ answer.Answers heap goal cell

/-- A goal under construction is missed: a match makes it of a goal with variables, or it is looked
for at a depth at which the search ends. -/
inductive Missed (log : List LogEntry) : Prop
  | opened {asked goal : Term} {cell : Option Nat} {before : List LogEntry} :
      .matched asked goal :: before <:+ log → (goal, cell) ∈ underConstruction before →
      asked.isGround = false → Missed log
  | tooDeep {goal : Term} {cell : Option Nat} {limit : Nat} {before : List LogEntry} :
      .halted (.depthLimit goal limit) :: .demanded goal :: before <:+ log →
      (goal, cell) ∈ underConstruction before → Missed log

section

variable {solver : Solver} {arena reached : Arena}

theorem underConstruction_of_reports (reports : arena.Reports reached) :
    underConstruction reached.log = underConstruction arena.log :=
  reports.keeps (motive := fun reached =>
    underConstruction reached.log = underConstruction arena.log) (fun _ _ same => same) rfl

@[simp] theorem underConstruction_noted (event : Event) :
    underConstruction (solver.noted event arena).log = underConstruction arena.log :=
  underConstruction_of_reports (solver.reports_noted event arena)

@[simp] theorem underConstruction_enrolled (value : Value) (providers : Providers) :
    underConstruction (solver.enrolled value providers arena).log = underConstruction arena.log :=
  underConstruction_of_reports (solver.reports_enrolled value providers arena)

/-- A run that is carried out leaves the same goals under construction. -/
theorem Runs.balanced {α : Type} {task : Task α} {result : Except Halt α}
    (run : Runs solver task arena result reached) {outcome : α} (ok : result = .ok outcome) :
    underConstruction reached.log = underConstruction arena.log := by
  induction run with
  | exhausted | tooDeep | cyclic | notDeferred | probeHalts | paramsHalt | paramHalts | noView
  | bodyFails | tiedBefore => cases ok
  | noOffers | noParams => rfl
  | known | slotOpen | declines | built => simp [underConstruction]
  | unfound _ _ _ _ ih => simpa [underConstruction] using ih rfl
  | searched _ _ _ _ _ ih | mismatch _ _ ih | leftOpen _ _ _ ih | settles _ _ _ _ _ ih =>
      simpa [underConstruction] using ih ok
  | moveOn _ _ _ _ _ first rest => simpa [rest ok, underConstruction] using first rfl
  | plain _ _ ih => exact ih ok
  | paramsFail _ ih => exact ih rfl
  | withCell _ _ _ _ probe ih | guarded _ _ _ probe ih =>
      have inside := ih ok
      cases ok
      simp only [Arena.leave, Arena.log_note, underConstruction] at inside ⊢
      rw [inside, List.tail_cons, probe rfl]
  | paramsSettled _ _ params ih => rw [ih ok, params rfl]
  | paramFails _ ih => simpa using ih rfl
  | @paramFound _ _ _ _ _ _ _ _ _ _ _ result _ _ goal ih =>
      obtain _ | outcome := result
      · cases ok
      · simpa [goal rfl, underConstruction] using ih rfl

end

/-! ## 2. Answers come from the memo -/

/-- An entry that answers for a goal does not follow a match. -/
def LogEntry.AnswersNoMatch (entry : LogEntry) (before : List LogEntry) : Prop :=
  ∀ heap goal cell, entry.Answers heap goal cell →
    ∀ asked aim rest, before ≠ .matched asked aim :: rest

/-- The memo is not looked at once a goal with variables has become ground by a match. -/
theorem Task.Writes.answersNoMatch {solver : Solver} {α : Type} {task : Task α}
    {arena point : Arena} {entry : LogEntry} (writes : task.Writes solver arena point entry) :
    entry.AnswersNoMatch point.log := by
  intro heap goal cell answers asked aim rest log
  cases answers with
  | cell | content =>
      cases writes with
      | free free => cases free
      | recalled => cases log
  | cyclic =>
      cases writes with
      | free free => cases free
      | refused | bodyFails => cases log
      | halted other => exact other goal rfl

theorem solve_answersNoMatch (solver : Solver) (fuel : Nat) (goal : Term)
    (providers : List Value) (heap : Heap) (stamp : Nat) :
    AtEveryPoint LogEntry.AnswersNoMatch
      ((solver.solve fuel goal providers).runFrom ⟨heap, stamp, []⟩).2.log := by
  have leads : Arena.Leads (fun point entry => entry.AnswersNoMatch point.log) ⟨heap, stamp, []⟩
      ((solver.solve fuel goal providers).runFrom ⟨heap, stamp, []⟩).1
      ((solver.solve fuel goal providers).runFrom ⟨heap, stamp, []⟩).2 := by
    refine solve_leads rfl (fun _ _ => nofun) ?_ ?_
    · intro point failure other heap goal cell answers
      cases answers
      exact absurd rfl (other goal)
    · intro started reached result _ _ run
      refine run.leads.mono fun point entry writes => ?_
      obtain ⟨_, _, _, _, writes⟩ := writes
      exact writes.answersNoMatch
  exact AtEveryPoint.nil.proceeds leads.proceeds

/-! ## 3. The memo covers what is under construction -/

def Memo.Entry.entered : Option Nat → Memo.Entry
  | none => .guarded
  | some cell => .pending cell

/-- A memo has the entries of goals under construction, of one goal apart. -/
def Memo.Covers (memo : Memo) (own : Option Term) (goals : List (Term × Option Nat)) : Prop :=
  ∀ goal cell, (goal, cell) ∈ goals → own ≠ some goal →
    goal.isGround = true ∧ memo.get? goal = some (.entered cell)

/-- The goal that a part of a search builds while it is under construction. -/
def Task.own : {α : Type} → Task α → Option Term
  | _, .complete _ _ _ aim _ _ _ | _, .invoke _ _ aim _ _ _ _ => some aim
  | _, .goal .. | _, .offers .. | _, .build .. | _, .params .. => none

/-- What a part of a search starts to build is not under construction yet. -/
def Task.Apart (goals : List (Term × Option Nat)) : {α : Type} → Task α → Prop
  | _, .offers _ asked _ _ _ => asked.isGround = true → ∀ cell, (asked, cell) ∉ goals
  | _, .build _ _ _ aim _ _ => aim.isGround = true ∧ ∀ cell, (aim, cell) ∉ goals
  | _, .goal .. | _, .complete .. | _, .params .. | _, .invoke .. => True

theorem LogEntry.Answers.mono {heap later : Heap} {goal : Term} {cell : Option Nat}
    {entry : LogEntry} (answers : entry.Answers heap goal cell) (grown : heap.Grows later) :
    entry.Answers later goal cell := by
  cases answers with
  | cell same => exact .cell same
  | content tied => exact .content (grown.keeps tied)
  | cyclic => exact .cyclic

/-- A value read from the entry of a goal under construction answers for the goal. -/
theorem LogEntry.Answers.of_recall {goal : Term} {cell : Option Nat} {heap after : Heap}
    {value : Value} (read : (Memo.Entry.entered cell).recall goal heap = (.ok value, after)) :
    Answers after goal cell (.recalled goal (.entered cell) value) := by
  cases cell with
  | none => cases read
  | some cell =>
      simp only [Memo.Entry.entered, Memo.Entry.recall] at read
      split at read
      · next tied =>
          cases read
          exact .content tied
      · cases read
        exact .cell rfl

theorem Missed.mono {log later : List LogEntry} (missed : Missed log) (part : log <:+ later) :
    Missed later := by
  cases missed with
  | opened here inside unbound => exact .opened (here.trans part) inside unbound
  | tooDeep here inside => exact .tooDeep (here.trans part) inside

/-- What was not missed in the end was not missed before. -/
theorem Missed.not_before {arena reached : Arena} (unmissed : ¬ Missed reached.log)
    (grown : arena.Grows reached) : ¬ Missed arena.log :=
  fun missed => unmissed (missed.mono grown.log)

/-- An entry enters a goal or wants it. -/
inductive LogEntry.Touches (goal : Term) : LogEntry → Prop
  | entered {cell : Option Nat} : Touches goal (.entered goal cell)
  | demanded : Touches goal (.demanded goal)
  | matched {asked : Term} : Touches goal (.matched asked goal)

/-- An entry neither enters nor wants a goal under construction. -/
def LogEntry.Outside (log : List LogEntry) (entry : LogEntry) : Prop :=
  ∀ goal, entry.Touches goal → ∀ cell, (goal, cell) ∉ underConstruction log

namespace Caught

variable {arena reached : Arena}

theorem nil (heap : Heap) : Caught [] heap :=
  ⟨fun part => by simp at part, fun part => by simp at part⟩

theorem grows {log : List LogEntry} {heap later : Heap} (caught : Caught log heap)
    (grown : heap.Grows later) : Caught log later where
  once := caught.once
  answered part wants inside := by
    obtain ⟨answer, here, answers⟩ := caught.answered part wants inside
    exact ⟨answer, here, answers.mono grown⟩

theorem cons {log : List LogEntry} {heap : Heap} (caught : Caught log heap) {entry : LogEntry}
    (outside : entry.Outside log) : Caught (entry :: log) heap where
  once part := by
    rcases List.suffix_cons_iff.1 part with same | part
    · cases same
      exact outside _ .entered _
    · exact caught.once part
  answered part wants inside := by
    rcases List.suffix_cons_iff.1 part with same | part
    · cases same
      cases wants with
      | demanded => exact absurd inside (outside _ .demanded _)
      | matched => exact absurd inside (outside _ .matched _)
    · obtain ⟨answer, here, answers⟩ := caught.answered part wants inside
      exact ⟨answer, here.trans (List.suffix_cons _ _), answers⟩

/-- Entries that have to do with no goal under construction change nothing. -/
theorem proceeds (caught : Caught arena.log arena.heap)
    (proceeds : arena.Proceeds (fun point entry => entry.Outside point.log) reached) :
    Caught reached.log reached.heap := by
  refine proceeds.keeps (motive := fun arena => Caught arena.log arena.heap) ?_ caught
  intro first second step before
  obtain ⟨entry, log, outside, -⟩ := step.exists_entry
  exact log ▸ (before.cons outside).grows step.heap

/-- A demand that is answered at once changes nothing either. -/
theorem demanded (caught : Caught arena.log arena.heap) {goal : Term} {heap : Heap}
    (grown : arena.heap.Grows heap) {answer : LogEntry}
    (answers : ∀ cell, (goal, cell) ∈ underConstruction arena.log →
      answer.Answers heap goal cell)
    (enters : ∀ goal cell, answer ≠ .entered goal cell := by nofun)
    (wants : ∀ goal, ¬ answer.Wants goal := by nofun) :
    Caught (((arena.note (.demanded goal)).onHeap heap).note answer).log heap where
  once part := by
    rcases List.suffix_cons_iff.1 part with same | part
    · cases same
      exact absurd rfl (enters _ _)
    · rcases List.suffix_cons_iff.1 part with same | part
      · cases same
      · exact caught.once part
  answered part wanted inside := by
    rcases List.suffix_cons_iff.1 part with same | part
    · cases same
      exact absurd wanted (wants _)
    · rcases List.suffix_cons_iff.1 part with same | part
      · cases same
        cases wanted
        exact ⟨answer, List.suffix_refl _, answers _ inside⟩
      · obtain ⟨later, here, answered⟩ := caught.answered part wanted inside
        exact ⟨later, here.trans ((List.suffix_cons _ _).trans (List.suffix_cons _ _)),
          answered.mono grown⟩

end Caught

/-! ## 4. Runs in which nothing is missed -/

theorem Memo.Covers.of_own {memo : Memo} {own : Option Term} {goals : List (Term × Option Nat)}
    (covers : memo.Covers own goals)
    (outside : ∀ aim, own = some aim → ∀ cell, (aim, cell) ∉ goals) : memo.Covers none goals :=
  fun goal cell inside _ =>
    covers goal cell inside fun same => outside goal same cell inside

theorem Memo.Covers.insert_own {memo : Memo} {goals : List (Term × Option Nat)}
    (covers : memo.Covers none goals) (aim : Term) (entry : Memo.Entry) :
    (memo.insert aim entry).Covers (some aim) goals := by
  intro goal cell inside other
  obtain ⟨ground, found⟩ := covers goal cell inside nofun
  refine ⟨ground, ?_⟩
  rw [Memo.get?_insert, if_neg fun same => other (congrArg some same.symm), found]

theorem Memo.Covers.enter {memo : Memo} {goals : List (Term × Option Nat)}
    (covers : memo.Covers none goals) {aim : Term} (ground : aim.isGround = true)
    (outside : ∀ cell, (aim, cell) ∉ goals) (cell : Option Nat) :
    (memo.insert aim (.entered cell)).Covers none ((aim, cell) :: goals) := by
  intro goal other inside _
  rcases List.mem_cons.1 inside with same | inside
  · cases same
    exact ⟨ground, by simp⟩
  · obtain ⟨ground, found⟩ := covers goal other inside nofun
    have different : goal ≠ aim := fun same => outside other (same ▸ inside)
    exact ⟨ground, by rw [Memo.get?_insert, if_neg different, found]⟩

theorem Memo.Covers.outside {memo : Memo} {goals : List (Term × Option Nat)}
    (covers : memo.Covers none goals) {goal : Term} (unknown : Solver.known? goal memo = none)
    (cell : Option Nat) : (goal, cell) ∉ goals := by
  intro inside
  obtain ⟨ground, found⟩ := covers goal cell inside nofun
  simp [Solver.known?, ground, found] at unknown

/-- When a goal is left that was not under construction before it was entered, the others are
covered. -/
theorem Memo.Covers.leave {memo : Memo} {goals : List (Term × Option Nat)} {aim : Term}
    {cell : Option Nat} (covers : memo.Covers (some aim) ((aim, cell) :: goals))
    (outside : ∀ cell, (aim, cell) ∉ goals) : memo.Covers none goals :=
  Memo.Covers.of_own (fun goal cell inside => covers goal cell (.tail _ inside))
    fun _ same => by cases same; exact outside

/-- What is read from the memo for a goal under construction is the entry of that goal. -/
theorem Memo.Covers.entry_of_known {memo : Memo} {goals : List (Term × Option Nat)}
    (covers : memo.Covers none goals) {goal : Term} {entry : Memo.Entry}
    (known : Solver.known? goal memo = some entry) {cell : Option Nat}
    (inside : (goal, cell) ∈ goals) : entry = .entered cell :=
  Option.some.inj ((isGround_of_known? known).2.symm.trans (covers _ _ inside nofun).2)

/-- The memo from which a part starts has the entries of all goals under construction, and the goal
that the part starts to build is none of them. -/
structure Task.Covered {α : Type} (task : Task α) (arena : Arena) : Prop where
  memo : task.start.memo.Covers none (underConstruction arena.log)
  apart : task.Apart (underConstruction arena.log)

namespace Task.Covered

variable {solver : Solver} {fuel depth : Nat} {branch : Branch} {arena : Arena} {event : Event}
  {sought goal asked aim : Term} {offer : Offer} {tries : List Offer} {renamed : Renamed}
  {cell : Option Nat}

theorem unknown (covered : (Task.goal fuel sought branch depth).Covered arena)
    (unknown : Solver.known? goal branch.memo = none) :
    (LogEntry.demanded goal).Outside arena.log := by
  rintro _ ⟨⟩
  exact covered.memo.outside unknown

theorem asking (covered : (Task.goal fuel sought branch depth).Covered arena)
    (unknown : Solver.known? goal branch.memo = none) {left : Nat} :
    (Task.offers left goal branch depth tries).Covered
      (solver.noted event (arena.note (.demanded goal))) where
  memo := by rw [underConstruction_noted]; exact covered.memo
  apart := by rw [underConstruction_noted]; exact fun _ => covered.memo.outside unknown

/-- What has left the same goals under construction goes on with the offers that follow. -/
theorem rest (covered : (Task.offers fuel asked branch depth (offer :: tries)).Covered arena)
    {later : Arena} (balanced : underConstruction later.log = underConstruction arena.log) :
    (Task.offers fuel asked branch depth tries).Covered later :=
  ⟨balanced ▸ covered.memo, balanced ▸ covered.apart⟩

/-- The goal that a match makes is not under construction if nothing is missed. -/
theorem matched (covered : (Task.offers fuel asked branch depth (offer :: tries)).Covered arena)
    {subst : Substitution} (same : subst.apply asked = aim)
    (unmissed : ¬ Missed (LogEntry.matched asked aim ::
      (arena.tried offer.rule.toSignature asked branch.subst).log)) :
    (LogEntry.matched asked aim).Outside
      (arena.tried offer.rule.toSignature asked branch.subst).log := by
  rintro _ ⟨⟩ cell inside
  cases ground : asked.isGround with
  | true =>
      rw [← same, Substitution.apply_of_ground subst ground] at inside
      exact covered.apart ground cell inside
  | false => exact unmissed (.opened (List.suffix_refl _) inside ground)

theorem trying (covered : (Task.offers fuel asked branch depth (offer :: tries)).Covered arena)
    {subst : Substitution} (ground : aim.isGround = true)
    (outside : (LogEntry.matched asked aim).Outside
      (arena.tried offer.rule.toSignature asked branch.subst).log) :
    (Task.build fuel offer renamed aim { branch with subst } depth).Covered
      (solver.noted event ((arena.tried offer.rule.toSignature asked branch.subst).note
        (.matched asked aim))) where
  memo := by rw [underConstruction_noted]; exact covered.memo
  apart := by rw [underConstruction_noted]; exact ⟨ground, outside _ .matched⟩

/-- A goal that is entered was not under construction before. -/
theorem entered (covered : (Task.build fuel offer renamed aim branch depth).Covered arena) :
    (LogEntry.entered aim cell).Outside arena.log := by
  rintro _ ⟨⟩
  exact covered.apart.2

theorem entering (covered : (Task.build fuel offer renamed aim branch depth).Covered arena) :
    (Task.complete fuel offer renamed aim cell
      { branch with memo := branch.memo.insert aim (.entered cell) } depth).Covered
      (arena.note (.entered aim cell)) where
  memo := covered.memo.enter covered.apart.1 covered.apart.2 cell
  apart := trivial

theorem probed (covered : (Task.build fuel offer renamed aim branch depth).Covered arena)
    {later : Arena} (balanced : underConstruction later.log = underConstruction arena.log) :
    (Task.build fuel offer renamed aim branch depth).Covered later :=
  ⟨balanced ▸ covered.memo, balanced ▸ covered.apart⟩

end Task.Covered

/-- If no goal under construction is missed in a run, the memo of the branch to which it leads
covers them. -/
theorem Runs.covers {solver : Solver} {α : Type} {task : Task α} {arena reached : Arena}
    {result : Except Halt α} (run : Runs solver task arena result reached)
    (unmissed : ¬ Missed reached.log) (covered : task.Covered arena) {outcome : α}
    (ok : result = .ok outcome) {last : Branch} (finished : task.finish? outcome = some last) :
    last.memo.Covers task.own (underConstruction reached.log) := by
  induction run generalizing last with
  | exhausted | tooDeep | cyclic | notDeferred | probeHalts | paramsHalt | paramHalts | noView
  | bodyFails | tiedBefore => cases ok
  | unfound | noOffers | paramsFail | paramFails | slotOpen | declines =>
      cases ok
      cases finished
  | known =>
      cases ok
      cases finished
      rw [underConstruction_noted]
      exact covered.memo
  | searched _ unknown _ _ _ ih => exact ih unmissed (covered.asking unknown) ok finished
  | mismatch _ _ ih | leftOpen _ _ _ ih =>
      exact ih unmissed (covered.rest (underConstruction_noted _)) ok finished
  | settles _ same ground run _ ih =>
      have outside := covered.matched same
        (Missed.not_before unmissed (.trans (.noted .refl _ _) run.grows))
      exact ih unmissed (covered.trying ground outside) ok finished
  | moveOn _ _ _ first _ _ ih =>
      -- the branch of the first attempt is given up: its memo is that from before
      have balanced := first.balanced rfl
      rw [underConstruction_noted] at balanced
      exact ih unmissed (covered.rest balanced) ok finished
  | plain _ run ih =>
      refine (ih unmissed ⟨covered.memo, trivial⟩ ok finished).of_own ?_
      rintro _ ⟨⟩
      rw [run.balanced ok]
      exact covered.apart.2
  | withCell _ probe _ run _ ih | guarded _ probe run _ ih =>
      have covered := covered.probed (probe.balanced rfl)
      have learnt := ih (Missed.not_before unmissed (.leave .refl _ _)) covered.entering ok finished
      have inside := run.balanced ok
      cases ok
      rw [inside] at learnt
      simp only [Arena.leave, Arena.log_note, underConstruction, inside, List.tail_cons]
      exact learnt.leave covered.apart.2
  | paramsSettled _ run params ih =>
      have learnt := params (Missed.not_before unmissed run.grows) ⟨covered.memo, trivial⟩ rfl rfl
      exact ih unmissed ⟨learnt, trivial⟩ ok finished
  | noParams =>
      cases ok
      cases finished
      exact covered.memo
  | @paramFound _ _ _ _ _ _ _ _ _ _ _ result _ rest goal ih =>
      obtain _ | _ | ⟨args, branch⟩ := result <;> cases ok <;> cases finished
      have learnt := goal (Missed.not_before unmissed (.trans .passing rest.grows))
        ⟨covered.memo, trivial⟩ rfl rfl
      refine ih unmissed ⟨?_, trivial⟩ rfl rfl
      rw [underConstruction_enrolled]
      exact learnt
  | built =>
      cases ok
      cases finished
      rw [underConstruction_noted]
      exact covered.memo.insert_own _ _

/-- If no goal under construction is missed in a run, each demand for one is answered. -/
theorem Runs.caught {solver : Solver} {α : Type} {task : Task α} {arena reached : Arena}
    {result : Except Halt α} (run : Runs solver task arena result reached)
    (unmissed : ¬ Missed reached.log) (covered : task.Covered arena)
    (caught : Caught arena.log arena.heap) : Caught reached.log reached.heap := by
  induction run with
  | exhausted | noOffers | noParams => exact caught
  | tooDeep =>
      refine caught.demanded (.refl _) fun cell inside => ?_
      exact absurd (.tooDeep (List.suffix_refl _) inside) unmissed
  | cyclic same known =>
      refine caught.demanded (.refl _) fun cell inside => ?_
      cases cell with
      | none => exact .cyclic
      | some cell => cases covered.memo.entry_of_known known inside
  | known same known read =>
      refine (caught.demanded (Memo.Entry.recall_extends read).grows fun cell inside => ?_).proceeds
        (.noted .refl _ _)
      cases covered.memo.entry_of_known known inside
      exact .of_recall read
  | unfound _ unknown _ _ ih =>
      exact (ih (Missed.not_before unmissed (.noted .refl _ _)) (covered.asking unknown)
        (caught.proceeds (.asking (covered.unknown unknown)))).proceeds (.noted .refl _ _)
  | searched _ unknown _ _ _ ih =>
      exact ih unmissed (covered.asking unknown)
        (caught.proceeds (.asking (covered.unknown unknown)))
  | mismatch _ _ ih | leftOpen _ _ _ ih =>
      exact ih unmissed (covered.rest (underConstruction_noted _)) (caught.proceeds .skipping)
  | settles _ same ground run _ ih =>
      have outside := covered.matched same
        (Missed.not_before unmissed (.trans (.noted .refl _ _) run.grows))
      exact ih unmissed (covered.trying ground outside)
        (caught.proceeds (.trying nofun outside))
  | moveOn _ same ground first rest one two =>
      have unmissed_first := Missed.not_before unmissed rest.grows
      have outside := covered.matched same
        (Missed.not_before unmissed_first (.trans (.noted .refl _ _) first.grows))
      have caught := one unmissed_first (covered.trying ground outside)
        (caught.proceeds (.trying nofun outside))
      have balanced := first.balanced rfl
      rw [underConstruction_noted] at balanced
      exact two unmissed (covered.rest balanced) caught
  | plain _ _ ih => exact ih unmissed ⟨covered.memo, trivial⟩ caught
  | withCell _ probe _ run one two | guarded _ probe run one two =>
      have unmissed := Missed.not_before unmissed (.leave .refl _ _)
      have caught := one (Missed.not_before unmissed (.trans (.note .refl) run.grows))
        ⟨covered.memo, trivial⟩ caught
      have covered := covered.probed (probe.balanced rfl)
      exact (two unmissed covered.entering (caught.proceeds (.note .refl covered.entered))).proceeds
        (.leave .refl _ _)
  | notDeferred _ _ _ ih =>
      exact (ih (Missed.not_before unmissed (.note .refl)) ⟨covered.memo, trivial⟩
        caught).proceeds (.note .refl)
  | probeHalts _ _ ih | paramsHalt _ ih | paramsFail _ ih | paramHalts _ ih =>
      exact ih unmissed ⟨covered.memo, trivial⟩ caught
  | paramsSettled params run one two =>
      have unmissed_params := Missed.not_before unmissed run.grows
      have learnt := params.covers unmissed_params ⟨covered.memo, trivial⟩ rfl rfl
      exact two unmissed ⟨learnt, trivial⟩ (one unmissed_params ⟨covered.memo, trivial⟩ caught)
  | paramFails _ ih =>
      exact (ih (Missed.not_before unmissed (.noted .refl _ _)) ⟨covered.memo, trivial⟩
        caught).proceeds (.noted .refl _ _)
  | paramFound goal rest one two =>
      have unmissed_goal := Missed.not_before unmissed (.trans .passing rest.grows)
      have learnt := goal.covers unmissed_goal ⟨covered.memo, trivial⟩ rfl rfl
      have caught := one unmissed_goal ⟨covered.memo, trivial⟩ caught
      refine two unmissed ⟨?_, trivial⟩ (caught.proceeds .passing)
      rw [underConstruction_enrolled]
      exact learnt
  | slotOpen => exact caught.proceeds (.noted .refl _ _)
  | noView => exact caught.proceeds (.note .refl)
  | bodyFails _ _ ran => exact caught.proceeds (.note (.calling ran))
  | declines _ _ ran => exact caught.proceeds (.noted (.calling ran) _ _)
  | tiedBefore _ _ ran tied =>
      have unsettled : Heap.settle? _ (some _) _ = none := tied
      exact caught.proceeds (.note (.unsettled (.calling ran) unsettled))
  | built _ _ ran tied => exact caught.proceeds (.building ran tied)

/-! ## 5. Whole searches -/

/-- If all goals under construction are answered for, none of them is missed. -/
theorem Caught.not_missed {log : List LogEntry} {heap : Heap} (caught : Caught log heap)
    (apart : AtEveryPoint LogEntry.AnswersNoMatch log) : ¬ Missed log := by
  rintro (⟨here, inside, -⟩ | ⟨here, inside⟩)
  · obtain ⟨answer, follows, answers⟩ := caught.answered here .matched inside
    exact apart _ _ follows _ _ _ answers _ _ _ rfl
  · obtain ⟨answer, follows, answers⟩ :=
      caught.answered ((List.suffix_cons _ _).trans here) .demanded inside
    have same := (List.suffix_of_suffix_length_le follows here (Nat.le_refl _)).eq_of_length rfl
    cases same
    cases answers

/-- In a whole search, no goal is entered while it is under construction and each demand for such a
goal is answered, if and only if no goal with variables is made one of them by a match and none of
them is looked for at a depth beyond the limit. -/
theorem reentrance_caught_iff (solver : Solver) (fuel : Nat) (goal : Term)
    (providers : List Value) (heap : Heap) (stamp : Nat) :
    Caught ((solver.solve fuel goal providers).runFrom ⟨heap, stamp, []⟩).2.log
        ((solver.solve fuel goal providers).runFrom ⟨heap, stamp, []⟩).2.heap ↔
      ¬ Missed ((solver.solve fuel goal providers).runFrom ⟨heap, stamp, []⟩).2.log := by
  refine ⟨fun caught => caught.not_missed ?_, ?_⟩
  · exact solve_answersNoMatch solver fuel goal providers heap stamp
  rw [runFrom_solve]
  have ends := derives solver fuel goal providers ⟨heap, stamp, []⟩
  generalize (solver.derive fuel goal providers).runFrom _ = ended at ends ⊢
  obtain ⟨result, reached⟩ := ended
  have begin {started : Arena} (reports : Arena.Reports ⟨heap, stamp, []⟩ started) :
      Caught started.log started.heap := (Caught.nil heap).proceeds (.of_reports reports)
  have caught {started reached : Arena} {result : Except Halt (Option Found)}
      (unmissed : ¬ Missed reached.log) (reports : Arena.Reports ⟨heap, stamp, []⟩ started)
      (run : Runs solver (.goal fuel goal (solver.startingBranch providers) 0) started result
        reached) : Caught reached.log reached.heap := by
    refine run.caught unmissed ⟨?_, trivial⟩ (begin reports)
    rw [underConstruction_of_reports reports]
    exact fun _ _ inside => by cases inside
  intro unmissed
  cases ends with
  | openGoal => exact (begin (.refl _)).proceeds (.note .refl)
  | unknownProvider reports => exact (begin reports).proceeds (.note .refl)
  | halts _ reports run => exact caught unmissed reports run
  | fails _ reports run =>
      exact (caught (Missed.not_before unmissed (.note .refl)) reports run).proceeds (.note .refl)
  | finds _ reports run =>
      exact (caught (Missed.not_before unmissed (.noted .refl _ _)) reports run).proceeds
        (.noted .refl _ _)

/-! ## 6. A match that is missed -/

def entersAgain : List LogEntry → Bool
  | [] => false
  | .entered goal _ :: before =>
      (underConstruction before).any (·.1 == goal) || entersAgain before
  | _ :: before => entersAgain before

theorem exists_of_entersAgain {log : List LogEntry} (again : entersAgain log = true) :
    ∃ goal cell other before, .entered goal cell :: before <:+ log ∧
      (goal, other) ∈ underConstruction before := by
  induction log with
  | nil => cases again
  | cons entry log ih =>
      have later (again : entersAgain log = true) : ∃ goal cell other before,
          .entered goal cell :: before <:+ entry :: log ∧
            (goal, other) ∈ underConstruction before := by
        obtain ⟨goal, cell, other, before, here, inside⟩ := ih again
        exact ⟨goal, cell, other, before, here.trans (List.suffix_cons _ _), inside⟩
      cases entry with
      | entered goal cell =>
          rcases Bool.or_eq_true_iff.1 again with now | again
          · obtain ⟨⟨_, other⟩, inside, same⟩ := List.any_eq_true.1 now
            obtain rfl : _ = goal := by simpa using same
            exact ⟨_, cell, other, log, List.suffix_refl _, inside⟩
          · exact later again
      | _ => exact later again

/-- A shape whose rules for one goal include one that needs some goal of the same constructor, after
one that cannot be built. -/
def wrapping : ShapeDecl where
  kind := .provider 0
  name := "Host"
  bearing := true
  base := none
  rules := [
    ⟨"first", .app "W" [.constant "Int"], [.constant "Missing"], Script.recipe [] []⟩,
    ⟨"other", .app "W" [.constant "Bool"], [], Script.recipe [] [.produce .unit]⟩,
    ⟨"last", .app "W" [.constant "Int"], [.app "W" [.var "x"]], Script.recipe [] [.produce .unit]⟩]

/-- A search in which the goal `W<x>` of the last rule for `W<Int>` becomes `W<Int>` by a match with
the return pattern of the first one. -/
def wrappingSearch : Except Halt Value × Arena :=
  ((⟨⟨[wrapping.toShape]⟩, .silent, .word⟩ : Solver).solve 8 (.app "W" [.constant "Int"])
    [.mk 0 (.provider 0 "p" none)]).runFrom ⟨⟨1, []⟩, 0, []⟩

/-- `W<Int>` is entered a second time while it is under construction. -/
theorem open_demand_reenters : ¬ Caught wrappingSearch.2.log wrappingSearch.2.heap := by
  intro caught
  have again : entersAgain wrappingSearch.2.log = true := by decide +kernel
  obtain ⟨_, _, _, _, here, inside⟩ := exists_of_entersAgain again
  exact caught.once here inside

end Synthesis
