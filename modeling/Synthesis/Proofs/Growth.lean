import Mathlib.Logic.Relation
import Synthesis.Proofs.Runs

/-!
# What a search does to what its parts share

A search changes an arena in few ways: with each it writes down one entry, and it may take a stamp,
add to the heap or tie a cell. `Arena.Step` has a rule for each of them, and what every step keeps
is kept by all that a search does between two arenas (`Arena.Proceeds`). Which entries may be
written down, and where, is a parameter.

Results:
1. `Arena.Step.exists_entry`, `Arena.Step.heap`, `Arena.Step.stamp`: a step adds one entry to the
   log and takes back no stamp, no identity and no cell; a cell that is tied stays tied.
2. `AtEveryPoint.proceeds`: statements about every point of a search are statements about all
   suffixes of its log, whose latest entry stands first. They hold if they hold of each entry that
   is written down.
-/
namespace Synthesis

/-! ## 1. Heaps -/

namespace Heap

/-- A heap grows into another one: no identity and no cell is taken back, and a cell that is tied
stays tied to its value. -/
structure Grows (old new : Heap) : Prop where
  nextId_le : old.nextId ≤ new.nextId
  cells_le : old.cells.length ≤ new.cells.length
  keeps : ∀ {cell : Nat} {value : Value}, old.content? cell = some value →
    new.content? cell = some value

theorem Grows.refl (heap : Heap) : heap.Grows heap := ⟨Nat.le_refl _, Nat.le_refl _, id⟩

theorem Grows.trans {first second third : Heap} (one : first.Grows second)
    (two : second.Grows third) : first.Grows third :=
  ⟨Nat.le_trans one.nextId_le two.nextId_le, Nat.le_trans one.cells_le two.cells_le,
    two.keeps ∘ one.keeps⟩

/-- A heap that extends another one has the same content in the cells of that one. -/
theorem Extends.content?_eq {old new : Heap} (extended : old.Extends new) {cell : Nat}
    (there : cell < old.cells.length) : new.content? cell = old.content? cell := by
  obtain ⟨more, same⟩ := extended.cells_prefix
  rw [content?, content?, ← same, List.getElem?_append_left there]

theorem lt_of_content? {heap : Heap} {cell : Nat} {value : Value}
    (tied : heap.content? cell = some value) : cell < heap.cells.length := by
  rw [content?, Option.join_eq_some_iff] at tied
  exact (List.getElem?_eq_some_iff.1 tied).1

theorem Extends.grows {old new : Heap} (extended : old.Extends new) : old.Grows new where
  nextId_le := extended.nextId_le
  cells_le := extended.cells_prefix.length_le
  keeps tied := by rw [extended.content?_eq (lt_of_content? tied), tied]

theorem tie?_eq_some {heap tied : Heap} {cell : Nat} {value : Value}
    (success : heap.tie? cell value = some tied) :
    heap.content? cell = none ∧ tied = { heap with cells := heap.cells.set cell (some value) } := by
  unfold tie? at success
  split at success
  · next empty => exact ⟨by rw [content?, empty]; rfl, (Option.some.inj success).symm⟩
  · cases success
  · cases success

theorem lt_of_tie? {heap tied : Heap} {cell : Nat} {value : Value}
    (success : heap.tie? cell value = some tied) : cell < heap.cells.length := by
  unfold tie? at success
  split at success
  · next empty => exact (List.getElem?_eq_some_iff.1 empty).1
  · cases success
  · cases success

theorem tie?_eq_none {heap : Heap} {cell : Nat} {value : Value}
    (failed : heap.tie? cell value = none) (there : cell < heap.cells.length) :
    ∃ held, heap.content? cell = some held := by
  unfold tie? at failed
  split at failed
  · cases failed
  · next held content => exact ⟨held, by rw [content?, content]; rfl⟩
  · next absent => exact absurd there (Nat.not_lt.2 (List.getElem?_eq_none_iff.1 absent))

theorem content?_tie_of_ne {heap tied : Heap} {cell other : Nat} {value : Value}
    (success : heap.tie? cell value = some tied) (differs : other ≠ cell) :
    tied.content? other = heap.content? other := by
  obtain ⟨-, rfl⟩ := tie?_eq_some success
  simp only [content?, List.getElem?_set_ne differs.symm]

theorem content?_tie {heap tied : Heap} {cell : Nat} {value : Value}
    (success : heap.tie? cell value = some tied) (there : cell < heap.cells.length) :
    tied.content? cell = some value := by
  obtain ⟨-, rfl⟩ := tie?_eq_some success
  simp [content?, there]

theorem tie?_grows {heap tied : Heap} {cell : Nat} {value : Value}
    (success : heap.tie? cell value = some tied) : heap.Grows tied := by
  obtain ⟨untied, same⟩ := tie?_eq_some success
  refine ⟨by simp [same], by simp [same], fun {other} _ content => ?_⟩
  by_cases differs : other = cell
  · simp [differs, untied] at content
  · rw [content?_tie_of_ne success differs, content]

theorem settle?_grows {heap tied : Heap} {cell : Option Nat} {value : Value}
    (success : heap.settle? cell value = some tied) : heap.Grows tied := by
  cases cell with
  | none => cases success; exact .refl _
  | some cell => exact tie?_grows success

end Heap

theorem Memo.Entry.recall_extends {entry : Memo.Entry} {goal : Term} {heap after : Heap}
    {result : Except Failure Value} (read : entry.recall goal heap = (result, after)) :
    heap.Extends after := by
  cases entry with
  | ready value => cases read; exact .refl _
  | guarded => cases read; exact .refl _
  | pending cell =>
      simp only [Memo.Entry.recall] at read
      split at read
      · cases read; exact .refl _
      · cases read; exact heap.extends_alloc _

/-- A recipe only adds to the heap. -/
theorem Recipe.run_extends {recipe : Recipe} {given : Inputs} {heap after : Heap}
    {outcome : Except Failure Verdict} (ran : (recipe.run given heap).val = (outcome, after)) :
    heap.Extends after := by
  have extended := (recipe.run given heap).property
  rwa [ran] at extended

/-! ## 2. Steps -/

/-- An entry with which nothing but the log changes. -/
def LogEntry.isPlain : LogEntry → Bool
  | .reported _ | .demanded _ | .matched .. | .entered .. | .left _ | .passed .. | .halted _ => true
  | .recalled .. | .tried .. | .called _ | .produced .. => false

def LogEntry.produces : LogEntry → Bool
  | .produced .. => true
  | .reported _ | .demanded _ | .recalled .. | .tried .. | .matched .. | .entered .. | .left _
  | .passed .. | .called _ | .halted _ => false

namespace Arena

/-- What a search does to an arena at one point. The entry that it writes down is due there. -/
inductive Step (due : Arena → LogEntry → Prop) (arena : Arena) : Arena → Prop where
  | note {entry : LogEntry} : entry.isPlain = true → due arena entry →
      Step due arena (arena.note entry)
  | tried {rule : Signature} {goal : Term} {subst : Substitution} :
      due arena (.tried rule (arena.stamp + 1) goal subst) →
      Step due arena (arena.tried rule goal subst)
  | recalled {goal : Term} {entry : Memo.Entry} {value : Value} {heap : Heap} :
      entry.recall goal arena.heap = (.ok value, heap) → due arena (.recalled goal entry value) →
      Step due arena ((arena.onHeap heap).note (.recalled goal entry value))
  | called {call : Call} {outcome : Except Failure Verdict} {heap : Heap} :
      call.heap = arena.heap → (call.rule.recipe.run call.inputs call.heap).val = (outcome, heap) →
      due arena (.called call) → Step due arena ((arena.note (.called call)).onHeap heap)
  -- what was produced is tied to the cell of its goal, or it cannot be
  | settled {goal : Term} {own : Option Nat} {value : Value} {tied : Heap} :
      arena.heap.settle? own value = some tied → due arena (.produced goal own value) →
      Step due arena ((arena.note (.produced goal own value)).onHeap tied)
  | unsettled {goal : Term} {own : Option Nat} {value : Value} :
      arena.heap.settle? own value = none → due arena (.produced goal own value) →
      Step due arena (arena.note (.produced goal own value))

namespace Step

variable {due may : Arena → LogEntry → Prop} {arena reached : Arena}

theorem mono (step : arena.Step due reached)
    (weaker : ∀ point entry, due point entry → may point entry) : arena.Step may reached := by
  cases step with
  | note plain now => exact .note plain (weaker _ _ now)
  | tried now => exact .tried (weaker _ _ now)
  | recalled read now => exact .recalled read (weaker _ _ now)
  | called same ran now => exact .called same ran (weaker _ _ now)
  | settled tied now => exact .settled tied (weaker _ _ now)
  | unsettled untied now => exact .unsettled untied (weaker _ _ now)

/-- A step adds one entry to the log. If it says that a rule is tried, the stamp is a new one. -/
theorem exists_entry (step : arena.Step due reached) :
    ∃ entry, reached.log = entry :: arena.log ∧ due arena entry ∧
      ∀ rule stamp goal subst, entry = .tried rule stamp goal subst →
        stamp = arena.stamp + 1 ∧ stamp ≤ reached.stamp := by
  cases step with
  | note plain now => exact ⟨_, rfl, now, fun _ _ _ _ same => by cases same; cases plain⟩
  | tried now =>
      refine ⟨_, rfl, now, fun _ _ _ _ same => ?_⟩
      cases same
      exact ⟨rfl, Nat.le_refl _⟩
  | recalled _ now | called _ _ now | settled _ now | unsettled _ now => exact ⟨_, rfl, now, nofun⟩

/-- Unless a value is produced, a step only adds to the heap. -/
theorem heap_extends (step : arena.Step (fun _ entry => entry.produces = false) reached) :
    arena.heap.Extends reached.heap := by
  cases step with
  | note | tried => exact .refl _
  | recalled read => exact Memo.Entry.recall_extends read
  | called same ran => exact same ▸ Recipe.run_extends ran
  | settled _ now | unsettled _ now => cases now

theorem heap (step : arena.Step due reached) : arena.heap.Grows reached.heap := by
  cases step with
  | note | tried | unsettled => exact .refl _
  | recalled read => exact (Memo.Entry.recall_extends read).grows
  | called same ran => exact (same ▸ Recipe.run_extends ran : Heap.Extends _ _).grows
  | settled tied => exact Heap.settle?_grows tied

theorem stamp (step : arena.Step due reached) : arena.stamp ≤ reached.stamp := by
  cases step with
  | tried => exact Nat.le_succ _
  | note | recalled | called | settled | unsettled => exact Nat.le_refl _

end Step

/-! ## 3. What is done between two arenas -/

/-- A search goes on from an arena to another one. -/
def Proceeds (due : Arena → LogEntry → Prop) : Arena → Arena → Prop :=
  Relation.ReflTransGen (Step due)

namespace Proceeds

variable {due may : Arena → LogEntry → Prop} {first second third arena reached : Arena}

theorem refl : arena.Proceeds due arena := Relation.ReflTransGen.refl

theorem trans (one : first.Proceeds due second) (two : second.Proceeds due third) :
    first.Proceeds due third := Relation.ReflTransGen.trans one two

/-- What each step keeps is kept by all of them. -/
theorem keeps {motive : Arena → Prop} (proceeds : arena.Proceeds due reached)
    (step : ∀ {first second : Arena}, first.Step due second → motive first → motive second)
    (holds : motive arena) : motive reached := by
  induction proceeds with
  | refl => exact holds
  | tail _ last ih => exact step last ih

theorem mono (proceeds : arena.Proceeds due reached)
    (weaker : ∀ point entry, due point entry → may point entry) : arena.Proceeds may reached :=
  proceeds.keeps (motive := arena.Proceeds may) (fun step before => before.tail (step.mono weaker))
    refl

-- the ways in which a search goes on

theorem note (before : first.Proceeds due second) {entry : LogEntry}
    (now : due second entry := by first | trivial | nofun)
    (plain : entry.isPlain = true := by rfl) : first.Proceeds due (second.note entry) :=
  before.tail (.note plain now)

theorem tried (before : first.Proceeds due second) (rule : Signature) (goal : Term)
    (subst : Substitution)
    (now : due second (.tried rule (second.stamp + 1) goal subst) := by first | trivial | nofun) :
    first.Proceeds due (second.tried rule goal subst) :=
  before.tail (.tried now)

theorem leave {α : Type} (before : first.Proceeds due second) (goal : Term)
    (result : Except Halt α) (now : due second (.left goal) := by first | trivial | nofun) :
    first.Proceeds due (second.leave goal result) := by
  cases result with
  | ok => exact before.note now
  | error => exact before

theorem of_reports (reports : arena.Reports reached)
    (silent : ∀ point event, due point (.reported event) := by
      intro _ _; first | trivial | nofun) :
    arena.Proceeds due reached :=
  reports.keeps (fun _ _ before => before.note (silent _ _)) refl

theorem noted (before : first.Proceeds due second) (solver : Solver) (event : Event)
    (now : due second (.reported event) := by first | trivial | nofun) :
    first.Proceeds due (solver.noted event second) := by
  unfold Solver.noted
  split
  · exact before
  · exact before.note now

theorem enrolled (before : first.Proceeds due second) (solver : Solver) (value : Value)
    (providers : Providers)
    (now : ∀ count, due second (.reported (.admitting value.kind count)) := by
      intro _; first | trivial | nofun) :
    first.Proceeds due (solver.enrolled value providers second) := by
  unfold Solver.enrolled
  split
  · exact before.noted solver _ (now _)
  · exact before

theorem recalled (before : first.Proceeds due second) {goal : Term} {entry : Memo.Entry}
    {value : Value} {heap : Heap} (read : entry.recall goal second.heap = (.ok value, heap))
    (now : due second (.recalled goal entry value) := by first | trivial | nofun) :
    first.Proceeds due ((second.onHeap heap).note (.recalled goal entry value)) :=
  before.tail (.recalled read now)

theorem settled (before : first.Proceeds due second) {goal : Term} {own : Option Nat}
    {value : Value} {tied : Heap} (success : second.heap.settle? own value = some tied)
    (now : due second (.produced goal own value) := by first | trivial | nofun) :
    first.Proceeds due ((second.note (.produced goal own value)).onHeap tied) :=
  before.tail (.settled success now)

theorem unsettled (before : first.Proceeds due second) {goal : Term} {own : Option Nat}
    {value : Value} (failed : second.heap.settle? own value = none)
    (now : due second (.produced goal own value) := by first | trivial | nofun) :
    first.Proceeds due (second.note (.produced goal own value)) :=
  before.tail (.unsettled failed now)

-- what a search does between its parts

variable {solver : Solver}

theorem asking {goal : Term} {event : Event}
    (one : due arena (.demanded goal) := by first | trivial | nofun)
    (two : due (arena.note (.demanded goal)) (.reported event) := by first | trivial | nofun) :
    arena.Proceeds due (solver.noted event (arena.note (.demanded goal))) :=
  (refl.note one).noted solver event two

theorem reading {goal : Term} {entry : Memo.Entry} {value : Value} {heap : Heap} {event : Event}
    (read : entry.recall goal arena.heap = (.ok value, heap))
    (one : due arena (.demanded goal) := by first | trivial | nofun)
    (two : due (arena.note (.demanded goal)) (.recalled goal entry value) := by
      first | trivial | nofun)
    (three : ∀ point, due point (.reported event) := by intro _; first | trivial | nofun) :
    arena.Proceeds due (solver.noted event
      (((arena.note (.demanded goal)).onHeap heap).note (.recalled goal entry value))) :=
  ((refl.note one).recalled read two).noted solver event (three _)

theorem skipping {rule : Signature} {goal : Term} {subst : Substitution} {event : Event}
    (one : due arena (.tried rule (arena.stamp + 1) goal subst) := by first | trivial | nofun)
    (two : due (arena.tried rule goal subst) (.reported event) := by first | trivial | nofun) :
    arena.Proceeds due (solver.noted event (arena.tried rule goal subst)) :=
  (refl.tried rule goal subst one).noted solver event two

theorem trying {rule : Signature} {asked aim : Term} {subst : Substitution} {event : Event}
    (one : due arena (.tried rule (arena.stamp + 1) asked subst) := by first | trivial | nofun)
    (two : due (arena.tried rule asked subst) (.matched asked aim) := by first | trivial | nofun)
    (three : ∀ point, due point (.reported event) := by intro _; first | trivial | nofun) :
    arena.Proceeds due
      (solver.noted event ((arena.tried rule asked subst).note (.matched asked aim))) :=
  ((refl.tried rule asked subst one).note two).noted solver event (three _)

theorem passing {goal : Term} {value : Value} {providers : Providers}
    (one : due arena (.passed goal value) := by first | trivial | nofun)
    (two : ∀ count, due (arena.note (.passed goal value))
        (.reported (.admitting value.kind count)) := by intro _; first | trivial | nofun) :
    arena.Proceeds due (solver.enrolled value providers (arena.note (.passed goal value))) :=
  (refl.note one).enrolled solver value providers two

theorem calling {rule : Rule} {goal : Term} {given : Inputs} {heap : Heap}
    {outcome : Except Failure Verdict}
    (ran : (rule.recipe.run given arena.heap).val = (outcome, heap))
    (now : due arena (.called ⟨rule, goal, given, arena.heap⟩) := by first | trivial | nofun) :
    arena.Proceeds due ((arena.note (.called ⟨rule, goal, given, arena.heap⟩)).onHeap heap) :=
  refl.tail (.called rfl ran now)

theorem building {rule : Rule} {goal : Term} {given : Inputs} {own : Option Nat} {value : Value}
    {heap tied : Heap} {event : Event}
    (ran : (rule.recipe.run given arena.heap).val = (.ok (.produced value), heap))
    (settled : heap.settle? own value = some tied)
    (one : due arena (.called ⟨rule, goal, given, arena.heap⟩) := by first | trivial | nofun)
    (two : ∀ point, due point (.produced goal own value) := by intro _; first | trivial | nofun)
    (three : ∀ point, due point (.reported event) := by intro _; first | trivial | nofun) :
    arena.Proceeds due (solver.noted event
      ((((arena.note (.called ⟨rule, goal, given, arena.heap⟩)).onHeap heap).note
        (.produced goal own value)).onHeap tied)) :=
  ((calling ran one).settled settled (two _)).noted solver event (three _)

end Proceeds

/-- An arena grows into another one, whatever was written down. -/
abbrev Grows (arena reached : Arena) : Prop := arena.Proceeds (fun _ _ => True) reached

namespace Proceeds

variable {due : Arena → LogEntry → Prop} {arena reached : Arena}

theorem grows (proceeds : arena.Proceeds due reached) : arena.Grows reached :=
  proceeds.mono fun _ _ _ => trivial

theorem log (grown : arena.Proceeds (fun _ _ => True) reached) : arena.log <:+ reached.log := by
  refine grown.keeps (motive := fun reached => arena.log <:+ reached.log) ?_ (List.suffix_refl _)
  intro first second step before
  obtain ⟨entry, log, -⟩ := step.exists_entry
  exact log ▸ before.trans (List.suffix_cons _ _)

theorem subset (grown : arena.Proceeds (fun _ _ => True) reached) : arena.log ⊆ reached.log :=
  grown.log.subset

theorem heap (grown : arena.Proceeds (fun _ _ => True) reached) :
    arena.heap.Grows reached.heap :=
  grown.keeps (motive := fun reached => arena.heap.Grows reached.heap)
    (fun step before => before.trans step.heap) (.refl _)

theorem stamp (grown : arena.Proceeds (fun _ _ => True) reached) : arena.stamp ≤ reached.stamp :=
  grown.keeps (motive := fun reached => arena.stamp ≤ reached.stamp)
    (fun step before => Nat.le_trans before step.stamp) (Nat.le_refl _)

end Proceeds

/-- A search goes on from an arena to another one and produces nothing. -/
abbrev Silently (arena reached : Arena) : Prop :=
  arena.Proceeds (fun _ entry => entry.produces = false) reached

namespace Proceeds

variable {due : Arena → LogEntry → Prop} {arena reached : Arena}

/-- Unless values are produced, nothing is done to the cells that were there. -/
theorem heap_extends (silent : arena.Proceeds (fun _ entry => entry.produces = false) reached) :
    arena.heap.Extends reached.heap :=
  silent.keeps (motive := fun reached => arena.heap.Extends reached.heap)
    (fun step before => before.trans step.heap_extends) (.refl _)

/-- All entries that are new are of some kind if those are that are due. -/
theorem exists_entries {kind : LogEntry → Prop} (proceeds : arena.Proceeds due reached)
    (kinds : ∀ point entry, due point entry → kind entry) :
    ∃ new, reached.log = new ++ arena.log ∧ ∀ entry ∈ new, kind entry := by
  refine proceeds.keeps (motive := fun reached => ∃ new, reached.log = new ++ arena.log ∧
    ∀ entry ∈ new, kind entry) ?_ ⟨[], rfl, nofun⟩
  rintro first second step ⟨new, before, all⟩
  obtain ⟨entry, log, now, -⟩ := step.exists_entry
  exact ⟨entry :: new, by rw [log, before, List.cons_append],
    List.forall_mem_cons.2 ⟨kinds _ _ now, all⟩⟩

end Proceeds

end Arena

/-! ## 4. Entries between two arenas -/

/-- An entry was written down between two arenas. -/
def Arena.Wrote (arena reached : Arena) (entry : LogEntry) : Prop :=
  ∃ new, reached.log = new ++ arena.log ∧ entry ∈ new

namespace Arena.Wrote

variable {first second third : Arena} {entry : LogEntry}

theorem of_earlier (wrote : first.Wrote second entry) (grown : second.Grows third) :
    first.Wrote third entry := by
  obtain ⟨new, same, member⟩ := wrote
  obtain ⟨more, whole⟩ := grown.log
  exact ⟨more ++ new, by rw [← whole, same, List.append_assoc], List.mem_append_right _ member⟩

theorem of_later (wrote : second.Wrote third entry) (grown : first.Grows second) :
    first.Wrote third entry := by
  obtain ⟨new, same, member⟩ := wrote
  obtain ⟨more, whole⟩ := grown.log
  exact ⟨new ++ more, by rw [same, ← whole, List.append_assoc], List.mem_append_left _ member⟩

/-- What was written down between two arenas was so before or after one in between. -/
theorem cases (wrote : first.Wrote third entry) (early : first.Grows second)
    (late : second.Grows third) : first.Wrote second entry ∨ second.Wrote third entry := by
  obtain ⟨new, same, member⟩ := wrote
  obtain ⟨one, before⟩ := early.log
  obtain ⟨two, after⟩ := late.log
  obtain rfl : new = two ++ one :=
    List.append_cancel_right (by rw [← same, ← after, ← before, List.append_assoc])
  rcases List.mem_append.1 member with later | earlier
  · exact .inr ⟨two, after.symm, later⟩
  · exact .inl ⟨one, before.symm, earlier⟩

/-- An entry that was written down is of the kind of those that are due. -/
theorem of_proceeds {due : Arena → LogEntry → Prop} {kind : LogEntry → Prop}
    (wrote : first.Wrote second entry) (proceeds : first.Proceeds due second)
    (kinds : ∀ point entry, due point entry → kind entry) : kind entry := by
  obtain ⟨new, same, member⟩ := wrote
  obtain ⟨entries, log, all⟩ := proceeds.exists_entries kinds
  obtain rfl : new = entries := List.append_cancel_right (same.symm.trans log)
  exact all _ member

end Arena.Wrote

/-! ## 5. Points of a log -/

/-- Every entry of a log is related to the log that was there before it. -/
def AtEveryPoint (related : LogEntry → List LogEntry → Prop) (log : List LogEntry) : Prop :=
  ∀ entry before, entry :: before <:+ log → related entry before

namespace AtEveryPoint

variable {related : LogEntry → List LogEntry → Prop} {arena reached : Arena}

theorem nil : AtEveryPoint related [] := fun entry before part => by simp at part

theorem cons {log : List LogEntry} (holds : AtEveryPoint related log) {entry : LogEntry}
    (now : related entry log := by first | trivial | nofun) :
    AtEveryPoint related (entry :: log) := by
  intro other earlier part
  rcases List.suffix_cons_iff.1 part with same | part
  · cases same
    exact now
  · exact holds other earlier part

/-- What holds of every entry that is written down holds at every point. -/
theorem proceeds (holds : AtEveryPoint related arena.log)
    (proceeds : arena.Proceeds (fun point entry => related entry point.log) reached) :
    AtEveryPoint related reached.log := by
  refine proceeds.keeps (motive := fun reached => AtEveryPoint related reached.log) ?_ holds
  intro first second step before
  obtain ⟨entry, log, now, -⟩ := step.exists_entry
  exact log ▸ before.cons now

end AtEveryPoint

end Synthesis
