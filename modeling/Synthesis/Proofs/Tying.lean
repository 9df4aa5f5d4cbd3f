import Synthesis.Proofs.Reentrance
import Synthesis.Proofs.Sharing

/-!
# Knots are tied

A demand for a goal under construction is answered with the cell of the goal, which is empty then.
Whether it is tied is settled only when the construction comes to its end, maybe many goals later.

Results:
1. `exists_construction`: what is under construction at a point of a log and not in the end was
   entered before the point and left after it.
2. `Task.WritesWithin.nested`: the goal that was entered last is left first, and a cell is read from
   the memo only while its goal is under construction.
3. `Arena.Step.keepsHolds`: while a search goes on, every cell holds the value produced for it.
4. `solve_ties_knots`: after a search that gives a value, every cell that was read from the memo is
   tied to the value of the construction that put it there, unless a construction around the demand
   was given up.
-/
namespace Synthesis

open Substitution (Triangular)

/-! ## 1. Constructions -/

/-- A goal that was entered after some part of a log is under construction from then on. -/
def Stays (goal : Term) (own : Option Nat) (before log : List LogEntry) : Prop :=
  ∀ later, .entered goal own :: before <:+ later → later <:+ log →
    (goal, own) :: underConstruction before <:+ underConstruction later

/-- A construction around a point of a log: a goal was entered after `before`, with a cell or as
guarded, and it was left after `last`. In between it was under construction all the time, and in the
end it was the latest goal to be so. -/
structure Construction (log point : List LogEntry) (goal : Term) (own : Option Nat)
    (before last : List LogEntry) : Prop where
  entered : .entered goal own :: before <:+ point
  around : point <:+ last
  left : .left goal :: last <:+ log
  stays : Stays goal own before last
  latest : underConstruction last = (goal, own) :: underConstruction before

/-- A log ends with the value that was produced for a goal; nothing but reports come after it. -/
def Produces (log : List LogEntry) (goal : Term) (own : Option Nat) (value : Value) : Prop :=
  ∃ (events : List Event) (before : List LogEntry),
    log = events.map .reported ++ .produced goal own value :: before

/-- All constructions around a point of a log end with a value for their goal, so that the point
does not lie in one that was given up. -/
def KeptAt (log point : List LogEntry) : Prop :=
  ∀ goal own before last, Construction log point goal own before last →
    ∃ value, Produces last goal own value

/-- What an entry says of the goals under construction: the latest one is left, and cells that are
read from the memo are those of such goals. -/
def LogEntry.Nested : LogEntry → List LogEntry → Prop
  | .left goal, before => ∃ own rest, underConstruction before = (goal, own) :: rest
  | .recalled goal (.pending cell) _, before => (goal, some cell) ∈ underConstruction before
  | _, _ => True

section

variable {goal : Term} {own : Option Nat} {before log point : List LogEntry}

theorem Stays.cons (stays : Stays goal own before log) {entry : LogEntry}
    (still : (goal, own) :: underConstruction before <:+ underConstruction (entry :: log)) :
    Stays goal own before (entry :: log) := by
  intro later since within
  rcases List.suffix_cons_iff.1 within with rfl | within
  · exact still
  · exact stays later since within

theorem Construction.mono {last later : List LogEntry}
    (construction : Construction log point goal own before last) (more : log <:+ later) :
    Construction later point goal own before last :=
  { construction with left := construction.left.trans more }

/-- A goal under construction was entered, and stayed so since then. -/
theorem exists_entered {rest : List (Term × Option Nat)}
    (there : (goal, own) :: rest <:+ underConstruction point) :
    ∃ before, .entered goal own :: before <:+ point ∧ Stays goal own before point ∧
      underConstruction before = rest := by
  induction point with
  | nil => simp [underConstruction] at there
  | cons entry point ih =>
      -- the goal was under construction before the entry, unless this is the entry of the goal
      have earlier (open_ : (goal, own) :: rest <:+ underConstruction point) :
          ∃ before, .entered goal own :: before <:+ entry :: point ∧
            Stays goal own before (entry :: point) ∧ underConstruction before = rest := by
        obtain ⟨before, entered, stays, rfl⟩ := ih open_
        exact ⟨before, entered.trans (List.suffix_cons _ _), stays.cons there, rfl⟩
      cases entry with
      | entered other cell =>
          rcases List.suffix_cons_iff.1 there with same | open_
          · cases same
            refine ⟨point, List.suffix_refl _, fun later since within => ?_, rfl⟩
            rw [within.eq_of_length_le since.length_le]
            exact List.suffix_refl _
          · exact earlier open_
      | left other => exact earlier (there.trans (List.tail_suffix _))
      | _ => exact earlier there

/-- A goal stays under construction up to the end of a log, or it was left before. -/
theorem Stays.or_construction (stays : Stays goal own before point)
    (entered : .entered goal own :: before <:+ point) (after : List LogEntry)
    (nested : AtEveryPoint LogEntry.Nested (after ++ point)) :
    Stays goal own before (after ++ point) ∨
      ∃ last, Construction (after ++ point) point goal own before last := by
  induction after with
  | nil => exact .inl stays
  | cons entry after ih =>
      have nested_after : AtEveryPoint LogEntry.Nested (after ++ point) :=
        fun other earlier part => nested other earlier (part.trans (List.suffix_cons _ _))
      rcases ih nested_after with open_ | ⟨last, construction⟩
      · by_cases still : (goal, own) :: underConstruction before <:+
            underConstruction (entry :: (after ++ point))
        · exact .inl (open_.cons still)
        · have now := open_ (after ++ point) (entered.trans (List.suffix_append _ _))
            (List.suffix_refl _)
          refine .inr ⟨after ++ point, ?_⟩
          cases entry with
          | left other =>
              obtain ⟨cell, rest, top⟩ : LogEntry.Nested (.left other) (after ++ point) :=
                nested _ _ (List.suffix_refl _)
              rw [top] at now
              rcases List.suffix_cons_iff.1 now with same | later
              · cases same
                exact ⟨entered, List.suffix_append _ _, List.suffix_refl _, open_, top⟩
              · refine absurd later fun inRest => still ?_
                rwa [underConstruction, top]
          | entered => exact absurd (now.trans (List.suffix_cons _ _)) still
          | _ => exact absurd now still
      · exact .inr ⟨last, construction.mono (List.suffix_cons _ _)⟩

/-- A goal that is under construction at a point of a log, and not in the end, was entered before
the point and left after it. -/
theorem exists_construction (nested : AtEveryPoint LogEntry.Nested log)
    (closed : underConstruction log = []) (there : point <:+ log)
    (inside : (goal, own) ∈ underConstruction point) :
    ∃ before last, Construction log point goal own before last := by
  obtain ⟨after, rfl⟩ := there
  obtain ⟨latest, rest, same⟩ := List.append_of_mem inside
  obtain ⟨before, entered, stays, rfl⟩ := exists_entered ⟨latest, same.symm⟩
  rcases stays.or_construction entered after nested with open_ | ⟨last, construction⟩
  · have still := open_ _ (entered.trans (List.suffix_append _ _)) (List.suffix_refl _)
    rw [closed] at still
    cases List.suffix_nil.1 still
  · exact ⟨before, last, construction⟩

end

/-! ## 2. Goals are left in the order in which they were entered -/

/-- All cells of a memo are those of goals under construction. -/
def Memo.CellsAmong (memo : Memo) (goals : List (Term × Option Nat)) : Prop :=
  ∀ goal cell, memo.get? goal = some (.pending cell) → (goal, some cell) ∈ goals

theorem Memo.CellsAmong.enter {memo : Memo} {goals : List (Term × Option Nat)}
    (among : memo.CellsAmong goals) (aim : Term) (own : Option Nat) :
    (memo.insert aim (.entered own)).CellsAmong ((aim, own) :: goals) := by
  intro goal cell held
  rw [get?_insert] at held
  split at held
  · next same =>
      cases own <;> cases held
      exact same ▸ .head _
  · exact .tail _ (among goal cell held)

/-- A part of a search leaves no cell in the memo that was not there when it started. -/
theorem Task.Marks.cellsAmong {α : Type} {task : Task α} {arena : Arena} {outcome : α}
    {last : Branch} (marks : task.Marks arena outcome last) {goals : List (Term × Option Nat)}
    (among : task.start.memo.CellsAmong goals) : last.memo.CellsAmong goals := by
  intro goal cell held
  rcases marks.kept held with ⟨_, ready⟩ | before
  · cases ready
  · exact among goal cell before

/-- From each part to the next one, the cells of the memo are those of goals under construction. -/
theorem Task.Next.keepsAmong {solver : Solver} {α β : Type} {task : Task α} {part : Task β}
    {arena middle : Arena} (next : task.Next solver arena part middle)
    (triangular : Triangular task.start.subst.bindings)
    (among : task.start.memo.CellsAmong (underConstruction arena.log)) :
    part.start.memo.CellsAmong (underConstruction middle.log) := by
  cases next with
  | tries | afterMismatch | afterOpen | attempt => rwa [underConstruction_noted]
  | afterAttempt _ _ _ attempt =>
      have balanced := (Runs.of_perform attempt).balanced rfl
      rw [underConstruction_noted] at balanced
      exact balanced ▸ among
  | plain | probe | params | param => exact among
  | withCell _ probe =>
      rw [← (Runs.of_perform probe).balanced rfl] at among
      exact among.enter _ (some _)
  | guarded _ probe =>
      rw [← (Runs.of_perform probe).balanced rfl] at among
      exact among.enter _ none
  | body params =>
      have run := Runs.of_perform params
      rw [run.balanced rfl]
      exact (run.keepsMarks triangular rfl rfl).cellsAmong among
  | afterParam goal =>
      have run := Runs.of_perform goal
      have kept := (run.keepsMarks triangular rfl rfl).cellsAmong among
      rw [← run.balanced rfl] at kept
      rwa [underConstruction_enrolled]

/-- In a part of a search, the goal that was entered last is left first, and a cell is read from the
memo only while its goal is under construction. -/
theorem Task.WritesWithin.nested {solver : Solver} {α : Type} {task : Task α}
    {arena point : Arena} {entry : LogEntry}
    (writes : task.WritesWithin solver arena point entry)
    (triangular : Triangular task.start.subst.bindings)
    (among : task.start.memo.CellsAmong (underConstruction arena.log)) :
    entry.Nested point.log := by
  obtain ⟨_, part, there, comes, writes⟩ := writes
  obtain ⟨-, among⟩ := comes.keeps
    (motive := fun task arena => Triangular task.start.subst.bindings ∧
      task.start.memo.CellsAmong (underConstruction arena.log))
    (fun next both => ⟨next.keepsTriangular both.1, next.keepsAmong both.1 both.2⟩)
    ⟨triangular, among⟩
  cases writes with
  | free free =>
      cases entry with
      | recalled | left => cases free
      | _ => trivial
  | @recalled _ _ _ _ _ _ entry _ same known =>
      cases entry with
      | pending cell => exact among _ _ (isGround_of_known? known).2
      | ready | guarded => trivial
  | left run => exact ⟨_, _, run.balanced rfl⟩
  | tried | called | produced | refused | bodyFails | halted => trivial

/-! ## 3. Cells hold what was produced for them -/

/-- What an entry says of cells: the cell of a goal holds the value that was produced for the goal,
and a cell that is read from the memo is given itself, or with what it holds. -/
def LogEntry.Holds (heap : Heap) : LogEntry → Prop
  | .produced _ (some cell) value => heap.content? cell = some value
  | .recalled _ (.pending cell) value => value.cell? = some cell ∨ heap.content? cell = some value
  | _ => True

/-- All entries of the log hold of the cells in the heap. -/
def Arena.Holds (arena : Arena) : Prop := ∀ entry ∈ arena.log, entry.Holds arena.heap

theorem LogEntry.Holds.mono {entry : LogEntry} {heap later : Heap} (holds : entry.Holds heap)
    (grown : heap.Grows later) : entry.Holds later := by
  cases entry with
  | produced _ own _ =>
      cases own with
      | none => trivial
      | some cell => exact grown.keeps holds
  | recalled _ entry _ =>
      cases entry with
      | ready | guarded => trivial
      | pending cell => exact Or.imp_right grown.keeps holds
  | _ => trivial

theorem LogEntry.Holds.of_recall {goal : Term} {entry : Memo.Entry} {heap after : Heap}
    {value : Value} (read : entry.recall goal heap = (.ok value, after)) :
    LogEntry.Holds after (.recalled goal entry value) := by
  cases entry with
  | ready | guarded => trivial
  | pending cell =>
      simp only [Memo.Entry.recall] at read
      split at read
      · next content =>
          cases read
          exact .inr content
      · cases read
        exact .inl rfl

theorem LogEntry.Holds.of_settle {goal : Term} {own : Option Nat} {heap tied : Heap}
    {value : Value} (settled : heap.settle? own value = some tied) :
    LogEntry.Holds tied (.produced goal own value) := by
  cases own with
  | none => trivial
  | some cell => exact Heap.content?_tie settled (Heap.lt_of_tie? settled)

theorem Arena.Holds.onHeap {arena : Arena} (holds : arena.Holds) {heap : Heap}
    (grown : arena.heap.Grows heap) : (arena.onHeap heap).Holds :=
  fun entry member => (holds entry member).mono grown

/-- While a search goes on, the cell of a goal holds every value that was produced for the goal: it
would have ended if one of them could not be tied. -/
theorem Arena.Step.keepsHolds {due : Arena → LogEntry → Prop} {arena reached : Arena}
    (step : arena.Step (Arena.Smoothly due) reached) (holds : arena.Holds) : reached.Holds := by
  cases step with
  | @note entry plain =>
      refine List.forall_mem_cons.2 ⟨?_, holds⟩
      cases entry with
      | recalled | produced => cases plain
      | _ => trivial
  | tried => exact List.forall_mem_cons.2 ⟨trivial, holds⟩
  | recalled read =>
      exact List.forall_mem_cons.2 ⟨.of_recall read,
        holds.onHeap (Memo.Entry.recall_extends read).grows⟩
  | called same ran =>
      have extended : arena.heap.Extends _ := same ▸ Recipe.run_extends ran
      exact List.forall_mem_cons.2 ⟨trivial, holds.onHeap extended.grows⟩
  | settled tied =>
      exact List.forall_mem_cons.2 ⟨.of_settle tied, holds.onHeap (Heap.settle?_grows tied)⟩
  | unsettled failed now => exact absurd failed now.2

/-! ## 4. Whole searches -/

/-- A search that gives a value has left all goals that it entered, and every cell that it has used
holds the value of its goal. -/
theorem solve_nested {solver : Solver} {fuel : Nat} {goal : Term} {providers : List Value}
    {heap : Heap} {stamp : Nat} {value : Value} {reached : Arena}
    (ran : (solver.solve fuel goal providers).runFrom ⟨heap, stamp, []⟩ = (.ok value, reached)) :
    AtEveryPoint LogEntry.Nested reached.log ∧ underConstruction reached.log = [] ∧
      reached.Holds := by
  rw [runFrom_solve] at ran
  have ends := derives solver fuel goal providers ⟨heap, stamp, []⟩
  generalize (solver.derive fuel goal providers).runFrom _ = derived at ends ran
  obtain ⟨result, last⟩ := derived
  obtain rfl : last = reached := congrArg Prod.snd ran
  cases ends with
  | openGoal | unknownProvider | halts | fails => cases ran
  | @finds _ _ found _ reports run =>
      have closed : underConstruction _ = [] :=
        (run.balanced rfl).trans (underConstruction_of_reports reports)
      have begun : Arena.Holds ⟨heap, stamp, []⟩ := fun _ none => by cases none
      have during := (run.leads.mono fun _ _ writes => writes.nested trivial nofun).smoothly
      have whole := during.noted solver (.solved goal found.branch.memo.size) ⟨trivial, trivial⟩
      have whole := Arena.Proceeds.trans (.of_reports reports fun _ _ => ⟨trivial, trivial⟩) whole
      exact ⟨AtEveryPoint.nil.proceeds (whole.mono fun _ _ => And.left),
        (underConstruction_noted _).trans closed, whole.keeps (·.keepsHolds) begun⟩

/-- Let a search give a value, and let a cell be read from the memo in it, at a point that is not in
a construction that was given up. Then the cell was put there by a construction of its goal around
this point. The construction has produced a value, and this is what the cell holds after the search.
The argument is the cell or its value, and a knot that reads the cell finds it tied. -/
theorem solve_ties_knots {solver : Solver} {fuel : Nat} {goal : Term} {providers : List Value}
    {heap : Heap} {stamp : Nat} {value : Value} {reached : Arena}
    (ran : (solver.solve fuel goal providers).runFrom ⟨heap, stamp, []⟩ = (.ok value, reached))
    {asked : Term} {cell : Nat} {arg : Value} {point : List LogEntry}
    (read : .recalled asked (.pending cell) arg :: point <:+ reached.log)
    (kept : KeptAt reached.log point) :
    ∃ before last made, Construction reached.log point asked (some cell) before last ∧
      Produces last asked (some cell) made ∧ reached.heap.content? cell = some made ∧
      (arg.cell? = some cell ∨ arg = made) ∧
      ∀ kind, readKnot reached.heap kind cell ≠ .error (.unsetKnot kind) := by
  obtain ⟨nested, closed, holds⟩ := solve_nested ran
  have inside : (asked, some cell) ∈ underConstruction point := nested _ _ read
  obtain ⟨before, last, construction⟩ := exists_construction nested closed
    ((List.suffix_cons _ _).trans read) inside
  obtain ⟨made, events, earlier, same⟩ := kept _ _ _ _ construction
  have produced : .produced asked (some cell) made ∈ last := by
    rw [same]
    exact List.mem_append_right _ (.head _)
  have content : reached.heap.content? cell = some made :=
    holds _ (construction.left.subset (.tail _ produced))
  refine ⟨before, last, made, construction, ⟨events, earlier, same⟩, content, ?_, ?_⟩
  · refine (holds _ (read.subset (.head _))).imp_right fun now => ?_
    exact Option.some.inj (now.symm.trans content)
  · intro kind unset
    rw [readKnot, content] at unset
    cases seen : made.as? kind <;> simp [seen] at unset

def readsCell : List LogEntry → Bool
  | [] => false
  | .recalled _ (.pending _) _ :: _ => true
  | _ :: before => readsCell before

theorem exists_of_readsCell {log : List LogEntry} (reads : readsCell log = true) :
    ∃ goal cell value point, .recalled goal (.pending cell) value :: point <:+ log := by
  induction log with
  | nil => cases reads
  | cons entry log ih =>
      have earlier (reads : readsCell log = true) : ∃ goal cell value point,
          .recalled goal (.pending cell) value :: point <:+ entry :: log := by
        obtain ⟨goal, cell, value, point, here⟩ := ih reads
        exact ⟨goal, cell, value, point, here.trans (List.suffix_cons _ _)⟩
      cases entry with
      | recalled goal entry value =>
          cases entry with
          | pending cell => exact ⟨goal, cell, value, log, List.suffix_refl _⟩
          | ready | guarded => exact earlier reads
      | _ => exact earlier reads

def leavesBuilt : List LogEntry → Bool
  | [] => true
  | .left goal :: .produced aim own _ :: before =>
      aim = goal && (underConstruction before).head? == some (goal, own) && leavesBuilt before
  | .left _ :: _ => false
  | _ :: before => leavesBuilt before

theorem exists_of_leavesBuilt {log : List LogEntry} (built : leavesBuilt log = true) {goal : Term}
    {last : List LogEntry} (left : .left goal :: last <:+ log) :
    ∃ own value before, last = .produced goal own value :: before ∧
      (underConstruction before).head? = some (goal, own) := by
  fun_induction leavesBuilt log with
  | case1 => simp at left
  | case2 goal' aim own value before ih =>
      simp only [Bool.and_eq_true, decide_eq_true_eq, beq_iff_eq] at built
      obtain ⟨⟨rfl, latest⟩, built⟩ := built
      rcases List.suffix_cons_iff.1 left with same | left
      · cases same
        exact ⟨own, value, before, rfl, latest⟩
      · rcases List.suffix_cons_iff.1 left with same | left
        · cases same
        · exact ih built left
  | case3 => cases built
  | case4 entry before _ other ih =>
      rcases List.suffix_cons_iff.1 left with same | left
      · cases same
        exact absurd rfl (other goal)
      · exact ih built left

/-- If every goal that was left was built, no point lies in a construction that was given up. -/
theorem keptAt_of_leavesBuilt {log : List LogEntry} (built : leavesBuilt log = true)
    (point : List LogEntry) : KeptAt log point := by
  intro goal own before last construction
  obtain ⟨cell, value, rest, rfl, latest⟩ := exists_of_leavesBuilt built construction.left
  have top : underConstruction rest = (goal, own) :: underConstruction before :=
    construction.latest
  rw [top] at latest
  cases latest
  exact ⟨value, [], rest, rfl⟩

theorem solve_ties_knots_node : ∃ value reached asked cell arg point,
    (ringingSolver.solve 8 (.constant "Node") [.mk 0 (.provider 0 "p" none)]).runFrom
      ⟨⟨1, []⟩, 0, []⟩ = (.ok value, reached) ∧
    .recalled asked (.pending cell) arg :: point <:+ reached.log ∧ KeptAt reached.log point ∧
    ∃ before last made, Construction reached.log point asked (some cell) before last ∧
      Produces last asked (some cell) made ∧ reached.heap.content? cell = some made ∧
      (arg.cell? = some cell ∨ arg = made) ∧
      ∀ kind, readKnot reached.heap kind cell ≠ .error (.unsetKnot kind) := by
  have passed : (ringingSolver.solve 8 (.constant "Node") [.mk 0 (.provider 0 "p" none)]).passes
      ⟨⟨1, []⟩, 0, []⟩ (fun _ reached => readsCell reached.log && leavesBuilt reached.log) =
        true := by decide +kernel
  obtain ⟨value, reached, ran, tests⟩ := Search.exists_of_passes passed
  obtain ⟨reads, built⟩ := Bool.and_eq_true_iff.1 tests
  obtain ⟨asked, cell, arg, point, read⟩ := exists_of_readsCell reads
  have kept := keptAt_of_leavesBuilt built point
  exact ⟨value, reached, asked, cell, arg, point, ran, read, kept, solve_ties_knots ran read kept⟩

end Synthesis
