import Synthesis.Proofs.Contents
import Synthesis.Proofs.Determined
import Synthesis.Proofs.Marks

/-!
# Searches without cells and new providers

If no rule returns a goal that asks for a cell, no goal is entered in the memo with a cell. If no
provider is produced, all goals are looked for with the same providers.

Results:
1. `Solver.Repeatable`: what is asked of a solver and its providers, so that a search may be
   repeated.
2. `Runs.finds_no_cell`, `Runs.bare`: such a search enters no cells in the memo, finds no new
   providers, and ties no cell.
-/
namespace Synthesis

open Substitution (Triangular)

/-! ## 1. Searches that may be repeated -/

def Solver.MakesNoCells (solver : Solver) : Prop :=
  ∀ rule, solver.registry.Declares rule → ∀ slots : String → Term,
    solver.asksForCell (rule.returns.subst slots) = false

/-- No value that was produced between two arenas is a provider. -/
def Solver.MakesNoProviders (solver : Solver) (arena reached : Arena) : Prop :=
  ∀ goal own value, arena.Wrote reached (.produced goal own value) →
    solver.registry.bearsRules value = false

/-- What is asked of a solver and of the providers of a search, so that it may be repeated from
every heap that extends a first one. -/
structure Solver.Repeatable (solver : Solver) (providers : Providers) (base : Heap) : Prop where
  determined : solver.Determined
  cells : solver.MakesNoCells
  unlimited : solver.settings.maxDepth = none
  pure : ∀ offer ∈ providers.offers, offer.Pure base

/-- A branch with given providers, whose memo holds no cells and no providers. -/
structure Branch.Bare (solver : Solver) (providers : Providers) (branch : Branch) : Prop where
  providers : branch.providers = providers
  entries : ∀ {key : Term} {entry : Memo.Entry}, branch.memo.get? key = some entry →
    solver.asksForCell key = false ∧
      (entry = .guarded ∨ ∃ value, entry = .ready value ∧ solver.registry.bearsRules value = false)

/-- A part of a search tries given offers only, and has no cell for its goal. -/
def Task.Offered (offers : List Offer) : {α : Type} → Task α → Prop
  | _, .offers _ _ _ _ tries => ∀ offer ∈ tries, offer ∈ offers
  | _, .build _ offer _ _ _ _ => offer ∈ offers
  | _, .complete _ offer _ _ own _ _ | _, .invoke offer _ _ own _ _ _ => offer ∈ offers ∧ own = none
  | _, .goal .. | _, .params .. => True

def Task.value? : {α : Type} → Task α → α → Option Value
  | _, .goal .., found | _, .offers .., found | _, .build .., found | _, .complete .., found
  | _, .invoke .., found => found.map (·.value)
  | _, .params .., _ => none

/-- A part of a search only adds to the heap, ends in a bare branch and finds no provider. -/
structure Task.StaysBare (solver : Solver) (providers : Providers) {α : Type} (task : Task α)
    (before : Heap) (result : Except Halt α) (after : Heap) : Prop where
  heap : before.Extends after
  last : ∀ {outcome : α} {last : Branch}, result = .ok outcome →
    task.finish? outcome = some last → last.Bare solver providers
  inert : ∀ {outcome : α} {value : Value}, result = .ok outcome →
    task.value? outcome = some value → solver.registry.bearsRules value = false

section

variable {solver : Solver} {providers : Providers} {base : Heap}

theorem Solver.MakesNoProviders.within {arena first second reached : Arena}
    (inert : solver.MakesNoProviders arena reached) (early : arena.Grows first)
    (late : second.Grows reached) : solver.MakesNoProviders first second :=
  fun goal own value wrote => inert goal own value ((wrote.of_later early).of_earlier late)

theorem Solver.MakesNoCells.asks (cells : solver.MakesNoCells) {offer : Offer} {renamed : Renamed}
    {aim : Term} {subst : Substitution} (chosen : Chosen solver.registry offer renamed aim subst) :
    solver.asksForCell aim = false := by
  obtain ⟨stamp, -, returns⟩ := chosen.returns_slots
  rw [← returns]
  exact cells _ chosen.declared _

namespace Branch.Bare

variable {branch : Branch}

theorem insert (bare : branch.Bare solver providers) {aim : Term}
    (plain : solver.asksForCell aim = false) {entry : Memo.Entry}
    (new : entry = .guarded ∨
      ∃ value, entry = .ready value ∧ solver.registry.bearsRules value = false)
    (history : List Settled) :
    Branch.Bare solver providers { branch with memo := branch.memo.insert aim entry, history } where
  providers := bare.providers
  entries held := by
    rw [Memo.get?_insert] at held
    split at held
    · next same =>
        cases held
        exact ⟨same ▸ plain, new⟩
    · exact bare.entries held

theorem enroll (bare : branch.Bare solver providers) {value : Value}
    (inert : solver.registry.bearsRules value = false) :
    Branch.Bare solver providers
      { branch with providers := branch.providers.enroll solver.registry value } where
  providers := by
    rw [Providers.enroll_of_inert inert]
    exact bare.providers
  entries := bare.entries

/-- What is read from a bare memo is a value that is there, and the heap stays as it is. -/
theorem of_recall (bare : branch.Bare solver providers) {goal : Term} {entry : Memo.Entry}
    {value : Value} {heap after : Heap} (held : branch.memo.get? goal = some entry)
    (read : entry.recall goal heap = (.ok value, after)) :
    entry = .ready value ∧ after = heap ∧ solver.registry.bearsRules value = false := by
  rcases (bare.entries held).2 with rfl | ⟨value, rfl, inert⟩
  · cases read
  · cases read
    exact ⟨rfl, rfl, inert⟩

end Branch.Bare

/-! ## 2. No cells and no new providers -/

/-- A search that leads to a bare branch has found no value for a goal that asks for a cell. -/
theorem Runs.finds_no_cell {fuel depth : Nat} {aim : Term} {branch : Branch} {arena middle : Arena}
    {found : Found}
    (run : Runs solver (.goal fuel (aim.under solver.settings.placeholder) branch depth) arena
      (.ok (some found)) middle)
    (triangular : Triangular branch.subst.bindings) (ground : aim.isGround = true)
    (bare : found.branch.Bare solver providers) : False := by
  have marks := run.keepsMarks triangular rfl rfl
  have same : found.branch.subst.apply (aim.under solver.settings.placeholder) =
      aim.under solver.settings.placeholder :=
    Substitution.apply_of_ground _ (by simpa using ground)
  obtain ⟨entry, held⟩ : ∃ entry,
      found.branch.memo.get? (aim.under solver.settings.placeholder) = some entry := by
    rcases marks.given rfl with settled | ⟨-, entry, held, -⟩
    · exact ⟨_, same ▸ settled⟩
    · exact ⟨entry, same ▸ held⟩
  have plain := (bare.entries held).1
  rw [Solver.asksForCell_under] at plain
  cases plain

namespace Task.StaysBare

variable {before middle after : Heap}

theorem of_halt {α : Type} {task : Task α} {halt : Halt} (wider : before.Extends after) :
    task.StaysBare solver providers before (.error halt) after :=
  ⟨wider, nofun, nofun⟩

theorem of_none {task : Task (Option Found)} (wider : before.Extends after)
    (finish : task.finish? none = none) (value : task.value? none = none) :
    task.StaysBare solver providers before (.ok none) after where
  heap := wider
  last ok finished := by
    cases ok
    rw [finish] at finished
    cases finished
  inert ok found := by
    cases ok
    rw [value] at found
    cases found

/-- A part of a search that finds a value in a bare branch. -/
theorem of_found {task : Task (Option Found)} (wider : before.Extends after) {found : Found}
    (bare : found.branch.Bare solver providers)
    (inert : solver.registry.bearsRules found.value = false)
    (finish : task.finish? (some found) = some found.branch)
    (value : task.value? (some found) = some found.value) :
    task.StaysBare solver providers before (.ok (some found)) after where
  heap := wider
  last ok finished := by
    cases ok
    rw [finish] at finished
    cases finished
    exact bare
  inert ok here := by
    cases ok
    rw [value] at here
    cases here
    exact inert

/-- A part of a search that ends like another one. -/
theorem of_part {task part : Task (Option Found)} {result : Except Halt (Option Found)}
    (stays : part.StaysBare solver providers middle result after) (wider : before.Extends middle)
    (finish : task.finish? = part.finish? := by rfl) (value : task.value? = part.value? := by rfl) :
    task.StaysBare solver providers before result after where
  heap := wider.trans stays.heap
  last ok finished := stays.last ok (finish ▸ finished)
  inert ok found := stays.inert ok (value ▸ found)

theorem later {fuel depth first second : Nat} {rule : Signature} {patterns others : List Term}
    {start branch : Branch} {value : Value} {result : Except Halt (Option (List Value × Branch))}
    (stays : Task.StaysBare solver providers (.params fuel rule depth first patterns start) middle
      result after) (wider : before.Extends middle) :
    Task.StaysBare solver providers (.params fuel rule depth second others branch) before
      (result.map (consValue value)) after where
  heap := wider.trans stays.heap
  last ok finished := by
    obtain _ | _ | settled := result <;> cases ok <;> cases finished
    exact stays.last rfl rfl
  inert := nofun

end Task.StaysBare

/-- A run that produces no providers leads from a bare branch to a bare branch, and it finds no
provider. -/
theorem Runs.bare (repeatable : solver.Repeatable providers base) {α : Type} {task : Task α}
    {arena reached : Arena} {result : Except Halt α} (run : Runs solver task arena result reached)
    (inert : solver.MakesNoProviders arena reached) (ready : task.Ready solver arena.stamp)
    (bare : task.start.Bare solver providers) (offered : task.Offered providers.offers) :
    task.StaysBare solver providers arena.heap result reached.heap := by
  induction run with
  | exhausted | tooDeep | cyclic | noView => exact .of_halt (.refl _)
  | noOffers => exact .of_none (.refl _) rfl rfl
  | slotOpen => exact .of_none (Arena.Proceeds.heap_extends (.noted .refl _ _)) rfl rfl
  | known _ known read =>
      obtain ⟨-, rfl, plain⟩ := bare.of_recall (isGround_of_known? known).2 read
      exact .of_found (Arena.Proceeds.heap_extends (.reading read)) ⟨bare.providers, bare.entries⟩
        plain rfl rfl
  | unfound same _ _ _ ih =>
      have stays := ih (inert.within .asking (.noted .refl _ _))
        (by simpa using ready.offers same) bare fun _ => bare.providers ▸ id
      exact .of_none (((Arena.Proceeds.heap_extends .asking).trans stays.heap).trans
        (Arena.Proceeds.heap_extends (.noted .refl _ _))) rfl rfl
  | searched same _ _ _ _ ih =>
      have stays := ih (inert.within .asking .refl) (by simpa using ready.offers same) bare
        fun _ => bare.providers ▸ id
      exact stays.of_part (Arena.Proceeds.heap_extends .asking)
  | mismatch _ _ ih | leftOpen _ _ _ ih =>
      have stays := ih (inert.within .skipping .refl) (by simpa using ready.rest) bare
        fun _ member => offered _ (.tail _ member)
      exact stays.of_part (Arena.Proceeds.heap_extends .skipping)
  | settles matched same ground _ _ ih =>
      have stays := ih (inert.within .trying .refl) (by simpa using ready.build matched same ground)
        ⟨bare.providers, bare.entries⟩ (offered _ (.head _))
      exact stays.of_part (Arena.Proceeds.heap_extends .trying)
  | moveOn matched same ground first others attempt ih =>
      have stays := attempt (inert.within .trying others.grows)
        (by simpa using ready.build matched same ground) ⟨bare.providers, bare.entries⟩
        (offered _ (.head _))
      have stamps := first.grows.stamp
      simp only [Solver.stamp_noted, Arena.stamp_note, Arena.stamp_tried] at stamps
      have rest := ih (inert.within (.trans .trying first.grows) .refl) (ready.rest.mono stamps)
        bare fun _ member => offered _ (.tail _ member)
      exact rest.of_part ((Arena.Proceeds.heap_extends .trying).trans stays.heap)
  | plain _ _ ih => exact (ih inert (ready.complete _ _) bare ⟨offered, rfl⟩).of_part (.refl _)
  | withCell _ probe _ rest one =>
      have stays := one (inert.within .refl (.leave (.trans (.note .refl) rest.grows) _ _))
        ready.probe bare trivial
      exact (probe.finds_no_cell ready.start.triangular ready.ground.ground
        (stays.last rfl rfl)).elim
  | notDeferred _ probe _ one =>
      have stays := one (inert.within .refl (.note .refl)) ready.probe bare trivial
      exact (probe.finds_no_cell ready.start.triangular ready.ground.ground
        (stays.last rfl rfl)).elim
  | guarded _ probe complete one two =>
      have stays := one (inert.within .refl (.leave (.trans (.note .refl) complete.grows) _ _))
        ready.probe bare trivial
      have plain := repeatable.cells.asks ready.ground
      have rest := two (inert.within (.note probe.grows) (.leave .refl _ _))
        ((ready.complete _ _).mono probe.grows.stamp) (bare.insert plain (.inl rfl) _)
        ⟨offered, rfl⟩
      rw [Arena.heap_leave]
      exact rest.of_part stays.heap
  | probeHalts _ _ ih => exact .of_halt (ih inert ready.probe bare trivial).heap
  | paramsHalt _ ih =>
      exact .of_halt (ih inert (ready.params repeatable.determined) bare trivial).heap
  | paramsFail _ ih =>
      exact .of_none (ih inert (ready.params repeatable.determined) bare trivial).heap rfl rfl
  | paramsSettled params invoked one two =>
      have first := one (inert.within .refl invoked.grows) (ready.params repeatable.determined)
        bare trivial
      have rest := two (inert.within params.grows .refl)
        (ready.invoke repeatable.determined params) (first.last rfl rfl) offered
      exact rest.of_part first.heap
  | noParams =>
      refine ⟨.refl _, fun ok finished => ?_, nofun⟩
      cases ok
      cases finished
      exact bare
  | paramHalts _ ih => exact .of_halt (ih inert ready.param bare trivial).heap
  | paramFails _ ih =>
      have stays := ih (inert.within .refl (.noted .refl _ _)) ready.param bare trivial
      refine ⟨stays.heap.trans (Arena.Proceeds.heap_extends (.noted .refl _ _)),
        fun ok finished => ?_, nofun⟩
      cases ok
      cases finished
  | paramFound goal others one two =>
      have first := one (inert.within .refl (.trans .passing others.grows)) ready.param bare trivial
      have rest := two (inert.within (goal.grows.trans .passing) .refl)
        (by simpa using ready.later repeatable.determined goal)
        ((first.last rfl rfl).enroll (first.inert rfl rfl)) trivial
      exact rest.later (first.heap.trans (Arena.Proceeds.heap_extends .passing))
  | bodyFails _ _ ran =>
      exact .of_halt (Arena.Proceeds.heap_extends (.note (.calling ran)))
  | declines _ _ ran =>
      exact .of_none (Arena.Proceeds.heap_extends (.noted (.calling ran) _ _)) rfl rfl
  | tiedBefore => cases offered.2
  | built _ _ ran tied =>
      obtain ⟨-, rfl⟩ := offered
      cases tied
      have made := inert _ none _ (Arena.Wrote.of_earlier ⟨[_, _], rfl, .head _⟩
        (.noted .refl _ _))
      refine .of_found ?_ (bare.insert (repeatable.cells.asks ready.ground) (.inr ⟨_, rfl, made⟩) _)
        made rfl rfl
      rw [Solver.heap_noted]
      exact Recipe.run_extends ran

end

end Synthesis
