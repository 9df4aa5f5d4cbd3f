import Synthesis.Proofs.Branches
import Synthesis.Proofs.Runs.Total

/-!
# Registries whose cells come from placeholder rules

If only placeholder rules return goals that ask for cells, then such goals are never under
construction, and each of their values is a cell that was made for it.

Results:
1. `Rule.IsPlaceholder.run_eq`: a placeholder rule makes a new, empty cell.
2. `Runs.keepsOrderly`: the rules that are tried are those of the registry, and the memo holds
   values for the goals that ask for cells.
-/
namespace Synthesis

open Substitution (Triangular)

/-! ## 1. Rules of a registry -/

/-- A rule that was declared as a placeholder. -/
def Rule.IsPlaceholder (rule : Rule) (head : String) : Prop :=
  ∃ shape pattern, rule = (RuleDecl.placeholder head pattern).onShape shape

theorem Rule.IsPlaceholder.run_eq {rule : Rule} {head : String}
    (placeholder : rule.IsPlaceholder head) (given : Inputs) (heap : Heap) :
    (rule.recipe.run given heap).val =
      (.ok (.produced (.mk heap.nextId (.deferred heap.cells.length))),
        ⟨heap.nextId + 1, heap.cells ++ [none]⟩) := by
  obtain ⟨shape, pattern, rfl⟩ := placeholder
  rfl

def Registry.Declares (registry : Registry) (rule : Rule) : Prop :=
  ∃ shape ∈ registry.shapes, rule ∈ shape.rules

/-- Every rule whose return pattern can match a goal that asks for a cell is a placeholder rule. -/
def Solver.MakesCells (solver : Solver) : Prop :=
  ∀ rule, solver.registry.Declares rule → ∀ slots : String → Term,
    solver.asksForCell (rule.returns.subst slots) = true →
    rule.IsPlaceholder solver.settings.placeholder

namespace Registry

theorem mem_of_mem_lineageAmong {views : List View} {kind : Kind} {shapes : List Shape}
    {ancestor : Ancestor} (member : ancestor ∈ lineageAmong views kind shapes) :
    ancestor.shape ∈ shapes := by
  induction shapes generalizing views kind with
  | nil => cases member
  | cons shape earlier ih =>
      simp only [lineageAmong] at member
      split at member
      · rcases List.mem_cons.1 member with same | above
        · rw [same]
          exact .head _
        · split at above
          · cases above
          · exact .tail _ (ih above)
      · exact .tail _ (ih member)

/-- The rules of a registry with one shape are those that its declaration lists. -/
theorem declares_of_single {declared : ShapeDecl} {rule : Rule}
    (declares : (⟨[declared.toShape]⟩ : Registry).Declares rule) :
    ∃ decl ∈ declared.rules, rule = decl.onShape declared.name := by
  obtain ⟨shape, member, inShape⟩ := declares
  obtain rfl := List.mem_singleton.1 member
  obtain ⟨decl, listed, rfl⟩ := List.mem_map.1 ((orderRules_perm _).mem_iff.1 inShape)
  exact ⟨decl, listed, rfl⟩

theorem declares_of_mem_offers {registry : Registry} {value : Value} {offer : Offer}
    (member : offer ∈ registry.offers value) : registry.Declares offer.rule := by
  obtain ⟨ancestor, above, offered⟩ := List.mem_flatMap.1 member
  split at offered
  · obtain ⟨rule, inShape, rfl⟩ := List.mem_map.1 offered
    exact ⟨ancestor.shape, mem_of_mem_lineageAmong above, inShape⟩
  · cases offered

end Registry

def Offers (registry : Registry) (offers : List Offer) : Prop :=
  ∀ offer ∈ offers, registry.Declares offer.rule

theorem Offers.enroll {registry : Registry} {providers : Providers}
    (offers : Offers registry providers.offers) (value : Value) :
    Offers registry (providers.enroll registry value).offers := by
  unfold Providers.enroll
  split
  · intro offer member
    rcases List.mem_append.1 member with before | new
    · exact offers offer before
    · exact Registry.declares_of_mem_offers new
  · exact offers

theorem offers_startingBranch (solver : Solver) (values : List Value) :
    Offers solver.registry (solver.startingBranch values).providers.offers := by
  have all (providers : Providers) (offers : Offers solver.registry providers.offers) :
      Offers solver.registry
        (values.foldl (·.enroll solver.registry ·) providers).offers := by
    induction values generalizing providers with
    | nil => exact offers
    | cons value values ih => exact ih _ (offers.enroll value)
  exact all {} fun _ none => by cases none

/-! ## 2. Orderly branches -/

/-- A branch that offers rules of the registry, with a value for each goal in the memo that asks for
a cell. -/
structure Branch.Orderly (solver : Solver) (branch : Branch) : Prop where
  offers : Offers solver.registry branch.providers.offers
  triangular : Triangular branch.subst.bindings
  ready : ∀ {goal : Term} {entry : Memo.Entry}, solver.asksForCell goal = true →
    branch.memo.get? goal = some entry → ∃ value, entry = .ready value

theorem Solver.orderly_startingBranch (solver : Solver) (values : List Value) :
    (solver.startingBranch values).Orderly solver :=
  ⟨offers_startingBranch solver values, trivial, fun _ found => by cases found⟩

namespace Branch.Orderly

variable {solver : Solver} {branch : Branch}

theorem enter (orderly : branch.Orderly solver) {aim : Term}
    (plain : solver.asksForCell aim = false) (entry : Memo.Entry) :
    Branch.Orderly solver { branch with memo := branch.memo.insert aim entry } where
  offers := orderly.offers
  triangular := orderly.triangular
  ready asks found := by
    rw [Memo.get?_insert] at found
    split at found
    · next same => simp [same, plain] at asks
    · exact orderly.ready asks found

theorem settle (orderly : branch.Orderly solver) (aim : Term) (value : Value)
    (history : List Settled) :
    Branch.Orderly solver
      { branch with memo := branch.memo.insert aim (.ready value), history } where
  offers := orderly.offers
  triangular := orderly.triangular
  ready asks found := by
    rw [Memo.get?_insert] at found
    split at found
    · exact ⟨value, (Option.some.inj found).symm⟩
    · exact orderly.ready asks found

theorem enroll (orderly : branch.Orderly solver) (value : Value) :
    Branch.Orderly solver
      { branch with providers := branch.providers.enroll solver.registry value } :=
  ⟨orderly.offers.enroll value, orderly.triangular, orderly.ready⟩

theorem matched (orderly : branch.Orderly solver) {subst : Substitution} {pattern goal : Term}
    (matched : branch.subst.matching pattern goal = .ok subst) :
    Branch.Orderly solver { branch with subst } :=
  ⟨orderly.offers, (Substitution.matching_ok orderly.triangular matched).2.1, orderly.ready⟩

end Branch.Orderly

/-- A run leads from orderly branches to orderly branches. -/
theorem Runs.keepsOrderly {solver : Solver} {α : Type} {task : Task α} {arena reached : Arena}
    {result : Except Halt α} (run : Runs solver task arena result reached)
    (orderly : task.start.Orderly solver) {outcome : α} (ok : result = .ok outcome)
    {last : Branch} (finished : task.finish? outcome = some last) : last.Orderly solver := by
  induction run generalizing last with
  | exhausted | tooDeep | cyclic | notDeferred | probeHalts | paramsHalt | paramHalts | noView
  | bodyFails | tiedBefore => cases ok
  | unfound | noOffers | paramsFail | paramFails | slotOpen | declines =>
      cases ok
      cases finished
  | known =>
      cases ok
      cases finished
      exact ⟨orderly.offers, orderly.triangular, orderly.ready⟩
  | noParams =>
      cases ok
      cases finished
      exact orderly
  | searched _ _ _ _ _ ih | mismatch _ _ ih | leftOpen _ _ _ ih | plain _ _ ih =>
      exact ih orderly ok finished
  | settles matched _ _ _ _ ih => exact ih (orderly.matched matched) ok finished
  | moveOn _ _ _ _ _ _ ih => exact ih orderly ok finished
  | withCell entered _ _ _ _ ih | guarded entered _ _ _ ih =>
      exact ih (orderly.enter (Bool.or_eq_false_iff.1 entered).2 _) ok finished
  | paramsSettled _ _ params ih => exact ih (params orderly rfl rfl) ok finished
  | @paramFound _ _ _ _ _ _ _ _ _ _ _ result _ _ goal ih =>
      obtain _ | _ | settled := result <;> cases ok <;> cases finished
      have settled := goal orderly rfl rfl
      exact ih (settled.enroll _) rfl rfl
  | built =>
      cases ok
      cases finished
      exact orderly.settle _ _ _

/-! ## 3. Rules that return a goal -/

/-- A rule of the registry that returns a ground goal. -/
structure Rule.Returns (registry : Registry) (rule : Rule) (goal : Term) : Prop where
  ground : goal.isGround = true
  declared : registry.Declares rule
  of_pattern : ∃ slots, rule.returns.subst slots = goal

/-- What a part of a search tries are rules of the registry that return its goal. A goal that asks
for a cell has none of its own. -/
def Task.Declared (solver : Solver) : {α : Type} → Task α → Prop
  | _, .offers _ _ _ _ tries => Offers solver.registry tries
  | _, .build _ offer _ aim _ _ => offer.rule.Returns solver.registry aim
  | _, .complete _ offer _ aim cell _ _ | _, .invoke offer _ aim cell _ _ _ =>
      offer.rule.Returns solver.registry aim ∧ (solver.asksForCell aim = true → cell = none)
  | _, .goal .. | _, .params .. => True

/-- A rule that returns a goal that asks for a cell makes a new one. -/
theorem Rule.Returns.run_eq {solver : Solver} (cells : solver.MakesCells) {rule : Rule}
    {goal : Term} (returns : rule.Returns solver.registry goal)
    (asks : solver.asksForCell goal = true) (given : Inputs) (heap : Heap) :
    (rule.recipe.run given heap).val =
      (.ok (.produced (.mk heap.nextId (.deferred heap.cells.length))),
        ⟨heap.nextId + 1, heap.cells ++ [none]⟩) := by
  obtain ⟨slots, same⟩ := returns.of_pattern
  exact (cells rule returns.declared slots (same ▸ asks)).run_eq given heap

end Synthesis
