import Synthesis.Proofs.Marks

/-!
# What is passed on along a branch only grows

Results:
1. `Runs.adds`: the branch to which a part of a search leads has all providers, offers, known goals
   and bindings of the branch from which it started, the lists in the same order.
2. `find_accumulates`: the same for a search for a goal from any branch.
-/
namespace Synthesis

/-! ## 1. Branches -/

/-- A branch grows into another one: what was there before comes first, and no goal is forgotten.
The entry of a known goal may be replaced. -/
structure Branch.Grows (old new : Branch) : Prop where
  members : old.providers.members <+: new.providers.members
  offers : old.providers.offers <+: new.providers.offers
  known : ∀ {goal : Term}, (old.memo.get? goal).isSome = true → (new.memo.get? goal).isSome = true
  bindings : old.subst.bindings <+: new.subst.bindings

namespace Branch.Grows

variable {first second third branch : Branch}

theorem refl (branch : Branch) : branch.Grows branch :=
  ⟨List.prefix_refl _, List.prefix_refl _, id, List.prefix_refl _⟩

theorem trans (one : first.Grows second) (two : second.Grows third) : first.Grows third where
  members := one.members.trans two.members
  offers := one.offers.trans two.offers
  known := two.known ∘ one.known
  bindings := one.bindings.trans two.bindings

/-- A value that is taken in as a provider comes last, and so do its offers. -/
theorem enroll (registry : Registry) (value : Value) :
    branch.Grows { branch with providers := branch.providers.enroll registry value } := by
  unfold Providers.enroll
  split
  · exact ⟨List.prefix_append _ _, List.prefix_append _ _, id, List.prefix_refl _⟩
  · exact refl branch

theorem insert (goal : Term) (entry : Memo.Entry) (history : List Settled) :
    branch.Grows { branch with memo := branch.memo.insert goal entry, history } where
  members := List.prefix_refl _
  offers := List.prefix_refl _
  known held := by
    rw [Memo.get?_insert]
    split
    · rfl
    · exact held
  bindings := List.prefix_refl _

theorem matched {subst : Substitution} {pattern goal : Term}
    (matched : branch.subst.matching pattern goal = .ok subst) :
    branch.Grows { branch with subst } := by
  refine ⟨List.prefix_refl _, List.prefix_refl _, id, ?_⟩
  have added := Substitution.reached_unify branch.subst pattern goal
  rw [Substitution.unify_of_matching matched] at added
  exact ⟨_, (congrArg Substitution.bindings added).symm⟩

end Branch.Grows

/-! ## 2. Runs -/

/-- A run that is carried out leads to a branch that has grown. Offers that were given up on the way
leave nothing in it. -/
theorem Runs.adds {solver : Solver} {α : Type} {task : Task α} {arena reached : Arena}
    {result : Except Halt α} (run : Runs solver task arena result reached) {outcome : α}
    (ok : result = .ok outcome) {last : Branch} (finished : task.finish? outcome = some last) :
    task.start.Grows last := by
  induction run generalizing last with
  | exhausted | tooDeep | cyclic | notDeferred | probeHalts | paramsHalt | paramHalts | noView
  | bodyFails | tiedBefore => cases ok
  | unfound | noOffers | paramsFail | paramFails | slotOpen | declines =>
      cases ok
      cases finished
  | @known _ _ _ _ branch =>
      cases ok
      cases finished
      have same := Branch.Grows.refl branch
      exact ⟨same.members, same.offers, same.known, same.bindings⟩
  | noParams =>
      cases ok
      cases finished
      exact .refl _
  | searched _ _ _ _ _ ih | mismatch _ _ ih | leftOpen _ _ _ ih | plain _ _ ih =>
      exact ih ok finished
  | moveOn _ _ _ _ _ _ ih => exact ih ok finished
  | settles matched _ _ _ _ ih => exact (Branch.Grows.matched matched).trans (ih ok finished)
  | withCell _ _ _ _ _ ih | guarded _ _ _ _ ih =>
      exact (Branch.Grows.insert _ _ _).trans (ih ok finished)
  | paramsSettled _ _ params ih => exact (params rfl rfl).trans (ih ok finished)
  | @paramFound _ _ _ _ _ _ _ _ _ _ _ result _ _ goal ih =>
      obtain _ | _ | settled := result <;> cases ok <;> cases finished
      exact ((goal rfl rfl).trans (.enroll _ _)).trans (ih rfl rfl)
  | built =>
      cases ok
      cases finished
      exact .insert _ _ _

/-! ## 3. Searches -/

/-- A search that finds a value ends in a branch in which the providers and their offers, the known
goals and the bindings are those with which it started, followed by others. No goal is forgotten,
and every variable that was bound is bound to the same term. -/
theorem find_accumulates {solver : Solver} {fuel depth : Nat} {goal : Term} {branch : Branch}
    {arena reached : Arena} {found : Found}
    (ran : (solver.find fuel goal branch depth).runFrom arena = (.ok (some found), reached)) :
    branch.providers.members <+: found.branch.providers.members ∧
      branch.providers.offers <+: found.branch.providers.offers ∧
      (∀ key, (branch.memo.get? key).isSome = true →
        (found.branch.memo.get? key).isSome = true) ∧
      branch.subst.bindings <+: found.branch.subst.bindings ∧
      ∀ name term, branch.subst.lookup name = some term →
        found.branch.subst.lookup name = some term := by
  have grows : branch.Grows found.branch := (Runs.of_find ran).adds rfl rfl
  exact ⟨grows.members, grows.offers, fun _ => grows.known, grows.bindings,
    fun _ _ => Substitution.lookup_of_prefix grows.bindings⟩

def amidKnot : Branch :=
  { knottingSolver.startingBranch [knottingHost] with
    memo := ⟨[(.constant "Top", .guarded), (.constant "Outer", .pending 0)]⟩
    subst := ⟨[("x#0", .constant "Top")]⟩ }

/-- A pair is built by the second of its rules, while a node and the result are under construction.
For the first one, a node was built and given up. -/
theorem find_accumulates_pair : ∃ found reached,
    (knottingSolver.find 8 (.constant "Pair") amidKnot 0).runFrom ⟨⟨1, [none]⟩, 0, []⟩ =
      (.ok (some found), reached) ∧
    amidKnot.providers.members <+: found.branch.providers.members ∧
      amidKnot.providers.offers <+: found.branch.providers.offers ∧
      (∀ key, (amidKnot.memo.get? key).isSome = true →
        (found.branch.memo.get? key).isSome = true) ∧
      amidKnot.subst.bindings <+: found.branch.subst.bindings ∧
      ∀ name term, amidKnot.subst.lookup name = some term →
        found.branch.subst.lookup name = some term := by
  have passed : (knottingSolver.find 8 (.constant "Pair") amidKnot 0).passes
      ⟨⟨1, [none]⟩, 0, []⟩ (fun found _ => found.isSome) = true := by decide +kernel
  obtain ⟨_ | found, reached, ran, some⟩ := Search.exists_of_passes passed
  · cases some
  exact ⟨found, reached, ran, find_accumulates ran⟩

end Synthesis
