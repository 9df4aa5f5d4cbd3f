import Synthesis.Proofs.Cells
import Synthesis.Proofs.Determined

/-!
# Searches that find no derivation

A goal is derivable from offers if there is a finite tree of rules for it. A search keeps the first
value of each parameter and never goes back on it. If the rules are determined and no body declines,
nothing is lost by this: what the search does not find has no derivation.

Results:
1. `Runs.refutes`: if a run for a ground goal finds nothing, the goal is not derivable.
2. `solve_noDerivation_raised`: a search for a derivable goal that ends without a derivation was
   told so by the last body that it ran.
-/
namespace Synthesis

open Substitution (Triangular)

/-! ## 1. Derivations -/

/-- There is a finite derivation of a goal from offers: a rule and ground terms for its variables
that make the goal of its return pattern and derivable goals of its parameters. -/
inductive Derivable (offers : List Offer) : Term → Prop
  | node {offer : Offer} {slots : String → Term} : offer ∈ offers →
      (∀ name, (slots name).isGround = true) →
      (∀ param ∈ offer.rule.params, Derivable offers (param.subst slots)) →
      Derivable offers (offer.rule.returns.subst slots)

def Solver.NeverDeclines (solver : Solver) : Prop :=
  ∀ rule, solver.registry.Declares rule → ∀ given heap,
    (rule.recipe.run given heap).val.1 ≠ .ok .declined

theorem subset_enroll (registry : Registry) (providers : Providers) (value : Value) :
    providers.offers ⊆ (providers.enroll registry value).offers := by
  unfold Providers.enroll
  split
  · exact List.subset_append_left _ _
  · exact List.Subset.refl _

/-! ## 2. Runs that find nothing -/

/-- What a part of a search that finds nothing shows: that its goal is not derivable from offers, or
that some parameter is not. -/
def Task.Refutes (offers : List Offer) : {α : Type} → Task α → Prop
  | _, .goal _ sought branch _ => ¬ Derivable offers (branch.subst.apply sought)
  | _, .offers _ asked _ _ tries => ∀ offer ∈ tries, ∀ slots,
      offer.rule.returns.subst slots = asked →
        ∃ param ∈ offer.rule.params, ¬ Derivable offers (param.subst slots)
  | _, .build _ _ renamed _ branch _ | _, .complete _ _ renamed _ _ branch _ =>
      ∃ goal ∈ renamed.params.map branch.subst.apply, ¬ Derivable offers goal
  | _, .params _ _ _ _ patterns branch =>
      ∃ goal ∈ patterns.map branch.subst.apply, ¬ Derivable offers goal
  | _, .invoke .. => False

/-- A goal for which no offer has derivable parameters is not derivable. -/
theorem Derivable.exists_offer {offers : List Offer} {goal : Term}
    (derivable : Derivable offers goal) :
    ∃ offer ∈ offers, ∃ slots, offer.rule.returns.subst slots = goal ∧
      ∀ param ∈ offer.rule.params, Derivable offers (param.subst slots) := by
  cases derivable with
  | node member _ params => exact ⟨_, member, _, rfl, params⟩

section

variable {solver : Solver} {offers : List Offer} {fuel depth : Nat} {asked aim : Term}
  {branch : Branch} {offer : Offer} {tries : List Offer} {stamp : Nat}

theorem Task.Refutes.of_mismatch
    (rest : (Task.offers fuel asked branch depth tries).Refutes offers)
    (ready : (Task.offers fuel asked branch depth (offer :: tries)).Ready solver stamp)
    (mismatch : ∀ subst,
      branch.subst.matching (offer.rule.rename (stamp + 1)).returns asked ≠ .ok subst) :
    (Task.offers fuel asked branch depth (offer :: tries)).Refutes offers := by
  intro other member slots returns
  rcases List.mem_cons.1 member with rfl | member
  · obtain ⟨subst, matched⟩ := ready.matching_iff.2 ⟨slots, returns⟩
    exact absurd matched (mismatch subst)
  · exact rest other member slots returns

/-- An offer that was matched with the goal has the parameters for which nothing was found, however
it returns the goal. -/
theorem Task.Refutes.of_attempt (determined : solver.Determined)
    (rest : (Task.offers fuel asked branch depth tries).Refutes offers)
    (ready : (Task.offers fuel asked branch depth (offer :: tries)).Ready solver stamp)
    {subst : Substitution}
    (matched : branch.subst.matching (offer.rule.rename (stamp + 1)).returns asked = .ok subst)
    (attempt : (Task.build fuel offer (offer.rule.rename (stamp + 1)) aim { branch with subst }
      depth).Refutes offers) :
    (Task.offers fuel asked branch depth (offer :: tries)).Refutes offers := by
  intro other member slots returns
  rcases List.mem_cons.1 member with rfl | member
  · have ground := ready.ground.1
    have chosen := (ready.build matched (subst.apply_of_ground ground) ground).ground
    obtain ⟨goal, wanted, refuted⟩ := attempt
    rw [Chosen.params_eq chosen determined returns] at wanted
    obtain ⟨param, inParams, rfl⟩ := List.mem_map.1 wanted
    exact ⟨param, inParams, refuted⟩
  · exact rest other member slots returns

end

/-- A run for ground goals that finds nothing shows that there is no derivation from the offers that
were there from the start. -/
theorem Runs.refutes {solver : Solver} (determined : solver.Determined)
    (never : solver.NeverDeclines) {offers : List Offer} {α : Type} {task : Task α}
    {arena reached : Arena} {result : Except Halt α} (run : Runs solver task arena result reached)
    (ready : task.Ready solver arena.stamp) (offered : offers ⊆ task.start.providers.offers)
    {outcome : α} (ok : result = .ok outcome) (nothing : task.finish? outcome = none) :
    task.Refutes offers := by
  induction run with
  | exhausted | tooDeep | cyclic | notDeferred | probeHalts | paramsHalt | paramHalts | noView
  | bodyFails | tiedBefore => cases ok
  | known | noParams | built =>
      cases ok
      cases nothing
  | noOffers => exact fun _ member => by cases member
  | unfound same _ _ _ ih =>
      subst same
      have refuted := ih (by simpa using ready.offers rfl) offered rfl rfl
      intro derivable
      obtain ⟨offer, member, slots, returns, params⟩ := derivable.exists_offer
      obtain ⟨param, inParams, not⟩ := refuted offer (offered member) slots returns
      exact not (params param inParams)
  | searched _ _ _ found _ _ =>
      obtain _ | _ := outcome
      · exact absurd ok found
      · cases nothing
  | mismatch clash _ ih =>
      refine (ih (by simpa using ready.rest) offered ok nothing).of_mismatch ready fun _ => ?_
      rw [clash]
      nofun
  | leftOpen _ isOpen _ _ =>
      rw [Substitution.apply_of_ground _ ready.ground.1, ready.ground.1] at isOpen
      cases isOpen
  | settles _ _ _ _ found _ =>
      obtain _ | _ := outcome
      · exact absurd ok found
      · cases nothing
  | moveOn matched same ground first _ one two =>
      have stamps := first.grows.stamp
      simp only [Solver.stamp_noted, Arena.stamp_note, Arena.stamp_tried] at stamps
      have attempt := one (by simpa using ready.build matched same ground) offered rfl rfl
      exact (two (ready.rest.mono stamps) offered ok nothing).of_attempt determined ready matched
        attempt
  | plain _ _ ih => exact ih (ready.complete _ _) offered ok nothing
  | withCell _ probe _ _ _ ih | guarded _ probe _ _ ih =>
      exact ih ((ready.complete _ _).mono probe.grows.stamp) offered ok nothing
  | paramsFail _ ih => exact ih (ready.params determined) offered rfl rfl
  | paramsSettled params _ _ ih =>
      have kept := params.keepsProviders (offers ⊆ ·.offers)
        (fun _ value subset => List.Subset.trans subset (subset_enroll _ _ value)) offered rfl rfl
      exact (ih (ready.invoke determined params) kept ok nothing).elim
  | paramFails _ ih => exact ⟨_, .head _, ih ready.param offered rfl rfl⟩
  | @paramFound _ _ _ _ _ _ branch _ _ _ found result goal _ _ ih =>
      obtain _ | _ | settled := result <;> cases ok <;> cases nothing
      have kept := goal.keepsProviders (offers ⊆ ·.offers)
        (fun _ value subset => List.Subset.trans subset (subset_enroll _ _ value)) offered rfl rfl
      obtain ⟨wanted, member, refuted⟩ := ih (by simpa using ready.later determined goal)
        (List.Subset.trans kept (subset_enroll _ _ _)) rfl rfl
      obtain ⟨pattern, inPatterns, rfl⟩ := List.mem_map.1 member
      refine ⟨_, List.mem_map_of_mem (.tail _ inPatterns), ?_⟩
      have extended : branch.subst.Extends found.branch.subst :=
        (goal.keepsSubst ready.start.triangular rfl rfl).extended
      rwa [← extended.apply_of_ground ready.start.triangular (ready.ground _ (.tail _ inPatterns))]
  | slotOpen left =>
      obtain ⟨types, closed⟩ := Chosen.slots_closed ready.ground determined
      rw [closed] at left
      cases left
  | declines _ _ ran => exact never _ ready.ground.declared _ _ (congrArg Prod.fst ran)

/-! ## 3. Whole searches -/

/-- A run that ends without a derivation was told so by the body that it ran last. -/
theorem Runs.raised_last {solver : Solver} {α : Type} {task : Task α}
    {arena reached : Arena} {result : Except Halt α} (run : Runs solver task arena result reached)
    {missing : Term} (ended : result = .error (.failed (.noDerivation missing))) :
    ∃ call before, reached.log = .halted (.noDerivation missing) :: .called call :: before ∧
      (call.rule.recipe.run call.inputs call.heap).val.1 = .error (.noDerivation missing) := by
  induction run with
  | exhausted | tooDeep | cyclic | known | unfound | noOffers | notDeferred | paramsFail | noParams
  | paramFails | slotOpen | declines | tiedBefore | built => cases ended
  | searched _ _ _ _ _ ih | mismatch _ _ ih | leftOpen _ _ _ ih | settles _ _ _ _ _ ih
  | moveOn _ _ _ _ _ _ ih | plain _ _ ih | paramsSettled _ _ _ ih => exact ih ended
  | withCell _ _ _ _ _ ih | guarded _ _ _ _ ih =>
      subst ended
      exact ih rfl
  | probeHalts _ _ ih | paramsHalt _ ih | paramHalts _ ih =>
      cases ended
      exact ih rfl
  | @paramFound _ _ _ _ _ _ _ _ _ _ _ result _ _ _ ih =>
      obtain halt | settled := result
      · cases ended
        exact ih rfl
      · cases ended
  | noView _ failed =>
      obtain ⟨_, rfl⟩ := Solver.inputs_error failed
      cases ended
  | bodyFails _ _ ran =>
      cases ended
      exact ⟨_, _, rfl, by rw [ran]⟩

/-- Let the rules be determined and no body decline. If a goal is derivable from the rules of the
given providers and a search for it ends without a derivation, this is the failure that the body
raised which was run last. -/
theorem solve_noDerivation_raised {solver : Solver} (determined : solver.Determined)
    (never : solver.NeverDeclines) {fuel : Nat} {goal missing : Term} {providers : List Value}
    {arena reached : Arena}
    (derivable : Derivable (solver.startingBranch providers).providers.offers goal)
    (ended : (solver.solve fuel goal providers).runFrom arena =
      (.error (.failed (.noDerivation missing)), reached)) :
    ∃ call before, reached.log = .halted (.noDerivation missing) :: .called call :: before ∧
      (call.rule.recipe.run call.inputs call.heap).val.1 = .error (.noDerivation missing) := by
  rw [runFrom_solve] at ended
  have ends := derives solver fuel goal providers arena
  generalize (solver.derive fuel goal providers).runFrom arena = derived at ends ended
  obtain ⟨result, last⟩ := derived
  cases ends with
  | openGoal | unknownProvider | finds => cases ended
  | halts _ _ run =>
      cases ended
      exact run.raised_last rfl
  | fails ground reports run =>
      have refuted := run.refutes determined never (.of_start ground) (List.Subset.refl _) rfl rfl
      rw [Task.Refutes, Substitution.apply_of_ground _ ground] at refuted
      exact absurd derivable refuted

/-! ## 4. A body that raises the failure itself -/

/-- A shape with two rules for one goal. The body of the first one fails because there is no
derivation of the goal. -/
def denying : ShapeDecl where
  kind := .provider 0
  name := "Host"
  bearing := true
  base := none
  rules := [
    ⟨"bad", .constant "A", [], Script.recipe [] [.raise (.noDerivation (.constant "A"))]⟩,
    .producing "good" (.constant "A") []]

def denyingSolver : Solver := ⟨⟨[denying.toShape]⟩, .silent, .word⟩

def denyingHost : Value := .mk 0 (.provider 0 "p" none)

theorem denyingSolver_determined : denyingSolver.Determined := by
  intro rule declared
  obtain ⟨decl, listed, rfl⟩ := Registry.declares_of_single declared
  simp only [denying, List.mem_cons, List.not_mem_nil, or_false] at listed
  rcases listed with rfl | rfl <;> exact fun _ none => by cases none

theorem denyingSolver_neverDeclines : denyingSolver.NeverDeclines := by
  intro rule declared given heap
  obtain ⟨decl, listed, rfl⟩ := Registry.declares_of_single declared
  simp only [denying, List.mem_cons, List.not_mem_nil, or_false] at listed
  rcases listed with rfl | rfl
  · nofun
  · nofun

theorem denyingSolver_derivable :
    Derivable (denyingSolver.startingBranch [denyingHost]).providers.offers (.constant "A") :=
  @Derivable.node _ ⟨(RuleDecl.producing "good" (.constant "A") []).onShape "Host", denyingHost, []⟩
    (fun _ => .constant "A") (.tail _ (.head _)) (fun _ => rfl) fun _ none => by cases none

theorem denyingSolver_fails :
    ((denyingSolver.solve 2 (.constant "A") [denyingHost]).runFrom ⟨⟨1, []⟩, 0, []⟩).1 =
      .error (.failed (.noDerivation (.constant "A"))) :=
  Search.error_of_failsWith (by decide +kernel)

theorem solve_noDerivation_raised_denying : ∃ reached, denyingSolver.Determined ∧
    denyingSolver.NeverDeclines ∧
    Derivable (denyingSolver.startingBranch [denyingHost]).providers.offers (.constant "A") ∧
    (denyingSolver.solve 2 (.constant "A") [denyingHost]).runFrom ⟨⟨1, []⟩, 0, []⟩ =
      (.error (.failed (.noDerivation (.constant "A"))), reached) ∧
    ∃ call before,
      reached.log = .halted (.noDerivation (.constant "A")) :: .called call :: before ∧
      (call.rule.recipe.run call.inputs call.heap).val.1 =
        .error (.noDerivation (.constant "A")) := by
  have ran : (denyingSolver.solve 2 (.constant "A") [denyingHost]).runFrom ⟨⟨1, []⟩, 0, []⟩ =
      (.error (.failed (.noDerivation (.constant "A"))), _) := Prod.ext denyingSolver_fails rfl
  exact ⟨_, denyingSolver_determined, denyingSolver_neverDeclines, denyingSolver_derivable, ran,
    solve_noDerivation_raised denyingSolver_determined denyingSolver_neverDeclines
      denyingSolver_derivable ran⟩

/-- A search for a derivable goal may end without a derivation, although all rules are determined
and no body declines. -/
theorem search_denies_derivable : denyingSolver.Determined ∧ denyingSolver.NeverDeclines ∧
    Derivable (denyingSolver.startingBranch [denyingHost]).providers.offers (.constant "A") ∧
    ((denyingSolver.solve 2 (.constant "A") [denyingHost]).runFrom ⟨⟨1, []⟩, 0, []⟩).1 =
      .error (.failed (.noDerivation (.constant "A"))) :=
  ⟨denyingSolver_determined, denyingSolver_neverDeclines, denyingSolver_derivable,
    denyingSolver_fails⟩

end Synthesis
