import Synthesis.Proofs.Matching
import Synthesis.Proofs.Placeholders
import Synthesis.Proofs.Typing

/-!
# Rules whose parameters are determined by what they return

If every variable of a rule's parameters occurs in its return pattern, then a match with a ground
goal makes all parameters ground. So a search for a ground goal only looks for ground goals, and no
generic slot is open when a body is run.

Results:
1. `Chosen.params_ground`, `Chosen.slots_closed`: a rule that was matched with a ground goal has
   ground parameters and ground types for its slots.
2. `goals_of_inputs`: the goals that a body sees for its arguments are those of its parameters.
3. `Runs.keepsProviders`: what is kept when a value is taken in as a provider is kept by a run.
4. `Task.Ready`: if a part of a search is ready for ground goals, so is each part that it consists
   of (`Runs.keepsProper` for the branches in between).
-/
namespace Synthesis

open Substitution (Triangular)

/-! ## 1. Determined rules -/

/-- Every variable of a parameter occurs in the return pattern. -/
def Signature.Determined (signature : Signature) : Prop :=
  ∀ param ∈ signature.params, ∀ name, param.mentions name = true →
    signature.returns.mentions name = true

theorem Signature.determined_of_ground {signature : Signature}
    (ground : ∀ param ∈ signature.params, param.isGround = true) : signature.Determined := by
  intro param member name inParam
  rw [Term.mentions_of_ground (ground param member)] at inParam
  cases inParam

/-- All rules of the registry are determined. -/
def Solver.Determined (solver : Solver) : Prop :=
  ∀ rule, solver.registry.Declares rule → rule.toSignature.Determined

theorem Signature.mem_slots {signature : Signature} {name : String} :
    name ∈ signature.slots ↔
      signature.returns.mentions name = true ∨
        ∃ param ∈ signature.params, param.mentions name = true := by
  have among (params : List Term) (found : List String) :
      name ∈ params.foldl Term.addVars found ↔
        name ∈ found ∨ ∃ param ∈ params, param.mentions name = true := by
    induction params generalizing found with
    | nil => simp
    | cons param params ih => simp [ih, Term.mem_addVars, or_assoc]
  rw [slots, among, Term.mem_vars]

/-- A determined rule has no slots but the variables of its return pattern. -/
theorem Signature.Determined.mentions_of_slot {signature : Signature}
    (determined : signature.Determined) {name : String} (slot : name ∈ signature.slots) :
    signature.returns.mentions name = true := by
  rcases mem_slots.1 slot with inReturns | ⟨param, member, inParam⟩
  · exact inReturns
  · exact determined param member name inParam

/-! ## 2. Rules that were matched with ground goals -/

/-- An offer of a registry that was renamed and whose return pattern is equal to a ground goal. -/
structure Chosen (registry : Registry) (offer : Offer) (renamed : Renamed) (aim : Term)
    (subst : Substitution) : Prop where
  declared : registry.Declares offer.rule
  stamped : ∃ stamp, renamed = offer.rule.rename stamp
  ground : aim.isGround = true
  returns : subst.apply renamed.returns = aim

namespace Chosen

variable {solver : Solver} {offer : Offer} {renamed : Renamed} {aim : Term}
  {subst later : Substitution}

theorem of_matching {stamp : Nat} {asked : Term} (triangular : Triangular subst.bindings)
    (declared : solver.registry.Declares offer.rule)
    (matched : subst.matching (offer.rule.rename stamp).returns asked = .ok later)
    (same : later.apply asked = aim) (ground : aim.isGround = true) :
    Chosen solver.registry offer (offer.rule.rename stamp) aim later :=
  ⟨declared, ⟨stamp, rfl⟩, ground, (Substitution.matching_ok triangular matched).2.2.trans same⟩

theorem extend (chosen : Chosen solver.registry offer renamed aim subst)
    (triangular : Triangular subst.bindings) (extended : subst.Extends later) :
    Chosen solver.registry offer renamed aim later where
  declared := chosen.declared
  stamped := chosen.stamped
  ground := chosen.ground
  returns := by
    have ground := chosen.ground
    rw [← chosen.returns] at ground ⊢
    exact extended.apply_of_ground triangular ground

theorem returns_slots (chosen : Chosen solver.registry offer renamed aim subst) :
    ∃ stamp, renamed = offer.rule.rename stamp ∧
      offer.rule.returns.subst (slotTerm subst stamp) = aim := by
  obtain ⟨stamp, rfl⟩ := chosen.stamped
  refine ⟨stamp, rfl, ?_⟩
  rw [← apply_returns_rename, chosen.returns]

/-- Whatever terms the return pattern makes the goal of, the parameters have the goals that these
terms make of them. -/
theorem params_eq (chosen : Chosen solver.registry offer renamed aim subst)
    (determined : solver.Determined) {slots : String → Term}
    (returns : offer.rule.returns.subst slots = aim) :
    renamed.params.map subst.apply = offer.rule.params.map (Term.subst slots) := by
  obtain ⟨stamp, rfl, same⟩ := chosen.returns_slots
  rw [apply_params_rename]
  refine List.map_congr_left fun param member => Term.subst_congr fun name inParam => ?_
  exact Term.agree_of_subst_eq (same.trans returns.symm)
    (determined _ chosen.declared param member name inParam)

theorem slotTerm_ground (chosen : Chosen solver.registry offer renamed aim subst)
    (determined : solver.Determined) {stamp : Nat}
    (returns : offer.rule.returns.subst (slotTerm subst stamp) = aim) {slot : String}
    (member : slot ∈ offer.rule.slots) : (slotTerm subst stamp slot).isGround = true := by
  have ground := chosen.ground
  rw [← returns, Term.isGround_subst] at ground
  exact ground slot ((determined _ chosen.declared).mentions_of_slot member)

theorem params_ground (chosen : Chosen solver.registry offer renamed aim subst)
    (determined : solver.Determined) :
    ∀ param ∈ renamed.params, (subst.apply param).isGround = true := by
  obtain ⟨stamp, rfl, returns⟩ := chosen.returns_slots
  intro param member
  have applied : subst.apply param ∈
      offer.rule.params.map (Term.subst (slotTerm subst stamp)) := by
    rw [← apply_params_rename]
    exact List.mem_map_of_mem member
  obtain ⟨pattern, declared, same⟩ := List.mem_map.1 applied
  rw [← same, Term.isGround_subst]
  intro name inPattern
  refine chosen.slotTerm_ground determined returns (Signature.mem_slots.2 (.inr ?_))
  exact ⟨pattern, declared, inPattern⟩

theorem slots_closed (chosen : Chosen solver.registry offer renamed aim subst)
    (determined : solver.Determined) :
    ∃ types, Solver.slotTypes subst renamed.slots = .ok types := by
  obtain ⟨stamp, rfl, returns⟩ := chosen.returns_slots
  refine ⟨_, slotTypes_of_ground fun slot member => ?_⟩
  obtain ⟨name, listed, rfl⟩ := List.mem_map.1 member
  exact chosen.slotTerm_ground determined returns listed

variable {other : Renamed}

/-- Two ways to choose a rule for a goal give the same goals for the parameters. -/
theorem params_same (determined : solver.Determined)
    (one : Chosen solver.registry offer renamed aim subst)
    (two : Chosen solver.registry offer other aim later) :
    other.params.map later.apply = renamed.params.map subst.apply := by
  obtain ⟨stamp, -, returns⟩ := one.returns_slots
  rw [one.params_eq determined returns, two.params_eq determined returns]

theorem isEmpty_params (one : Chosen solver.registry offer renamed aim subst)
    (two : Chosen solver.registry offer other aim later) :
    other.params.isEmpty = renamed.params.isEmpty := by
  obtain ⟨_, rfl⟩ := one.stamped
  obtain ⟨_, rfl⟩ := two.stamped
  simp [Signature.rename]

/-- Two ways to choose a rule for a goal give the same types for the generic slots. -/
theorem slotTypes_same (determined : solver.Determined)
    (one : Chosen solver.registry offer renamed aim subst)
    (two : Chosen solver.registry offer other aim later) {types : List Term}
    (closed : Solver.slotTypes subst renamed.slots = .ok types) :
    Solver.slotTypes later other.slots = .ok types := by
  obtain ⟨all, also⟩ := two.slots_closed determined
  obtain ⟨stamp, rfl, returns⟩ := one.returns_slots
  obtain ⟨more, rfl, returns'⟩ := two.returns_slots
  rw [also, (slotTypes_ok closed).1, (slotTypes_ok also).1]
  simp only [Signature.rename, List.map_map]
  refine congrArg _ (List.map_congr_left fun slot member => ?_)
  exact Term.agree_of_subst_eq (returns'.trans returns.symm)
    ((determined _ one.declared).mentions_of_slot member)

end Chosen

/-! ## 3. The goals of a body's arguments -/

/-- The goals of the parameters, which the types of the slots make of their patterns. -/
def Inputs.goals (inputs : Inputs) : List Term :=
  inputs.signature.params.map (Term.subst fun slot => (inputs.slotType? slot).getD (.var slot))

theorem Inputs.slotType?_of_mem {inputs : Inputs} (terms : String → Term)
    (types : inputs.types = inputs.signature.slots.map terms) {slot : String}
    (member : slot ∈ inputs.signature.slots) : inputs.slotType? slot = some (terms slot) := by
  unfold slotType?
  cases place : inputs.signature.slots.idxOf? slot with
  | none => exact absurd member (List.idxOf?_eq_none_iff.1 place)
  | some index =>
      obtain ⟨there, same⟩ := List.idxOf?_eq_some_iff.1 place
      simp [types, there, same]

theorem args_of_inputs {offer : Offer} {types : List Term} {args : List Value} {given : Inputs}
    (seen : Solver.inputs offer types args = .ok given) : given.args = args := by
  obtain ⟨provider, rfl⟩ := Solver.inputs_ok seen
  rfl

/-- The goals that a body sees for its arguments are those of the parameters. -/
theorem goals_of_inputs {subst : Substitution} {offer : Offer} {stamp : Nat} {types : List Term}
    {args : List Value} {given : Inputs}
    (closed : Solver.slotTypes subst (offer.rule.rename stamp).slots = .ok types)
    (seen : Solver.inputs offer types args = .ok given) :
    given.goals = (offer.rule.rename stamp).params.map subst.apply := by
  obtain ⟨provider, rfl⟩ := Solver.inputs_ok seen
  obtain ⟨rfl, -⟩ := slotTypes_ok closed
  rw [apply_params_rename]
  refine List.map_congr_left fun param member => Term.subst_congr fun name inParam => ?_
  have slot : name ∈ offer.rule.slots := Signature.mem_slots.2 (.inr ⟨param, member, inParam⟩)
  rw [Inputs.slotType?_of_mem (slotTerm subst stamp) ?_ slot, Option.getD_some]
  simp only [Signature.rename, List.map_map]
  rfl

/-! ## 4. Searches for ground goals -/

theorem Runs.keepsProviders {solver : Solver} {α : Type} {task : Task α} {arena reached : Arena}
    {result : Except Halt α} (run : Runs solver task arena result reached)
    (kept : Providers → Prop)
    (enroll : ∀ providers value, kept providers → kept (providers.enroll solver.registry value))
    (start : kept task.start.providers) {outcome : α} (ok : result = .ok outcome)
    {last : Branch} (finished : task.finish? outcome = some last) : kept last.providers := by
  induction run generalizing last with
  | exhausted | tooDeep | cyclic | notDeferred | probeHalts | paramsHalt | paramHalts | noView
  | bodyFails | tiedBefore => cases ok
  | unfound | noOffers | paramsFail | paramFails | slotOpen | declines =>
      cases ok
      cases finished
  | known | noParams | built =>
      cases ok
      cases finished
      exact start
  | searched _ _ _ _ _ ih | mismatch _ _ ih | leftOpen _ _ _ ih | settles _ _ _ _ _ ih
  | moveOn _ _ _ _ _ _ ih | plain _ _ ih | withCell _ _ _ _ _ ih | guarded _ _ _ _ ih =>
      exact ih start ok finished
  | paramsSettled _ _ params ih => exact ih (params start rfl rfl) ok finished
  | @paramFound _ _ _ _ _ _ _ _ _ _ _ result _ _ goal ih =>
      obtain _ | _ | settled := result <;> cases ok <;> cases finished
      exact ih (enroll _ _ (goal start rfl rfl)) rfl rfl

theorem Providers.accepts_of_inert {registry : Registry} {value : Value}
    (inert : registry.bearsRules value = false) (providers : Providers) :
    providers.accepts registry value = false := by
  rw [accepts, inert, Bool.and_false]

theorem Providers.enroll_of_inert {registry : Registry} {value : Value}
    (inert : registry.bearsRules value = false) (providers : Providers) :
    providers.enroll registry value = providers := by
  rw [enroll, accepts_of_inert inert, if_neg Bool.false_ne_true]

/-- A branch that offers rules of the registry, with triangular bindings of variables that were
renamed by the stamps up to a last one. -/
structure Branch.Proper (solver : Solver) (stamp : Nat) (branch : Branch) : Prop where
  offers : Offers solver.registry branch.providers.offers
  triangular : Triangular branch.subst.bindings
  stamped : branch.subst.StampedTo stamp

theorem Branch.Proper.mono {solver : Solver} {stamp later : Nat} {branch : Branch}
    (proper : branch.Proper solver stamp) (le : stamp ≤ later) : branch.Proper solver later :=
  ⟨proper.offers, proper.triangular, proper.stamped.mono le⟩

theorem Solver.proper_startingBranch (solver : Solver) (values : List Value) (stamp : Nat) :
    (solver.startingBranch values).Proper solver stamp :=
  ⟨offers_startingBranch solver values, trivial, .empty stamp⟩

/-- The goals of a part of a search are ground, and what it tries are rules of the registry. -/
def Task.Ground (solver : Solver) : {α : Type} → Task α → Prop
  | _, .goal _ sought branch _ => (branch.subst.apply sought).isGround = true
  | _, .offers _ asked _ _ tries => asked.isGround = true ∧ Offers solver.registry tries
  | _, .build _ offer renamed aim branch _ | _, .complete _ offer renamed aim _ branch _
  | _, .invoke offer renamed aim _ _ branch _ =>
      Chosen solver.registry offer renamed aim branch.subst
  | _, .params _ _ _ _ patterns branch =>
      ∀ pattern ∈ patterns, (branch.subst.apply pattern).isGround = true

/-- A part of a search that looks for ground goals from a proper branch. -/
structure Task.Ready (solver : Solver) (stamp : Nat) {α : Type} (task : Task α) : Prop where
  start : task.start.Proper solver stamp
  ground : task.Ground solver

namespace Task.Ready

variable {solver : Solver} {stamp later fuel depth index : Nat} {sought asked aim first : Term}
  {branch middle : Branch} {offer : Offer} {tries : List Offer} {renamed : Renamed}
  {own : Option Nat} {rule : Signature} {patterns : List Term}

theorem of_start {values : List Value} (ground : sought.isGround = true) :
    (Task.goal fuel sought (solver.startingBranch values) depth).Ready solver stamp :=
  ⟨solver.proper_startingBranch values stamp,
    by rwa [Task.Ground, Substitution.apply_of_ground _ ground]⟩

theorem mono {α : Type} {task : Task α} (ready : task.Ready solver stamp) (le : stamp ≤ later) :
    task.Ready solver later :=
  ⟨ready.start.mono le, ready.ground⟩

theorem offers (ready : (Task.goal fuel sought branch depth).Ready solver stamp)
    (same : branch.subst.apply sought = asked) :
    (Task.offers later asked branch depth branch.providers.offers).Ready solver stamp :=
  ⟨ready.start, same ▸ ready.ground, ready.start.offers⟩

/-- The next offer matches the goal if and only if its rule returns the goal. -/
theorem matching_iff
    (ready : (Task.offers fuel asked branch depth (offer :: tries)).Ready solver stamp) :
    (∃ later, branch.subst.matching (offer.rule.rename (stamp + 1)).returns asked = .ok later) ↔
      ∃ slots, offer.rule.returns.subst slots = asked :=
  matching_iff_returns ready.start.triangular ready.start.stamped (Nat.lt_succ_self _) _
    ready.ground.1

/-- A rule that is matched with the goal returns it, and the match leaves the goal as it is. -/
theorem returns_of_matched
    (ready : (Task.offers fuel asked branch depth (offer :: tries)).Ready solver stamp)
    {subst : Substitution}
    (matched : branch.subst.matching (offer.rule.rename (stamp + 1)).returns asked = .ok subst)
    (same : subst.apply asked = aim) :
    aim = asked ∧ ∃ slots, offer.rule.returns.subst slots = asked :=
  ⟨same.symm.trans (subst.apply_of_ground ready.ground.1), ready.matching_iff.1 ⟨_, matched⟩⟩

theorem rest (ready : (Task.offers fuel asked branch depth (offer :: tries)).Ready solver stamp) :
    (Task.offers fuel asked branch depth tries).Ready solver (stamp + 1) :=
  ⟨ready.start.mono (Nat.le_succ _), ready.ground.1,
    fun other member => ready.ground.2 other (.tail _ member)⟩

theorem build (ready : (Task.offers fuel asked branch depth (offer :: tries)).Ready solver stamp)
    {subst : Substitution}
    (matched : branch.subst.matching (offer.rule.rename (stamp + 1)).returns asked = .ok subst)
    (same : subst.apply asked = aim) (ground : aim.isGround = true) :
    (Task.build fuel offer (offer.rule.rename (stamp + 1)) aim { branch with subst } depth).Ready
      solver (stamp + 1) where
  start := ⟨ready.start.offers,
    (Substitution.matching_ok ready.start.triangular matched).2.1,
    ready.start.stamped.matching (Nat.lt_succ_self _) ready.ground.1 matched⟩
  ground := .of_matching ready.start.triangular (ready.ground.2 _ (.head _)) matched same ground

theorem probe (ready : (Task.build fuel offer renamed aim branch depth).Ready solver stamp) :
    (Task.goal fuel (aim.under solver.settings.placeholder) branch later).Ready solver stamp where
  start := ready.start
  ground := by
    have ground : (aim.under solver.settings.placeholder).isGround = true := by
      simpa using ready.ground.ground
    rwa [Task.Ground, Substitution.apply_of_ground _ ground]

theorem complete (ready : (Task.build fuel offer renamed aim branch depth).Ready solver stamp)
    (own : Option Nat) (memo : Memo) :
    (Task.complete fuel offer renamed aim own { branch with memo } depth).Ready solver stamp :=
  ⟨⟨ready.start.offers, ready.start.triangular, ready.start.stamped⟩, ready.ground⟩

theorem params (ready : (Task.complete fuel offer renamed aim own branch depth).Ready solver stamp)
    (determined : solver.Determined) :
    (Task.params fuel offer.rule.toSignature depth 0 renamed.params branch).Ready solver stamp :=
  ⟨ready.start, Chosen.params_ground ready.ground determined⟩

theorem param
    (ready : (Task.params fuel rule depth index (first :: patterns) branch).Ready solver stamp) :
    (Task.goal fuel first branch later).Ready solver stamp :=
  ⟨ready.start, ready.ground _ (.head _)⟩

theorem invoke_from
    (ready : (Task.complete fuel offer renamed aim own branch depth).Ready solver stamp)
    (proper : middle.Proper solver later) (extended : branch.subst.Extends middle.subst)
    (args : List Value) :
    (Task.invoke offer renamed aim own args middle depth).Ready solver later :=
  ⟨proper, Chosen.extend ready.ground ready.start.triangular extended⟩

theorem params_from
    (ready : (Task.params fuel rule depth index (first :: patterns) branch).Ready solver stamp)
    (proper : middle.Proper solver later) (extended : branch.subst.Extends middle.subst)
    (value : Value) :
    (Task.params fuel rule depth (index + 1) patterns
      { middle with providers := middle.providers.enroll solver.registry value }).Ready
      solver later where
  start := ⟨proper.offers.enroll value, proper.triangular, proper.stamped⟩
  ground := by
    intro pattern member
    have ground := ready.ground pattern (.tail _ member)
    rwa [← extended.apply_of_ground ready.start.triangular ground] at ground

end Task.Ready

/-- A run for ground goals leads from proper branches to proper branches. -/
theorem Runs.keepsProper {solver : Solver} (determined : solver.Determined) {α : Type}
    {task : Task α} {arena reached : Arena} {result : Except Halt α}
    (run : Runs solver task arena result reached) (ready : task.Ready solver arena.stamp)
    {outcome : α} (ok : result = .ok outcome) {last : Branch}
    (finished : task.finish? outcome = some last) : last.Proper solver reached.stamp := by
  induction run generalizing last with
  | exhausted | tooDeep | cyclic | notDeferred | probeHalts | paramsHalt | paramHalts | noView
  | bodyFails | tiedBefore => cases ok
  | unfound | noOffers | paramsFail | paramFails | slotOpen | declines =>
      cases ok
      cases finished
  | known | built =>
      cases ok
      cases finished
      simp only [Solver.stamp_noted, Arena.stamp_onHeap, Arena.stamp_note]
      exact ⟨ready.start.offers, ready.start.triangular, ready.start.stamped⟩
  | noParams =>
      cases ok
      cases finished
      exact ready.start
  | searched same _ _ _ _ ih => exact ih (by simpa using ready.offers same) ok finished
  | mismatch _ _ ih | leftOpen _ _ _ ih => exact ih (by simpa using ready.rest) ok finished
  | settles matched same ground _ _ ih =>
      exact ih (by simpa using ready.build matched same ground) ok finished
  | moveOn _ _ _ first _ _ ih =>
      have stamps := first.grows.stamp
      simp only [Solver.stamp_noted, Arena.stamp_note, Arena.stamp_tried] at stamps
      exact ih (ready.rest.mono stamps) ok finished
  | plain _ _ ih => exact ih (ready.complete _ _) ok finished
  | withCell _ probe _ _ _ ih | guarded _ probe _ _ ih =>
      rw [Arena.stamp_leave]
      exact ih ((ready.complete _ _).mono probe.grows.stamp) ok finished
  | paramsSettled params _ one ih =>
      have ready_params := ready.params determined
      have extended := (params.keepsSubst ready_params.start.triangular rfl rfl).extended
      exact ih (ready.invoke_from (one ready_params rfl rfl) extended _) ok finished
  | @paramFound _ _ _ _ _ _ _ _ _ _ _ result goal _ one ih =>
      obtain _ | _ | settled := result <;> cases ok <;> cases finished
      have extended := (goal.keepsSubst ready.start.triangular rfl rfl).extended
      refine ih ?_ rfl rfl
      simpa using ready.params_from (one ready.param rfl rfl) extended _

namespace Task.Ready

variable {solver : Solver} {fuel depth index : Nat} {aim first : Term} {arena middle : Arena}
  {branch : Branch} {offer : Offer} {renamed : Renamed} {own : Option Nat} {rule : Signature}
  {patterns : List Term}

theorem invoke (determined : solver.Determined)
    (ready : (Task.complete fuel offer renamed aim own branch depth).Ready solver arena.stamp)
    {args : List Value} {later : Branch}
    (run : Runs solver (.params fuel offer.rule.toSignature depth 0 renamed.params branch) arena
      (.ok (some (args, later))) middle) :
    (Task.invoke offer renamed aim own args later depth).Ready solver middle.stamp :=
  ready.invoke_from (run.keepsProper determined (ready.params determined) rfl rfl)
    (run.keepsSubst ready.start.triangular rfl rfl).extended args

theorem later (determined : solver.Determined)
    (ready : (Task.params fuel rule depth index (first :: patterns) branch).Ready solver
      arena.stamp) {found : Found}
    (run : Runs solver (.goal fuel first branch (solver.depths.next depth)) arena
      (.ok (some found)) middle) :
    (Task.params fuel rule depth (index + 1) patterns
      { found.branch with
        providers := found.branch.providers.enroll solver.registry found.value }).Ready
      solver middle.stamp :=
  ready.params_from (run.keepsProper determined ready.param rfl rfl)
    (run.keepsSubst ready.start.triangular rfl rfl).extended found.value

end Task.Ready

end Synthesis
