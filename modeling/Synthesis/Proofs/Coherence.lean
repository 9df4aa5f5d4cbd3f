import Mathlib.Data.List.Flatten
import Synthesis.Proofs.Accumulation
import Synthesis.Proofs.Determined
import Synthesis.Proofs.Nesting

/-!
# The providers that a branch holds

The offers of the active providers are not collected anew for each goal: they are kept in a list of
their own beside the providers, which is added to as providers are taken in. In every branch that a
search can hold, this list is what collecting the offers anew would give.

Results:
1. `Providers.Coherent.enroll`: taking in a value keeps the members and their offers coherent, a
   second time changes nothing, and nothing that was there is moved.
2. `Task.ComesTo.keepsProviders`: what is kept by taking in a value holds of the providers of each
   part to which a part of a search comes, those of probes and of offers that are given up included.
3. `Solver.Visits.coherent`, `visited_providers_coherent`: the providers of every branch that can be
   reached are coherent.
-/
namespace Synthesis

/-! ## 1. Coherent providers -/

/-- No two providers are the same value, each of them has a registered shape of its own that bears
rules, and the offers are those of the first provider, then those of the second one, and so on. -/
structure Providers.Coherent (registry : Registry) (providers : Providers) : Prop where
  distinct : providers.members.Pairwise fun one other => one.id ≠ other.id
  bearing : ∀ member ∈ providers.members, ∃ shape,
    registry.shape? member.kind = some shape ∧ shape.bearing = true
  offers : providers.offers = providers.members.flatMap registry.offers

theorem Registry.bearsRules_iff {registry : Registry} {value : Value} :
    registry.bearsRules value = true ↔
      ∃ shape, registry.shape? value.kind = some shape ∧ shape.bearing = true := by
  unfold bearsRules
  cases registry.shape? value.kind with
  | none => simp
  | some shape => simp

namespace Providers

variable {registry : Registry} {providers : Providers} {value : Value}

theorem contains_eq_false_iff :
    providers.contains value = false ↔ ∀ member ∈ providers.members, member.id ≠ value.id := by
  rw [contains, List.any_eq_false]
  simp only [Value.same, beq_iff_eq]

theorem accepts_iff :
    providers.accepts registry value = true ↔
      (∀ member ∈ providers.members, member.id ≠ value.id) ∧
        ∃ shape, registry.shape? value.kind = some shape ∧ shape.bearing = true := by
  rw [accepts, Bool.and_eq_true, Bool.not_eq_true', contains_eq_false_iff,
    Registry.bearsRules_iff]

/-- A value that was taken in, or was turned away, is not accepted again. -/
theorem accepts_enroll :
    (providers.enroll registry value).accepts registry value = false := by
  unfold enroll
  split
  · rw [Bool.eq_false_iff]
    intro again
    have new := (accepts_iff.1 again).1 value (List.mem_append_right _ (.head _))
    exact new rfl
  · next refused => exact Bool.eq_false_iff.2 refused

theorem enroll_enroll :
    (providers.enroll registry value).enroll registry value = providers.enroll registry value := by
  rw [enroll, if_neg (Bool.eq_false_iff.1 accepts_enroll)]

namespace Coherent

theorem empty (registry : Registry) : Coherent registry {} :=
  ⟨.nil, fun _ none => (by cases none), rfl⟩

theorem enroll (coherent : providers.Coherent registry) (value : Value) :
    (providers.enroll registry value).Coherent registry := by
  unfold Providers.enroll
  split
  · next accepted =>
      obtain ⟨new, shape⟩ := accepts_iff.1 accepted
      refine ⟨?_, ?_, ?_⟩
      · rw [List.pairwise_append]
        refine ⟨coherent.distinct, List.pairwise_singleton _ _, ?_⟩
        intro member there last here
        rw [List.mem_singleton.1 here]
        exact new member there
      · intro member there
        rcases List.mem_append.1 there with before | last
        · exact coherent.bearing member before
        · exact List.mem_singleton.1 last ▸ shape
      · rw [coherent.offers, List.flatMap_append, List.flatMap_singleton]
  · exact coherent

end Coherent

end Providers

/-! ## 2. What one provider offers -/

namespace Registry

/-- The shapes from a registered kind upwards begin with its own. -/
theorem lineageAmong_of_find? {kind : Kind} {shapes : List Shape} {shape : Shape}
    (views : List View) (found : shapes.find? (fun shape => shape.kind = kind) = some shape) :
    ∃ above, lineageAmong views kind shapes = ⟨shape, views⟩ :: above := by
  induction shapes with
  | nil => cases found
  | cons first rest ih =>
      rw [List.find?_cons] at found
      unfold lineageAmong
      split at found
      · next own =>
          cases found
          rw [if_pos (of_decide_eq_true own)]
          exact ⟨_, rfl⟩
      · next other =>
          rw [if_neg (of_decide_eq_false other)]
          exact ih found

/-- A provider offers all rules of its own shape before those of the shapes above it. -/
theorem offers_prefix {registry : Registry} {value : Value} {shape : Shape}
    (found : registry.shape? value.kind = some shape) (bearing : shape.bearing = true) :
    (shape.rules.map fun rule => ⟨rule, value, []⟩) <+: registry.offers value := by
  obtain ⟨above, same⟩ := lineageAmong_of_find? [] found
  rw [offers, lineage, same, List.flatMap_cons, if_pos bearing]
  exact List.prefix_append _ _

/-- Two values of one kind offer the same rules, each with itself as their provider. -/
theorem offers_of_kind (registry : Registry) {one other : Value} (kind : one.kind = other.kind) :
    registry.offers other = (registry.offers one).map fun offer =>
      { offer with provider := other } := by
  unfold offers
  rw [kind, List.map_flatMap]
  refine congrArg List.flatten (List.map_congr_left fun ancestor _ => ?_)
  split
  · rw [List.map_map]
    rfl
  · rfl

end Registry

/-- Two providers contribute all their offers, the earlier one first. -/
theorem Providers.Coherent.offers_sublist {registry : Registry} {providers : Providers}
    (coherent : providers.Coherent registry) {one other : Value}
    (ordered : [one, other].Sublist providers.members) :
    (registry.offers one ++ registry.offers other).Sublist providers.offers := by
  have both := ordered.flatMap registry.offers
  rwa [← coherent.offers, List.flatMap_cons, List.flatMap_singleton] at both

/-! ## 3. The branches that a search holds -/

section

variable {solver : Solver} {α β : Type} {task : Task α} {part : Task β} {arena middle : Arena}
  (kept : Providers → Prop)
  (enroll : ∀ providers value, kept providers → kept (providers.enroll solver.registry value))
include enroll

theorem Task.Next.keepsProviders (next : task.Next solver arena part middle)
    (holds : kept task.start.providers) : kept part.start.providers := by
  cases next with
  | tries | afterMismatch | afterOpen | attempt | afterAttempt | plain | probe | params | param =>
      exact holds
  | withCell | guarded => exact holds
  | body settled => exact (Runs.of_perform settled).keepsProviders kept enroll holds rfl rfl
  | afterParam found =>
      exact enroll _ _ ((Runs.of_perform found).keepsProviders kept enroll holds rfl rfl)

/-- What is kept when a value is taken in as a provider holds wherever a search comes. -/
theorem Task.ComesTo.keepsProviders (comes : task.ComesTo solver arena part middle)
    (holds : kept task.start.providers) : kept part.start.providers :=
  comes.keeps (motive := fun task _ => kept task.start.providers)
    (fun next => next.keepsProviders kept enroll) holds

end

/-- The branches that can be reached: those in which a search starts, those with a value taken in,
those to which a search for a goal leads that finds it, and those from which any part starts to
which a search for a goal comes, whether the search finds the goal, gives up, stops or goes on. -/
inductive Solver.Visits (solver : Solver) : Branch → Prop
  | start {values : List Value} {branch : Branch} {arena reached : Arena} :
      (solver.start values).runFrom arena = (.ok branch, reached) → Visits solver branch
  | enroll {branch : Branch} {value : Value} {providers : Providers} {arena reached : Arena} :
      Visits solver branch →
      (solver.enroll value branch.providers).runFrom arena = (.ok providers, reached) →
      Visits solver { branch with providers }
  | find {fuel depth : Nat} {goal : Term} {branch : Branch} {arena reached : Arena}
      {found : Found} : Visits solver branch →
      (solver.find fuel goal branch depth).runFrom arena = (.ok (some found), reached) →
      Visits solver found.branch
  | within {fuel depth : Nat} {goal : Term} {branch : Branch} {arena middle : Arena} {α : Type}
      {part : Task α} : Visits solver branch →
      (Task.goal fuel goal branch depth).ComesTo solver arena part middle →
      Visits solver part.start

theorem Solver.coherent_startingBranch (solver : Solver) (values : List Value) :
    (solver.startingBranch values).providers.Coherent solver.registry := by
  have taken (providers : Providers) (coherent : providers.Coherent solver.registry) :
      (values.foldl (·.enroll solver.registry ·) providers).Coherent solver.registry := by
    induction values generalizing providers with
    | nil => exact coherent
    | cons value values ih => exact ih _ (coherent.enroll value)
  exact taken {} (.empty _)

/-- The providers of every branch that can be reached are coherent. -/
theorem Solver.Visits.coherent {solver : Solver} {branch : Branch}
    (visits : solver.Visits branch) : branch.providers.Coherent solver.registry := by
  have enroll (providers : Providers) (value : Value)
      (coherent : providers.Coherent solver.registry) :
      (providers.enroll solver.registry value).Coherent solver.registry := coherent.enroll value
  induction visits with
  | start ran =>
      obtain ⟨rfl, -⟩ := solver.start_ok ran
      exact solver.coherent_startingBranch _
  | enroll _ ran ih =>
      rw [runFrom_enroll] at ran
      cases ran
      exact ih.enroll _
  | find _ ran ih => exact (Runs.of_find ran).keepsProviders _ enroll ih rfl rfl
  | within _ comes ih => exact comes.keepsProviders _ enroll ih

/-- In every branch that can be reached, no two providers are the same value, each has a shape of
its own that bears rules, and the offers are those of the providers in the order in which these were
taken in. So a value that is taken in again changes and reports nothing, one that is taken in comes
last with its offers after all others, and two providers of one kind both contribute all rules of
their shape. -/
theorem visited_providers_coherent {solver : Solver} {branch : Branch}
    (visits : solver.Visits branch) :
    branch.providers.Coherent solver.registry ∧
      (∀ value providers arena reached,
        (solver.enroll value branch.providers).runFrom arena = (.ok providers, reached) →
        branch.providers.members <+: providers.members ∧
          branch.providers.offers <+: providers.offers ∧
          ∀ later, (solver.enroll value providers).runFrom later = (.ok providers, later)) ∧
      ∀ one other, [one, other].Sublist branch.providers.members → one.kind = other.kind →
        one.id ≠ other.id ∧
          (solver.registry.offers one ++ solver.registry.offers other).Sublist
            branch.providers.offers ∧
          (solver.registry.offers other = (solver.registry.offers one).map fun offer =>
            { offer with provider := other }) ∧
          ∃ shape, solver.registry.shape? one.kind = some shape ∧
            (shape.rules.map fun rule => ⟨rule, one, []⟩) <+: solver.registry.offers one := by
  have coherent := visits.coherent
  refine ⟨coherent, ?_, ?_⟩
  · intro value providers arena reached taken
    rw [Solver.runFrom_enroll] at taken
    cases taken
    have grows : branch.Grows
        { branch with providers := branch.providers.enroll solver.registry value } :=
      .enroll solver.registry value
    refine ⟨grows.members, grows.offers, fun later => ?_⟩
    rw [Solver.runFrom_enroll, Providers.enroll_enroll, Solver.enrolled,
      if_neg (Bool.eq_false_iff.1 Providers.accepts_enroll)]
  · intro one other ordered kind
    have apart : [one, other].Pairwise fun one other => one.id ≠ other.id :=
      coherent.distinct.sublist ordered
    obtain ⟨shape, found, bearing⟩ := coherent.bearing one (ordered.subset (.head _))
    exact ⟨List.rel_of_pairwise_cons apart (.head _), coherent.offers_sublist ordered,
      solver.registry.offers_of_kind kind, shape, found, Registry.offers_prefix found bearing⟩

/-! ## 4. Providers that are built on the way -/

def RuleDecl.inviting (name : String) (returns : Term) (slot : Nat) : RuleDecl :=
  ⟨name, returns, [], .body fun _ => do return .produced (← Build.alloc (.provider slot name none))⟩

/-- A shape whose providers build providers of another shape, one for each of two goals. -/
def hosting : ShapeDecl where
  kind := .provider 0
  name := "Host"
  bearing := true
  base := none
  rules := [
    .inviting "left" (.constant "Left") 1,
    .inviting "right" (.constant "Right") 1,
    .producing "house" (.constant "House")
      [.constant "Left", .constant "Right", .constant "Gift"]]

def visiting : ShapeDecl where
  kind := .provider 1
  name := "Guest"
  bearing := true
  base := none
  rules := [.producing "gift" (.constant "Gift") []]

def hostingSolver : Solver := ⟨⟨[visiting.toShape, hosting.toShape]⟩, .silent, .word⟩

/-- A search with two hosts takes in two guests on the way to its goal, which is built with a rule
that only guests offer. -/
theorem visited_providers_coherent_house : ∃ branch : Branch,
    branch.providers.members.map (·.id) = [0, 1, 2, 3] ∧ hostingSolver.Visits branch ∧
    branch.providers.Coherent hostingSolver.registry ∧
      (∀ value providers arena reached,
        (hostingSolver.enroll value branch.providers).runFrom arena = (.ok providers, reached) →
        branch.providers.members <+: providers.members ∧
          branch.providers.offers <+: providers.offers ∧
          ∀ later, (hostingSolver.enroll value providers).runFrom later = (.ok providers, later)) ∧
      ∀ one other, [one, other].Sublist branch.providers.members → one.kind = other.kind →
        one.id ≠ other.id ∧
          (hostingSolver.registry.offers one ++ hostingSolver.registry.offers other).Sublist
            branch.providers.offers ∧
          (hostingSolver.registry.offers other =
            (hostingSolver.registry.offers one).map fun offer =>
              { offer with provider := other }) ∧
          ∃ shape, hostingSolver.registry.shape? one.kind = some shape ∧
            (shape.rules.map fun rule => ⟨rule, one, []⟩) <+:
              hostingSolver.registry.offers one := by
  have passed : (hostingSolver.start [.mk 0 (.provider 0 "p" none),
      .mk 1 (.provider 0 "q" none)]).passes ⟨⟨2, []⟩, 0, []⟩ (fun branch arena =>
        (hostingSolver.find 8 (.constant "House") branch 0).passes arena fun found _ =>
          found.any fun found =>
            found.branch.providers.members.map (·.id) = [0, 1, 2, 3]) = true := by decide +kernel
  obtain ⟨started, first, start, passed⟩ := Search.exists_of_passes passed
  obtain ⟨_ | found, second, find, passed⟩ := Search.exists_of_passes passed
  · cases passed
  have visits : hostingSolver.Visits found.branch := .find (.start start) find
  exact ⟨found.branch, of_decide_eq_true passed, visits, visited_providers_coherent visits⟩

end Synthesis
