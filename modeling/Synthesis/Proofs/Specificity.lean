import Synthesis.Proofs.Cells
import Synthesis.Proofs.Discovery

/-!
# Instances and the order of rules

The rules of a shape are ordered by the number of variables in their return patterns and by their
structure. This is not the order of instances. A proper instance has more structure than its
pattern, or fewer variables, so it comes first as long as it has no more variables. It may well have
more, though, if a variable of the pattern stands for a term with several ones. Then the rule for
the pattern takes all goals of the instance.

Results:
1. `Term.ProperInstance.fewer_or_larger`: a proper instance with no more variables than its pattern
   has fewer of them, or as many and more constructors.
2. `Solver.exists_builtAt_iff`: a goal is built by the first of the offers that gives a value.
3. `catch_all_before_instance`: a rule for everything that comes before a more specific rule.
4. `instances_first_iff`: a rule whose return pattern is a proper instance comes first if and only
   if it has no more variables.
-/
namespace Synthesis

/-! ## 1. Instances -/

namespace Term

/-- A term is another one in which variables are replaced. -/
def InstanceOf (term general : Term) : Prop := ∃ slots : String → Term, general.subst slots = term

/-- A term is an instance of another one, which is no instance of it. -/
def ProperInstance (term general : Term) : Prop :=
  term.InstanceOf general ∧ ¬ general.InstanceOf term

theorem InstanceOf.refl (term : Term) : term.InstanceOf term := ⟨.var, term.subst_self⟩

/-- A term with a constructor in some place is a proper instance of one with a variable there. -/
theorem properInstance_var (outer head name : String) (args : List Term) :
    (app outer [.app head args]).ProperInstance (.app outer [.var name]) := by
  refine ⟨⟨fun _ => .app head args, rfl⟩, ?_⟩
  rintro ⟨slots, same⟩
  cases same

theorem size_le_size_subst (slots : String → Term) (term : Term) :
    term.size ≤ (term.subst slots).size := by
  induction term with
  | var name => exact Nat.zero_le _
  | app head args ih =>
      rw [subst_app, size, size, Nat.add_le_add_iff_left]
      induction args with
      | nil => exact Nat.le_refl _
      | cons arg args ihArgs =>
          rw [List.map_cons, sizeAll, sizeAll]
          have rest := ihArgs fun other member => ih other (.tail _ member)
          exact Nat.add_le_add (ih arg (.head _)) rest

/-- If a term does not get larger, its variables are replaced by variables. -/
theorem var_of_size_subst {slots : String → Term} {term : Term}
    (same : (term.subst slots).size = term.size) {name : String}
    (inTerm : term.mentions name = true) : ∃ other, slots name = .var other := by
  induction term with
  | var own =>
      obtain rfl : own = name := by simpa using inTerm
      rw [subst_var] at same
      cases value : slots own with
      | var other => exact ⟨other, rfl⟩
      | app head args =>
          rw [value, size, size] at same
          omega
  | app head args ih =>
      rw [mentions_app, List.any_eq_true] at inTerm
      obtain ⟨arg, member, inArg⟩ := inTerm
      refine ih arg member ?_ inArg
      rw [subst_app, size, size, Nat.add_left_cancel_iff] at same
      clear ih inArg
      induction args with
      | nil => cases member
      | cons first rest ihRest =>
          rw [List.map_cons, sizeAll, sizeAll] at same
          have one := size_le_size_subst slots first
          have others := size_le_size_subst slots (.app head rest)
          rw [subst_app, size, size] at others
          cases member with
          | head => omega
          | tail _ member => exact ihRest (by omega) member

/-- The different variables of a term in which variables are replaced by variables. -/
theorem toFinset_vars_subst {slots : String → Term} {term : Term} {names : String → String}
    (renames : ∀ name ∈ term.vars, slots name = .var (names name)) :
    (term.subst slots).vars.toFinset = term.vars.toFinset.image names := by
  ext other
  simp only [Finset.mem_image, List.mem_toFinset, mem_vars, mentions_subst] at renames ⊢
  refine exists_congr fun name => and_congr_right fun inTerm => ?_
  rw [renames name inTerm, mentions_var, beq_iff_eq]

/-- If different variables are replaced by different variables, this can be undone. -/
theorem instanceOf_subst_of_injOn {slots : String → Term} {term : Term} {names : String → String}
    (renames : ∀ name ∈ term.vars, slots name = .var (names name))
    (apart : Set.InjOn names {name | name ∈ term.vars}) : term.InstanceOf (term.subst slots) := by
  refine ⟨fun other => .var (Function.invFunOn names {name | name ∈ term.vars} other), ?_⟩
  rw [subst_subst]
  refine (subst_congr fun name inTerm => ?_).trans term.subst_self
  have listed := mem_vars.2 inTerm
  rw [renames name listed, subst_var, apart.leftInvOn_invFunOn listed]

/-- A proper instance with no more variables than its pattern has fewer, or as many and more
constructors. -/
theorem ProperInstance.fewer_or_larger {term general : Term} (proper : term.ProperInstance general)
    (le : term.vars.length ≤ general.vars.length) :
    term.vars.length < general.vars.length ∨
      term.vars.length = general.vars.length ∧ general.size < term.size := by
  refine (Nat.lt_or_eq_of_le le).imp_right fun equal => ⟨equal, ?_⟩
  obtain ⟨⟨slots, rfl⟩, not⟩ := proper
  by_contra small
  have same : (general.subst slots).size = general.size :=
    Nat.le_antisymm (Nat.le_of_not_lt small) (size_le_size_subst slots general)
  have renamed : ∀ name ∈ general.vars, ∃ other, slots name = .var other :=
    fun _ listed => var_of_size_subst same (mem_vars.1 listed)
  choose! names renames using renamed
  refine not (instanceOf_subst_of_injOn renames ?_)
  rw [← List.toFinset_card_of_nodup (nodup_vars _), toFinset_vars_subst renames,
    ← List.toFinset_card_of_nodup (nodup_vars _)] at equal
  simpa [Set.InjOn] using Finset.card_image_iff.1 equal

end Term

/-! ## 2. The offer that builds a goal -/

namespace Solver

variable {solver : Solver} {inner : Finder} {goal : Term} {branch : Branch} {depth : Nat}
  {tries : List Offer} {arena reached : Arena} {found : Found}

/-- A goal is built by the offer at a place: those before it were tried, and none of them did it. -/
def BuiltAt (solver : Solver) (inner : Finder) (goal : Term) (branch : Branch) (depth : Nat)
    (tries : List Offer) (arena : Arena) (place : Nat) (found : Found) (reached : Arena) : Prop :=
  ∃ offer middle, tries[place]? = some offer ∧
    (solver.tryOffers inner goal branch depth (tries.take place)).runFrom arena =
      (.ok none, middle) ∧
    (solver.tryOffer inner offer goal branch depth).runFrom middle = (.ok (some found), reached)

theorem builtAt_zero {offer : Offer} :
    solver.BuiltAt inner goal branch depth (offer :: tries) arena 0 found reached ↔
      (solver.tryOffer inner offer goal branch depth).runFrom arena =
        (.ok (some found), reached) := by
  constructor
  · rintro ⟨other, middle, here, before, last⟩
    cases here
    cases before
    exact last
  · exact fun last => ⟨offer, arena, rfl, rfl, last⟩

theorem builtAt_succ {offer : Offer} {place : Nat} :
    solver.BuiltAt inner goal branch depth (offer :: tries) arena (place + 1) found reached ↔
      ∃ middle, (solver.tryOffer inner offer goal branch depth).runFrom arena = (.ok none, middle) ∧
        solver.BuiltAt inner goal branch depth tries middle place found reached := by
  simp only [BuiltAt, List.getElem?_cons_succ, List.take_succ_cons, tryOffers, Search.runFrom_bind]
  rcases (solver.tryOffer inner offer goal branch depth).runFrom arena
    with ⟨halt | _ | first, middle⟩ <;> simp

/-- A goal is built if and only if it is so by the offer at some place. -/
theorem exists_builtAt_iff :
    (∃ place, solver.BuiltAt inner goal branch depth tries arena place found reached) ↔
      (solver.tryOffers inner goal branch depth tries).runFrom arena =
        (.ok (some found), reached) := by
  induction tries generalizing arena with
  | nil => simp [BuiltAt, tryOffers]
  | cons offer tries ih =>
      rw [← Nat.or_exists_add_one, builtAt_zero, tryOffers, Search.runFrom_bind]
      simp only [builtAt_succ]
      rcases (solver.tryOffer inner offer goal branch depth).runFrom arena
        with ⟨halt | _ | first, middle⟩
      · simp
      · simpa using ih
      · simp

/-- If no offer of a list builds a goal, each of them was tried. -/
theorem tried_of_tryOffers_none
    (none : (solver.tryOffers inner goal branch depth tries).runFrom arena = (.ok none, reached)) :
    ∀ offer ∈ tries, ∃ before after,
      (solver.tryOffer inner offer goal branch depth).runFrom before = (.ok .none, after) := by
  induction tries generalizing arena with
  | nil => nofun
  | cons offer tries ih =>
      rw [tryOffers, Search.runFrom_bind] at none
      rcases ran : (solver.tryOffer inner offer goal branch depth).runFrom arena
        with ⟨halt | _ | first, middle⟩ <;> rw [ran] at none
      · cases none
      · exact List.forall_mem_cons.2 ⟨⟨arena, middle, ran⟩, ih none⟩
      · cases none

/-- If the offer at a place builds a goal, each one before it was tried and did not build it. -/
theorem BuiltAt.tried {place earlier : Nat} {offer : Offer}
    (built : solver.BuiltAt inner goal branch depth tries arena place found reached)
    (before : earlier < place) (here : tries[earlier]? = some offer) :
    ∃ first second,
      (solver.tryOffer inner offer goal branch depth).runFrom first = (.ok none, second) := by
  obtain ⟨_, _, _, passed, _⟩ := built
  refine tried_of_tryOffers_none passed offer (List.mem_of_getElem? (i := earlier) ?_)
  rwa [List.getElem?_take_of_lt before]

end Solver

/-! ## 3. The order of a shape -/

theorem Ordered.lt_of_not_notAfter {rules : List Rule} (ordered : Ordered rules)
    {first second : Nat} {rule other : Rule} (here : rules[first]? = some rule)
    (there : rules[second]? = some other)
    (not : ¬ other.toSignature.notAfter rule.toSignature = true) : first < second := by
  obtain ⟨_, rfl⟩ := List.getElem?_eq_some_iff.1 here
  obtain ⟨_, rfl⟩ := List.getElem?_eq_some_iff.1 there
  by_contra behind
  rcases Nat.lt_or_eq_of_le (Nat.le_of_not_lt behind) with before | rfl
  · exact not (List.pairwise_iff_getElem.1 ordered _ _ _ _ before)
  · exact not (Signature.notAfter_total not)

/-- A rule whose return pattern is a proper instance stands first if and only if it has no more
variables to return. -/
theorem Ordered.lt_iff_of_proper {rules : List Rule} (ordered : Ordered rules)
    {first second : Nat} {rule other : Rule} (here : rules[first]? = some rule)
    (there : rules[second]? = some other) (proper : rule.returns.ProperInstance other.returns) :
    (first < second ↔ rule.returns.countVars ≤ other.returns.countVars) ∧ first ≠ second := by
  rw [← Term.length_vars, ← Term.length_vars]
  constructor
  · constructor
    · intro before
      by_contra more
      have not : ¬ rule.toSignature.notAfter other.toSignature = true := fun may =>
        more ((Signature.notAfter_iff.1 may).elim Nat.le_of_lt fun same => Nat.le_of_eq same.1)
      exact Nat.lt_asymm before (ordered.lt_of_not_notAfter there here not)
    · intro le
      refine ordered.lt_of_not_notAfter here there fun may => ?_
      have key := proper.fewer_or_larger le
      have less := Signature.notAfter_iff.1 may
      simp only [Signature.specificity] at less
      omega
  · rintro rfl
    obtain rfl := Option.some.inj (here.symm.trans there)
    exact proper.2 (.refl _)

theorem getElem?_between {α : Type} {front part back : List α} {place : Nat} {x : α}
    (here : part[place]? = some x) : (front ++ part ++ back)[front.length + place]? = some x := by
  have inside := (List.getElem?_eq_some_iff.1 here).1
  rw [List.append_assoc, List.getElem?_append_right (Nat.le_add_right _ _),
    Nat.add_sub_cancel_left, List.getElem?_append_left inside, here]

namespace Registry

theorem Built.ordered {accepted : List ShapeDecl} {registry : Registry}
    (built : Built accepted registry) {kind : Kind} {ancestor : Ancestor}
    (above : ancestor ∈ registry.lineage kind) : Ordered ancestor.shape.rules := by
  obtain ⟨declared, same⟩ := built.declared (mem_of_mem_lineageAmong above)
  rw [same]
  exact ordered_orderRules _

/-- A value offers the rules of each shape above its kind one after the other. -/
theorem offers_of_mem_lineage {registry : Registry} {value : Value} {ancestor : Ancestor}
    (above : ancestor ∈ registry.lineage value.kind) (bearing : ancestor.shape.bearing = true) :
    ∃ front back, registry.offers value =
      front ++ (ancestor.shape.rules.map fun rule => ⟨rule, value, ancestor.views⟩) ++ back := by
  obtain ⟨below, higher, split⟩ := List.append_of_mem above
  rw [offers, split, List.flatMap_append, List.flatMap_cons, if_pos bearing, ← List.append_assoc]
  exact ⟨_, _, rfl⟩

end Registry

/-! ## 4. Rules for everything -/

/-- A shape with rules for pairs of any two things, for lists, for pairs of the same thing and for
everything. -/
def showing : ShapeDecl where
  kind := .provider 0
  name := "Host"
  bearing := true
  base := none
  rules := [
    .producing "pair" (.app "Show" [.app "Pair" [.var "a", .var "b"]]) [],
    .producing "list" (.app "Show" [.app "List" [.var "a"]]) [],
    .producing "twice" (.app "Show" [.app "Pair" [.var "a", .var "a"]]) [],
    .producing "any" (.app "Show" [.var "a"]) []]

def showingSolver : Solver := ⟨⟨[showing.toShape]⟩, .silent, .word⟩

def showingHost : Value := .mk 0 (.provider 0 "p" none)

def Settled.rule? : Settled → Option Signature
  | .known .. => none
  | .built _ inputs _ _ => some inputs.signature

/-- The rule for everything is tried before the one for pairs, which has more variables, although
its own return pattern is the more general one. So it takes the goals for pairs. -/
theorem catch_all_before_instance :
    (Term.app "Show" [.app "Pair" [.var "a", .var "b"]]).ProperInstance
      (.app "Show" [.var "a"]) ∧
    (showingSolver.registry.offers showingHost).map (·.rule.toSignature) =
      [⟨"Host", "list", .app "Show" [.app "List" [.var "a"]], []⟩,
        ⟨"Host", "twice", .app "Show" [.app "Pair" [.var "a", .var "a"]], []⟩,
        ⟨"Host", "any", .app "Show" [.var "a"], []⟩,
        ⟨"Host", "pair", .app "Show" [.app "Pair" [.var "a", .var "b"]], []⟩] ∧
    ∃ found reached,
      (showingSolver.derive 8 (.app "Show" [.app "Pair" [.constant "Int", .constant "Bool"]])
        [showingHost]).runFrom ⟨⟨1, []⟩, 0, []⟩ = (.ok found, reached) ∧
      found.branch.history.map (·.rule?) = [some ⟨"Host", "any", .app "Show" [.var "a"], []⟩] := by
  refine ⟨Term.properInstance_var _ _ _ _, by decide +kernel, ?_⟩
  have passed : (showingSolver.derive 8
      (.app "Show" [.app "Pair" [.constant "Int", .constant "Bool"]]) [showingHost]).passes
      ⟨⟨1, []⟩, 0, []⟩ (fun found _ => found.branch.history.map (·.rule?) =
        [some ⟨"Host", "any", .app "Show" [.var "a"], []⟩]) = true := by decide +kernel
  obtain ⟨found, reached, ran, passed⟩ := Search.exists_of_passes passed
  exact ⟨found, reached, ran, of_decide_eq_true passed⟩

/-- A value offers the rules of each shape above its kind that bears rules one after the other. If
the return pattern of one of them is a proper instance of that of another one, it comes first if and
only if it has no more variables. Then, whatever is offered before and after, the other one builds a
goal only after this one was tried for the goal and did not build it. -/
theorem instances_first_iff {accepted : List ShapeDecl} {registry : Registry}
    (built : Registry.Built accepted registry) {value : Value} {ancestor : Registry.Ancestor}
    (above : ancestor ∈ registry.lineage value.kind) (bearing : ancestor.shape.bearing = true) :
    ∃ start, (∀ place rule, ancestor.shape.rules[place]? = some rule →
        (registry.offers value)[start + place]? = some ⟨rule, value, ancestor.views⟩) ∧
      ∀ first second rule other, ancestor.shape.rules[first]? = some rule →
        ancestor.shape.rules[second]? = some other →
        rule.returns.ProperInstance other.returns →
        (first < second ↔ rule.returns.countVars ≤ other.returns.countVars) ∧
        first ≠ second ∧
        (first < second → ∀ solver inner goal branch depth front back arena found reached,
          (Solver.tryOffers solver inner goal branch depth
            (front ++ registry.offers value ++ back)).runFrom arena = (.ok (some found), reached) →
          ∃ place, solver.BuiltAt inner goal branch depth (front ++ registry.offers value ++ back)
              arena place found reached ∧
            (place = front.length + (start + second) → ∃ before after,
              (solver.tryOffer inner ⟨rule, value, ancestor.views⟩ goal branch depth).runFrom
                before = (.ok none, after))) := by
  obtain ⟨ahead, behind, offers⟩ := Registry.offers_of_mem_lineage above bearing
  have offered : ∀ place rule, ancestor.shape.rules[place]? = some rule →
      (registry.offers value)[ahead.length + place]? = some ⟨rule, value, ancestor.views⟩ := by
    intro place rule here
    rw [offers]
    exact getElem?_between (by rw [List.getElem?_map, here]; rfl)
  refine ⟨ahead.length, offered, ?_⟩
  intro first second rule other here there proper
  obtain ⟨iff, apart⟩ := (built.ordered above).lt_iff_of_proper here there proper
  refine ⟨iff, apart, ?_⟩
  intro before solver inner goal branch depth front back arena found reached ran
  obtain ⟨place, taken⟩ := Solver.exists_builtAt_iff.2 ran
  refine ⟨place, taken, ?_⟩
  rintro rfl
  exact taken.tried (by omega) (getElem?_between (offered first rule here))

/-- Both rules for pairs are for proper instances of everything. The one with a single variable
comes before the rule for everything, the other one after it. -/
theorem instances_first_iff_show : ∃ (ancestor : Registry.Ancestor) (twice any pair : Rule)
    (start : Nat),
    Registry.Built [showing] showingSolver.registry ∧
    ancestor ∈ showingSolver.registry.lineage showingHost.kind ∧
    ancestor.shape.bearing = true ∧
    ancestor.shape.rules[1]? = some twice ∧ ancestor.shape.rules[2]? = some any ∧
    ancestor.shape.rules[3]? = some pair ∧
    twice.returns.ProperInstance any.returns ∧ pair.returns.ProperInstance any.returns ∧
    (showingSolver.registry.offers showingHost)[start + 1]? =
      some ⟨twice, showingHost, ancestor.views⟩ ∧
    twice.returns.countVars ≤ any.returns.countVars ∧
    ¬ pair.returns.countVars ≤ any.returns.countVars := by
  have built : Registry.Built [showing] showingSolver.registry := .add .empty rfl
  have above : (⟨showing.toShape, []⟩ : Registry.Ancestor) ∈
      showingSolver.registry.lineage showingHost.kind := .head _
  obtain ⟨start, offered, ordered⟩ := instances_first_iff built above rfl
  have twice := Term.properInstance_var "Show" "Pair" "a" [.var "a", .var "a"]
  have pair := Term.properInstance_var "Show" "Pair" "a" [.var "a", .var "b"]
  refine ⟨_, _, _, _, start, built, above, rfl, rfl, rfl, rfl, twice, pair, offered 1 _ rfl, ?_, ?_⟩
  · exact (ordered 1 2 _ _ rfl rfl twice).1.1 (by decide)
  · exact fun le => absurd ((ordered 3 2 _ _ rfl rfl pair).1.2 le) (by decide)

end Synthesis
