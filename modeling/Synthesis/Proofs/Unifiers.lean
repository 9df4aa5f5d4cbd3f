import Synthesis.Proofs.Bindings
import Synthesis.Proofs.Matching

/-!
# Unifiers

A replacement of the variables respects a substitution if it gives every bound variable what it
makes of the variable's term, and it unifies two terms if it makes the same of both. Unification
finds a substitution whenever there is a replacement that does both, and what it finds asks no more
of a replacement than that.

Results:
1. `respected_values`: the values of the variables under triangular bindings respect the bindings.
2. `unifyPairs_respected`: every replacement that unifies the pairs respects what unification finds.
3. `unify_ok_iff_unifier`: unification succeeds if and only if the terms have a unifier that
   respects the substitution, and every such unifier is an instance of the result.
-/
namespace Synthesis

open Substitution (Triangular)

namespace Substitution

/-! ## 1. Replacements that respect bindings -/

theorem respected_values {subst : Substitution} (triangular : Triangular subst.bindings) :
    subst.Respected (valueUnder subst.bindings) :=
  fun _ member => triangular.valueUnder_of_mem member

theorem Respected.of_extends {old new : Substitution} {f : String → Term}
    (respected : new.Respected f) (extended : old.Extends new) : old.Respected f :=
  fun binding member => respected binding (extended.subset member)

theorem Respected.append {subst further : Substitution} {f : String → Term}
    (respected : subst.Respected f) (later : further.Respected f) :
    (subst.append further).Respected f := by
  intro binding member
  rcases List.mem_append.1 member with before | after
  · exact respected binding before
  · exact later binding after

end Substitution

/-! ## 2. What unification finds -/

/-- A replacement that makes the terms of each pair equal respects what unification finds for the
pairs. -/
theorem Unification.unifyPairs_respected {found result : Substitution}
    {triangular : Triangular found.bindings} {pairs : List (Term × Term)}
    (success : unifyPairs found triangular pairs = .ok result) {f : String → Term}
    (respected : found.Respected f) (equal : ∀ pair ∈ pairs, pair.1.subst f = pair.2.subst f) :
    result.Respected f := by
  fun_induction unifyPairs found triangular pairs with
  | case1 found =>
      cases success
      exact respected
  | case2 | case3 => cases success
  | case4 found _ _ name term _ next _ ih =>
      obtain ⟨⟨-, settled⟩, after⟩ := settled_of_nextDifference next respected equal
      exact ih success (respected.push settled) after

namespace Substitution

variable {subst result : Substitution} {pattern goal : Term} {f : String → Term}

/-- The terms that are compared, which have the bindings applied, are made equal by whatever
respects the bindings and makes the terms equal. -/
theorem Respected.compared (respected : subst.Respected f)
    (equal : pattern.subst f = goal.subst f) :
    ∀ pair ∈ [(subst.apply pattern, subst.apply goal)], pair.1.subst f = pair.2.subst f := by
  rw [List.forall_mem_singleton, respected.subst_apply, respected.subst_apply]
  exact equal

theorem respected_empty (f : String → Term) : empty.Respected f := fun _ none => by cases none

/-- Unification succeeds if some replacement that respects the bindings makes the terms equal. -/
theorem unify_complete (respected : subst.Respected f) (equal : pattern.subst f = goal.subst f) :
    ∃ result, subst.unify pattern goal = .ok result := by
  obtain ⟨found, success⟩ := Unification.unifyPairs_complete .empty trivial _ (respected_empty f)
    (respected.compared equal)
  exact ⟨subst.append found, by rw [unify, success]⟩

/-- Such a replacement respects the result. -/
theorem unify_respected (success : subst.unify pattern goal = .ok result)
    (respected : subst.Respected f) (equal : pattern.subst f = goal.subst f) :
    result.Respected f := by
  unfold unify at success
  split at success
  · next found further =>
      cases success
      exact respected.append (Unification.unifyPairs_respected further (respected_empty f)
        (respected.compared equal))
  · cases success

/-! ## 3. Most general unifiers -/

/-- On a substitution that the operations made, unification succeeds if and only if some replacement
of the variables respects the bindings and makes the terms equal. Every replacement that does so
makes the same of a term as it makes of the term with the result applied. -/
theorem unify_ok_iff_unifier (reachable : subst.Reachable) (pattern goal : Term) :
    ((∃ result, subst.unify pattern goal = .ok result) ↔
      ∃ f : String → Term, subst.Respected f ∧ pattern.subst f = goal.subst f) ∧
    ∀ result, subst.unify pattern goal = .ok result →
      ∀ f : String → Term, subst.Respected f → pattern.subst f = goal.subst f →
        ∀ term : Term, term.subst f = (result.apply term).subst f := by
  have triangular := reachable.triangular
  refine ⟨⟨?_, ?_⟩, ?_⟩
  · rintro ⟨result, success⟩
    obtain ⟨extended, later, equal⟩ := unify_ok triangular success
    exact ⟨valueUnder result.bindings, (respected_values later).of_extends extended, equal⟩
  · rintro ⟨f, respected, equal⟩
    exact unify_complete respected equal
  · intro result success f respected equal term
    exact ((unify_respected success respected equal).subst_apply term).symm

/-- A substitution in which `a` is bound to a term with `b`. -/
def listing : Substitution :=
  Unification.reached (Substitution.empty.bind "a" (.app "List" [.var "b"]))

/-- Lists of numbers for all variables but `b`, which stands for numbers. -/
def numbers (name : String) : Term :=
  if name = "b" then .constant "Int" else .app "List" [.constant "Int"]

theorem unify_ok_iff_unifier_listing : listing.Reachable ∧ listing.Respected numbers ∧
    (Term.app "Pair" [.var "c", .var "a"]).subst numbers =
      (Term.app "Pair" [.var "a", .app "List" [.constant "Int"]]).subst numbers ∧
    ∃ result, listing.unify (.app "Pair" [.var "c", .var "a"])
        (.app "Pair" [.var "a", .app "List" [.constant "Int"]]) = .ok result ∧
      ∀ term : Term, term.subst numbers = (result.apply term).subst numbers := by
  have reachable : listing.Reachable := .bind _ _ .empty
  have respected : listing.Respected numbers := by
    unfold Respected
    decide +kernel
  have equal : (Term.app "Pair" [.var "c", .var "a"]).subst numbers =
      (Term.app "Pair" [.var "a", .app "List" [.constant "Int"]]).subst numbers := by decide +kernel
  obtain ⟨unifiable, general⟩ := unify_ok_iff_unifier reachable (.app "Pair" [.var "c", .var "a"])
    (.app "Pair" [.var "a", .app "List" [.constant "Int"]])
  obtain ⟨result, success⟩ := unifiable.2 ⟨numbers, respected, equal⟩
  exact ⟨reachable, respected, equal, result, success,
    general result success numbers respected equal⟩

end Substitution
end Synthesis
