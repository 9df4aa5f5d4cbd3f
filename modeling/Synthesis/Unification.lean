import Synthesis.Unification.Difference

/-!
# Unification

Two terms are made equal by extending a substitution. The terms are compared from left to right
until they differ for the first time. If a variable stands there on one side, it is bound to the
other side; otherwise the terms clash. Then the comparison goes on with the pairs of terms after
the difference, to which the binding is applied when they are reached. Every binding leaves fewer
variables in the pairs that wait, so this comes to an end.

When two different variables meet, the one in the first term is bound.
-/
namespace Synthesis

/-- Why two terms cannot be made equal. -/
inductive Clash where
  /-- Two applications differ in their constructors or in the number of their arguments. -/
  | mismatch (pattern goal : Term)
  /-- A variable would have to equal a larger term that contains it. -/
  | infinite (name : String) (term : Term)
deriving DecidableEq

def Clash.message : Clash → String
  | .mismatch pattern goal => "'" ++ pattern.render ++ "' does not match '" ++ goal.render ++ "'"
  | .infinite name term => "infinite type: '" ++ name ++ "' cannot equal '" ++ term.render ++ "'"

namespace Unification

/-- A failed unification: the cause, and the substitution with the bindings made before it. -/
structure Stuck where
  clash : Clash
  reached : Substitution
deriving DecidableEq

/-- Neither the variable at the next difference nor a variable of the term against it is bound. -/
theorem unbound_of_nextDifference {found : Substitution}
    (triangular : Substitution.Triangular found.bindings) {pairs rest : List (Term × Term)}
    {name : String} {term : Term}
    (next : nextDifference found pairs = some (.atVariable name term, rest)) :
    ∀ binding ∈ found.bindings, binding.1 ≠ name ∧ term.mentions binding.1 = false := by
  intro binding member
  have unbound : binding.1 ∉ varsOfPairs (applyPairs found pairs) := fun h => by
    obtain ⟨pair, -, inPair⟩ := mem_varsOfPairs_applyPairs.1 h
    simp [Substitution.mentions_apply_of_bound triangular member] at inPair
  have inside := (mem_of_nextDifference triangular next binding.1).1
  exact ⟨fun same => unbound (inside (by simp [Difference.mentions, same])),
    Bool.eq_false_iff.2 fun h => unbound (inside (by simp [Difference.mentions, h]))⟩

theorem triangular_push_of_nextDifference {found : Substitution}
    (triangular : Substitution.Triangular found.bindings) {pairs rest : List (Term × Term)}
    {name : String} {term : Term}
    (next : nextDifference found pairs = some (.atVariable name term, rest))
    (proper : term.mentions name = false) :
    Substitution.Triangular (found.push name term).bindings :=
  Substitution.triangular_push triangular proper (unbound_of_nextDifference triangular next)

/-- Makes the terms of each pair equal, from the first pair on, by adding to the bindings that were
found so far. -/
def unifyPairs (found : Substitution) (triangular : Substitution.Triangular found.bindings)
    (pairs : List (Term × Term)) : Except Stuck Substitution :=
  match next : nextDifference found pairs with
  | none => .ok found
  | some (.atConstructor pattern goal, _) => .error ⟨.mismatch pattern goal, found⟩
  | some (.atVariable name term, rest) =>
      if occurs : term.mentions name = true then .error ⟨.infinite name term, found⟩
      else
        unifyPairs (found.push name term)
          (triangular_push_of_nextDifference triangular next (Bool.eq_false_iff.2 occurs)) rest
termination_by variableCount (applyPairs found pairs)
decreasing_by exact variableCount_push_lt triangular next (Bool.eq_false_iff.2 occurs)

end Unification

namespace Substitution

def append (subst further : Substitution) : Substitution :=
  ⟨subst.bindings ++ further.bindings⟩

/-- Extends a substitution so that two terms become equal under it. -/
def unify (subst : Substitution) (pattern goal : Term) :
    Except Unification.Stuck Substitution :=
  match Unification.unifyPairs .empty trivial [(subst.apply pattern, subst.apply goal)] with
  | .ok found => .ok (subst.append found)
  | .error stuck => .error { stuck with reached := subst.append stuck.reached }

/-- Extends a substitution so that a variable becomes equal to a term under it. -/
def bind (subst : Substitution) (name : String) (term : Term) :
    Except Unification.Stuck Substitution :=
  subst.unify (.var name) term

/-- Extends a substitution so that a pattern becomes equal to a goal, or says why it cannot. -/
def matching (subst : Substitution) (pattern goal : Term) : Except Clash Substitution :=
  (subst.unify pattern goal).mapError (·.clash)

end Substitution
end Synthesis
