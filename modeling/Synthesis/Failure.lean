import Synthesis.Kind

/-!
# Failures

A rule that does not match, a goal that stays open and a rule that declines are dead ends: the
search goes on with the next rule. The failures listed here are different. Each of them ends the
whole search.
-/
namespace Synthesis

/-- What a rule expected of its provider. -/
inductive Expectation where
  | kind (kind : Kind)
  | shape (name : String)
deriving DecidableEq

/-- Why a search ended without an answer. -/
inductive Failure where
  | unboundGoal (goal : Term)
  | noDerivation (goal : Term)
  /-- A value was given as a rule provider and its kind is not registered as one. -/
  | unknownProvider (kind : Kind)
  /-- A goal is needed for its own construction, and no placeholder stands for it. -/
  | cyclicDemand (goal : Term)
  /-- A knot was read while its cell was empty. -/
  | unsetKnot (expected : Kind)
  /-- A knot holds a value of another kind. -/
  | knotType (expected found : Kind)
  /-- The cell of a goal was tied a second time. -/
  | knotAlreadyTied (goal : Term)
  /-- The placeholder of a goal is not a cell. -/
  | placeholderNotDeferred (goal : Term) (found : Kind)
  | argumentType (rule : String) (index : Nat) (expected found : Kind)
  | argumentIndex (rule : String) (index : Nat)
  | providerType (rule : String) (expected : Expectation)
  /-- The value built for a goal is of another kind than was asked for. -/
  | resultType (goal : Term) (expected found : Kind)
  | depthLimit (goal : Term) (limit : Nat)
  /-- A rule failed on its own account. -/
  | raised (rule message : String)
deriving DecidableEq

namespace Failure

def goal? : Failure → Option Term
  | .unboundGoal goal | .noDerivation goal | .cyclicDemand goal | .knotAlreadyTied goal
  | .placeholderNotDeferred goal _ | .resultType goal _ _ | .depthLimit goal _ => some goal
  | .unknownProvider _ | .unsetKnot _ | .knotType _ _ | .argumentType _ _ _ _
  | .argumentIndex _ _ | .providerType _ _ | .raised _ _ => none

def message (home : String) : Failure → String
  | .unboundGoal goal => s!"goal '{goal.render}' contains unbound type variables"
  | .noDerivation goal => s!"no derivation found for '{goal.render}'"
  | .unknownProvider kind => s!"{kind.name home} is not a registered rule provider"
  | .cyclicDemand goal =>
      s!"'{goal.render}' is required while it is being constructed and no cyclic-construction " ++
        "rule is available"
  | .unsetKnot expected => s!"knot for {expected.name home} was read before it was tied"
  | .knotType expected found =>
      s!"knot holds {found.name home}, expected {expected.name home}"
  | .knotAlreadyTied goal => s!"deferred cell for '{goal.render}' was already tied"
  | .placeholderNotDeferred goal found =>
      s!"placeholder for '{goal.render}' produced {found.name home} instead of a deferred cell"
  | .argumentType rule index expected found =>
      s!"argument {index} of rule '{rule}' is {found.name home}, " ++
        s!"expected {expected.name home}"
  | .argumentIndex rule index => s!"rule '{rule}' has no argument {index}"
  | .providerType rule (.kind expected) =>
      s!"provider of rule '{rule}' is not a {expected.name home}"
  | .providerType rule (.shape expected) => s!"provider of rule '{rule}' is not a {expected}"
  | .resultType goal expected found =>
      s!"value for '{goal.render}' is {found.name home}, expected {expected.name home}"
  | .depthLimit goal limit =>
      s!"search depth limit {limit} exceeded while resolving '{goal.render}'"
  | .raised rule message => s!"rule '{rule}' failed: {message}"

end Failure
end Synthesis
