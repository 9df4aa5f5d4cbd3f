import Synthesis.Memo
import Synthesis.Registry
import Synthesis.Unification

/-!
# Reports of a search

What a search reports while it runs, and the text of a report: level, source, message and fields.
-/
namespace Synthesis

/-- Something that happened in a search. `depth` counts the rules around it. -/
inductive Event where
  /-- A value became a provider of some rules. -/
  | admitting (provider : Kind) (rules : Nat)
  | solving (goal : Term) (providers : Nat)
  | solved (goal : Term) (entries : Nat)
  /-- The value of a goal is taken from the memo. -/
  | known (depth : Nat) (goal : Term) (value : Value)
  /-- The rules are tried for a goal. -/
  | attempting (depth : Nat) (goal : Term)
  | noRuleApplies (depth : Nat) (goal : Term)
  /-- A rule returns something else. -/
  | skippedMismatch (depth : Nat) (rule : Signature) (clash : Clash)
  /-- A rule returns the goal, but leaves variables in it. -/
  | skippedOpen (depth : Nat) (rule : Signature) (goal : Term)
  | trying (depth : Nat) (rule : Signature) (goal : Term)
  /-- A rule is given up because a parameter cannot be built. -/
  | abandonedParameter (depth : Nat) (rule : Signature) (index : Nat)
  /-- A rule is given up because one of its slots is open. -/
  | abandonedSlot (depth : Nat) (rule : Signature) (slot : String)
  | declined (depth : Nat) (rule : Signature)
  | built (depth : Nat) (rule : Signature) (goal : Term) (value : Value)

namespace Event

/-- Whether an event is progress of the search, which is reported only on demand. -/
def isProgress : Event → Bool
  | .admitting _ _ => false
  | _ => true

def line (level source message : String) (fields : List (String × String)) : String :=
  level ++ " " ++ source ++ ": " ++ message ++ " \x7b" ++
    ", ".intercalate (fields.map fun field => field.1 ++ "=" ++ field.2) ++ "\x7d"

def progress (message : String) (fields : List (String × String)) : String :=
  line "TRACE" "tyknot::search" message fields

def render (home : String) : Event → String
  | .admitting provider rules =>
      line "TRACE" "tyknot_engine::repository" "admitting rule provider"
        [("provider", provider.name home), ("rules", toString rules)]
  | .solving goal providers =>
      line "DEBUG" "tyknot::search" "solving"
        [("goal", goal.render), ("providers", toString providers)]
  | .solved goal entries =>
      line "DEBUG" "tyknot::search" "solved" [("goal", goal.render), ("memo", toString entries)]
  | .known depth goal _ => progress "known" [("depth", toString depth), ("goal", goal.render)]
  | .attempting depth goal =>
      progress "attempting" [("depth", toString depth), ("goal", goal.render)]
  | .noRuleApplies depth goal =>
      progress "no rule applies" [("depth", toString depth), ("goal", goal.render)]
  | .skippedMismatch depth rule cause =>
      progress ("skipped: " ++ cause.message) [("depth", toString depth), ("rule", rule.render)]
  | .skippedOpen depth rule goal =>
      progress "skipped: goal under-determined"
        [("depth", toString depth), ("rule", rule.render), ("goal", goal.render)]
  | .trying depth rule goal =>
      progress "trying" [("depth", toString depth), ("rule", rule.render), ("goal", goal.render)]
  | .abandonedParameter depth rule index =>
      progress "abandoned: parameter has no derivation"
        [("depth", toString depth), ("rule", rule.render), ("index", toString index)]
  | .abandonedSlot depth rule slot =>
      progress "abandoned: generic slot unbound"
        [("depth", toString depth), ("rule", rule.render), ("var", slot)]
  | .declined depth rule => progress "declined" [("depth", toString depth), ("rule", rule.render)]
  | .built depth rule goal _ =>
      progress "built" [("depth", toString depth), ("rule", rule.render), ("goal", goal.render)]

end Event

end Synthesis
