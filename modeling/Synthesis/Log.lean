import Synthesis.Event

/-!
# The log of a search

What is written down while a search runs, in branches that are given up as well as in those that
lead to the result. The log holds more than the reports: it says which goals were looked for and
how the memo answered them, what every rule was tried for, how a goal was entered in the memo and
when its construction ended, what every rule body was given and what it produced. These entries do
not depend on the settings for reports.
-/
namespace Synthesis

/-- A run of a rule's recipe: the goal that it is run for, what it was given, and the heap when it
started. -/
structure Call where
  rule : Rule
  goal : Term
  inputs : Inputs
  heap : Heap

/-- An entry of the log. -/
inductive LogEntry where
  /-- An event was reported. -/
  | reported (event : Event)
  /-- A goal was looked for, with all bindings applied to it. -/
  | demanded (goal : Term)
  /-- The memo gave the value of the goal that was looked for last. -/
  | recalled (goal : Term) (entry : Memo.Entry) (value : Value)
  /-- A rule was renamed by a stamp and compared with a goal, under a substitution. -/
  | tried (rule : Signature) (stamp : Nat) (goal : Term) (subst : Substitution)
  /-- The rule that was tried last returns the goal that was asked for, and the match makes a ground
  goal of it. -/
  | matched (asked goal : Term)
  /-- A goal was entered in the memo before the parameters of its rule: with a cell, or as
  guarded. -/
  | entered (goal : Term) (cell : Option Nat)
  /-- The attempt that had entered a goal came to its end. -/
  | left (goal : Term)
  /-- A parameter with a ground goal was given a value. -/
  | passed (goal : Term) (value : Value)
  | called (call : Call)
  /-- The recipe that was run last produced a value for a goal, to be tied to the cell of the goal
  if it has one. -/
  | produced (goal : Term) (cell : Option Nat) (value : Value)
  | halted (failure : Failure)

namespace LogEntry

def event? : LogEntry → Option Event
  | .reported event => some event
  | _ => none

def call? : LogEntry → Option Call
  | .called call => some call
  | _ => none

end LogEntry

/-- How a goal on the way to a result was settled: either the memo gave its value, or a rule built
it. -/
inductive Settled where
  /-- The value was read from an entry of the memo. -/
  | known (goal : Term) (entry : Memo.Entry) (value : Value)
  /-- The value was produced by a rule and tied to the cell of the goal, if it has one. -/
  | built (goal : Term) (inputs : Inputs) (cell : Option Nat) (value : Value)

end Synthesis
