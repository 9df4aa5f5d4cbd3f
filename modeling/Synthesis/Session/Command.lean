import Synthesis.Script
import Synthesis.Search
import Synthesis.Value.Portrait

/-!
# Commands of a session

What a session can be asked to do, and what it answers.
-/
namespace Synthesis.Session

open Script (Expr)

/-! ## 1. Commands -/

/-- The three ways in which a goal may be entered in the memo. -/
inductive EntryKind where
  | ready
  | pending
  | guarded
deriving DecidableEq

/-- A command. `probe` lists goals whose memo entries are shown with the branch. -/
inductive Command where
  | solve (goal : Term) (providers : List Expr)
  | solveAs (kind : Kind) (providers : List Expr)
  /-- Makes the starting branch of some providers the current one. -/
  | start (providers : List Expr) (probe : List Term)
  /-- Looks for a value of a goal in the current branch, and makes the new branch current if it is
  to be committed. -/
  | find (goal : Term) (depth : Nat) (commit : Bool) (probe : List Term)
  /-- Binds a variable in the current branch. -/
  | bind (name : String) (term : Term)
  /-- Enters a goal in the memo of the current branch. -/
  | memo (goal : Term) (entry : EntryKind) (value : Expr)
  | branch (probe : List Term)
  /-- Takes a value in as a provider of the current branch, if it is one. -/
  | enroll (value : Expr)
  | providers
  | isProvider (value : Expr)
  | shapeName (value : Expr)
  | offers (value : Expr)
  | settings

/-! ## 2. Answers -/

structure EntryView where
  entry : EntryKind
  content : Except Failure Portrait

structure BranchView where
  providers : List String
  offers : List String
  memoSize : Nat
  bindings : List (String × Term)
  probe : List (Option EntryView)

structure RuleView where
  signature : Signature
  debug : String
  sameProvider : Bool

inductive Reply where
  | portrait (portrait : Portrait)
  | branch (view : BranchView)
  | found (result : Option (Portrait × BranchView))
  | bindings (bindings : List (String × Term))
  | count (number : Nat)
  | enrolled (contains : Bool) (view : BranchView)
  | text (content : String)
  | flag (content : Bool)
  | name (content : Option String)
  | rules (rules : List RuleView)
  | settings (settings : Settings)

inductive Trouble where
  | failed (failure : Failure)
  | clash (clash : Clash)
  | outOfFuel

/-- The answer to a command: what it gives, the calls of rule bodies, and the reports of the
search. -/
structure Answer where
  reply : Except Trouble Reply
  calls : List String
  events : List String

end Synthesis.Session
