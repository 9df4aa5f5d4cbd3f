import Synthesis.Rule
import Synthesis.Value.Text

/-!
# Scripts

A small language for values and for the bodies of rules. An expression makes a value; each
evaluation makes a new one, unless the expression names a value that is there already. A body is
a list of statements that are run in their order; a body that comes to its end declines.
-/
namespace Synthesis.Script

/-! ## 1. The language -/

inductive Expr where
  | int (number : Int)
  | text (content : String)
  | flag (content : Bool)
  | unit
  | record (tag : String) (fields : List Expr)
  /-- A provider whose label is the text of a value. -/
  | provider (slot : Nat) (label : Expr) (base : Option Expr)
  | shared (key : String)
  | emptyCell
  /-- A cell that is tied from the start. -/
  | tiedCell (content : Expr)
  | knot (value : Expr) (of : Kind)
  /-- The value that a knot over a value holds. -/
  | knotContent (value : Expr) (of : Kind)
  /-- The texts of some values, one after the other. -/
  | concat (parts : List Expr)
  | field (record : Expr) (index : Nat)
  /-- A complete argument of a kind. -/
  | arg (index : Nat) (kind : Kind)
  /-- An argument as it was passed. -/
  | rawArg (index : Nat)
  | argKnot (index : Nat) (of : Kind)
  | argKnotContent (index : Nat) (of : Kind)
  /-- The label of the provider, which has to be of a kind. -/
  | providerLabel (kind : Kind)
  | isProvider (kind : Kind)
  /-- The type of a generic slot. -/
  | slotType (name : String)
  | slotTypes
  | argCount
  | hasNoArgs
  | ruleName
deriving Inhabited

inductive Comparison where
  | equal
  | less
  | greater
deriving DecidableEq

inductive Stmt where
  | produce (value : Expr)
  | decline
  /-- The rule fails with the text of a value. -/
  | fail (message : Expr)
  | raise (failure : Failure)
  /-- An expression is evaluated for its failures only. -/
  | evaluate (value : Expr)
  /-- One of two lists of statements is run, and after it the statements that follow. -/
  | choose (left : Expr) (comparison : Comparison) (right : Expr) (yes no : List Stmt)
deriving Inhabited

/-! ## 2. Expressions -/

structure Scope where
  shared : List (String × Value)
  inputs : Inputs

def Scope.outside (shared : List (String × Value)) : Scope :=
  ⟨shared, ⟨default, .unit, [], []⟩⟩

def makeKnot (value : Value) (of : Kind) : Build Value := do
  Build.alloc (.knot of (← knotCell value))

def knotContent (value : Value) (of : Kind) : Build Value := do
  let cell ← knotCell value
  Build.ofExcept (readKnot (← Build.heap) of cell)

/-- A field of a record; what is not there reads as the unit value. -/
def field (value : Value) (index : Nat) : Build Value :=
  match value.datum with
  | .record _ fields =>
      match fields[index]? with
      | some content => pure content
      | none => Build.alloc .unit
  | _ => Build.alloc .unit

def label : Datum → String
  | .provider _ label _ => label
  | _ => ""

mutual
def Expr.eval (scope : Scope) : Expr → Build Value
  | .int number => Build.alloc (.int number)
  | .text content => Build.alloc (.text content)
  | .flag content => Build.alloc (.flag content)
  | .unit => Build.alloc .unit
  | .record tag fields => do Build.alloc (.record tag (← evalAll scope fields))
  | .provider slot label none => do
      let label ← label.eval scope
      Build.alloc (.provider slot (label.render (← Build.heap)) none)
  | .provider slot label (some base) => do
      let label ← label.eval scope
      let base ← base.eval scope
      Build.alloc (.provider slot (label.render (← Build.heap)) (some base))
  | .shared key =>
      match scope.shared.lookup key with
      | some value => pure value
      | none => Build.alloc .unit
  | .emptyCell => do Build.alloc (.deferred (← Build.newCell none))
  | .tiedCell content => do
      let content ← content.eval scope
      Build.alloc (.deferred (← Build.newCell (some content)))
  | .knot value of => do makeKnot (← value.eval scope) of
  | .knotContent value of => do knotContent (← value.eval scope) of
  | .concat parts => do
      let values ← evalAll scope parts
      Build.alloc (.text (String.join (Value.renderAll (← Build.heap) values)))
  | .field record index => do field (← record.eval scope) index
  | .arg index kind => do
      Build.ofExcept (scope.inputs.completeArg kind index (← Build.heap))
  | .rawArg index => Build.ofExcept (scope.inputs.passed index)
  | .argKnot index of => do makeKnot (← Build.ofExcept (scope.inputs.passed index)) of
  | .argKnotContent index of => do knotContent (← Build.ofExcept (scope.inputs.passed index)) of
  | .providerLabel kind => do
      Build.alloc (.text (label (← Build.ofExcept (scope.inputs.providerAs kind))))
  | .isProvider kind => Build.alloc (.flag (scope.inputs.provider.kind = kind))
  | .slotType name =>
      Build.alloc (.text (((scope.inputs.slotType? name).map Term.render).getD "<none>"))
  | .slotTypes =>
      Build.alloc (.text (";".intercalate (scope.inputs.types.map Term.render)))
  | .argCount => Build.alloc (.int scope.inputs.args.length)
  | .hasNoArgs => Build.alloc (.flag scope.inputs.args.isEmpty)
  | .ruleName => Build.alloc (.text scope.inputs.signature.name)

def evalAll (scope : Scope) : List Expr → Build (List Value)
  | [] => pure []
  | expr :: exprs => do
      let value ← expr.eval scope
      let values ← evalAll scope exprs
      return value :: values
end

/-! ## 3. Statements -/

def Comparison.holds {α : Type} [DecidableEq α] [LT α] [DecidableLT α] (comparison : Comparison)
    (left right : α) : Bool :=
  match comparison with
  | .equal => left = right
  | .less => left < right
  | .greater => right < left

/-- Whether a comparison holds of two values: of numbers as numbers, of any other two values by
their texts. -/
def Comparison.holdsOf (comparison : Comparison) (heap : Heap) (left right : Value) : Bool :=
  match left.datum, right.datum with
  | .int left, .int right => comparison.holds left right
  | _, _ => comparison.holds (left.render heap) (right.render heap)

mutual
/-- Runs a statement; `none` goes on to the next one. -/
def Stmt.run (scope : Scope) : Stmt → Build (Option Verdict)
  | .produce value => do return some (.produced (← value.eval scope))
  | .decline => return some .declined
  | .fail message => do
      let message ← message.eval scope
      Build.fail (scope.inputs.failure (message.render (← Build.heap)))
  | .raise failure => Build.fail failure
  | .evaluate value => do
      let _ ← value.eval scope
      return none
  | .choose left comparison right yes no => do
      let left ← left.eval scope
      let right ← right.eval scope
      if comparison.holdsOf (← Build.heap) left right then runAll scope yes
      else runAll scope no

/-- Runs statements until one of them decides. -/
def runAll (scope : Scope) : List Stmt → Build (Option Verdict)
  | [] => return none
  | stmt :: stmts => do
      match ← stmt.run scope with
      | some verdict => return some verdict
      | none => runAll scope stmts
end

def recipe (shared : List (String × Value)) (body : List Stmt) : Recipe :=
  .body fun inputs => do
    return (← runAll ⟨shared, inputs⟩ body).getD .declined

end Synthesis.Script
