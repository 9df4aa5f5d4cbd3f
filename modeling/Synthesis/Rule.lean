import Synthesis.Failure
import Synthesis.Heap

/-!
# Rules

A rule is a recipe with a signature: given values for its parameter patterns, it builds a value
of its return pattern. The variables of the signature are the rule's generic slots. They are
renamed apart each time the rule is tried, and they have ground types when its body runs.

A body reads the heap and may add to it, but it cannot change what is there: this is part of its
type (`Build`).
-/
namespace Synthesis

/-! ## 1. Signatures -/

/-- The shape that declares a rule, and the rule's name and patterns. -/
structure Signature where
  shape : String
  name : String
  returns : Term
  params : List Term
deriving DecidableEq, Inhabited

/-- A signature whose variables are renamed for one try of the rule. -/
structure Renamed where
  returns : Term
  params : List Term
  slots : List String
deriving DecidableEq

namespace Signature

/-- The generic slots: the variables of the return pattern and then of the parameters, each once,
in the order of their first occurrence. -/
def slots (signature : Signature) : List String :=
  signature.params.foldl Term.addVars signature.returns.vars

/-- The name of a variable in the try with a given stamp. -/
def stamped (stamp : Nat) (name : String) : String := name ++ "#" ++ toString stamp

/-- The signature with all variables renamed by a stamp. -/
def rename (signature : Signature) (stamp : Nat) : Renamed :=
  let renamed (term : Term) : Term := term.subst fun name => .var (stamped stamp name)
  { returns := renamed signature.returns
    params := signature.params.map renamed
    slots := signature.slots.map (stamped stamp) }

/-- The number of variables and the number of constructors of the return pattern. -/
def specificity (signature : Signature) : Nat × Nat :=
  (signature.returns.vars.length, signature.returns.size)

/-- Whether a rule may be tried before another one of its shape: it has fewer variables to return,
or as many and at least as much structure. -/
def notAfter (signature other : Signature) : Bool :=
  let (vars, size) := signature.specificity
  let (vars', size') := other.specificity
  vars < vars' || vars == vars' && size' ≤ size

/-- The text of a signature: `Lists::zip(List<a>, List<b>) -> List<Pair<a, b>>`. -/
def render (signature : Signature) : String :=
  signature.shape ++ "::" ++ signature.name ++ "(" ++ Term.renderList signature.params ++ ") -> " ++
    signature.returns.render

def debug (signature : Signature) : String := "Rule(" ++ signature.render ++ ")"

end Signature

/-! ## 2. Bodies -/

/-- A computation that reads the heap and may add to it. It gives a result or a failure, together
with a heap that extends the one it started from. So it ties no cell that was there: only the search
can do that. A body that starts a search of its own is covered as long as no rule of that search
hands on a cell from outside. -/
def Build (α : Type) : Type :=
  (heap : Heap) → { outcome : Except Failure α × Heap // heap.Extends outcome.2 }

namespace Build

instance : Monad Build where
  pure result heap := ⟨(.ok result, heap), .refl heap⟩
  bind first next heap :=
    match first heap with
    | ⟨(.error failure, reached), grown⟩ => ⟨(.error failure, reached), grown⟩
    | ⟨(.ok result, reached), grown⟩ =>
        let ⟨outcome, further⟩ := next result reached
        ⟨outcome, grown.trans further⟩

def fail {α : Type} (failure : Failure) : Build α :=
  fun heap => ⟨(.error failure, heap), .refl heap⟩

def heap : Build Heap := fun heap => ⟨(.ok heap, heap), .refl heap⟩

def alloc (datum : Datum) : Build Value := fun heap =>
  let made := heap.alloc datum
  ⟨(.ok made.1, made.2), heap.extends_alloc datum⟩

def newCell (content : Option Value) : Build Nat := fun heap =>
  let made := heap.newCell content
  ⟨(.ok made.1, made.2), heap.extends_newCell content⟩

def ofExcept {α : Type} : Except Failure α → Build α
  | .ok result => pure result
  | .error failure => fail failure

end Build

/-- What the body of a rule decides. -/
inductive Verdict where
  /-- The rule built a value of its return type. -/
  | produced (value : Value)
  /-- The rule fits by type but does not apply. -/
  | declined

/-- What the body of a rule is given. -/
structure Inputs where
  signature : Signature
  /-- The provider, viewed at the shape that declares the rule. -/
  provider : Datum
  /-- The ground types of the generic slots, in slot order. -/
  types : List Term
  args : List Value

namespace Inputs

def providerAs (inputs : Inputs) (kind : Kind) : Except Failure Datum :=
  if inputs.provider.kind = kind then .ok inputs.provider
  else .error (.providerType inputs.signature.name (.kind kind))

def slotType? (inputs : Inputs) (name : String) : Option Term :=
  match inputs.signature.slots.idxOf? name with
  | none => none
  | some slot => inputs.types[slot]?

/-- An argument as it was passed; it may be a cell that is not tied yet. -/
def passed (inputs : Inputs) (index : Nat) : Except Failure Value :=
  match inputs.args[index]? with
  | some value => .ok value
  | none => .error (.argumentIndex inputs.signature.name index)

/-- An argument of a kind, which has to be complete. -/
def completeArg (inputs : Inputs) (kind : Kind) (index : Nat) (heap : Heap) :
    Except Failure Value := do
  let passed ← inputs.passed index
  let value ←
    match passed.cell? with
    | none => .ok passed
    | some cell =>
        match heap.content? cell with
        | some content => .ok content
        | none => .error (.unsetKnot kind)
  match value.as? kind with
  | some value => return value
  | none => .error (.argumentType inputs.signature.name index kind value.kind)

/-- A failure that the rule raises itself. -/
def failure (inputs : Inputs) (message : String) : Failure :=
  .raised inputs.signature.name message

end Inputs

/-! ## 3. Knots -/

/-- The cell of a knot over a value: the value's own cell if it is a cell, and a new cell tied to
it otherwise. -/
def knotCell (value : Value) : Build Nat :=
  match value.cell? with
  | some cell => pure cell
  | none => Build.newCell (some value)

/-- The value that a knot holds. -/
def readKnot (heap : Heap) (of : Kind) (cell : Nat) : Except Failure Value :=
  match heap.content? cell with
  | none => .error (.unsetKnot of)
  | some value =>
      match value.as? of with
      | some value => .ok value
      | none => .error (.knotType of value.kind)

/-! ## 4. Declarations -/

/-- How a rule builds its value. -/
inductive Recipe where
  | body (run : Inputs → Build Verdict)
  /-- By making a new, empty cell. -/
  | freshCell

def Recipe.run : Recipe → Inputs → Build Verdict
  | .body run, inputs => run inputs
  | .freshCell, _ => do
      let cell ← Build.newCell none
      return .produced (← Build.alloc (.deferred cell))

/-- A rule as it is declared on a shape. -/
structure RuleDecl where
  name : String
  returns : Term
  params : List Term
  recipe : Recipe

/-- The rule that stands an empty cell in for each goal of a pattern while that goal is being
built. `head` is the constructor that asks for such a cell. -/
def RuleDecl.placeholder (head : String) (pattern : Term) : RuleDecl :=
  ⟨"placeholder", pattern.under head, [], .freshCell⟩

/-- A rule of a registered shape. -/
structure Rule extends Signature where
  recipe : Recipe

def RuleDecl.onShape (rule : RuleDecl) (shape : String) : Rule :=
  ⟨⟨shape, rule.name, rule.returns, rule.params⟩, rule.recipe⟩

end Synthesis
