import Synthesis.Registry
import Synthesis.Script

/-!
# What a session starts with

The shared values and the shapes of a session, as they are written down: the bodies of the rules
are scripts, which may refer to the shared values.
-/
namespace Synthesis.Session

open Script (Expr)

/-- A rule of a shape, before its body can refer to shared values. -/
inductive RuleSource where
  | scripted (name : String) (returns : Term) (params : List Term) (body : List Script.Stmt)
  | placeholder (head : String) (pattern : Term)

def RuleSource.declare (shared : List (String × Value)) : RuleSource → RuleDecl
  | .scripted name returns params body => ⟨name, returns, params, Script.recipe shared body⟩
  | .placeholder head pattern => .placeholder head pattern

/-- The part of a value that a derived provider presents as a provider of another kind: its base,
or a provider without a base of its own if it has none of that kind. -/
def basePart (slot : Nat) : Datum → Datum
  | .provider _ _ (some (.mk _ (.provider other label base))) =>
      if other = slot then .provider slot label base else .provider slot "none" none
  | _ => .provider slot "none" none

theorem kind_basePart (slot : Nat) (datum : Datum) :
    (basePart slot datum).kind = .provider slot := by
  unfold basePart
  split
  · split <;> rfl
  · rfl

/-- A shape, before its rules can refer to shared values. `base` is the provider kind that it
extends. -/
structure ShapeSource where
  kind : Kind
  name : String
  bearing : Bool
  base : Option Nat
  rules : List RuleSource

def ShapeSource.declare (shared : List (String × Value)) (source : ShapeSource) : ShapeDecl where
  kind := source.kind
  name := source.name
  bearing := source.bearing
  base := source.base.map fun slot => ⟨.provider slot, basePart slot, kind_basePart slot⟩
  rules := source.rules.map (·.declare shared)

/-- Registers shapes in their order. A refused shape is left out. Gives the registry, and for each
shape the number of registered shapes after it or why it was refused. -/
def registerAll (shared : List (String × Value)) :
    List ShapeSource → Registry → Registry × List (Except RegistrationError Nat)
  | [], registry => (registry, [])
  | source :: sources, registry =>
      match registry.register (source.declare shared) with
      | .ok extended =>
          let (final, results) := registerAll shared sources extended
          (final, .ok extended.size :: results)
      | .error error =>
          let (final, results) := registerAll shared sources registry
          (final, .error error :: results)

/-- Evaluates shared values in their order; each one may refer to those before it. -/
def shareAll (shared : List (String × Value)) :
    List (String × Expr) → Build (List (String × Value))
  | [] => pure shared
  | (key, expr) :: rest => do
      let value ← expr.eval (.outside shared)
      shareAll (shared ++ [(key, value)]) rest

end Synthesis.Session
