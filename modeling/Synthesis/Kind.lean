import Synthesis.Term

/-!
# Kinds of values

Every value is of exactly one kind. A kind has a name, by which messages refer to it, and some
kinds have a type term, so that a value can be asked for by its kind.

The kinds of records and providers belong to the program that uses the solver. Their names start
with the name of the module that declares them, which that program passes as `home`.
-/
namespace Synthesis

/-- A kind of values. -/
inductive Kind where
  | int
  | text
  | flag
  | unit
  /-- Records with a tag and fields. -/
  | record
  /-- Rule providers; each number is a kind of its own. -/
  | provider (slot : Nat)
  /-- Cells that are tied to a value once. -/
  | deferred
  /-- Handles to a value of a kind that may not be built yet. -/
  | knot (of : Kind)
  /-- A kind without values, whose type term has a variable. -/
  | generic
deriving DecidableEq, Inhabited

namespace Kind

def name (home : String) : Kind → String
  | .int => "i64"
  | .text => "alloc::string::String"
  | .flag => "bool"
  | .unit => "()"
  | .record => home ++ "::Obj"
  | .provider slot => home ++ "::P<" ++ toString slot ++ ">"
  | .deferred => "tyknot_engine::value::Deferred"
  | .knot of => "tyknot_engine::value::Knot<" ++ of.name home ++ ">"
  | .generic => home ++ "::Open"

def term? : Kind → Option Term
  | .int => some (.constant "Int")
  | .text => some (.constant "String")
  | .flag => some (.constant "Bool")
  | .record => some (.constant "Obj")
  | .provider slot => some (.constant ("P" ++ toString slot))
  | .generic => some (.app "Open" [.var "a"])
  | .unit | .deferred | .knot _ => none

end Kind
end Synthesis
