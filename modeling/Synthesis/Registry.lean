import Synthesis.Rule

/-!
# Shapes and providers

A shape belongs to one kind of values. It may bear rules and may extend the shape of another
kind, which has to be registered before it. A value of a rule-bearing shape is a provider: it
contributes the rules of its own shape and then those of the shapes above it, so the rules of a
derived shape are always tried before those that it inherits. Within a shape, rules with a more
specific return pattern come first.
-/
namespace Synthesis

/-! ## 1. Declarations -/

/-- A view of a value as another one, if it is of the right kind. -/
abbrev View := Datum → Option Datum

/-- The shape that a declared shape extends: its kind, and how a value is seen as one of it. -/
structure Base where
  kind : Kind
  project : Datum → Datum
  kind_project : ∀ datum, (project datum).kind = kind

/-- The declaration of a shape for a kind of values. -/
structure ShapeDecl where
  kind : Kind
  name : String
  /-- Whether values of this kind are providers. -/
  bearing : Bool
  base : Option Base
  rules : List RuleDecl

/-- A registered shape. Its rules stand in the order in which they are tried. -/
structure Shape where
  kind : Kind
  name : String
  bearing : Bool
  base : Option (Kind × View)
  rules : List Rule

/-- Rules with one more rule, which is put in front of the first one that it may be tried before. -/
def insertRule (rule : Rule) : List Rule → List Rule
  | [] => [rule]
  | other :: rest =>
      if rule.toSignature.notAfter other.toSignature then rule :: other :: rest
      else other :: insertRule rule rest

/-- Rules in the order in which they are tried. Rules that are equally specific stay in the order
in which they are given. -/
def orderRules (rules : List Rule) : List Rule := rules.foldr insertRule []

theorem insertRule_perm (rule : Rule) (rules : List Rule) :
    (insertRule rule rules).Perm (rule :: rules) := by
  induction rules with
  | nil => exact .refl _
  | cons other rest ih =>
      simp only [insertRule]
      split
      · exact .refl _
      · exact (ih.cons other).trans (.swap rule other rest)

theorem orderRules_perm (rules : List Rule) : (orderRules rules).Perm rules := by
  induction rules with
  | nil => exact .refl _
  | cons rule rules ih => exact (insertRule_perm rule _).trans (ih.cons rule)

def ShapeDecl.toShape (declared : ShapeDecl) : Shape where
  kind := declared.kind
  name := declared.name
  bearing := declared.bearing
  base := declared.base.map fun base =>
    (base.kind, fun datum => if datum.kind = declared.kind then some (base.project datum) else none)
  rules := orderRules (declared.rules.map (·.onShape declared.name))

/-! ## 2. The registry -/

inductive RegistrationError where
  /-- The kind has a shape already. -/
  | duplicateShape (name : String) (kind : Kind)
  /-- The kind of the shape that is extended has none. -/
  | unknownParent (name : String) (parent : Kind)
deriving DecidableEq

def RegistrationError.message (home : String) : RegistrationError → String
  | .duplicateShape name kind => s!"shape '{name}' is already registered for {kind.name home}"
  | .unknownParent name parent =>
      s!"shape '{name}' extends {parent.name home}, which has no registered shape"

/-- The registered shapes, the latest first. A shape only extends shapes that come after it in
this list. -/
structure Registry where
  shapes : List Shape := []

namespace Registry

def empty : Registry := ⟨[]⟩

def size (registry : Registry) : Nat := registry.shapes.length

def shape? (registry : Registry) (kind : Kind) : Option Shape :=
  registry.shapes.find? fun shape => shape.kind = kind

def register (registry : Registry) (declared : ShapeDecl) : Except RegistrationError Registry :=
  if (registry.shape? declared.kind).isSome then
    .error (.duplicateShape declared.name declared.kind)
  else
    match declared.base with
    | none => .ok ⟨declared.toShape :: registry.shapes⟩
    | some base =>
        if (registry.shape? base.kind).isSome then .ok ⟨declared.toShape :: registry.shapes⟩
        else .error (.unknownParent declared.name base.kind)

/-- A shape above a kind, and the views that lead from a value of that kind to it. -/
structure Ancestor where
  shape : Shape
  views : List View

/-- The shapes from a kind upwards, among registered shapes of which the later ones have been
passed. `views` lead to the kind. -/
def lineageAmong (views : List View) (kind : Kind) : List Shape → List Ancestor
  | [] => []
  | shape :: earlier =>
      if shape.kind = kind then
        ⟨shape, views⟩ ::
          match shape.base with
          | none => []
          | some (parent, view) => lineageAmong (views ++ [view]) parent earlier
      else lineageAmong views kind earlier

/-- The shapes from a kind upwards, the most derived first. -/
def lineage (registry : Registry) (kind : Kind) : List Ancestor :=
  lineageAmong [] kind registry.shapes

end Registry

/-! ## 3. Providers -/

/-- A rule, the value that provides it, and the views that lead from the value to the shape that
declares the rule. -/
structure Offer where
  rule : Rule
  provider : Value
  views : List View

namespace Offer

def view (offer : Offer) : Except Failure Datum :=
  offer.views.foldlM
    (fun datum view =>
      match view datum with
      | some seen => .ok seen
      | none => .error (.providerType offer.rule.name (.shape offer.rule.shape)))
    offer.provider.datum

def debug (home : String) (offer : Offer) : String :=
  "Candidate(" ++ offer.rule.render ++ " on " ++ offer.provider.kind.name home ++ ")"

end Offer

namespace Registry

def bearsRules (registry : Registry) (value : Value) : Bool :=
  match registry.shape? value.kind with
  | some shape => shape.bearing
  | none => false

/-- The rules that a value contributes, in the order in which they are tried. -/
def offers (registry : Registry) (provider : Value) : List Offer :=
  (registry.lineage provider.kind).flatMap fun ancestor =>
    if ancestor.shape.bearing then
      ancestor.shape.rules.map fun rule => ⟨rule, provider, ancestor.views⟩
    else []

end Registry

/-- The active providers and their rules, in the order of admission. -/
structure Providers where
  members : List Value := []
  offers : List Offer := []

namespace Providers

def contains (providers : Providers) (value : Value) : Bool :=
  providers.members.any (·.same value)

/-- Whether a value is a provider that is not among the providers yet. -/
def accepts (providers : Providers) (registry : Registry) (value : Value) : Bool :=
  !providers.contains value && registry.bearsRules value

/-- The providers with a value and its rules after them, if it is a new provider. -/
def enroll (providers : Providers) (registry : Registry) (value : Value) : Providers :=
  if providers.accepts registry value then
    ⟨providers.members ++ [value], providers.offers ++ registry.offers value⟩
  else providers

def debug (home : String) (providers : Providers) : String :=
  "ProviderSet \x7b members: [" ++ ", ".intercalate (providers.members.map (·.debug home)) ++
    "], rules: " ++ toString providers.offers.length ++ " \x7d"

end Providers
end Synthesis
