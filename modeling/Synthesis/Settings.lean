/-!
# Settings of the solver

The settings in force, and the part of them that a file or a caller gives. What is not given
stays as it is.
-/
namespace Synthesis

/-- The settings in force. -/
structure Settings where
  /-- Whether the search reports its progress. -/
  trace : Bool
  /-- How deep rules may be nested, if there is a limit. -/
  maxDepth : Option Nat
  /-- The constructor around a goal that asks for the goal's cell. -/
  placeholder : String
deriving DecidableEq, Inhabited

/-- Settings that are given; the others are absent. -/
structure Section where
  trace : Option Bool := none
  maxDepth : Option Nat := none
  placeholder : Option String := none
deriving DecidableEq, Inhabited

namespace Settings

/-- The constructor that asks for cells if no other one is given. -/
def defaultPlaceholder : String := "Recursive"

def default : Settings := ⟨true, none, defaultPlaceholder⟩

def silent : Settings := { default with trace := false }

/-- The settings with those of a section in their place. -/
def overlay (settings : Settings) (given : Section) : Settings where
  trace := given.trace.getD settings.trace
  maxDepth := given.maxDepth <|> settings.maxDepth
  placeholder := given.placeholder.getD settings.placeholder

end Settings
end Synthesis
