import Synthesis.Term.Parser
import Synthesis.Text.Quoted

/-!
# Term literals

A term literal is meant to be right when it is written. A wrong one is reported with the text
itself, between quotes.
-/
namespace Synthesis.Term

/-- The term that a literal spells, or the report on a wrong literal. -/
def literal (source : String) : Except String Term :=
  match parse source with
  | .ok term => .ok term
  | .error error => .error ("bad type term " ++ Text.quoted source ++ ": " ++ error.message)

end Synthesis.Term
