import Synthesis.Rule
import Synthesis.Text.Quoted

/-!
# How declarations are shown

A declared rule is shown with all its parts but the recipe, which has no text.
-/
namespace Synthesis

namespace Term

mutual
def debug : Term → String
  | .var name => "Var(TypeVar \x7b name: " ++ Text.quoted name ++ " \x7d)"
  | .app head args =>
      "App \x7b head: " ++ Text.quoted head ++ ", args: [" ++ debugArgs args ++ "] \x7d"

def debugArgs : List Term → String
  | [] => ""
  | [term] => term.debug
  | term :: terms => term.debug ++ ", " ++ debugArgs terms
end

end Term

def RuleDecl.debug (rule : RuleDecl) : String :=
  "RuleDef \x7b name: " ++ Text.quoted rule.name ++ ", returns: " ++ rule.returns.debug ++
    ", params: [" ++ Term.debugArgs rule.params ++ "], .. \x7d"

end Synthesis
