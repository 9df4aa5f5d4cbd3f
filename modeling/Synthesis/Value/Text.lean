import Synthesis.Heap

/-!
# The text of a value

A short text for every value. Cells and knots are shown without what they hold.
-/
namespace Synthesis

mutual
def Value.render (heap : Heap) : Value → String
  | .mk _ datum => datum.render heap

def Datum.render (heap : Heap) : Datum → String
  | .int number => toString number
  | .text content => content
  | .flag content => if content then "true" else "false"
  | .unit => "()"
  | .record tag fields => tag ++ "(" ++ ",".intercalate (Value.renderAll heap fields) ++ ")"
  | .provider slot label _ => "P" ++ toString slot ++ ":" ++ label
  | .deferred cell => heap.debugCell cell
  | .knot _ _ => "knot"

def Value.renderAll (heap : Heap) : List Value → List String
  | [] => []
  | value :: values => value.render heap :: Value.renderAll heap values
end

end Synthesis
