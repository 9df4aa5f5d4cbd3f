import Synthesis.Term
import Synthesis.Text.Blank

/-!
# The written form of terms

Which texts spell which terms, said without a reader. A text may spell a term in many ways, since
white space may stand before each part of it and a variable may be written with a quote or without
one. No text spells two terms; that follows once a reader is shown to find every term.
-/
namespace Synthesis
namespace Term

/-! ## 1. Names and white space -/

/-- White space of any length. -/
def Blanks (text : List Char) : Prop := ∀ c ∈ text, Text.isBlank c = true

/-- A character of a name: an ASCII letter or digit, or an underscore. -/
def NameChar (c : Char) : Prop := c.isAlphanum = true ∨ c = '_'

/-- A name whose first character is of some kind. -/
def NameFrom (start : Char → Prop) : List Char → Prop
  | [] => False
  | first :: rest => start first ∧ ∀ c ∈ rest, NameChar c

/-- A name that starts with an ASCII letter or an underscore. -/
def Identifier : List Char → Prop := NameFrom fun c => c.isAlpha = true ∨ c = '_'

/-- A name that stands for a variable when it is not quoted. -/
def VariableName : List Char → Prop := NameFrom fun c => c.isLower = true

/-- A name that stands for a constructor. -/
def ConstructorName : List Char → Prop := NameFrom fun c => c.isUpper = true ∨ c = '_'

/-! ## 2. Terms -/

mutual
/-- A text spells a term, with white space before it. -/
inductive Spells : List Char → Term → Prop
  /-- A quote stands directly before the name of a variable. -/
  | quoted {blank name : List Char} : Blanks blank → Identifier name →
      Spells (blank ++ '\'' :: name) (.var (String.ofList name))
  | variable {blank name : List Char} : Blanks blank → VariableName name →
      Spells (blank ++ name) (.var (String.ofList name))
  | constant {blank name : List Char} : Blanks blank → ConstructorName name →
      Spells (blank ++ name) (.app (String.ofList name) [])
  | application {blank name gap inner last : List Char} {args : List Term} : Blanks blank →
      ConstructorName name → Blanks gap → SpellsArgs inner args → Blanks last →
      Spells (blank ++ name ++ gap ++ '<' :: inner ++ last ++ ['>'])
        (.app (String.ofList name) args)

/-- A text spells the arguments of an application: one term, or more of them with commas in between.
-/
inductive SpellsArgs : List Char → List Term → Prop
  | one {text : List Char} {term : Term} : Spells text term → SpellsArgs text [term]
  | more {text gap rest : List Char} {term : Term} {terms : List Term} : Spells text term →
      Blanks gap → SpellsArgs rest terms → SpellsArgs (text ++ gap ++ ',' :: rest) (term :: terms)
end

/-- A whole text spells a term: white space may stand after it as well. -/
def Sentence (text : List Char) (term : Term) : Prop :=
  ∃ spelling blank, text = spelling ++ blank ∧ Spells spelling term ∧ Blanks blank

end Term
end Synthesis
