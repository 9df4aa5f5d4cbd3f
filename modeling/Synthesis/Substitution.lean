import Synthesis.Term.Lemmas

/-!
# Substitutions

A substitution is a list of bindings in the order in which they were made. A binding is made
only for a variable that is still unbound, to a term in which all earlier bindings are applied
already and which does not mention the variable. So the term of a binding mentions only
variables that are bound later or not at all, and to apply a substitution it is enough to look,
for each variable, at the bindings that come after its own.
-/
namespace Synthesis

/-- Bindings of variables to terms, oldest first. -/
structure Substitution where
  bindings : List (String × Term) := []
deriving DecidableEq, Inhabited

namespace Substitution

def empty : Substitution := ⟨[]⟩

def size (subst : Substitution) : Nat := subst.bindings.length

def domain (subst : Substitution) : List String := subst.bindings.map (·.1)

/-- The term that a variable is bound to, as it was given. -/
def lookup (subst : Substitution) (name : String) : Option Term :=
  subst.bindings.lookup name

def push (subst : Substitution) (name : String) (term : Term) : Substitution :=
  ⟨subst.bindings ++ [(name, term)]⟩

/-- The value of a variable under bindings of which the earlier ones have been passed: the term
it is bound to, with the bindings after that one applied, or the variable itself. -/
def valueUnder : List (String × Term) → String → Term
  | [], name => .var name
  | (bound, term) :: later, name =>
      if name = bound then term.subst (valueUnder later) else valueUnder later name

/-- The term with all bindings applied, until only unbound variables are left. -/
def apply (subst : Substitution) (term : Term) : Term :=
  term.subst (valueUnder subst.bindings)

/-- Whether a variable is unbound or bound to a term with an open variable, under bindings of
which the earlier ones have been passed. -/
def openUnder : List (String × Term) → String → Bool
  | [], _ => true
  | (bound, term) :: later, name =>
      if name = bound then term.anyVar (openUnder later) else openUnder later name

/-- Whether an unbound variable is left in the term once all bindings are applied. -/
def leavesOpen (subst : Substitution) (term : Term) : Bool :=
  term.anyVar (openUnder subst.bindings)

/-! ## How a new binding changes values -/

theorem valueUnder_append (bindings : List (String × Term)) (bound : String) (term : Term)
    (name : String) :
    valueUnder (bindings ++ [(bound, term)]) name =
      (valueUnder bindings name).replace bound term := by
  induction bindings generalizing name with
  | nil => simp [valueUnder, Term.replace, Term.subst_self]
  | cons first later ih =>
      by_cases same : name = first.1
      · simp only [List.cons_append, valueUnder, same, if_true, Term.replace_subst]
        exact Term.subst_congr fun other _ => ih other
      · simp only [List.cons_append, valueUnder, same, if_false, ih]

theorem apply_push (subst : Substitution) (name : String) (value term : Term) :
    (subst.push name value).apply term = (subst.apply term).replace name value := by
  simp only [apply, push, Term.replace_subst]
  exact Term.subst_congr fun other _ => valueUnder_append _ _ _ other

end Substitution
end Synthesis
