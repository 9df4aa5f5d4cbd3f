/-!
# Type terms

A type term is a variable or a constructor applied to argument terms. This file holds the type,
its decidable equality, an induction principle that reaches into argument lists, the traversals
of a term (size, variables, renaming) and the text of a term.

Every traversal reads a term from left to right: a constructor first, then its arguments in order.
-/
namespace Synthesis

/-- A type term. A constructor without arguments, such as `Int`, is applied to the empty list. -/
inductive Term where
  | var (name : String)
  | app (head : String) (args : List Term)
deriving Inhabited

namespace Term

/-! ## 1. Equality and induction -/

mutual
def decEq : (s t : Term) → Decidable (s = t)
  | .var a, .var b =>
      if same : a = b then .isTrue (by rw [same]) else .isFalse (by simpa using same)
  | .var _, .app _ _ => .isFalse (by simp)
  | .app _ _, .var _ => .isFalse (by simp)
  | .app f xs, .app g ys =>
      if same : f = g then
        match decEqAll xs ys with
        | .isTrue args => .isTrue (by rw [same, args])
        | .isFalse args => .isFalse (by simp [args])
      else .isFalse (by simp [same])

def decEqAll : (ss ts : List Term) → Decidable (ss = ts)
  | [], [] => .isTrue rfl
  | [], _ :: _ => .isFalse (by simp)
  | _ :: _, [] => .isFalse (by simp)
  | s :: ss, t :: ts =>
      match decEq s t with
      | .isFalse first => .isFalse (by simp [first])
      | .isTrue first =>
          match decEqAll ss ts with
          | .isFalse rest => .isFalse (by simp [rest])
          | .isTrue rest => .isTrue (by rw [first, rest])
end

instance : DecidableEq Term := decEq

/-- A property of terms holds of all of them if it holds of the variables and passes from all
arguments of an application to the application. -/
@[elab_as_elim, induction_eliminator]
theorem induction {motive : Term → Prop}
    (var : ∀ name, motive (.var name))
    (app : ∀ head args, (∀ arg ∈ args, motive arg) → motive (.app head args)) :
    ∀ term, motive term :=
  @Term.rec motive (fun args => ∀ arg ∈ args, motive arg) var app (by simp)
    fun _ _ first rest arg member => by
      cases member with
      | head => exact first
      | tail _ member => exact rest arg member

/-! ## 2. Parts of a term -/

def constant (head : String) : Term := .app head []

def head? : Term → Option String
  | .var _ => none
  | .app head _ => some head

def args : Term → List Term
  | .var _ => []
  | .app _ args => args

/-- The term as the only argument of a constructor. -/
def under (term : Term) (head : String) : Term := .app head [term]

mutual
def size : Term → Nat
  | .var _ => 0
  | .app _ args => 1 + sizeAll args

def sizeAll : List Term → Nat
  | [] => 0
  | term :: terms => term.size + sizeAll terms
end

/-! ## 3. Variables -/

mutual
/-- Whether no variable occurs in the term. -/
def isGround : Term → Bool
  | .var _ => false
  | .app _ args => allGround args

def allGround : List Term → Bool
  | [] => true
  | term :: terms => term.isGround && allGround terms
end

mutual
/-- Whether some variable of the term satisfies a test. -/
def anyVar (test : String → Bool) : Term → Bool
  | .var name => test name
  | .app _ args => anyVarAmong test args

def anyVarAmong (test : String → Bool) : List Term → Bool
  | [] => false
  | term :: terms => anyVar test term || anyVarAmong test terms
end

def mentions (term : Term) (name : String) : Bool := term.anyVar (· == name)

mutual
/-- The variables of a term as they are read, with every repetition. -/
def occurrences : Term → List String
  | .var name => [name]
  | .app _ args => occurrencesAmong args

def occurrencesAmong : List Term → List String
  | [] => []
  | term :: terms => term.occurrences ++ occurrencesAmong terms
end

mutual
/-- The names collected so far, followed by the variables of the term that are new, in the order
of their first occurrence. -/
def addVars (found : List String) : Term → List String
  | .var name => if name ∈ found then found else found ++ [name]
  | .app _ args => addVarsAmong found args

def addVarsAmong (found : List String) : List Term → List String
  | [] => found
  | term :: terms => addVarsAmong (addVars found term) terms
end

/-- The variables of a term, each once, in the order of their first occurrence. -/
def vars (term : Term) : List String := term.addVars []

mutual
/-- The term with every variable replaced by the term that a function gives for it. -/
def subst (replacement : String → Term) : Term → Term
  | .var name => replacement name
  | .app head args => .app head (substAmong replacement args)

def substAmong (replacement : String → Term) : List Term → List Term
  | [] => []
  | term :: terms => subst replacement term :: substAmong replacement terms
end

mutual
/-- The term with every variable replaced by a computation, run once for each occurrence in
reading order. -/
def substM {m : Type → Type} [Monad m] (replacement : String → m Term) : Term → m Term
  | .var name => replacement name
  | .app head args => do return .app head (← substAmongM replacement args)

def substAmongM {m : Type → Type} [Monad m] (replacement : String → m Term) :
    List Term → m (List Term)
  | [] => return []
  | term :: terms => do
      let first ← substM replacement term
      let rest ← substAmongM replacement terms
      return first :: rest
end

def replace (term : Term) (name : String) (value : Term) : Term :=
  term.subst fun other => if other = name then value else .var other

/-! ## 4. Text -/

mutual
/-- The text of a term: `Map<String, List<a>>`. -/
def render : Term → String
  | .var name => name
  | .app head [] => head
  | .app head (arg :: args) => head ++ "<" ++ arg.render ++ renderRest args ++ ">"

def renderRest : List Term → String
  | [] => ""
  | term :: terms => ", " ++ term.render ++ renderRest terms
end

def renderList (terms : List Term) : String := ", ".intercalate (terms.map render)

end Term
end Synthesis
