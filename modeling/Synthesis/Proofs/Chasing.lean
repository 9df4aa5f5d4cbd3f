import Synthesis.Proofs.Bindings

/-!
# Following the bindings of a term

To chase a term is to replace each variable in it by the term to which it is bound, and to go on in
that term, until the variables that are left are not bound. To look for an open variable is to go
the same way without building the term. Nothing but the bindings bounds these recursions, and they
end because bindings lead forward.

Results:
1. `Triangular.induction`: what holds of a variable that is not bound, and passes from the term of a
   variable to the variable and from arguments to an application, holds of all terms.
2. `returns_chase`, `returns_seekOpen`: both recursions return. Chasing gives the term with all
   bindings applied.
3. `leavesOpen_eq`: an open variable is left in a term if and only if that term is not ground.
4. `chase_reaches_normal_form`: all of this for whatever the operations make of the empty
   substitution, also where they fail.
-/
namespace Synthesis

/-! ## 1. Recursions that return -/

/-- A recursion returns a result if it gives the result whenever it may nest calls deeply enough.
Without a result it would need more than any number of levels. -/
def Returns {α : Type} (within : Nat → Option α) (result : α) : Prop :=
  ∃ least, ∀ levels, least ≤ levels → within levels = some result

namespace Returns

variable {α β : Type}

theorem of_eq {within : Nat → Option α} {result : α}
    (same : ∀ levels, within levels = some result) : Returns within result :=
  ⟨0, fun levels _ => same levels⟩

theorem pure (result : α) : Returns (fun _ => some result) result := .of_eq fun _ => rfl

theorem bind {first : Nat → Option α} {next : Nat → α → Option β} {middle : α} {result : β}
    (returns : Returns first middle) (later : Returns (next · middle) result) :
    Returns (fun levels => (first levels).bind (next levels)) result := by
  obtain ⟨one, returns⟩ := returns
  obtain ⟨two, later⟩ := later
  refine ⟨max one two, fun levels enough => ?_⟩
  show (first levels).bind (next levels) = some result
  rw [returns levels (by omega), Option.bind_some]
  exact later levels (by omega)

theorem map {within : Nat → Option α} {result : α} (returns : Returns within result) (f : α → β) :
    Returns (fun levels => (within levels).map f) (f result) := by
  obtain ⟨least, returns⟩ := returns
  exact ⟨least, fun levels enough => congrArg (Option.map f) (returns levels enough)⟩

theorem call {within deeper : Nat → Option α} {result : α} (returns : Returns deeper result)
    (step : ∀ levels, within (levels + 1) = deeper levels) : Returns within result := by
  obtain ⟨least, returns⟩ := returns
  refine ⟨least + 1, fun levels enough => ?_⟩
  obtain ⟨levels, rfl⟩ : ∃ fewer, levels = fewer + 1 := ⟨levels - 1, by omega⟩
  rw [step, returns levels (by omega)]

theorem mapM {within : Nat → α → Option β} {f : α → β} {items : List α}
    (each : ∀ item ∈ items, Returns (within · item) (f item)) :
    Returns (fun levels => items.mapM (within levels)) (items.map f) := by
  induction items with
  | nil => exact pure []
  | cons item items ih =>
      have rest := ih fun other member => each other (.tail _ member)
      simp only [List.mapM_cons]
      exact (each item (.head _)).bind (rest.bind (pure _))

theorem anyM {within : Nat → α → Option Bool} {f : α → Bool} {items : List α}
    (each : ∀ item ∈ items, Returns (within · item) (f item)) :
    Returns (fun levels => items.anyM (within levels)) (items.any f) := by
  induction items with
  | nil => exact pure false
  | cons item items ih =>
      have rest := ih fun other member => each other (.tail _ member)
      simp only [List.anyM, List.any_cons]
      refine (each item (.head _)).bind ?_
      cases f item with
      | true => exact pure true
      | false => exact rest

end Returns

namespace Substitution

/-! ## 2. The recursions -/

/-- The term with the bindings of its variables followed until only unbound variables are left, if
this takes no more than a number of nested calls. -/
def chase (subst : Substitution) : (levels : Nat) → Term → Option Term
  | 0, _ => none
  | levels + 1, .var name =>
      match subst.lookup name with
      | some term => subst.chase levels term
      | none => some (.var name)
  | levels + 1, .app head args => do return .app head (← args.mapM (subst.chase levels))

/-- Whether following the bindings comes to an unbound variable, if this takes no more than a number
of nested calls. The search stops at the first one. -/
def seekOpen (subst : Substitution) : (levels : Nat) → Term → Option Bool
  | 0, _ => none
  | levels + 1, .var name =>
      match subst.lookup name with
      | some term => subst.seekOpen levels term
      | none => some true
  | levels + 1, .app _ args => args.anyM (subst.seekOpen levels)

variable {subst : Substitution}

/-- Terms can be taken apart along triangular bindings: a bound variable into the term that it is
bound to, and an application into its arguments. -/
theorem Triangular.induction (triangular : Triangular subst.bindings) {motive : Term → Prop}
    (unbound : ∀ name, subst.lookup name = none → motive (.var name))
    (bound : ∀ name term, subst.lookup name = some term → motive term → motive (.var name))
    (app : ∀ head args, (∀ arg ∈ args, motive arg) → motive (.app head args)) :
    ∀ term, motive term := by
  have whole (term : Term) (vars : ∀ name, term.mentions name = true → motive (.var name)) :
      motive term := by
    induction term with
    | var name => exact vars name (by simp)
    | app head args ih =>
        exact app head args fun arg member => ih arg member fun name inArg =>
          vars name (Term.mentions_of_mem member head inArg)
  suffices vars : ∀ name, motive (.var name) from fun term => whole term fun name _ => vars name
  intro name
  induction ahead : subst.domain.length - subst.domain.idxOf name using Nat.strongRecOn
    generalizing name with
  | ind ahead ih =>
      cases found : subst.lookup name with
      | none => exact unbound name found
      | some term =>
          refine bound name term found (whole term fun other inTerm => ih _ ?_ other rfl)
          have later : subst.domain.idxOf name < subst.domain.idxOf other :=
            Leads.idxOf_lt triangular ⟨term, found, inTerm⟩
          have := subst.domain.idxOf_le_length (a := other)
          omega

theorem apply_of_lookup (triangular : Triangular subst.bindings) {name : String} {term : Term}
    (found : subst.lookup name = some term) : subst.apply (.var name) = subst.apply term := by
  rw [apply_var triangular, found]
  rfl

theorem apply_of_lookup_none (triangular : Triangular subst.bindings) {name : String}
    (absent : subst.lookup name = none) : subst.apply (.var name) = .var name := by
  rw [apply_var triangular, absent]
  rfl

/-- Chasing a term ends with the bindings applied to it. -/
theorem returns_chase (triangular : Triangular subst.bindings) (term : Term) :
    Returns (subst.chase · term) (subst.apply term) := by
  induction term using Triangular.induction triangular with
  | unbound name absent =>
      rw [apply_of_lookup_none triangular absent]
      exact (Returns.pure _).call fun levels => by rw [chase, absent]
  | bound name term found ih =>
      rw [apply_of_lookup triangular found]
      exact ih.call fun levels => by rw [chase, found]
  | app head args ih =>
      have whole : subst.apply (.app head args) = .app head (args.map subst.apply) :=
        Term.subst_app _ _ _
      rw [whole]
      exact Returns.call ((Returns.mapM ih).bind (.pure (Term.app head (args.map subst.apply))))
        fun levels => by rw [chase]; rfl

/-! ## 3. Open variables -/

theorem anyVar_not_isGround (f : String → Term) (term : Term) :
    term.anyVar (fun name => !(f name).isGround) = !(term.subst f).isGround := by
  induction term with
  | var name => simp
  | app head args ih =>
      rw [Term.anyVar_app, Term.subst_app, Term.isGround_app, List.all_map, List.not_all_eq_any_not,
        Bool.eq_iff_iff, List.any_eq_true, List.any_eq_true]
      exact exists_congr fun arg => and_congr_right fun member => by rw [ih arg member]; rfl

theorem openUnder_eq (bindings : List (String × Term)) (name : String) :
    openUnder bindings name = !(valueUnder bindings name).isGround := by
  induction bindings generalizing name with
  | nil => rfl
  | cons first later ih =>
      rw [openUnder, valueUnder]
      split
      · rw [← anyVar_not_isGround, funext ih]
      · exact ih name

/-- An unbound variable is left in a term if and only if the term is not ground once all bindings
are applied. -/
theorem leavesOpen_eq (subst : Substitution) (term : Term) :
    subst.leavesOpen term = !(subst.apply term).isGround := by
  rw [leavesOpen, apply, ← anyVar_not_isGround, funext (openUnder_eq subst.bindings)]

/-- The search for an open variable ends, and finds one if one is left. -/
theorem returns_seekOpen (triangular : Triangular subst.bindings) (term : Term) :
    Returns (subst.seekOpen · term) (subst.leavesOpen term) := by
  induction term using Triangular.induction triangular with
  | unbound name absent =>
      rw [leavesOpen_eq, apply_of_lookup_none triangular absent]
      exact (Returns.pure _).call fun levels => by rw [seekOpen, absent]; rfl
  | bound name term found ih =>
      rw [leavesOpen_eq, apply_of_lookup triangular found, ← leavesOpen_eq]
      exact ih.call fun levels => by rw [seekOpen, found]
  | app head args ih =>
      rw [leavesOpen, Term.anyVar_app]
      exact (Returns.anyM ih).call fun levels => by rw [seekOpen]

/-- Under a substitution that the operations made of the empty one, also where they failed, chasing
a term ends. The term that it gives mentions no bound variable and stays the same when it is chased
again. The search for an open variable ends as well, and it finds one if and only if that term is
not ground. -/
theorem chase_reaches_normal_form (reachable : subst.Reachable) (term : Term) :
    Returns (subst.chase · term) (subst.apply term) ∧
      Returns (subst.seekOpen · term) (subst.leavesOpen term) ∧
      (∀ name ∈ subst.domain, (subst.apply term).mentions name = false) ∧
      subst.apply (subst.apply term) = subst.apply term ∧
      (subst.leavesOpen term = true ↔ (subst.apply term).isGround = false) := by
  have triangular := reachable.triangular
  refine ⟨returns_chase triangular term, returns_seekOpen triangular term, ?_,
    apply_apply triangular term, ?_⟩
  · intro name listed
    obtain ⟨binding, member, rfl⟩ := List.mem_map.1 listed
    exact mentions_apply_of_bound triangular member term
  · rw [leavesOpen_eq, Bool.not_eq_true']

/-- Chasing leads from `a` by way of `b` to `c`, which is open. -/
theorem chase_reaches_normal_form_halfway : halfway.Reachable ∧
    Returns (halfway.chase · (.app "Pair" [.var "a", .constant "Int"]))
      (.app "Pair" [.app "List" [.var "c"], .constant "Int"]) ∧
    Returns (halfway.seekOpen · (.app "Pair" [.var "a", .constant "Int"])) true ∧
    (∀ name ∈ ["a", "b"],
      (Term.app "Pair" [.app "List" [.var "c"], .constant "Int"]).mentions name = false) := by
  have reachable : halfway.Reachable := .unify _ _ .empty
  obtain ⟨chased, sought, normal, -⟩ :=
    chase_reaches_normal_form reachable (.app "Pair" [.var "a", .constant "Int"])
  have value : halfway.apply (.app "Pair" [.var "a", .constant "Int"]) =
      .app "Pair" [.app "List" [.var "c"], .constant "Int"] := by decide +kernel
  have isOpen : halfway.leavesOpen (.app "Pair" [.var "a", .constant "Int"]) = true := by
    decide +kernel
  have bound : halfway.domain = ["a", "b"] := by decide +kernel
  rw [value] at chased normal
  rw [isOpen] at sought
  rw [bound] at normal
  exact ⟨reachable, chased, sought, normal⟩

end Substitution
end Synthesis
