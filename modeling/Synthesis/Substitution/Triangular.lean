import Synthesis.Substitution

/-!
# Triangular bindings

Bindings are triangular if a variable does not occur again once it is bound, neither in its own
term nor in a later binding. Then values mention no bound variable (`mentions_apply_of_bound`), so
that applying the bindings twice is applying them once (`apply_apply`), and a binding of a variable
that is left may be added (`triangular_push`).
-/
namespace Synthesis
namespace Substitution

/-- Bindings in which no variable occurs again once it is bound. -/
def Triangular : List (String × Term) → Prop
  | [] => True
  | (name, term) :: later =>
      term.mentions name = false ∧
        (∀ binding ∈ later, binding.1 ≠ name ∧ binding.2.mentions name = false) ∧
        Triangular later

/-! ## 1. Values -/

theorem valueUnder_of_unbound {bindings : List (String × Term)} {name : String}
    (unbound : ∀ binding ∈ bindings, binding.1 ≠ name) :
    valueUnder bindings name = .var name := by
  induction bindings with
  | nil => rfl
  | cons first later ih =>
      have differs : name ≠ first.1 := Ne.symm (unbound first List.mem_cons_self)
      simp only [valueUnder, differs, if_false]
      exact ih fun binding member => unbound binding (.tail _ member)

/-- A variable that occurs in no term of the bindings occurs in no value but its own. -/
theorem mentions_valueUnder_of_absent {bindings : List (String × Term)} {name other : String}
    (absent : ∀ binding ∈ bindings, binding.2.mentions other = false) (differs : name ≠ other) :
    (valueUnder bindings name).mentions other = false := by
  induction bindings generalizing name with
  | nil => simpa [valueUnder] using differs
  | cons first later ih =>
      have rest := fun binding member => absent binding (.tail first member)
      by_cases same : name = first.1
      · simp only [valueUnder, same, if_true]
        rw [← Bool.not_eq_true, Term.mentions_subst]
        rintro ⟨x, inTerm, inValue⟩
        have apart : x ≠ other := fun same => by
          simp [same, absent first List.mem_cons_self] at inTerm
        simp [ih rest apart] at inValue
      · simp only [valueUnder, same, if_false]
        exact ih rest differs

theorem mentions_valueUnder_of_bound {bindings : List (String × Term)}
    (triangular : Triangular bindings) {bound : String × Term} (member : bound ∈ bindings)
    (name : String) : (valueUnder bindings name).mentions bound.1 = false := by
  induction bindings generalizing name with
  | nil => cases member
  | cons first later ih =>
      obtain ⟨proper, fresh, rest⟩ := triangular
      have inLater (x : String) (differs : x ≠ first.1) :
          (valueUnder later x).mentions bound.1 = false := by
        cases member with
        | head =>
            exact mentions_valueUnder_of_absent (fun binding member => (fresh binding member).2)
              differs
        | tail _ member => exact ih rest member x
      by_cases same : name = first.1
      · simp only [valueUnder, same, if_true]
        rw [← Bool.not_eq_true, Term.mentions_subst]
        rintro ⟨x, inTerm, inValue⟩
        have differs : x ≠ first.1 := fun same => by simp [same, proper] at inTerm
        simp [inLater x differs] at inValue
      · simp only [valueUnder, same, if_false]
        exact inLater name same

/-! ## 2. Applying the bindings -/

theorem mentions_apply_of_bound {subst : Substitution} (triangular : Triangular subst.bindings)
    {bound : String × Term} (member : bound ∈ subst.bindings) (term : Term) :
    (subst.apply term).mentions bound.1 = false := by
  rw [← Bool.not_eq_true, apply, Term.mentions_subst]
  rintro ⟨x, -, inValue⟩
  simp [mentions_valueUnder_of_bound triangular member x] at inValue

theorem apply_of_unbound {subst : Substitution} {term : Term}
    (unbound : ∀ binding ∈ subst.bindings, term.mentions binding.1 = false) :
    subst.apply term = term := by
  refine Eq.trans (Term.subst_congr fun name inTerm => ?_) (Term.subst_self term)
  refine valueUnder_of_unbound fun binding member same => ?_
  simp [← same, unbound binding member] at inTerm

theorem apply_apply {subst : Substitution} (triangular : Triangular subst.bindings)
    (term : Term) : subst.apply (subst.apply term) = subst.apply term :=
  apply_of_unbound fun _ member => mentions_apply_of_bound triangular member term

/-! ## 3. One more binding -/

/-- Triangular bindings stay triangular with a binding of a variable that is not bound yet to a
term in which neither that variable nor a bound one occurs. -/
theorem triangular_push {subst : Substitution} (triangular : Triangular subst.bindings)
    {name : String} {term : Term} (proper : term.mentions name = false)
    (unbound : ∀ binding ∈ subst.bindings, binding.1 ≠ name ∧ term.mentions binding.1 = false) :
    Triangular (subst.push name term).bindings := by
  obtain ⟨bindings⟩ := subst
  simp only [push] at unbound triangular ⊢
  induction bindings with
  | nil => simp [Triangular, proper]
  | cons first later ih =>
      obtain ⟨properFirst, fresh, rest⟩ := triangular
      refine ⟨properFirst, fun binding member => ?_,
        ih rest fun binding member => unbound binding (.tail _ member)⟩
      rcases List.mem_append.1 member with inLater | last
      · exact fresh binding inLater
      · rw [List.mem_singleton.1 last]
        exact (unbound first List.mem_cons_self).imp_left Ne.symm

end Substitution
end Synthesis
