import Mathlib.Logic.Function.Basic
import Synthesis.Proofs.Branches

/-!
# When a rule matches a goal

Unification finds a substitution whenever some replacement of the variables makes the terms equal.
A rule that is tried has its variables renamed by a stamp that was not used before, so they are not
bound yet. Therefore it matches a ground goal exactly when it returns the goal.

Results:
1. `unifyPairs_complete`: unification succeeds if a replacement makes the terms of all pairs equal.
2. `stamped_inj`: two renamed variables are the same only if their stamps and their names are.
3. `matching_iff_returns`: a rule with a new stamp matches a ground goal if and only if the goal is
   an instance of its return pattern.
-/
namespace Synthesis

open Substitution (Triangular)

/-! ## 1. Sizes -/

namespace Term

theorem size_lt_of_mem {arg : Term} {args : List Term} (member : arg ∈ args) (head : String) :
    arg.size < (Term.app head args).size := by
  have among : arg.size ≤ sizeAll args := by
    induction args with
    | nil => cases member
    | cons other args ih =>
        rw [sizeAll]
        rcases List.mem_cons.1 member with rfl | member
        · omega
        · have := ih member
          omega
  rw [size]
  omega

theorem size_le_of_mentions {f : String → Term} {term : Term} {name : String}
    (inTerm : term.mentions name = true) : (f name).size ≤ (term.subst f).size := by
  induction term with
  | var v =>
      obtain rfl : v = name := by simpa using inTerm
      simp
  | app head args ih =>
      rw [mentions_app, List.any_eq_true] at inTerm
      obtain ⟨arg, member, inArg⟩ := inTerm
      rw [subst_app]
      exact Nat.le_trans (ih arg member inArg)
        (Nat.le_of_lt (size_lt_of_mem (List.mem_map_of_mem member) head))

/-- No replacement makes a variable equal to a larger term in which it occurs. -/
theorem not_mentions_of_subst_eq {f : String → Term} {name head : String} {args : List Term}
    (equal : f name = (Term.app head args).subst f) :
    (Term.app head args).mentions name = false := by
  rw [mentions_app, List.any_eq_false]
  intro arg member inArg
  have inside := size_le_of_mentions (f := f) inArg
  have part := size_lt_of_mem (List.mem_map_of_mem (f := subst f) member) head
  rw [equal, subst_app] at inside
  omega

end Term

namespace Unification

theorem equal_of_mem_zip {f : Term → Term} {terms terms' : List Term}
    (equal : terms.map f = terms'.map f) {pair : Term × Term} (member : pair ∈ terms.zip terms') :
    f pair.1 = f pair.2 := by
  obtain ⟨index, there, rfl⟩ := List.getElem_of_mem member
  have here := congrArg (·[index]?) equal
  simp only [List.length_zip, Nat.lt_min] at there
  simpa [there.1, there.2] using here

/-! ## 2. Replacements that settle differences -/

/-- A replacement of variables settles a difference if it makes its sides equal. No replacement does
so at constructors, or at a variable that occurs on the other side. -/
def Difference.Settled (f : String → Term) : Difference → Prop
  | .atVariable name term => term.mentions name = false ∧ f name = term.subst f
  | .atConstructor _ _ => False

/-- A replacement that makes two terms equal settles their first difference and makes the pairs
after it equal. -/
theorem settled_of_firstDifference {p g : Term} {difference : Difference}
    {rest : List (Term × Term)} (first : firstDifference p g = some (difference, rest))
    {f : String → Term} (equal : p.subst f = g.subst f) :
    difference.Settled f ∧ ∀ pair ∈ rest, pair.1.subst f = pair.2.subst f := by
  induction p generalizing g difference rest with
  | var v =>
      rw [Term.subst_var] at equal
      cases g with
      | var w =>
          simp only [firstDifference] at first
          split at first
          · cases first
          · next differs =>
              cases first
              exact ⟨⟨by simpa using Ne.symm differs, equal⟩, by simp⟩
      | app head args =>
          cases first
          exact ⟨⟨Term.not_mentions_of_subst_eq equal, equal⟩, by simp⟩
  | app head args ih =>
      cases g with
      | var w =>
          rw [Term.subst_var] at equal
          cases first
          exact ⟨⟨Term.not_mentions_of_subst_eq equal.symm, equal.symm⟩, by simp⟩
      | app head' args' =>
          rw [Term.subst_app, Term.subst_app, Term.app.injEq] at equal
          obtain ⟨rfl, equal⟩ := equal
          have lengths : args.length = args'.length := by simpa using congrArg List.length equal
          simp only [firstDifference, lengths, and_self, if_true] at first
          clear lengths
          induction args generalizing args' rest with
          | nil => cases first
          | cons arg args ihArgs =>
              obtain _ | ⟨arg', args'⟩ := args'
              · cases equal
              obtain ⟨here, later⟩ := List.cons.inj equal
              simp only [firstDifferenceAmong] at first
              split at first
              · next found =>
                  cases first
                  obtain ⟨settled, after⟩ := ih arg (.head _) found here
                  refine ⟨settled, fun pair member => ?_⟩
                  rcases List.mem_append.1 member with inRest | inZip
                  · exact after pair inRest
                  · exact equal_of_mem_zip later inZip
              · exact ihArgs (fun other member => ih other (.tail _ member)) args' later first

end Unification

/-- A replacement respects bindings if it gives a bound variable what it makes of its term. -/
def Substitution.Respected (found : Substitution) (f : String → Term) : Prop :=
  ∀ binding ∈ found.bindings, f binding.1 = binding.2.subst f

/-- A replacement that respects bindings makes the same of a term before and after they are applied.
-/
theorem Substitution.Respected.subst_apply {found : Substitution} {f : String → Term}
    (respected : found.Respected f) (term : Term) : (found.apply term).subst f = term.subst f := by
  obtain ⟨bindings⟩ := found
  suffices values : ∀ name, (valueUnder bindings name).subst f = f name by
    rw [apply, Term.subst_subst]
    exact Term.subst_congr fun name _ => values name
  intro name
  induction bindings generalizing name with
  | nil => rfl
  | cons first later ih =>
      have rest : (⟨later⟩ : Substitution).Respected f :=
        fun binding member => respected binding (.tail _ member)
      rw [valueUnder]
      split
      · next same =>
          rw [Term.subst_subst, same, respected first (.head _)]
          exact Term.subst_congr fun other _ => ih rest other
      · exact ih rest name

theorem Substitution.Respected.push {found : Substitution} {f : String → Term}
    (respected : found.Respected f) {name : String} {term : Term}
    (settled : f name = term.subst f) : (found.push name term).Respected f := by
  intro binding member
  rcases List.mem_append.1 member with before | new
  · exact respected binding before
  · rw [List.mem_singleton.1 new]
    exact settled

namespace Unification

/-- The same for the next difference of pairs under bindings that are respected. -/
theorem settled_of_nextDifference {found : Substitution} {pairs rest : List (Term × Term)}
    {difference : Difference} (next : nextDifference found pairs = some (difference, rest))
    {f : String → Term} (respected : found.Respected f)
    (equal : ∀ pair ∈ pairs, pair.1.subst f = pair.2.subst f) :
    difference.Settled f ∧ ∀ pair ∈ rest, pair.1.subst f = pair.2.subst f := by
  induction pairs with
  | nil => cases next
  | cons pair pairs ih =>
      have later := fun other member => equal other (.tail pair member)
      simp only [nextDifference] at next
      split at next
      · next first =>
          cases next
          have here := equal pair (.head _)
          rw [← respected.subst_apply, ← respected.subst_apply pair.2] at here
          obtain ⟨settled, after⟩ := settled_of_firstDifference first here
          refine ⟨settled, fun other member => ?_⟩
          exact (List.mem_append.1 member).elim (after other) (later other)
      · exact ih next later

/-- Unification succeeds if some replacement respects the bindings found before and makes the terms
of each pair equal. -/
theorem unifyPairs_complete (found : Substitution) (triangular : Triangular found.bindings)
    (pairs : List (Term × Term)) {f : String → Term} (respected : found.Respected f)
    (equal : ∀ pair ∈ pairs, pair.1.subst f = pair.2.subst f) :
    ∃ result, unifyPairs found triangular pairs = .ok result := by
  fun_induction unifyPairs found triangular pairs with
  | case1 found => exact ⟨found, rfl⟩
  | case2 _ _ _ _ _ _ next => exact (settled_of_nextDifference next respected equal).1.elim
  | case3 _ _ _ _ _ _ next occurs =>
      obtain ⟨⟨proper, -⟩, -⟩ := settled_of_nextDifference next respected equal
      rw [proper] at occurs
      cases occurs
  | case4 found _ _ name term _ next _ ih =>
      obtain ⟨⟨-, settled⟩, after⟩ := settled_of_nextDifference next respected equal
      exact ih (respected.push settled) after

end Unification

/-! ## 3. Stamps -/

/-- Two lists are equal in both parts if the same separator stands between the parts and does not
occur in the first ones. -/
theorem append_cons_inj {α : Type} {separator : α} {xs ys us vs : List α}
    (first : separator ∉ xs) (second : separator ∉ ys)
    (same : xs ++ separator :: us = ys ++ separator :: vs) : xs = ys ∧ us = vs := by
  induction xs generalizing ys with
  | nil =>
      cases ys with
      | nil => exact ⟨rfl, (List.cons.inj same).2⟩
      | cons => simp [(List.cons.inj same).1] at second
  | cons x xs ih =>
      cases ys with
      | nil => simp [(List.cons.inj same).1] at first
      | cons y ys =>
          obtain ⟨heads, tails⟩ := List.cons.inj same
          obtain ⟨before, after⟩ := ih (List.not_mem_of_not_mem_cons first)
            (List.not_mem_of_not_mem_cons second) tails
          exact ⟨by rw [heads, before], after⟩

/-- Two renamed variables are the same only if their stamps and their names are. -/
theorem stamped_inj {stamp other : Nat} {name slot : String}
    (same : Signature.stamped stamp name = Signature.stamped other slot) :
    stamp = other ∧ name = slot := by
  have digits (number : Nat) : '#' ∉ Nat.toDigits 10 number := fun member => by
    simpa using Nat.isDigit_of_mem_toDigits (by decide) (by decide) member
  -- a name may have the sign `#` in it, a stamp has not, so they are read from the end
  have chars := congrArg (List.reverse ∘ String.toList) same
  simp only [Function.comp_apply, Signature.stamped, String.toList_append,
    Nat.toString_eq_ofList_toDigits, String.toList_ofList, List.reverse_append,
    show "#".toList = ['#'] from rfl, List.reverse_singleton, List.singleton_append] at chars
  obtain ⟨stamps, names⟩ := append_cons_inj (by simpa using digits stamp)
    (by simpa using digits other) chars
  refine ⟨?_, String.toList_inj.1 (List.reverse_inj.1 names)⟩
  have read := congrArg (Nat.ofDigitChars 10 · 0) (List.reverse_inj.1 stamps)
  simpa only [Nat.ofDigitChars_ten_toDigits] using read

/-- The variables that a substitution binds were renamed by the stamps up to a last one. -/
def Substitution.StampedTo (subst : Substitution) (last : Nat) : Prop :=
  ∀ binding ∈ subst.bindings, ∃ stamp ≤ last, ∃ slot, binding.1 = Signature.stamped stamp slot

/-- A match adds bindings after those that were there, and they concern variables of the pattern and
the goal with all bindings applied. -/
theorem Substitution.added_of_matching {subst later : Substitution} {pattern goal : Term}
    (matched : subst.matching pattern goal = .ok later) :
    ∃ added, later = subst.append added ∧ ∀ binding ∈ added.bindings,
      ∀ other, (binding.1 = other ∨ binding.2.mentions other = true) →
        (subst.apply pattern).mentions other = true ∨
          (subst.apply goal).mentions other = true := by
  have reached := reached_unify subst pattern goal
  rw [unify_of_matching matched, Unification.reached] at reached
  refine ⟨_, reached, fun binding added other concerned => ?_⟩
  rcases Unification.scope_unifyPairs _ _ _ binding added with none | scope
  · cases none
  obtain ⟨pair, isPair, inPair⟩ :=
    Unification.mem_varsOfPairs_applyPairs.1 (scope other concerned)
  rwa [List.mem_singleton.1 isPair, apply_empty, apply_empty] at inPair

/-- What a match adds concerns variables of the pattern and the goal with all bindings applied. -/
theorem Substitution.scope_matching {subst later : Substitution} {pattern goal : Term}
    (matched : subst.matching pattern goal = .ok later) :
    ∀ binding ∈ later.bindings, binding ∈ subst.bindings ∨
      ∀ other, (binding.1 = other ∨ binding.2.mentions other = true) →
        (subst.apply pattern).mentions other = true ∨
          (subst.apply goal).mentions other = true := by
  obtain ⟨added, rfl, scope⟩ := added_of_matching matched
  exact fun binding member => (List.mem_append.1 member).imp_right (scope binding)

namespace Substitution.StampedTo

variable {subst : Substitution} {last stamp : Nat} {signature : Signature} {goal : Term}

theorem empty (last : Nat) : Substitution.empty.StampedTo last := fun _ none => by cases none

theorem mono (stamped : subst.StampedTo last) {later : Nat} (le : last ≤ later) :
    subst.StampedTo later := by
  intro binding member
  obtain ⟨stamp, before, slot, same⟩ := stamped binding member
  exact ⟨stamp, Nat.le_trans before le, slot, same⟩

/-- No variable of a rule that is renamed by a new stamp is bound. -/
theorem apply_rename (stamped : subst.StampedTo last) (new : last < stamp) :
    subst.apply (signature.rename stamp).returns = (signature.rename stamp).returns := by
  refine apply_of_unbound fun binding member => ?_
  obtain ⟨used, before, slot, same⟩ := stamped binding member
  rw [← Bool.not_eq_true, Signature.rename, Term.mentions_subst]
  rintro ⟨name, -, here⟩
  have names : Signature.stamped stamp name = Signature.stamped used slot := by
    simpa [same] using here
  have := (stamped_inj names).1
  omega

/-- A match of a rule that is renamed by a new stamp with a ground goal binds variables of the rule
only. -/
theorem matching (stamped : subst.StampedTo last) (new : last < stamp)
    (ground : goal.isGround = true) {later : Substitution}
    (matched : subst.matching (signature.rename stamp).returns goal = .ok later) :
    later.StampedTo stamp := by
  intro binding member
  rcases scope_matching matched binding member with before | scope
  · exact stamped.mono (Nat.le_of_lt new) binding before
  rcases scope binding.1 (.inl rfl) with inPattern | inGoal
  · rw [stamped.apply_rename new, Signature.rename, Term.mentions_subst] at inPattern
    obtain ⟨slot, -, here⟩ := inPattern
    exact ⟨stamp, Nat.le_refl _, slot, (by simpa using here : _ = _).symm⟩
  · rw [apply_of_ground subst ground, Term.mentions_of_ground ground] at inGoal
    cases inGoal

end Substitution.StampedTo

/-- A rule that is renamed by a new stamp matches a ground goal if and only if the goal is an
instance of its return pattern. -/
theorem matching_iff_returns {subst : Substitution} (triangular : Triangular subst.bindings)
    {last stamp : Nat} (stamped : subst.StampedTo last) (new : last < stamp)
    (signature : Signature) {goal : Term} (ground : goal.isGround = true) :
    (∃ later, subst.matching (signature.rename stamp).returns goal = .ok later) ↔
      ∃ slots, signature.returns.subst slots = goal := by
  constructor
  · rintro ⟨later, matched⟩
    exact ⟨_, returns_of_matching triangular matched (later.apply_of_ground ground)⟩
  · rintro ⟨slots, rfl⟩
    let f := Function.extend (Signature.stamped stamp) slots .var
    have slot (name : String) : f (Signature.stamped stamp name) = slots name :=
      Function.Injective.extend_apply (fun _ _ same => (stamped_inj same).2) slots .var name
    obtain ⟨found, success⟩ := Unification.unifyPairs_complete .empty trivial
      [((signature.rename stamp).returns, signature.returns.subst slots)] (f := f)
      (fun _ none => by cases none) (by
        simp only [List.mem_singleton, forall_eq, Signature.rename, Term.subst_subst,
          Term.subst_var, slot]
        rw [← Term.subst_subst slots f, Term.subst_of_ground ground])
    refine ⟨subst.append found, ?_⟩
    rw [Substitution.matching, Substitution.unify, stamped.apply_rename new,
      Substitution.apply_of_ground subst ground, success]
    rfl

end Synthesis
