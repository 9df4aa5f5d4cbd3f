import Synthesis.Unification

/-!
# Unification adds bindings that make the terms equal

A substitution extends another one if it has all its bindings, in the same places. Applying the
extension after the substitution is applying the extension (`Extends.apply_apply`).

Results:
1. `triangular_unifyPairs`, `extends_unifyPairs`: unification only adds bindings and keeps them
   triangular, also when it fails on the way.
2. `unifyPairs_equal`: when it succeeds, the terms of every pair are equal under its result.
3. `matching_ok`: the same for the matching of a rule's return pattern with a goal.
4. `Reachable.triangular`: whatever the operations make of the empty substitution is triangular.
5. `unify_extends_to_equal`: from such a substitution, unification and matching keep the bindings in
   their places and the values that they give, and make the terms equal.
-/
namespace Synthesis
namespace Substitution

/-! ## 1. Extensions -/

/-- A substitution extends another one when it has all its bindings, followed by others. -/
def Extends (old new : Substitution) : Prop := old.bindings <+: new.bindings

theorem Extends.refl (subst : Substitution) : subst.Extends subst := List.prefix_refl _

theorem Extends.trans {first second third : Substitution} (one : first.Extends second)
    (two : second.Extends third) : first.Extends third := List.IsPrefix.trans one two

theorem extends_push (subst : Substitution) (name : String) (term : Term) :
    subst.Extends (subst.push name term) := List.prefix_append _ _

theorem extends_append (subst further : Substitution) : subst.Extends (subst.append further) :=
  List.prefix_append _ _

theorem lookup_of_prefix {old new : Substitution}
    (extended : old.bindings <+: new.bindings) {name : String} {term : Term}
    (bound : old.lookup name = some term) : new.lookup name = some term := by
  obtain ⟨more, same⟩ := extended
  rw [lookup, ← same, List.lookup_append, ← lookup, bound]
  rfl

/-- The value of a variable under two lists of bindings is its value under the first one, to which
the second one is applied. -/
theorem valueUnder_append_list (bindings later : List (String × Term)) (name : String) :
    valueUnder (bindings ++ later) name = (valueUnder bindings name).subst (valueUnder later) := by
  induction bindings generalizing name with
  | nil => simp [valueUnder]
  | cons first rest ih =>
      by_cases same : name = first.1
      · simp only [List.cons_append, valueUnder, same, if_true, Term.subst_subst]
        exact Term.subst_congr fun other _ => ih other
      · simp only [List.cons_append, valueUnder, same, if_false, ih]

theorem apply_append (subst further : Substitution) (term : Term) :
    (subst.append further).apply term = further.apply (subst.apply term) := by
  simp only [apply, append, Term.subst_subst]
  exact Term.subst_congr fun other _ => valueUnder_append_list _ _ other

theorem apply_empty (term : Term) : empty.apply term = term :=
  apply_of_unbound fun _ none => by cases none

theorem append_empty (subst : Substitution) : subst.append .empty = subst := by
  simp [append, empty]

/-- To apply an extension of triangular bindings, it does not matter whether these bindings are
applied before. -/
theorem Extends.apply_apply {old new : Substitution} (extended : old.Extends new)
    (triangular : Triangular old.bindings) (term : Term) :
    new.apply (old.apply term) = new.apply term := by
  obtain ⟨more, same⟩ := extended
  have whole : new = old.append ⟨more⟩ := by simp [append, same]
  rw [whole, apply_append, apply_append, Substitution.apply_apply triangular]

theorem apply_of_ground (subst : Substitution) {term : Term} (ground : term.isGround = true) :
    subst.apply term = term :=
  apply_of_unbound fun binding _ => Term.mentions_of_ground ground binding.1

/-- A term that is ground under triangular bindings has the same value under an extension. -/
theorem Extends.apply_of_ground {old new : Substitution} (extended : old.Extends new)
    (triangular : Triangular old.bindings) {term : Term}
    (ground : (old.apply term).isGround = true) : new.apply term = old.apply term := by
  rw [← extended.apply_apply triangular, Substitution.apply_of_ground new ground]

/-- Triangular bindings may follow others, if no variable that is bound before occurs in them. -/
theorem triangular_append {first second : List (String × Term)} (triangular : Triangular first)
    (later : Triangular second)
    (apart : ∀ binding ∈ first, ∀ other ∈ second,
      other.1 ≠ binding.1 ∧ other.2.mentions binding.1 = false) :
    Triangular (first ++ second) := by
  induction first with
  | nil => exact later
  | cons binding rest ih =>
      obtain ⟨proper, fresh, inRest⟩ := triangular
      refine ⟨proper, fun other member => ?_,
        ih inRest fun binding member => apart binding (.tail _ member)⟩
      rcases List.mem_append.1 member with before | after
      · exact fresh other before
      · exact apart binding (.head _) other after

end Substitution

namespace Unification

open Substitution (Triangular)

/-! ## 2. Differences -/

theorem eq_of_firstDifference_none {p g : Term} (same : firstDifference p g = none) : p = g := by
  induction p generalizing g with
  | var v =>
      cases g with
      | var w =>
          by_cases names : v = w
          · rw [names]
          · simp [firstDifference, names] at same
      | app head args => simp [firstDifference] at same
  | app head args ih =>
      cases g with
      | var w => simp [firstDifference] at same
      | app head' args' =>
          by_cases fits : head = head' ∧ args.length = args'.length
          · rw [firstDifference, if_pos fits] at same
            obtain ⟨rfl, lengths⟩ := fits
            rw [Term.app.injEq]
            refine ⟨rfl, ?_⟩
            induction args generalizing args' with
            | nil => exact (List.length_eq_zero_iff.1 lengths.symm).symm
            | cons arg args ihArgs =>
                obtain _ | ⟨arg', args'⟩ := args'
                · cases lengths
                simp only [firstDifferenceAmong] at same
                split at same
                · cases same
                · next first =>
                    rw [ih arg (.head _) first,
                      ihArgs (fun other member => ih other (.tail _ member)) args'
                        same (Nat.succ.inj lengths)]
          · simp [firstDifference, fits] at same

theorem map_eq_of_zip {f : Term → Term} {terms terms' : List Term}
    (lengths : terms.length = terms'.length)
    (equal : ∀ pair ∈ terms.zip terms', f pair.1 = f pair.2) : terms.map f = terms'.map f := by
  induction terms generalizing terms' with
  | nil => simp [List.length_eq_zero_iff.1 lengths.symm]
  | cons term terms ih =>
      obtain _ | ⟨term', terms'⟩ := terms'
      · cases lengths
      rw [List.map_cons, List.map_cons, equal (term, term') (.head _),
        ih (Nat.succ.inj lengths) fun pair member => equal pair (.tail _ member)]

/-- A replacement that settles the first difference of two terms and makes the pairs after it equal
makes the terms equal. -/
theorem subst_eq_of_firstDifference {p g : Term} {name : String} {term : Term}
    {rest : List (Term × Term)} (first : firstDifference p g = some (.atVariable name term, rest))
    {f : String → Term} (settled : f name = term.subst f)
    (equal : ∀ pair ∈ rest, pair.1.subst f = pair.2.subst f) : p.subst f = g.subst f := by
  induction p generalizing g rest with
  | var v =>
      cases g with
      | var w =>
          by_cases same : v = w
          · rw [same]
          · simp only [firstDifference, same, if_false, Option.some.injEq, Prod.mk.injEq,
              Difference.atVariable.injEq] at first
            obtain ⟨⟨rfl, rfl⟩, rfl⟩ := first
            simpa using settled
      | app head args =>
          simp only [firstDifference, Option.some.injEq, Prod.mk.injEq,
            Difference.atVariable.injEq] at first
          obtain ⟨⟨rfl, rfl⟩, rfl⟩ := first
          simpa using settled
  | app head args ih =>
      cases g with
      | var w =>
          simp only [firstDifference, Option.some.injEq, Prod.mk.injEq,
            Difference.atVariable.injEq] at first
          obtain ⟨⟨rfl, rfl⟩, rfl⟩ := first
          simpa using settled.symm
      | app head' args' =>
          by_cases fits : head = head' ∧ args.length = args'.length
          · rw [firstDifference, if_pos fits] at first
            obtain ⟨rfl, lengths⟩ := fits
            simp only [Term.subst_app, Term.app.injEq, true_and]
            induction args generalizing args' rest with
            | nil => simp [firstDifferenceAmong] at first
            | cons arg args ihArgs =>
                obtain _ | ⟨arg', args'⟩ := args'
                · cases lengths
                simp only [firstDifferenceAmong] at first
                rw [List.map_cons, List.map_cons, List.cons.injEq]
                split at first
                · next found =>
                    simp only [Option.some.injEq, Prod.mk.injEq] at first
                    obtain ⟨rfl, rfl⟩ := first
                    refine ⟨ih arg (.head _) found fun pair member =>
                      equal pair (List.mem_append_left _ member), ?_⟩
                    refine map_eq_of_zip (Nat.succ.inj lengths) fun pair member => ?_
                    exact equal pair (List.mem_append_right _ member)
                · next none =>
                    exact ⟨by rw [eq_of_firstDifference_none none],
                      ihArgs (fun other member => ih other (.tail _ member)) equal args' first
                        (Nat.succ.inj lengths)⟩
          · simp [firstDifference, fits] at first

theorem equal_of_nextDifference_none {found : Substitution} {pairs : List (Term × Term)}
    (same : nextDifference found pairs = none) :
    ∀ pair ∈ pairs, found.apply pair.1 = found.apply pair.2 := by
  induction pairs with
  | nil => simp
  | cons pair pairs ih =>
      simp only [nextDifference] at same
      split at same
      · cases same
      · next none =>
          intro other member
          cases member with
          | head => exact eq_of_firstDifference_none none
          | tail _ member => exact ih same other member

/-- An extension of the bindings that settles the next difference and makes the pairs after it
equal makes all pairs equal. -/
theorem equal_of_nextDifference {found final : Substitution}
    (triangular : Triangular found.bindings) (extended : found.Extends final)
    {pairs rest : List (Term × Term)} {name : String} {term : Term}
    (next : nextDifference found pairs = some (.atVariable name term, rest))
    (settled : final.apply (.var name) = final.apply term)
    (equal : ∀ pair ∈ rest, final.apply pair.1 = final.apply pair.2) :
    ∀ pair ∈ pairs, final.apply pair.1 = final.apply pair.2 := by
  induction pairs with
  | nil => simp
  | cons pair pairs ih =>
      simp only [nextDifference] at next
      intro other member
      split at next
      · next first =>
          simp only [Option.some.injEq, Prod.mk.injEq] at next
          obtain ⟨rfl, rfl⟩ := next
          cases member with
          | head =>
              rw [← extended.apply_apply triangular, ← extended.apply_apply triangular pair.2]
              refine subst_eq_of_firstDifference first (by simpa [Substitution.apply] using settled)
                fun pair member => equal pair (List.mem_append_left _ member)
          | tail _ member => exact equal other (List.mem_append_right _ member)
      · next none =>
          cases member with
          | head =>
              rw [← extended.apply_apply triangular, ← extended.apply_apply triangular pair.2,
                eq_of_firstDifference_none none]
          | tail _ member => exact ih next other member

/-! ## 3. Unification -/

/-- The substitution that a unification reaches, whether it succeeds or not. -/
def reached : Except Stuck Substitution → Substitution
  | .ok subst => subst
  | .error stuck => stuck.reached

theorem eq_ok_reached {outcome : Except Stuck Substitution} (succeeds : outcome.isOk = true) :
    outcome = .ok (reached outcome) := by
  cases outcome with
  | ok subst => rfl
  | error stuck => cases succeeds

/-! Unification goes by the next difference. -/

section

variable {found : Substitution} (triangular : Triangular found.bindings)
  {pairs rest : List (Term × Term)}

theorem unifyPairs_of_none (next : nextDifference found pairs = none) :
    unifyPairs found triangular pairs = .ok found := by
  unfold unifyPairs
  split <;> simp_all

theorem unifyPairs_of_constructor {pattern goal : Term}
    (next : nextDifference found pairs = some (.atConstructor pattern goal, rest)) :
    unifyPairs found triangular pairs = .error ⟨.mismatch pattern goal, found⟩ := by
  unfold unifyPairs
  split <;> simp_all

theorem unifyPairs_of_infinite {name : String} {term : Term}
    (next : nextDifference found pairs = some (.atVariable name term, rest))
    (occurs : term.mentions name = true) :
    unifyPairs found triangular pairs = .error ⟨.infinite name term, found⟩ := by
  unfold unifyPairs
  split <;> simp_all

theorem unifyPairs_of_variable {name : String} {term : Term}
    (next : nextDifference found pairs = some (.atVariable name term, rest))
    (proper : term.mentions name = false)
    (pushed : Triangular (found.push name term).bindings) :
    unifyPairs found triangular pairs = unifyPairs (found.push name term) pushed rest := by
  rw [unifyPairs.eq_def found triangular pairs]
  split <;> simp_all

end

/-- A new binding brings no variables into the pairs that wait but those of its term. -/
theorem mem_varsOfPairs_push {found : Substitution} {pairs : List (Term × Term)}
    {name other : String}
    {term : Term} (h : other ∈ varsOfPairs (applyPairs (found.push name term) pairs)) :
    other ∈ varsOfPairs (applyPairs found pairs) ∨ term.mentions other = true := by
  rw [mem_varsOfPairs_applyPairs] at h ⊢
  obtain ⟨pair, member, inPair⟩ := h
  simp only [Substitution.apply_push, Term.mentions_replace] at inPair
  rcases inPair with (⟨h, -⟩ | ⟨-, h⟩) | (⟨h, -⟩ | ⟨-, h⟩)
  · exact .inl ⟨pair, member, .inl h⟩
  · exact .inr h
  · exact .inl ⟨pair, member, .inr h⟩
  · exact .inr h

theorem extends_unifyPairs (found : Substitution) (triangular : Triangular found.bindings)
    (pairs : List (Term × Term)) :
    found.Extends (reached (unifyPairs found triangular pairs)) := by
  fun_induction unifyPairs found triangular pairs with
  | case1 | case2 | case3 => exact .refl _
  | case4 found _ _ _ _ _ _ _ ih => exact (Substitution.extends_push _ _ _).trans ih

theorem triangular_unifyPairs (found : Substitution) (triangular : Triangular found.bindings)
    (pairs : List (Term × Term)) :
    Triangular (reached (unifyPairs found triangular pairs)).bindings := by
  fun_induction unifyPairs found triangular pairs with
  | case1 _ triangular | case2 _ triangular | case3 _ triangular => exact triangular
  | case4 _ _ _ _ _ _ _ _ ih => exact ih

/-- The bindings that are added concern variables of the pairs only. -/
theorem scope_unifyPairs (found : Substitution) (triangular : Triangular found.bindings)
    (pairs : List (Term × Term)) :
    ∀ binding ∈ (reached (unifyPairs found triangular pairs)).bindings,
      binding ∈ found.bindings ∨
        ∀ other, (binding.1 = other ∨ binding.2.mentions other = true) →
          other ∈ varsOfPairs (applyPairs found pairs) := by
  fun_induction unifyPairs found triangular pairs with
  | case1 | case2 | case3 => exact fun _ member => .inl member
  | case4 found triangular pairs name term rest next occurs ih =>
      have scope (other : String) := mem_of_nextDifference triangular next other
      have here (other : String) (h : name = other ∨ term.mentions other = true) :=
        (scope other).1 (by simpa [Difference.mentions] using h)
      intro binding member
      rcases ih binding member with before | within
      · rcases List.mem_append.1 before with before | new
        · exact .inl before
        · rw [List.mem_singleton.1 new]
          exact .inr here
      · refine .inr fun other h => ?_
        rcases mem_varsOfPairs_push (within other h) with inRest | inTerm
        · exact (scope other).2 inRest
        · exact here other (.inr inTerm)

/-- When unification succeeds, the terms of each pair are equal under its result. -/
theorem unifyPairs_equal {found result : Substitution} {triangular : Triangular found.bindings}
    {pairs : List (Term × Term)} (success : unifyPairs found triangular pairs = .ok result) :
    ∀ pair ∈ pairs, result.apply pair.1 = result.apply pair.2 := by
  fun_induction unifyPairs found triangular pairs with
  | case1 found _ _ none =>
      obtain rfl : found = result := by simpa using success
      exact equal_of_nextDifference_none none
  | case2 | case3 => cases success
  | case4 found triangular pairs name term rest next occurs ih =>
      have proper : term.mentions name = false := Bool.eq_false_iff.2 occurs
      have pushed := triangular_push_of_nextDifference triangular next proper
      have unbound := unbound_of_nextDifference triangular next
      have extended : (found.push name term).Extends result := by
        have := extends_unifyPairs (found.push name term) pushed rest
        rwa [success] at this
      refine equal_of_nextDifference triangular ((Substitution.extends_push _ _ _).trans extended)
        next ?_ (ih success)
      have variable_alone : found.apply (.var name) = .var name :=
        Substitution.apply_of_unbound fun binding member => by
          simpa using (unbound binding member).1.symm
      have term_alone : found.apply term = term :=
        Substitution.apply_of_unbound fun binding member => (unbound binding member).2
      rw [← extended.apply_apply pushed, ← extended.apply_apply pushed term,
        Substitution.apply_push, Substitution.apply_push, variable_alone, term_alone,
        Term.replace_of_not_mentions proper]
      simp [Term.replace]

end Unification

namespace Substitution

/-- The bindings that unification adds come from comparing the two terms with all bindings applied.
-/
theorem reached_unify (subst : Substitution) (pattern goal : Term) :
    Unification.reached (subst.unify pattern goal) =
      subst.append (Unification.reached
        (Unification.unifyPairs .empty trivial [(subst.apply pattern, subst.apply goal)])) := by
  simp only [unify]
  split <;> next found => simp only [found, Unification.reached]

/-- What unification leaves behind, whether it succeeds or not: an extension with triangular
bindings. -/
theorem unify_reached {subst : Substitution} (triangular : Triangular subst.bindings)
    (pattern goal : Term) :
    subst.Extends (Unification.reached (subst.unify pattern goal)) ∧
      Triangular (Unification.reached (subst.unify pattern goal)).bindings := by
  rw [reached_unify]
  refine ⟨extends_append _ _, triangular_append triangular
    (Unification.triangular_unifyPairs _ _ _) fun binding member other new => ?_⟩
  -- the terms are compared with all bindings applied, so they mention no variable that is bound
  have absent : binding.1 ∉ Unification.varsOfPairs
      (Unification.applyPairs .empty [(subst.apply pattern, subst.apply goal)]) := by
    rw [Unification.mem_varsOfPairs_applyPairs]
    rintro ⟨pair, isPair, inPair⟩
    rw [List.mem_singleton.1 isPair] at inPair
    simp [apply_empty, mentions_apply_of_bound triangular member] at inPair
  rcases Unification.scope_unifyPairs _ _ _ other new with none | within
  · cases none
  · exact ⟨fun same => absent (within _ (.inl same)),
      Bool.eq_false_iff.2 fun h => absent (within _ (.inr h))⟩

/-- A successful unification extends the substitution, keeps it triangular and makes the terms
equal. -/
theorem unify_ok {subst result : Substitution} (triangular : Triangular subst.bindings)
    {pattern goal : Term} (success : subst.unify pattern goal = .ok result) :
    subst.Extends result ∧ Triangular result.bindings ∧
      result.apply pattern = result.apply goal := by
  have left := unify_reached triangular pattern goal
  rw [success] at left
  refine ⟨left.1, left.2, ?_⟩
  simp only [unify] at success
  split at success
  · next found equal =>
      obtain rfl : subst.append found = result := by simpa using success
      rw [apply_append, apply_append]
      exact Unification.unifyPairs_equal equal _ (.head _)
  · cases success

theorem unify_of_matching {subst result : Substitution} {pattern goal : Term}
    (success : subst.matching pattern goal = .ok result) :
    subst.unify pattern goal = .ok result := by
  unfold matching at success
  cases outcome : subst.unify pattern goal with
  | ok found =>
      rw [outcome] at success
      cases success
      rfl
  | error stuck =>
      rw [outcome] at success
      cases success

theorem matching_of_unify {subst result : Substitution} {pattern goal : Term}
    (success : subst.unify pattern goal = .ok result) :
    subst.matching pattern goal = .ok result := by
  rw [matching, success]
  rfl

/-- A successful matching extends the substitution, keeps it triangular and makes the pattern equal
to the goal. -/
theorem matching_ok {subst result : Substitution} (triangular : Triangular subst.bindings)
    {pattern goal : Term} (success : subst.matching pattern goal = .ok result) :
    subst.Extends result ∧ Triangular result.bindings ∧
      result.apply pattern = result.apply goal :=
  unify_ok triangular (unify_of_matching success)

/-! ## 4. Substitutions made by the operations -/

/-- The substitutions that the operations make from the empty one. A unification that fails leaves
the bindings that it made before. -/
inductive Reachable : Substitution → Prop
  | empty : Reachable .empty
  | bind {subst : Substitution} (name : String) (term : Term) : Reachable subst →
      Reachable (Unification.reached (subst.bind name term))
  | unify {subst : Substitution} (pattern goal : Term) : Reachable subst →
      Reachable (Unification.reached (subst.unify pattern goal))
  | matching {subst result : Substitution} {pattern goal : Term} : Reachable subst →
      subst.matching pattern goal = .ok result → Reachable result

/-- The operations keep bindings triangular. -/
theorem Reachable.triangular {subst : Substitution} (reachable : subst.Reachable) :
    Triangular subst.bindings := by
  induction reachable with
  | empty => exact trivial
  | bind name term _ ih => exact (unify_reached ih (.var name) term).2
  | unify pattern goal _ ih => exact (unify_reached ih pattern goal).2
  | matching _ success ih => exact (matching_ok ih success).2.1

/-- Unification and matching from a substitution that the operations made give one that extends it:
all its bindings are there in the same places, each variable has the same term, and to apply it
before makes no difference. The two terms are equal under the result. -/
theorem unify_extends_to_equal {subst result : Substitution} (reachable : subst.Reachable)
    {pattern goal : Term}
    (success : subst.unify pattern goal = .ok result ∨ subst.matching pattern goal = .ok result) :
    result.apply pattern = result.apply goal ∧
      subst.bindings <+: result.bindings ∧
      (∀ name term, subst.lookup name = some term → result.lookup name = some term) ∧
      ∀ term, result.apply (subst.apply term) = result.apply term := by
  have triangular := reachable.triangular
  obtain ⟨extended, -, equal⟩ := unify_ok triangular (success.elim id unify_of_matching)
  exact ⟨equal, extended, fun _ _ => lookup_of_prefix extended, extended.apply_apply triangular⟩

/-- The first variable of two is bound to a box of the second. -/
def boxed : Substitution :=
  Unification.reached (Substitution.empty.bind "a" (.app "Box" [.var "b"]))

/-- A pair of the same variable twice is unified with a pair of another variable and a box. The
first components bind the other variable, and the second ones what is in the boxes. -/
theorem unify_extends_to_equal_boxed : boxed.Reachable ∧ ∃ result,
    boxed.matching (.app "Pair" [.var "a", .var "a"])
      (.app "Pair" [.var "c", .app "Box" [.constant "Int"]]) = .ok result ∧
    result.bindings = [("a", .app "Box" [.var "b"]), ("c", .app "Box" [.var "b"]),
      ("b", .constant "Int")] ∧
    result.apply (.app "Pair" [.var "a", .var "a"]) =
      result.apply (.app "Pair" [.var "c", .app "Box" [.constant "Int"]]) ∧
    boxed.bindings <+: result.bindings ∧
    (∀ name term, boxed.lookup name = some term → result.lookup name = some term) ∧
    ∀ term, result.apply (boxed.apply term) = result.apply term := by
  have reachable : boxed.Reachable := .bind _ _ .empty
  have success := Unification.eq_ok_reached (by decide +kernel :
    (boxed.unify (.app "Pair" [.var "a", .var "a"])
      (.app "Pair" [.var "c", .app "Box" [.constant "Int"]])).isOk = true)
  exact ⟨reachable, _, matching_of_unify success, by decide +kernel,
    unify_extends_to_equal reachable (.inl success)⟩

end Substitution
end Synthesis
