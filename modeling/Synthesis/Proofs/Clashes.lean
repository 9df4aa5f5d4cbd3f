import Synthesis.Proofs.Descent

/-!
# Where unification fails

Unification goes down into the arguments of two terms from left to right, and the bindings made for
a pair are there for the pairs after it. When it fails, it has come down to a pair that clashes, and
it has made equal the pairs before it and nothing else: the arguments to the left of the way down,
at each application that it went into. Under the bindings made for these, the clash is where the
two terms differ for the first time.

Results:
1. `exists_of_unifyEach_error`: of pairs that are unified one after the other, one is the first that
   fails.
2. `exists_failsAt`: a unification that fails has come down to a pair that clashes.
3. `FailsAt.firstDifference`: the terms differ there for the first time, under the bindings made
   before.
4. `Substitution.unify_stops_at_clash`: all of this from whatever the operations make of the empty
   substitution.
-/
namespace Synthesis

open Substitution (Triangular)

namespace Unification

/-! ## 1. Pairs one after the other -/

/-- Unifies the terms of each pair, from the first pair on. -/
def unifyAll (subst : Substitution) (pairs : List (Term × Term)) : Except Stuck Substitution :=
  pairs.foldlM (fun subst pair => subst.unify pair.1 pair.2) subst

variable {names : Finset String} {subst later next : Substitution} {pattern goal : Term}
  {pairs : List (Term × Term)} {stuck : Stuck}

theorem unifyAll_nil (subst : Substitution) : unifyAll subst [] = .ok subst := rfl

theorem unifyAll_cons {pair : Term × Term} (first : subst.unify pair.1 pair.2 = .ok next)
    (pairs : List (Term × Term)) : unifyAll subst (pair :: pairs) = unifyAll next pairs := by
  rw [unifyAll, List.foldlM_cons, first]
  rfl

theorem unifyAll_append (done : unifyAll subst pairs = .ok next) (more : List (Term × Term)) :
    unifyAll subst (pairs ++ more) = unifyAll next more := by
  rw [unifyAll] at done
  rw [unifyAll, List.foldlM_append, done]
  rfl

theorem exists_of_unifyAll_cons {pair : Term × Term}
    (done : unifyAll subst (pair :: pairs) = .ok next) :
    ∃ middle, subst.unify pair.1 pair.2 = .ok middle ∧ unifyAll middle pairs = .ok next := by
  cases first : subst.unify pair.1 pair.2 with
  | error stuck =>
      rw [unifyAll, List.foldlM_cons, first] at done
      cases done
  | ok middle => exact ⟨middle, rfl, (unifyAll_cons first pairs).symm.trans done⟩

/-- Pairs that were unified one after the other are equal under the bindings made for them. -/
theorem unifyAll_ok (triangular : Triangular subst.bindings)
    (done : unifyAll subst pairs = .ok next) :
    subst.Extends next ∧ Triangular next.bindings ∧
      ∀ pair ∈ pairs, next.apply pair.1 = next.apply pair.2 := by
  induction pairs generalizing subst with
  | nil =>
      cases done
      exact ⟨.refl _, triangular, fun _ none => by cases none⟩
  | cons pair pairs ih =>
      obtain ⟨middle, first, rest⟩ := exists_of_unifyAll_cons done
      obtain ⟨extended, between, equal⟩ := Substitution.unify_ok triangular first
      obtain ⟨further, after, others⟩ := ih between rest
      refine ⟨extended.trans further, after, List.forall_mem_cons.2 ⟨?_, others⟩⟩
      rw [← further.apply_apply between, equal, further.apply_apply between]

theorem Develops.unifyAll (develops : Develops names subst later)
    (within : ∀ pair ∈ pairs, pair.1.Within (· ∈ names) ∧ pair.2.Within (· ∈ names))
    (done : unifyAll later pairs = .ok next) : Develops names subst next := by
  induction pairs generalizing later with
  | nil =>
      cases done
      exact develops
  | cons pair pairs ih =>
      obtain ⟨middle, first, rest⟩ := exists_of_unifyAll_cons done
      obtain ⟨here, others⟩ := List.forall_mem_cons.1 within
      exact ih (develops.unify here.1 here.2 first) others rest

/-- Of pairs that are unified one after the other until one fails, those before it were unified. -/
theorem exists_of_unifyEach_error
    (failed : unifyEach wholeCall subst pairs = some (.error stuck)) :
    ∃ before pair after next, pairs = before ++ pair :: after ∧
      unifyAll subst before = .ok next ∧ next.unify pair.1 pair.2 = .error stuck := by
  induction pairs generalizing subst with
  | nil => cases failed
  | cons pair pairs ih =>
      rw [unifyEach, wholeCall] at failed
      cases first : subst.unify pair.1 pair.2 with
      | error cause =>
          rw [first] at failed
          obtain rfl : cause = stuck := Except.error.inj (Option.some.inj failed)
          exact ⟨[], pair, pairs, subst, rfl, unifyAll_nil subst, first⟩
      | ok middle =>
          rw [first] at failed
          obtain ⟨before, other, after, next, rfl, done, cause⟩ := ih failed
          exact ⟨pair :: before, other, after, next, rfl, (unifyAll_cons first before).trans done,
            cause⟩

/-! ## 2. The way down to a clash -/

/-- On its way down from two terms, unification unifies some pairs and comes to a further pair. Both
terms are chased when they are come to, and the pairs of their arguments are gone through from left
to right. -/
inductive Descends : Substitution → Term → Term → List (Term × Term) → Term × Term → Prop
  | here {subst : Substitution} {pattern goal : Term} :
      Descends subst pattern goal [] (pattern, goal)
  | inside {subst next : Substitution} {pattern goal arg arg' : Term} {head : String}
      {args args' : List Term} {before after below : List (Term × Term)} {last : Term × Term} :
      subst.apply pattern = .app head args → subst.apply goal = .app head args' →
      args.length = args'.length → args.zip args' = before ++ (arg, arg') :: after →
      unifyAll subst before = .ok next → Descends next arg arg' below last →
      Descends subst pattern goal (before ++ below) last

/-- Two terms clash under bindings: once they are chased, they are applications that differ in their
constructors or in the number of their arguments, or one of them is an unbound variable and the
other one is another term that contains it. -/
inductive ClashesAt (subst : Substitution) (left right : Term) : Clash → Prop
  | mismatch {head head' : String} {args args' : List Term} : subst.apply left = .app head args →
      subst.apply right = .app head' args' → head ≠ head' ∨ args.length ≠ args'.length →
      ClashesAt subst left right (.mismatch (.app head args) (.app head' args'))
  | infinite {name : String} {term : Term} :
      subst.apply left = .var name ∧ subst.apply right = term ∨
        subst.apply right = .var name ∧ subst.apply left = term →
      subst.lookup name = none → term ≠ .var name → term.mentions name = true →
      ClashesAt subst left right (.infinite name term)

/-- A unification has failed at a pair. The pairs before it were unified, which made the bindings
that are left, and the pair clashes under these. -/
structure FailsAt (subst : Substitution) (pattern goal : Term) (stuck : Stuck)
    (before : List (Term × Term)) (left right : Term) : Prop where
  descends : Descends subst pattern goal before (left, right)
  done : unifyAll subst before = .ok stuck.reached
  clashes : ClashesAt stuck.reached left right stuck.clash

theorem lookup_of_chased (triangular : Triangular subst.bindings) {term : Term} {name : String}
    (inTerm : (subst.apply term).mentions name = true) : subst.lookup name = none := by
  refine List.lookup_eq_none_iff.2 fun binding member => ?_
  rw [bne_iff_ne]
  rintro rfl
  rw [Substitution.mentions_apply_of_bound triangular member term] at inTerm
  cases inTerm

theorem eq_of_settle_error {name : String} {term : Term}
    (failed : settle subst name term = .error stuck) :
    stuck = ⟨.infinite name term, subst⟩ ∧ term.mentions name = true := by
  unfold settle at failed
  split at failed
  · next occurs => exact ⟨(Except.error.inj failed).symm, occurs⟩
  · cases failed

/-- A unification that fails has come down to a pair that clashes. -/
theorem exists_failsAt (triangular : Triangular subst.bindings)
    (within : subst.Within (· ∈ names)) (inPattern : pattern.Within (· ∈ names))
    (inGoal : goal.Within (· ∈ names)) (failed : subst.unify pattern goal = .error stuck) :
    ∃ before left right, FailsAt subst pattern goal stuck before left right := by
  refine descent_induction (motive := fun subst pattern goal => ∀ stuck,
    subst.unify pattern goal = .error stuck →
      ∃ before left right, FailsAt subst pattern goal stuck before left right) ?_
    triangular within inPattern inGoal stuck failed
  clear triangular within inPattern inGoal failed
  intro subst pattern goal triangular within inPattern inGoal inside stuck failed
  have whole := unifyChased_wholeCall triangular pattern goal
  rw [wholeCall, failed] at whole
  cases left : subst.apply pattern with
  | var name =>
      rw [left, unifyChased, Option.some.injEq] at whole
      split at whole
      · cases whole
      · next differs =>
          obtain ⟨rfl, occurs⟩ := eq_of_settle_error whole
          exact ⟨[], pattern, goal, .here, rfl,
            .infinite (.inl ⟨left, rfl⟩) (lookup_of_chased triangular occurs) differs occurs⟩
  | app head args =>
      cases right : subst.apply goal with
      | var name =>
          rw [left, right, unifyChased, Option.some.injEq] at whole
          obtain ⟨rfl, occurs⟩ := eq_of_settle_error whole
          refine ⟨[], pattern, goal, .here, rfl, .infinite (.inr ⟨right, left⟩) ?_ (by simp) occurs⟩
          exact lookup_of_chased triangular (left.symm ▸ occurs)
      | app head' args' =>
          rw [left, right, unifyChased] at whole
          split at whole
          · next fits =>
              obtain ⟨rfl, lengths⟩ := fits
              obtain ⟨before, ⟨arg, arg'⟩, after, next, split, done, cause⟩ :=
                exists_of_unifyEach_error whole
              have inZip {pair : Term × Term} (member : pair ∈ before ++ (arg, arg') :: after) :=
                List.of_mem_zip (a := pair.1) (b := pair.2) (split ▸ member)
              obtain ⟨inArgs, inArgs'⟩ := inZip (List.mem_append_right _ (.head _))
              have develops : Develops names subst next := by
                refine Develops.unifyAll ⟨.refl _, triangular, within⟩ (fun pair member => ?_) done
                obtain ⟨one, two⟩ := inZip (List.mem_append_left _ member)
                exact ⟨within_of_mem within inPattern left one,
                  within_of_mem within inGoal right two⟩
              obtain ⟨below, one, two, fails⟩ := inside head args head args' left right arg inArgs
                arg' inArgs' next develops stuck cause
              exact ⟨before ++ below, one, two,
                .inside left right lengths split done fails.descends,
                (unifyAll_append done below).trans fails.done, fails.clashes⟩
          · next clash =>
              obtain rfl := Except.error.inj (Option.some.inj whole)
              exact ⟨[], pattern, goal, .here, rfl, .mismatch left right (not_and_or.1 clash)⟩

/-! ## 3. The first difference -/

theorem firstDifference_self (term : Term) : firstDifference term term = none := by
  induction term with
  | var name => rw [firstDifference, if_pos rfl]
  | app head args ih =>
      rw [firstDifference, if_pos ⟨rfl, rfl⟩]
      induction args with
      | nil => rfl
      | cons arg args ihArgs =>
          rw [firstDifferenceAmong, ih arg (.head _)]
          exact ihArgs fun other member => ih other (.tail _ member)

/-- Arguments differ for the first time where a pair does, if the pairs before it are equal. -/
theorem firstDifferenceAmong_of_split {f : Term → Term} {args args' : List Term} {arg arg' : Term}
    {before after rest : List (Term × Term)} {difference : Difference}
    (split : args.zip args' = before ++ (arg, arg') :: after)
    (equal : ∀ pair ∈ before, f pair.1 = f pair.2)
    (first : firstDifference (f arg) (f arg') = some (difference, rest)) :
    ∃ rest, firstDifferenceAmong (args.map f) (args'.map f) = some (difference, rest) := by
  induction before generalizing args args' with
  | nil =>
      obtain _ | ⟨_, args⟩ := args
      · cases split
      obtain _ | ⟨_, args'⟩ := args'
      · cases split
      cases split
      rw [List.map_cons, List.map_cons, firstDifferenceAmong, first]
      exact ⟨_, rfl⟩
  | cons pair before ih =>
      obtain _ | ⟨_, args⟩ := args
      · cases split
      obtain _ | ⟨_, args'⟩ := args'
      · cases split
      rw [List.zip_cons_cons, List.cons_append] at split
      obtain ⟨rfl, later⟩ := List.cons.inj split
      obtain ⟨here, others⟩ := List.forall_mem_cons.1 equal
      rw [List.map_cons, List.map_cons, firstDifferenceAmong, here, firstDifference_self]
      exact ih later others

/-- Two terms differ for the first time where a pair that unification comes to does, under bindings
that make the pairs before it equal. -/
theorem Descends.firstDifference {before rest : List (Term × Term)} {last : Term × Term}
    {difference : Difference} {reached : Substitution}
    (descends : Descends subst pattern goal before last) (triangular : Triangular subst.bindings)
    (done : unifyAll subst before = .ok reached)
    (first : firstDifference (reached.apply last.1) (reached.apply last.2) =
      some (difference, rest)) :
    ∃ rest, firstDifference (reached.apply pattern) (reached.apply goal) =
      some (difference, rest) := by
  induction descends with
  | here => exact ⟨rest, first⟩
  | @inside subst next pattern goal arg arg' head args args' before _ below _ left right lengths
      split some _ ih =>
      have extended := (unifyAll_ok triangular done).1
      obtain ⟨-, between, equal⟩ := unifyAll_ok triangular some
      rw [unifyAll_append some] at done
      have further := (unifyAll_ok between done).1
      obtain ⟨rest, inside⟩ := ih between done first
      have stays (pair : Term × Term) (member : pair ∈ before) :
          reached.apply pair.1 = reached.apply pair.2 := by
        rw [← further.apply_apply between, equal pair member, further.apply_apply between]
      rw [← extended.apply_apply triangular pattern, ← extended.apply_apply triangular goal, left,
        right, Substitution.apply, Substitution.apply, Term.subst_app, Term.subst_app,
        Unification.firstDifference, if_pos ⟨rfl, by simpa using lengths⟩]
      exact firstDifferenceAmong_of_split split stays inside

end Unification

open Unification

def Clash.difference : Clash → Difference
  | .mismatch pattern goal => .atConstructor pattern goal
  | .infinite name term => .atVariable name term

def Clash.terms : Clash → List Term
  | .mismatch pattern goal => [pattern, goal]
  | .infinite name term => [.var name, term]

namespace Unification

variable {subst : Substitution} {left right : Term} {clash : Clash}

/-- A clash is where its terms differ for the first time. -/
theorem ClashesAt.firstDifference (clashes : ClashesAt subst left right clash) :
    Unification.firstDifference (subst.apply left) (subst.apply right) =
      some (clash.difference, []) := by
  cases clashes with
  | mismatch one two differ =>
      rw [one, two, Unification.firstDifference, if_neg (not_and_or.2 differ)]
      rfl
  | @infinite name term sides unbound differs occurs =>
      rcases sides with ⟨one, two⟩ | ⟨two, one⟩
      · rw [one, two]
        cases term with
        | var other =>
            have names : name ≠ other := by
              rintro rfl
              exact differs rfl
            rw [Unification.firstDifference, if_neg names]
            rfl
        | app head args => rfl
      · rw [one, two]
        cases term with
        | var other => simp_all
        | app head args => rfl

theorem ClashesAt.chased (triangular : Triangular subst.bindings)
    (clashes : ClashesAt subst left right clash) :
    ∀ term ∈ clash.terms, subst.apply term = term := by
  have chased {term term' : Term} (value : subst.apply term = term') :
      subst.apply term' = term' := by
    rw [← value, Substitution.apply_apply triangular]
  cases clashes with
  | mismatch one two _ => simp [Clash.terms, chased one, chased two]
  | infinite sides _ _ _ =>
      rcases sides with ⟨one, two⟩ | ⟨two, one⟩ <;>
        simp [Clash.terms, chased one, chased two]

end Unification

namespace Substitution

/-- A unification that fails, from a substitution that the operations made, has come down to a pair
that clashes, and what it leaves comes of unifying the pairs before that one, from left to right,
and of nothing else. The clash names the two terms as they are under what is left, with all bindings
applied, and these are the first place at which the two terms differ under it. -/
theorem unify_stops_at_clash {subst : Substitution} (reachable : subst.Reachable)
    {pattern goal : Term} {stuck : Stuck} (failed : subst.unify pattern goal = .error stuck) :
    subst.Extends stuck.reached ∧
      (∃ before left right, FailsAt subst pattern goal stuck before left right) ∧
      (∀ term ∈ stuck.clash.terms, stuck.reached.apply term = term) ∧
      ∃ rest, firstDifference (stuck.reached.apply pattern) (stuck.reached.apply goal) =
        some (stuck.clash.difference, rest) := by
  have triangular := reachable.triangular
  obtain ⟨names, within, all⟩ := subst.exists_names [pattern, goal]
  obtain ⟨before, left, right, fails⟩ := exists_failsAt triangular within
    (all pattern (by simp)) (all goal (by simp)) failed
  obtain ⟨extended, reached, -⟩ := unifyAll_ok triangular fails.done
  exact ⟨extended, ⟨before, left, right, fails⟩, fails.clashes.chased reached,
    fails.descends.firstDifference triangular fails.done fails.clashes.firstDifference⟩

/-- A pattern and a goal that clash in the second argument, since the first one binds `d`. -/
def latePattern : Term :=
  .app "Three" [.var "d", .app "Pair" [.var "a", .var "d"], .var "e"]

def lateGoal : Term :=
  .app "Three" [.constant "Int", .app "Pair" [.app "List" [.var "c"], .constant "Bool"],
    .constant "Int"]

/-- The first components of the pairs are equal under the bindings that were there before, and the
second ones clash. -/
theorem unify_stops_at_clash_halfway : halfway.Reachable ∧ ∃ stuck,
    halfway.unify latePattern lateGoal = .error stuck ∧
    stuck.clash = .mismatch (.constant "Int") (.constant "Bool") ∧
    stuck.reached.bindings = [("a", .app "List" [.var "b"]), ("b", .var "c"),
      ("d", .constant "Int")] ∧
    halfway.Extends stuck.reached ∧
    (∃ before left right, FailsAt halfway latePattern lateGoal stuck before left right) ∧
    (∀ term ∈ stuck.clash.terms, stuck.reached.apply term = term) ∧
    ∃ rest, firstDifference (stuck.reached.apply latePattern) (stuck.reached.apply lateGoal) =
      some (stuck.clash.difference, rest) := by
  have reachable : halfway.Reachable := .unify _ _ .empty
  have failed : halfway.unify latePattern lateGoal =
      .error ⟨.mismatch (.constant "Int") (.constant "Bool"),
        ⟨[("a", .app "List" [.var "b"]), ("b", .var "c"), ("d", .constant "Int")]⟩⟩ := by
    decide +kernel
  exact ⟨reachable, _, failed, rfl, rfl, unify_stops_at_clash reachable failed⟩

end Substitution
end Synthesis
