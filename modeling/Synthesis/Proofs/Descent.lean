import Mathlib.Data.Finset.Card
import Synthesis.Proofs.Chasing
import Synthesis.Proofs.Freshness

/-!
# Unification by descent

To unify two terms is to chase both, and then to unify their arguments by calls for one pair after
the other, each with the bindings of the pairs before it. A binding can make the terms of a later
pair larger than all terms before. But it is a binding for a variable that was not bound, and there
are only so many variables in the terms and in the bindings: until one of them is bound, a call
unifies arguments of the terms of the call around it, and these are chased already.

Results:
1. `unifyPairs_attach`: bindings that were found before some pairs come up can be applied to the
   pairs instead.
2. `unifyPairs_append_ok`, `unifyPairs_append_error`: pairs that follow others are unified under
   what was found for these, if they come up at all.
3. `unifyChased_wholeCall`: unification is what one call makes of unification for its calls.
4. `descent_induction`: what passes from the arguments of two terms to the terms holds of all terms.
5. `returns_unifyWithin`: the calls come to an end, with what unification gives.
6. `unification_returns`: this for unification, for bindings and for matches from whatever the
   operations make of the empty substitution.
-/
namespace Synthesis

open Substitution (Triangular)

namespace Unification

/-! ## 1. Pairs under bindings -/

theorem applyPairs_empty (pairs : List (Term × Term)) : applyPairs .empty pairs = pairs := by
  simp [applyPairs, Substitution.apply_empty]

theorem applyPairs_append (found : Substitution) (xs ys : List (Term × Term)) :
    applyPairs found (xs ++ ys) = applyPairs found xs ++ applyPairs found ys :=
  List.map_append

/-- Pairs that are the same under two substitutions are so under these with a further binding. -/
theorem applyPairs_push_congr {first second : Substitution} {xs ys : List (Term × Term)}
    (same : applyPairs first xs = applyPairs second ys) (name : String) (term : Term) :
    applyPairs (first.push name term) xs = applyPairs (second.push name term) ys := by
  have pushed (subst : Substitution) (pairs : List (Term × Term)) :
      applyPairs (subst.push name term) pairs = (applyPairs subst pairs).map fun pair =>
        (pair.1.replace name term, pair.2.replace name term) := by
    simp only [applyPairs, List.map_map, Function.comp_def, Substitution.apply_push]
  rw [pushed, pushed, same]

/-- The pairs after a first difference have the bindings applied already. -/
theorem applyPairs_of_firstDifference {found : Substitution}
    (triangular : Triangular found.bindings) {p g : Term} {difference : Difference}
    {rest : List (Term × Term)}
    (first : firstDifference (found.apply p) (found.apply g) = some (difference, rest)) :
    applyPairs found rest = rest := by
  refine (List.map_congr_left fun pair member => ?_).trans (List.map_id rest)
  obtain ⟨left, right⟩ := apply_of_mem_firstDifference triangular first member
  exact Prod.ext left right

/-- Pairs that are the same under two substitutions have the same next difference, with pairs after
it that are the same again. -/
theorem nextDifference_congr {first second : Substitution} (one : Triangular first.bindings)
    (two : Triangular second.bindings) {xs ys : List (Term × Term)}
    (same : applyPairs first xs = applyPairs second ys) :
    (nextDifference first xs).map (Prod.map id (applyPairs first)) =
      (nextDifference second ys).map (Prod.map id (applyPairs second)) := by
  induction xs generalizing ys with
  | nil =>
      obtain rfl : ys = [] := List.map_eq_nil_iff.1 same.symm
      rfl
  | cons x xs ih =>
      obtain _ | ⟨y, ys⟩ := ys
      · cases same
      obtain ⟨here, later⟩ := List.cons.inj same
      obtain ⟨left, right⟩ := Prod.mk.inj here
      rw [nextDifference, nextDifference, left, right]
      cases found : firstDifference (second.apply y.1) (second.apply y.2) with
      | none => exact ih later
      | some next =>
          have kept := applyPairs_of_firstDifference two found
          rw [← left, ← right] at found
          have kept' := applyPairs_of_firstDifference one found
          simp only [Option.map_some, Prod.map, applyPairs_append, kept, kept', id]
          rw [show applyPairs first xs = applyPairs second ys from later]

theorem nextDifference_eq_some {first second : Substitution} (one : Triangular first.bindings)
    (two : Triangular second.bindings) {xs ys rest : List (Term × Term)}
    (same : applyPairs first xs = applyPairs second ys) {difference : Difference}
    (next : nextDifference second ys = some (difference, rest)) :
    ∃ rest', nextDifference first xs = some (difference, rest') ∧
      applyPairs first rest' = applyPairs second rest := by
  have mapped := nextDifference_congr one two same
  rw [next, Option.map_some, Option.map_eq_some_iff] at mapped
  obtain ⟨⟨_, rest'⟩, found, equal⟩ := mapped
  obtain ⟨rfl, after⟩ := Prod.mk.inj equal
  exact ⟨rest', found, after⟩

/-- What a unification of pairs gives, with other bindings before those that it found. -/
def attach (subst : Substitution) : Except Stuck Substitution → Except Stuck Substitution
  | .ok found => .ok (subst.append found)
  | .error stuck => .error { stuck with reached := subst.append stuck.reached }

/-- Bindings that were found before the pairs came up can be applied to the pairs instead. -/
theorem unifyPairs_attach {subst whole found : Substitution} (joined : whole = subst.append found)
    (all : Triangular whole.bindings) (triangular : Triangular found.bindings)
    {xs ys : List (Term × Term)} (same : applyPairs whole xs = applyPairs found ys) :
    unifyPairs whole all xs = attach subst (unifyPairs found triangular ys) := by
  fun_induction unifyPairs found triangular ys generalizing whole xs with
  | case1 found triangular ys none =>
      have next := nextDifference_congr all triangular same
      rw [none, Option.map_none, Option.map_eq_none_iff] at next
      rw [unifyPairs_of_none all next, joined]
      rfl
  | case2 found triangular ys pattern goal rest clash =>
      obtain ⟨_, next, -⟩ := nextDifference_eq_some all triangular same clash
      rw [unifyPairs_of_constructor all next, joined]
      rfl
  | case3 found triangular ys name term rest difference occurs =>
      obtain ⟨_, next, -⟩ := nextDifference_eq_some all triangular same difference
      rw [unifyPairs_of_infinite all next occurs, joined]
      rfl
  | case4 found triangular ys name term rest difference occurs ih =>
      obtain ⟨rest', next, after⟩ := nextDifference_eq_some all triangular same difference
      have proper := Bool.eq_false_iff.2 occurs
      rw [unifyPairs_of_variable all next proper
        (triangular_push_of_nextDifference all next proper)]
      refine ih ?_ _ (applyPairs_push_congr after name term)
      simp [joined, Substitution.push, Substitution.append]

/-- The differences in pairs come before those in the pairs that follow them. -/
theorem nextDifference_append (found : Substitution) (xs ys : List (Term × Term)) :
    nextDifference found (xs ++ ys) =
      ((nextDifference found xs).map (Prod.map id (· ++ ys))).or (nextDifference found ys) := by
  induction xs with
  | nil => rfl
  | cons x xs ih =>
      rw [List.cons_append, nextDifference, nextDifference]
      cases firstDifference (found.apply x.1) (found.apply x.2) with
      | none => exact ih
      | some next => simp

theorem nextDifference_append_of_some {found : Substitution} {xs rest : List (Term × Term)}
    {difference : Difference} (next : nextDifference found xs = some (difference, rest))
    (ys : List (Term × Term)) :
    nextDifference found (xs ++ ys) = some (difference, rest ++ ys) := by
  rw [nextDifference_append, next]
  rfl

theorem unifyPairs_of_next_eq {found : Substitution} (triangular : Triangular found.bindings)
    {xs ys : List (Term × Term)} (same : nextDifference found xs = nextDifference found ys) :
    unifyPairs found triangular xs = unifyPairs found triangular ys := by
  cases next : nextDifference found ys with
  | none => rw [unifyPairs_of_none triangular next, unifyPairs_of_none triangular (same.trans next)]
  | some here =>
      obtain ⟨difference, rest⟩ := here
      cases difference with
      | atConstructor pattern goal =>
          rw [unifyPairs_of_constructor triangular next,
            unifyPairs_of_constructor triangular (same.trans next)]
      | atVariable name term =>
          cases occurs : term.mentions name with
          | true =>
              rw [unifyPairs_of_infinite triangular next occurs,
                unifyPairs_of_infinite triangular (same.trans next) occurs]
          | false =>
              have pushed := triangular_push_of_nextDifference triangular next occurs
              rw [unifyPairs_of_variable triangular next occurs pushed,
                unifyPairs_of_variable triangular (same.trans next) occurs pushed]

/-- When some pairs cannot be unified, it makes no difference which pairs follow them. -/
theorem unifyPairs_append_error {found : Substitution} {triangular : Triangular found.bindings}
    {xs : List (Term × Term)} {stuck : Stuck}
    (failed : unifyPairs found triangular xs = .error stuck) (ys : List (Term × Term)) :
    unifyPairs found triangular (xs ++ ys) = .error stuck := by
  fun_induction unifyPairs found triangular xs with
  | case1 => cases failed
  | case2 found triangular xs pattern goal rest clash =>
      rw [unifyPairs_of_constructor triangular (nextDifference_append_of_some clash ys), failed]
  | case3 found triangular xs name term rest difference occurs =>
      rw [unifyPairs_of_infinite triangular (nextDifference_append_of_some difference ys) occurs,
        failed]
  | case4 found triangular xs name term rest difference occurs ih =>
      have next := nextDifference_append_of_some difference ys
      have proper := Bool.eq_false_iff.2 occurs
      rw [unifyPairs_of_variable triangular next proper
        (triangular_push_of_nextDifference triangular next proper)]
      exact ih failed

/-- Pairs that follow others are unified under what was found for these. -/
theorem unifyPairs_append_ok {found result : Substitution} {triangular : Triangular found.bindings}
    {xs : List (Term × Term)} (success : unifyPairs found triangular xs = .ok result)
    (later : Triangular result.bindings) (ys : List (Term × Term)) :
    unifyPairs found triangular (xs ++ ys) = unifyPairs result later ys := by
  fun_induction unifyPairs found triangular xs with
  | case1 found triangular xs none =>
      obtain rfl : found = result := Except.ok.inj success
      refine unifyPairs_of_next_eq triangular ?_
      rw [nextDifference_append, none]
      rfl
  | case2 | case3 => cases success
  | case4 found triangular xs name term rest difference occurs ih =>
      have next := nextDifference_append_of_some difference ys
      have proper := Bool.eq_false_iff.2 occurs
      rw [unifyPairs_of_variable triangular next proper
        (triangular_push_of_nextDifference triangular next proper)]
      exact ih success

/-! ## 2. One call -/

/-- A way to make two terms equal under a substitution. `none` if it would have to nest more calls
than it may. -/
abbrev Equalizer := Substitution → Term → Term → Option (Except Stuck Substitution)

/-- Unifies the terms of each pair, from the first pair on, until two terms cannot be unified. Each
pair comes up with the bindings of those before it. -/
def unifyEach (inner : Equalizer) (subst : Substitution) :
    List (Term × Term) → Option (Except Stuck Substitution)
  | [] => some (.ok subst)
  | (pattern, goal) :: pairs => do
      match ← inner subst pattern goal with
      | .ok next => unifyEach inner next pairs
      | .error stuck => return .error stuck

/-- Binds an unbound variable to a term, unless it occurs in the term. -/
def settle (subst : Substitution) (name : String) (term : Term) : Except Stuck Substitution :=
  if term.mentions name = true then .error ⟨.infinite name term, subst⟩
  else .ok (subst.push name term)

/-- Unifies two terms that are chased. Applications are taken apart into the pairs of their
arguments. -/
def unifyChased (inner : Equalizer) (subst : Substitution) :
    (pattern goal : Term) → Option (Except Stuck Substitution)
  | .var name, goal => some (if goal = .var name then .ok subst else settle subst name goal)
  | .app head args, .var name => some (settle subst name (.app head args))
  | .app head args, .app head' args' =>
      if head = head' ∧ args.length = args'.length then unifyEach inner subst (args.zip args')
      else some (.error ⟨.mismatch (.app head args) (.app head' args'), subst⟩)

/-- Unifies two terms by recursion: each call chases both terms and makes a call of its own for each
pair of arguments. `levels` is the number of calls that may be nested, this one included. -/
def unifyWithin : (levels : Nat) → Equalizer
  | 0, _, _, _ => none
  | levels + 1, subst, pattern, goal => do
      unifyChased (unifyWithin levels) subst (← subst.chase levels pattern)
        (← subst.chase levels goal)

/-- Unification as what a call makes of its recursive calls. -/
def wholeCall : Equalizer := fun subst pattern goal => some (subst.unify pattern goal)

/-- Two terms are unified under bindings that are not applied yet like two that are chased. -/
theorem unify_eq_unifyPairs {subst : Substitution} (triangular : Triangular subst.bindings)
    (pattern goal : Term) :
    subst.unify pattern goal = unifyPairs subst triangular [(pattern, goal)] := by
  have plain : applyPairs subst [(pattern, goal)] =
      applyPairs .empty [(subst.apply pattern, subst.apply goal)] := (applyPairs_empty _).symm
  have start : Triangular Substitution.empty.bindings := trivial
  rw [unifyPairs_attach (Substitution.append_empty subst).symm triangular start plain,
    Substitution.unify]
  cases unifyPairs .empty start [(subst.apply pattern, subst.apply goal)] <;> rfl

theorem unifyEach_wholeCall {subst : Substitution} (triangular : Triangular subst.bindings)
    (pairs : List (Term × Term)) :
    unifyEach wholeCall subst pairs = some (unifyPairs subst triangular pairs) := by
  induction pairs generalizing subst with
  | nil => rw [unifyPairs_of_none triangular rfl, unifyEach]
  | cons pair pairs ih =>
      obtain ⟨pattern, goal⟩ := pair
      have first := unify_eq_unifyPairs triangular pattern goal
      rw [unifyEach, wholeCall]
      cases outcome : subst.unify pattern goal with
      | error stuck =>
          rw [outcome] at first
          have all := unifyPairs_append_error first.symm pairs
          rw [List.singleton_append] at all
          rw [all]
          rfl
      | ok next =>
          have later := (Substitution.unify_ok triangular outcome).2.1
          rw [outcome] at first
          have all := unifyPairs_append_ok first.symm later pairs
          rw [List.singleton_append] at all
          rw [all]
          exact ih later

theorem nextDifference_singleton (subst : Substitution) (pattern goal : Term) :
    nextDifference subst [(pattern, goal)] =
      firstDifference (subst.apply pattern) (subst.apply goal) := by
  rw [nextDifference]
  cases firstDifference (subst.apply pattern) (subst.apply goal) with
  | none => rfl
  | some next => simp

/-- The next difference in the pairs of arguments that are chased is that of the applications. -/
theorem nextDifference_zip {subst : Substitution} {terms terms' : List Term}
    (chased : ∀ term ∈ terms, subst.apply term = term)
    (chased' : ∀ term ∈ terms', subst.apply term = term) :
    nextDifference subst (terms.zip terms') = firstDifferenceAmong terms terms' := by
  induction terms generalizing terms' with
  | nil => rfl
  | cons term terms ih =>
      obtain _ | ⟨term', terms'⟩ := terms'
      · rfl
      rw [List.zip_cons_cons, nextDifference, firstDifferenceAmong, chased term (.head _),
        chased' term' (.head _), ih (fun other member => chased other (.tail _ member))
          fun other member => chased' other (.tail _ member)]

theorem chased_of_mem {subst : Substitution} (triangular : Triangular subst.bindings)
    {term arg : Term} {head : String} {args : List Term}
    (shape : subst.apply term = .app head args) (member : arg ∈ args) : subst.apply arg = arg := by
  have again := Substitution.apply_apply triangular term
  rw [shape, Substitution.apply, Term.subst_app, Term.app.injEq] at again
  exact List.map_inj_left.1 (again.2.trans (List.map_id args).symm) arg member

/-- A first difference at a variable is settled, and nothing is left to do. -/
theorem unifyPairs_eq_settle {subst : Substitution} (triangular : Triangular subst.bindings)
    {pattern goal : Term} {name : String} {term : Term}
    (first : firstDifference (subst.apply pattern) (subst.apply goal) =
      some (.atVariable name term, [])) :
    unifyPairs subst triangular [(pattern, goal)] = settle subst name term := by
  have next := (nextDifference_singleton subst pattern goal).trans first
  rw [settle]
  split
  · next occurs => rw [unifyPairs_of_infinite triangular next occurs]
  · next proper =>
      have proper := Bool.eq_false_iff.2 proper
      rw [unifyPairs_of_variable triangular next proper
        (triangular_push_of_nextDifference triangular next proper), unifyPairs_of_none _ rfl]

/-- Unification is what one call makes of unification. -/
theorem unifyChased_wholeCall {subst : Substitution} (triangular : Triangular subst.bindings)
    (pattern goal : Term) :
    unifyChased wholeCall subst (subst.apply pattern) (subst.apply goal) =
      wholeCall subst pattern goal := by
  have single := nextDifference_singleton subst pattern goal
  rw [wholeCall, unify_eq_unifyPairs triangular]
  cases left : subst.apply pattern with
  | var name =>
      rw [unifyChased]
      split
      · next same =>
          rw [left, same, firstDifference, if_pos rfl] at single
          rw [unifyPairs_of_none triangular single]
      · next differs =>
          have first : firstDifference (subst.apply pattern) (subst.apply goal) =
              some (.atVariable name (subst.apply goal), []) := by
            rw [left]
            cases right : subst.apply goal with
            | var other =>
                rw [firstDifference, if_neg]
                rintro rfl
                exact differs right
            | app head args => rfl
          rw [unifyPairs_eq_settle triangular first]
  | app head args =>
      cases right : subst.apply goal with
      | var name =>
          rw [unifyChased, unifyPairs_eq_settle triangular (by rw [left, right]; rfl)]
      | app head' args' =>
          rw [left, right, firstDifference] at single
          rw [unifyChased]
          split
          · next fits =>
              rw [if_pos fits, ← nextDifference_zip (fun _ => chased_of_mem triangular left)
                fun _ => chased_of_mem triangular right] at single
              rw [unifyEach_wholeCall triangular, unifyPairs_of_next_eq triangular single]
          · next clash =>
              rw [if_neg clash] at single
              rw [unifyPairs_of_constructor triangular single]

/-! ## 3. All calls -/

/-- Calls for pairs, one after the other, return if they do for each pair and each substitution that
can come up. -/
theorem returns_unifyEach {inner : Nat → Equalizer} (admits : Substitution → Prop)
    {pairs : List (Term × Term)}
    (each : ∀ subst, admits subst → ∀ pair ∈ pairs,
      Returns (inner · subst pair.1 pair.2) (subst.unify pair.1 pair.2))
    (keeps : ∀ subst, admits subst → ∀ pair ∈ pairs, ∀ next,
      subst.unify pair.1 pair.2 = .ok next → admits next)
    {subst : Substitution} (start : admits subst) {outcome : Except Stuck Substitution}
    (whole : unifyEach wholeCall subst pairs = some outcome) :
    Returns (fun levels => unifyEach (inner levels) subst pairs) outcome := by
  induction pairs generalizing subst with
  | nil =>
      obtain rfl : .ok subst = outcome := Option.some.inj whole
      exact .pure _
  | cons pair pairs ih =>
      refine (each subst start pair (.head _)).bind ?_
      have further (next : Substitution) := keeps subst start pair (.head _) next
      rw [unifyEach, wholeCall] at whole
      cases first : subst.unify pair.1 pair.2 with
      | error stuck =>
          rw [first] at whole
          obtain rfl : .error stuck = outcome := Option.some.inj whole
          exact .pure _
      | ok next =>
          rw [first] at whole
          exact ih (fun subst admitted other member => each subst admitted other (.tail _ member))
            (fun subst admitted other member => keeps subst admitted other (.tail _ member))
            (further next first) whole

def unbound (names : Finset String) (subst : Substitution) : Nat :=
  (names.filter (· ∉ subst.domain)).card

theorem unbound_lt {names : Finset String} {subst later : Substitution}
    (extended : subst.Extends later) (triangular : Triangular later.bindings)
    (within : later.Within (· ∈ names)) (differs : later ≠ subst) :
    unbound names later < unbound names subst := by
  obtain ⟨bindings⟩ := subst
  obtain ⟨_⟩ := later
  obtain ⟨_ | ⟨binding, more⟩, rfl⟩ := extended
  · simp at differs
  have distinct := triangular.nodup_domain
  rw [List.map_append, List.nodup_append] at distinct
  refine Finset.card_lt_card ⟨Finset.monotone_filter_right names fun name _ => ?_, fun all => ?_⟩
  · exact mt fun listed => by simp_all [Substitution.domain]
  · have new : binding.1 ∉ Substitution.domain ⟨bindings⟩ := fun listed =>
      distinct.2.2 _ listed _ (.head _) rfl
    have still := all (Finset.mem_filter.2 ⟨(within binding (by simp)).1, new⟩)
    exact (Finset.mem_filter.1 still).2 (by simp [Substitution.domain])

/-- A substitution that comes of another one while terms with some variables are unified. -/
structure Develops (names : Finset String) (subst later : Substitution) : Prop where
  extended : subst.Extends later
  triangular : Triangular later.bindings
  within : later.Within (· ∈ names)

variable {names : Finset String} {subst later next : Substitution} {pattern goal : Term}

theorem Develops.unify (develops : Develops names subst later)
    (inPattern : pattern.Within (· ∈ names)) (inGoal : goal.Within (· ∈ names))
    (success : later.unify pattern goal = .ok next) :
    Develops names subst next := by
  obtain ⟨further, triangular, -⟩ := Substitution.unify_ok develops.triangular success
  exact ⟨develops.extended.trans further, triangular,
    develops.within.matching inPattern inGoal (Substitution.matching_of_unify success)⟩

/-- The arguments of a chased term have the variables of the term and of the bindings. -/
theorem within_of_mem (within : subst.Within (· ∈ names)) {term arg : Term}
    (inTerm : term.Within (· ∈ names)) {head : String} {args : List Term}
    (shape : subst.apply term = .app head args) (member : arg ∈ args) : arg.Within (· ∈ names) := by
  have whole := within.apply inTerm
  rw [shape] at whole
  exact fun name inArg => whole name (Term.mentions_of_mem member head inArg)

theorem returns_unifyChased {inner : Nat → Equalizer}
    (triangular : Triangular subst.bindings) (within : subst.Within (· ∈ names))
    (inPattern : pattern.Within (· ∈ names)) (inGoal : goal.Within (· ∈ names))
    (calls : ∀ head args head' args', subst.apply pattern = .app head args →
      subst.apply goal = .app head' args' → ∀ arg ∈ args, ∀ arg' ∈ args', ∀ later,
      Develops names subst later → Returns (inner · later arg arg') (later.unify arg arg')) :
    Returns (fun levels => unifyChased (inner levels) subst (subst.apply pattern)
      (subst.apply goal)) (subst.unify pattern goal) := by
  have whole := unifyChased_wholeCall triangular pattern goal
  cases left : subst.apply pattern with
  | var name =>
      rw [left] at whole
      exact .of_eq fun levels => whole
  | app head args =>
      cases right : subst.apply goal with
      | var name =>
          rw [left, right] at whole
          exact .of_eq fun levels => whole
      | app head' args' =>
          rw [left, right, unifyChased] at whole
          simp only [unifyChased]
          split
          · next fits =>
              rw [if_pos fits] at whole
              refine returns_unifyEach (Develops names subst) ?_ ?_
                ⟨.refl _, triangular, within⟩ whole
              · rintro later develops ⟨arg, arg'⟩ member
                obtain ⟨inArgs, inArgs'⟩ := List.of_mem_zip member
                exact calls head args head' args' left right arg inArgs arg' inArgs' later develops
              · rintro later develops ⟨arg, arg'⟩ member next success
                obtain ⟨inArgs, inArgs'⟩ := List.of_mem_zip member
                exact develops.unify (within_of_mem within inPattern left inArgs)
                  (within_of_mem within inGoal right inArgs') success
          · next clash =>
              rw [if_neg clash] at whole
              exact .of_eq fun levels => whole

/-- What holds of two terms under a substitution if it holds of their arguments, under whatever
comes of the substitution before these are reached, holds of any two terms. -/
theorem descent_induction {motive : Substitution → Term → Term → Prop}
    (step : ∀ subst pattern goal, Triangular subst.bindings → subst.Within (· ∈ names) →
      pattern.Within (· ∈ names) → goal.Within (· ∈ names) →
      (∀ head args head' args', subst.apply pattern = .app head args →
        subst.apply goal = .app head' args' → ∀ arg ∈ args, ∀ arg' ∈ args', ∀ later,
        Develops names subst later → motive later arg arg') → motive subst pattern goal)
    (triangular : Triangular subst.bindings) (within : subst.Within (· ∈ names))
    (inPattern : pattern.Within (· ∈ names)) (inGoal : goal.Within (· ∈ names)) :
    motive subst pattern goal := by
  -- arguments are reached with fewer unbound variables or as a part of the chased pattern
  induction count : unbound names subst using Nat.strongRecOn generalizing subst pattern goal with
  | ind count fewer =>
    induction size : (subst.apply pattern).size using Nat.strongRecOn generalizing pattern goal with
    | ind size smaller =>
      refine step subst pattern goal triangular within inPattern inGoal ?_
      intro head args head' args' left right arg member arg' member' later develops
      have inArg := within_of_mem within inPattern left member
      have inArg' := within_of_mem within inGoal right member'
      by_cases same : later = subst
      · subst same
        refine smaller _ ?_ inArg inArg' rfl
        rw [← size, left, chased_of_mem triangular left member]
        exact Term.size_lt_of_mem member head
      · have less := unbound_lt develops.extended develops.triangular develops.within same
        exact fewer _ (count ▸ less) develops.triangular develops.within inArg inArg' rfl

/-- Unification by descent returns. -/
theorem returns_unifyWithin (triangular : Triangular subst.bindings)
    (within : subst.Within (· ∈ names)) (inPattern : pattern.Within (· ∈ names))
    (inGoal : goal.Within (· ∈ names)) :
    Returns (unifyWithin · subst pattern goal) (subst.unify pattern goal) := by
  refine descent_induction (motive := fun subst pattern goal =>
    Returns (unifyWithin · subst pattern goal) (subst.unify pattern goal)) ?_
    triangular within inPattern inGoal
  intro subst pattern goal triangular within inPattern inGoal inside
  have calls := returns_unifyChased triangular within inPattern inGoal inside
  exact Returns.call ((Substitution.returns_chase triangular pattern).bind
    ((Substitution.returns_chase triangular goal).bind calls)) fun levels => rfl

end Unification

namespace Substitution

open Unification (unifyWithin)

theorem exists_names (subst : Substitution) (terms : List Term) : ∃ names : Finset String,
    subst.Within (· ∈ names) ∧ ∀ term ∈ terms, term.Within (· ∈ names) := by
  refine ⟨(subst.bindings.flatMap (fun binding => binding.1 :: binding.2.vars) ++
    terms.flatMap (·.vars)).toFinset, fun binding member => ⟨?_, fun name inTerm => ?_⟩,
    fun term member name inTerm => ?_⟩
  all_goals simp only [List.mem_toFinset, List.mem_append, List.mem_flatMap]
  · exact .inl ⟨binding, member, .head _⟩
  · exact .inl ⟨binding, member, .tail _ (Term.mem_vars.2 inTerm)⟩
  · exact .inr ⟨term, member, Term.mem_vars.2 inTerm⟩

/-- From a substitution that the operations made, also where they failed, unification returns, and
so do bindings and matches. Each call chases its terms, and the calls that it makes are at most one
for each pair of arguments, so that it is enough that the nesting of calls has a bound. -/
theorem unification_returns {subst : Substitution} (reachable : subst.Reachable) :
    (∀ pattern goal, Returns (unifyWithin · subst pattern goal) (subst.unify pattern goal)) ∧
      (∀ name term, Returns (unifyWithin · subst (.var name) term) (subst.bind name term)) ∧
      ∀ pattern goal,
        Returns (fun levels => (unifyWithin levels subst pattern goal).map (·.mapError (·.clash)))
          (subst.matching pattern goal) := by
  have unifies (pattern goal : Term) :
      Returns (unifyWithin · subst pattern goal) (subst.unify pattern goal) := by
    obtain ⟨names, within, all⟩ := subst.exists_names [pattern, goal]
    exact Unification.returns_unifyWithin reachable.triangular within (all pattern (by simp))
      (all goal (by simp))
  exact ⟨unifies, fun name term => unifies (.var name) term,
    fun pattern goal => (unifies pattern goal).map (·.mapError (·.clash))⟩

/-- Each of the first two pairs makes the value of `a` larger, from a list of `c` on. -/
theorem unification_returns_halfway : halfway.Reachable ∧ ∃ result,
    Returns (unifyWithin · halfway (.app "Three" [.var "a", .var "d", .var "e"])
      (.app "Three" [.app "List" [.app "Pair" [.var "d", .var "d"]],
        .app "Pair" [.var "e", .var "e"], .constant "Int"])) (.ok result) ∧
    result.bindings = [("a", .app "List" [.var "b"]), ("b", .var "c"),
      ("c", .app "Pair" [.var "d", .var "d"]), ("d", .app "Pair" [.var "e", .var "e"]),
      ("e", .constant "Int")] := by
  have reachable : halfway.Reachable := .unify _ _ .empty
  have success := Unification.eq_ok_reached (by decide +kernel :
    (halfway.unify (.app "Three" [.var "a", .var "d", .var "e"])
      (.app "Three" [.app "List" [.app "Pair" [.var "d", .var "d"]],
        .app "Pair" [.var "e", .var "e"], .constant "Int"])).isOk = true)
  exact ⟨reachable, _, success ▸ (unification_returns reachable).1 _ _, by decide +kernel⟩

end Substitution
end Synthesis
