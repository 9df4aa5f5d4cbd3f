import Synthesis.Substitution.Triangular

/-!
# The first difference of two terms

Two terms are compared from left to right until they differ for the first time. The pairs of terms
that stand after the difference wait to be compared, until the difference is settled. Main
statement: if the difference is at a variable that does not occur on the other side, binding the
variable leaves fewer variables in the pairs that wait (`variableCount_push_lt`).
-/
namespace Synthesis
namespace Unification

/-! ## 1. The first difference -/

inductive Difference where
  /-- A variable stands against a different term. -/
  | atVariable (name : String) (term : Term)
  /-- Two applications stand against each other whose constructors or argument counts differ. -/
  | atConstructor (pattern goal : Term)
deriving DecidableEq

mutual
/-- The first difference of two terms, if they differ, and the pairs of terms after it. Of two
different variables, the one in the first term is named. -/
def firstDifference : Term → Term → Option (Difference × List (Term × Term))
  | .var name, .var other =>
      if name = other then none else some (.atVariable name (.var other), [])
  | .var name, .app head args => some (.atVariable name (.app head args), [])
  | .app head args, .var name => some (.atVariable name (.app head args), [])
  | .app head args, .app head' args' =>
      if head = head' ∧ args.length = args'.length then firstDifferenceAmong args args'
      else some (.atConstructor (.app head args) (.app head' args'), [])

/-- The first difference of two lists of terms of the same length, and the pairs of terms after
it. -/
def firstDifferenceAmong : List Term → List Term → Option (Difference × List (Term × Term))
  | term :: terms, term' :: terms' =>
      match firstDifference term term' with
      | some (difference, rest) => some (difference, rest ++ terms.zip terms')
      | none => firstDifferenceAmong terms terms'
  | _, _ => none
end

def Difference.mentions : Difference → String → Bool
  | .atVariable name term, other => name == other || term.mentions other
  | .atConstructor pattern goal, other => pattern.mentions other || goal.mentions other

/-- The first difference and the pairs after it concern variables of the two terms only. -/
theorem mentions_of_firstDifference {p g : Term} {difference : Difference}
    {rest : List (Term × Term)} (first : firstDifference p g = some (difference, rest))
    (name : String) :
    (difference.mentions name = true → p.mentions name = true ∨ g.mentions name = true) ∧
      ∀ pair ∈ rest, (pair.1.mentions name = true → p.mentions name = true) ∧
        (pair.2.mentions name = true → g.mentions name = true) := by
  induction p generalizing g difference rest with
  | var v =>
      cases g with
      | var w =>
          by_cases same : v = w
          · simp [firstDifference, same] at first
          · simp only [firstDifference, same, if_false, Option.some.injEq, Prod.mk.injEq] at first
            obtain ⟨rfl, rfl⟩ := first
            simp [Difference.mentions]
      | app head args =>
          simp only [firstDifference, Option.some.injEq, Prod.mk.injEq] at first
          obtain ⟨rfl, rfl⟩ := first
          simp [Difference.mentions]
  | app head args ih =>
      cases g with
      | var w =>
          simp only [firstDifference, Option.some.injEq, Prod.mk.injEq] at first
          obtain ⟨rfl, rfl⟩ := first
          simp [Difference.mentions, or_comm]
      | app head' args' =>
          by_cases fits : head = head' ∧ args.length = args'.length
          · rw [firstDifference, if_pos fits] at first
            simp only [Term.mentions_app]
            clear fits
            induction args generalizing args' with
            | nil => simp [firstDifferenceAmong] at first
            | cons arg args ihArgs =>
                cases args' with
                | nil => simp [firstDifferenceAmong] at first
                | cons arg' args' =>
                    simp only [firstDifferenceAmong] at first
                    simp only [List.any_cons, Bool.or_eq_true]
                    split at first
                    · next found =>
                        simp only [Option.some.injEq, Prod.mk.injEq] at first
                        obtain ⟨rfl, rfl⟩ := first
                        obtain ⟨here, after⟩ := ih arg (.head _) found
                        refine ⟨fun h => (here h).imp .inl .inl, fun pair member => ?_⟩
                        rcases List.mem_append.1 member with inRest | inZip
                        · exact (after pair inRest).imp (.inl ∘ ·) (.inl ∘ ·)
                        · have ⟨inArgs, inArgs'⟩ :=
                            List.of_mem_zip (a := pair.1) (b := pair.2) inZip
                          exact ⟨fun h => .inr (List.any_eq_true.2 ⟨_, inArgs, h⟩),
                            fun h => .inr (List.any_eq_true.2 ⟨_, inArgs', h⟩)⟩
                    · obtain ⟨here, after⟩ :=
                        ihArgs (fun other member => ih other (.tail _ member)) _ first
                      exact ⟨fun h => (here h).imp .inr .inr,
                        fun pair member => (after pair member).imp (.inr ∘ ·) (.inr ∘ ·)⟩
          · simp only [firstDifference, fits, if_false, Option.some.injEq, Prod.mk.injEq] at first
            obtain ⟨rfl, rfl⟩ := first
            simp [Difference.mentions]

/-- The first difference in pairs of terms under bindings, and the pairs after it. The bindings are
applied to a pair when it is reached. -/
def nextDifference (found : Substitution) :
    List (Term × Term) → Option (Difference × List (Term × Term))
  | [] => none
  | (p, g) :: pairs =>
      match firstDifference (found.apply p) (found.apply g) with
      | some (difference, rest) => some (difference, rest ++ pairs)
      | none => nextDifference found pairs

/-! ## 2. The variables that are left -/

def varsOfPairs (pairs : List (Term × Term)) : List String :=
  pairs.foldl (fun found pair => pair.2.addVars (pair.1.addVars found)) []

def variableCount (pairs : List (Term × Term)) : Nat := (varsOfPairs pairs).length

theorem mem_varsOfPairs {pairs : List (Term × Term)} {name : String} :
    name ∈ varsOfPairs pairs ↔
      ∃ pair ∈ pairs, pair.1.mentions name = true ∨ pair.2.mentions name = true := by
  suffices all : ∀ found : List String,
      name ∈ pairs.foldl (fun found pair => pair.2.addVars (pair.1.addVars found)) found ↔
        name ∈ found ∨
          ∃ pair ∈ pairs, pair.1.mentions name = true ∨ pair.2.mentions name = true by
    simpa [varsOfPairs] using all []
  induction pairs with
  | nil => simp
  | cons pair pairs ih =>
      intro found
      simp only [List.foldl_cons, ih, Term.mem_addVars, List.mem_cons, or_and_right, exists_or,
        exists_eq_left, or_assoc]

theorem nodup_varsOfPairs (pairs : List (Term × Term)) : (varsOfPairs pairs).Nodup := by
  suffices all : ∀ found : List String, found.Nodup →
      (pairs.foldl (fun found pair => pair.2.addVars (pair.1.addVars found)) found).Nodup from
    all [] .nil
  induction pairs with
  | nil => exact fun _ distinct => distinct
  | cons pair pairs ih =>
      exact fun _ distinct => ih _ (Term.nodup_addVars (Term.nodup_addVars distinct _) _)

theorem length_le_of_subset {xs ys : List String} (distinct : xs.Nodup)
    (within : ∀ x ∈ xs, x ∈ ys) : xs.length ≤ ys.length := by
  induction xs generalizing ys with
  | nil => exact Nat.zero_le _
  | cons x xs ih =>
      have ⟨fresh, rest⟩ := List.nodup_cons.1 distinct
      have shorter : xs.length ≤ (ys.erase x).length := ih rest fun y member =>
        (List.mem_erase_of_ne fun same : y = x => fresh (same ▸ member)).2
          (within y (.tail _ member))
      have present := within x List.mem_cons_self
      have := List.length_erase_of_mem present
      have := List.length_pos_of_mem present
      simp only [List.length_cons]
      omega

theorem length_lt_of_subset {xs ys : List String} (distinct : xs.Nodup) {name : String}
    (present : name ∈ ys) (absent : name ∉ xs) (within : ∀ x ∈ xs, x ∈ ys) :
    xs.length < ys.length :=
  length_le_of_subset (List.nodup_cons.2 ⟨absent, distinct⟩) fun x member => by
    cases member with
    | head => exact present
    | tail _ member => exact within x member

/-! ## 3. Pairs under bindings -/

def applyPairs (found : Substitution) (pairs : List (Term × Term)) : List (Term × Term) :=
  pairs.map fun pair => (found.apply pair.1, found.apply pair.2)

theorem mem_varsOfPairs_applyPairs {found : Substitution} {pairs : List (Term × Term)}
    {name : String} :
    name ∈ varsOfPairs (applyPairs found pairs) ↔
      ∃ pair ∈ pairs, (found.apply pair.1).mentions name = true ∨
        (found.apply pair.2).mentions name = true := by
  simp only [mem_varsOfPairs, applyPairs, List.mem_map]
  constructor
  · rintro ⟨-, ⟨pair, member, rfl⟩, inPair⟩
    exact ⟨pair, member, inPair⟩
  · rintro ⟨pair, member, inPair⟩
    exact ⟨_, ⟨pair, member, rfl⟩, inPair⟩

/-- The pairs after the first difference of terms to which triangular bindings are applied stay as
they are when the bindings are applied again. -/
theorem apply_of_mem_firstDifference {found : Substitution}
    (triangular : Substitution.Triangular found.bindings) {p g : Term}
    {difference : Difference} {rest : List (Term × Term)}
    (first : firstDifference (found.apply p) (found.apply g) = some (difference, rest))
    {pair : Term × Term} (member : pair ∈ rest) :
    found.apply pair.1 = pair.1 ∧ found.apply pair.2 = pair.2 := by
  have absent (term : Term) {binding} (inFound : binding ∈ found.bindings) :=
    Bool.eq_false_iff.1 (Substitution.mentions_apply_of_bound triangular inFound term)
  have within (name : String) := (mentions_of_firstDifference first name).2 pair member
  exact ⟨Substitution.apply_of_unbound fun binding inFound =>
      Bool.eq_false_iff.2 fun h => absent p inFound ((within binding.1).1 h),
    Substitution.apply_of_unbound fun binding inFound =>
      Bool.eq_false_iff.2 fun h => absent g inFound ((within binding.1).2 h)⟩

/-- The next difference in pairs under triangular bindings, and the pairs after it, concern
variables of these pairs only. -/
theorem mem_of_nextDifference {found : Substitution}
    (triangular : Substitution.Triangular found.bindings) {pairs rest : List (Term × Term)}
    {difference : Difference} (next : nextDifference found pairs = some (difference, rest))
    (name : String) :
    (difference.mentions name = true → name ∈ varsOfPairs (applyPairs found pairs)) ∧
      (name ∈ varsOfPairs (applyPairs found rest) →
        name ∈ varsOfPairs (applyPairs found pairs)) := by
  simp only [mem_varsOfPairs_applyPairs]
  induction pairs with
  | nil => simp [nextDifference] at next
  | cons pair pairs ih =>
      simp only [nextDifference] at next
      split at next
      · next first =>
          simp only [Option.some.injEq, Prod.mk.injEq] at next
          obtain ⟨rfl, rfl⟩ := next
          have ⟨here, after⟩ := mentions_of_firstDifference first name
          refine ⟨fun h => ⟨pair, .head _, here h⟩, ?_⟩
          rintro ⟨other, member, inOther⟩
          rcases List.mem_append.1 member with inRest | inPairs
          · have ⟨left, right⟩ := apply_of_mem_firstDifference triangular first inRest
            rw [left, right] at inOther
            exact ⟨pair, .head _, inOther.imp (after other inRest).1 (after other inRest).2⟩
          · exact ⟨other, .tail _ inPairs, inOther⟩
      · have ⟨here, after⟩ := ih next
        exact ⟨fun h => (here h).imp fun _ => .imp_left (.tail _),
          fun h => (after h).imp fun _ => .imp_left (.tail _)⟩

theorem variableCount_push_lt {found : Substitution}
    (triangular : Substitution.Triangular found.bindings) {pairs rest : List (Term × Term)}
    {name : String} {term : Term}
    (next : nextDifference found pairs = some (.atVariable name term, rest))
    (proper : term.mentions name = false) :
    variableCount (applyPairs (found.push name term) rest) <
      variableCount (applyPairs found pairs) := by
  have inside (other : String) (h : name = other ∨ term.mentions other = true) :
      other ∈ varsOfPairs (applyPairs found pairs) :=
    (mem_of_nextDifference triangular next other).1 (by simpa [Difference.mentions] using h)
  have left (other : String)
      (h : other ∈ varsOfPairs (applyPairs (found.push name term) rest)) :
      (other ∈ varsOfPairs (applyPairs found rest) ∧ other ≠ name) ∨
        term.mentions other = true := by
    rw [mem_varsOfPairs_applyPairs] at h ⊢
    obtain ⟨pair, member, inPair⟩ := h
    simp only [Substitution.apply_push, Term.mentions_replace] at inPair
    rcases inPair with (⟨h, differs⟩ | ⟨-, h⟩) | (⟨h, differs⟩ | ⟨-, h⟩)
    · exact .inl ⟨⟨pair, member, .inl h⟩, differs⟩
    · exact .inr h
    · exact .inl ⟨⟨pair, member, .inr h⟩, differs⟩
    · exact .inr h
  refine length_lt_of_subset (nodup_varsOfPairs _) (inside name (.inl rfl)) ?_ ?_
  · intro h
    rcases left name h with ⟨-, differs⟩ | h
    · exact differs rfl
    · simp [h] at proper
  · intro other h
    rcases left other h with ⟨inRest, -⟩ | h
    · exact (mem_of_nextDifference triangular next other).2 inRest
    · exact inside other (.inr h)

end Unification
end Synthesis
