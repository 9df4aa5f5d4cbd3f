import Synthesis.Proofs.Afresh
import Synthesis.Proofs.Nesting

/-!
# Searches that are allowed to go further

How far a search goes is bounded by its fuel, and by the depth limit of the settings if there is
one. Neither changes what a search does as long as it does not hit the bound.

Results:
1. `Search.SameUnless`: a computation does what another one does, unless the other one halts for a
   reason that is excused.
2. `Solver.find_sameUnless`: so it is with a search for a goal and one that is allowed to go
   further. The excuses are that there is no fuel left and that a goal is nested too deep.
3. `Solver.find_more`, `Solver.solve_more` for more fuel, `Task.perform_wider`,
   `Solver.solve_wider` for a wider limit.
-/
namespace Synthesis

open Search

/-! ## 1. Computations that do the same -/

/-- From every arena a computation does what another one does, unless that one halts for an excused
reason. -/
structure Search.SameUnless {α : Type} (excused : Halt → Prop) (part again : Search α) : Prop where
  or_excused : ∀ arena, again.runFrom arena = part.runFrom arena ∨
    ∃ halt, excused halt ∧ (part.runFrom arena).1 = .error halt

namespace Search.SameUnless

variable {α β : Type} {excused : Halt → Prop} {part again : Search α} {arena reached : Arena}
  {result : Except Halt α}

theorem refl (part : Search α) : SameUnless excused part part := ⟨fun _ => .inl rfl⟩

theorem bind {next rest : α → Search β} (first : SameUnless excused part again)
    (later : ∀ result, SameUnless excused (next result) (rest result)) :
    SameUnless excused (part >>= next) (again >>= rest) := by
  refine ⟨fun arena => ?_⟩
  rw [runFrom_bind, runFrom_bind]
  rcases first.or_excused arena with same | ⟨halt, excuse, halted⟩
  · rw [same]
    rcases part.runFrom arena with ⟨_ | result, middle⟩
    · exact .inl rfl
    · exact (later result).or_excused middle
  · rcases ran : part.runFrom arena with ⟨other | result, middle⟩ <;> rw [ran] at halted
    · cases halted
      exact .inr ⟨halt, excuse, rfl⟩
    · cases halted

theorem eq_of (same : SameUnless excused part again) (ran : part.runFrom arena = (result, reached))
    (unexcused : ∀ halt, excused halt → result ≠ .error halt) :
    again.runFrom arena = (result, reached) := by
  rcases same.or_excused arena with same | ⟨halt, excuse, halted⟩
  · exact same.trans ran
  · rw [ran] at halted
    exact absurd halted (unexcused halt excuse)

/-- What one computation does, the other one did, or that one has halted with an excuse. -/
theorem eq_or_excused (same : SameUnless excused part again)
    (ran : again.runFrom arena = (result, reached)) :
    part.runFrom arena = (result, reached) ∨
      ∃ halt middle, excused halt ∧ part.runFrom arena = (.error halt, middle) := by
  rcases same.or_excused arena with same | ⟨halt, excuse, halted⟩
  · exact .inl (same.symm.trans ran)
  · exact .inr ⟨halt, (part.runFrom arena).2, excuse, Prod.ext halted rfl⟩

end Search.SameUnless

/-- Two ways to find values do the same for every goal, unless the first one halts for an excused
reason. -/
def Finder.SameUnless (excused : Halt → Prop) (inner again : Finder) : Prop :=
  ∀ goal branch depth, (inner goal branch depth).SameUnless excused (again goal branch depth)

namespace Solver

def limitedTo (solver : Solver) (limit : Option Nat) : Solver :=
  { solver with settings := { solver.settings with maxDepth := limit } }

/-! ## 2. One level of the search

Only the check of the depth looks at the limit. So whatever does not look for a goal is the same
computation on both sides, and `refl` says so. -/

section Levels

variable {solver : Solver} {limit wider : Option Nat} {excused : Halt → Prop}
  {inner again : Finder} (same : inner.SameUnless excused again)
include same

theorem findParams_sameUnless (rule : Signature) (depth index : Nat) (patterns : List Term)
    (branch : Branch) :
    ((solver.limitedTo limit).findParams inner rule depth index patterns branch).SameUnless excused
      ((solver.limitedTo wider).findParams again rule depth index patterns branch) := by
  induction patterns generalizing index branch with
  | nil => exact .refl _
  | cons param patterns ih =>
      refine .bind (same ..) fun found => ?_
      cases found with
      | none => exact .refl _
      | some found =>
          exact .bind (.refl _) fun _ => .bind (.refl _) fun _ => .bind (ih ..) fun _ => .refl _

theorem complete_sameUnless (offer : Offer) (renamed : Renamed) (aim : Term) (cell : Option Nat)
    (branch : Branch) (depth : Nat) :
    ((solver.limitedTo limit).complete inner offer renamed aim cell branch depth).SameUnless excused
      ((solver.limitedTo wider).complete again offer renamed aim cell branch depth) :=
  .bind (findParams_sameUnless same ..) fun _ => .refl _

theorem build_sameUnless (offer : Offer) (renamed : Renamed) (aim : Term) (branch : Branch)
    (depth : Nat) :
    ((solver.limitedTo limit).build inner offer renamed aim branch depth).SameUnless excused
      ((solver.limitedTo wider).build again offer renamed aim branch depth) := by
  have enter : ((solver.limitedTo limit).enterGoal inner aim branch depth).SameUnless excused
      ((solver.limitedTo wider).enterGoal again aim branch depth) :=
    .bind (same ..) fun _ => .refl _
  unfold build
  have asks : (solver.limitedTo wider).asksForCell aim = (solver.limitedTo limit).asksForCell aim :=
    rfl
  rw [asks]
  split
  · exact complete_sameUnless same ..
  · exact .bind enter fun _ => .bind (complete_sameUnless same ..) fun _ => .refl _

theorem tryOffer_sameUnless (offer : Offer) (asked : Term) (branch : Branch) (depth : Nat) :
    ((solver.limitedTo limit).tryOffer inner offer asked branch depth).SameUnless excused
      ((solver.limitedTo wider).tryOffer again offer asked branch depth) := by
  refine .bind (.refl _) fun stamp => .bind (.refl _) fun _ => ?_
  dsimp only
  cases branch.subst.matching (offer.rule.rename stamp).returns asked with
  | error clash => exact .refl _
  | ok subst =>
      dsimp only
      split
      · exact .bind (.refl _) fun _ => .bind (.refl _) fun _ => build_sameUnless same ..
      · exact .refl _

theorem tryOffers_sameUnless (asked : Term) (branch : Branch) (depth : Nat) (tries : List Offer) :
    ((solver.limitedTo limit).tryOffers inner asked branch depth tries).SameUnless excused
      ((solver.limitedTo wider).tryOffers again asked branch depth tries) := by
  induction tries with
  | nil => exact .refl _
  | cons offer tries ih =>
      refine .bind (tryOffer_sameUnless same ..) fun found => ?_
      cases found with
      | some found => exact .refl _
      | none => exact ih

theorem findStep_sameUnless
    (checked : ∀ goal depth, ((solver.limitedTo limit).checkDepth goal depth).SameUnless excused
      ((solver.limitedTo wider).checkDepth goal depth)) :
    ((solver.limitedTo limit).findStep inner).SameUnless excused
      ((solver.limitedTo wider).findStep again) := by
  intro sought branch depth
  refine .bind (.refl _) fun _ => .bind (checked ..) fun _ => ?_
  cases known? (branch.subst.apply sought) branch.memo with
  | some entry => exact .refl _
  | none => exact .bind (.refl _) fun _ => .bind (tryOffers_sameUnless same ..) fun _ => .refl _

end Levels

/-! ## 3. Searches at all levels -/

variable {solver : Solver}

theorem start_limitedTo (limit : Option Nat) (values : List Value) :
    (solver.limitedTo limit).start values = solver.start values := by
  have enrolled (providers : Providers) : (solver.limitedTo limit).enrollAll providers values =
      solver.enrollAll providers values := by
    induction values generalizing providers with
    | nil => rfl
    | cons value values ih =>
        simp only [enrollAll, ih]
        rfl
  rw [start, start, enrolled]

/-- A search for a goal does the same if it is allowed to go further, unless it halts for an excused
reason. -/
theorem find_sameUnless {limit wider : Option Nat} {excused : Halt → Prop}
    (checked : ∀ goal depth, ((solver.limitedTo limit).checkDepth goal depth).SameUnless excused
      ((solver.limitedTo wider).checkDepth goal depth))
    {fuel more : Nat} (le : fuel ≤ more) (spent : fuel = more ∨ excused .outOfFuel) :
    ((solver.limitedTo limit).find fuel).SameUnless excused
      ((solver.limitedTo wider).find more) := by
  induction fuel generalizing more with
  | zero =>
      cases more with
      | zero => exact fun _ _ _ => .refl _
      | succ more =>
          have excuse := spent.resolve_left (by omega)
          exact fun _ _ _ => ⟨fun _ => .inr ⟨.outOfFuel, excuse, rfl⟩⟩
  | succ fuel ih =>
      cases more with
      | zero => omega
      | succ more => exact findStep_sameUnless (ih (by omega) (spent.imp_left (by omega))) checked

/-- A whole search does what the search for its goal does. -/
theorem solve_sameUnless {limit wider : Option Nat} {excused : Halt → Prop} {fuel more : Nat}
    (same : ((solver.limitedTo limit).find fuel).SameUnless excused
      ((solver.limitedTo wider).find more)) (goal : Term) (values : List Value) :
    ((solver.limitedTo limit).solve fuel goal values).SameUnless excused
      ((solver.limitedTo wider).solve more goal values) := by
  refine .bind ?_ fun _ => .refl _
  unfold derive
  split
  · rw [start_limitedTo, start_limitedTo]
    refine .bind (.refl _) fun branch => .bind (.refl _) fun _ => .bind (same ..) fun found => ?_
    cases found with
    | none => exact .refl _
    | some found => exact .refl _
  · exact .refl _

/-! ## 4. More fuel -/

theorem find_more {fuel more : Nat} (le : fuel ≤ more) :
    (solver.find fuel).SameUnless (· = .outOfFuel) (solver.find more) := by
  have same : ((solver.limitedTo solver.settings.maxDepth).find fuel).SameUnless (· = .outOfFuel)
      ((solver.limitedTo solver.settings.maxDepth).find more) :=
    find_sameUnless (fun _ _ => .refl _) le (.inr rfl)
  exact same

theorem solve_more {fuel more : Nat} (le : fuel ≤ more) (goal : Term) (values : List Value) :
    (solver.solve fuel goal values).SameUnless (· = .outOfFuel)
      (solver.solve more goal values) := by
  have same : ((solver.limitedTo solver.settings.maxDepth).solve fuel goal values).SameUnless
      (· = .outOfFuel) ((solver.limitedTo solver.settings.maxDepth).solve more goal values) :=
    solve_sameUnless (find_more le) goal values
  exact same

theorem settles_of_solve {fuel : Nat} {goal : Term} {values : List Value} {arena reached : Arena}
    {result : Except Halt Value}
    (ran : (solver.solve fuel goal values).runFrom arena = (result, reached))
    (ended : result ≠ .error .outOfFuel) :
    Settles (fun fuel => solver.solve fuel goal values) arena result reached :=
  ⟨fuel, fun _ le => (solve_more le goal values).eq_of ran (by rintro _ rfl; exact ended)⟩

end Solver

/-- If a fuel is enough for a computation, then with more of it the computation does the same. -/
theorem Search.ends_of_more {α : Type} {part : Nat → Search α} {least : Nat} {arena : Arena}
    (more : ∀ fuel, least ≤ fuel → (part least).SameUnless (· = .outOfFuel) (part fuel))
    (enough : ∀ reached, (part least).runFrom arena ≠ (.error .outOfFuel, reached)) :
    ∃ result reached, result ≠ .error .outOfFuel ∧
      ∀ fuel, least ≤ fuel → (part fuel).runFrom arena = (result, reached) := by
  rcases ran : (part least).runFrom arena with ⟨result, reached⟩
  have ended : result ≠ .error .outOfFuel := by
    rintro rfl
    exact enough reached ran
  exact ⟨result, reached, ended, fun fuel le =>
    (more fuel le).eq_of ran (by rintro _ rfl; exact ended)⟩

/-! ## 5. Wider limits -/

/-- A search was stopped since a goal is nested too deep. -/
def Halt.TooDeep (halt : Halt) : Prop := ∃ goal limit, halt = .failed (.depthLimit goal limit)

section

variable {solver : Solver} {limit : Nat} {wider : Option Nat}
  (le : ∀ other, wider = some other → limit ≤ other)
include le

theorem Solver.allows_wider {depth : Nat}
    (allows : (solver.limitedTo (some limit)).Allows depth) :
    (solver.limitedTo wider).Allows depth :=
  fun other limited => Nat.le_trans (allows limit rfl) (le other limited)

theorem Solver.checkDepth_wider (goal : Term) (depth : Nat) :
    ((solver.limitedTo (some limit)).checkDepth goal depth).SameUnless Halt.TooDeep
      ((solver.limitedTo wider).checkDepth goal depth) := by
  refine ⟨fun arena => ?_⟩
  rcases (solver.limitedTo (some limit)).allows_or_exceeds depth with
    allows | ⟨most, limited, deep⟩
  · have also := allows_wider le allows
    exact .inl (by rw [runFrom_checkDepth_of_allows allows, runFrom_checkDepth_of_allows also])
  · rw [runFrom_checkDepth_of_exceeds limited deep]
    exact .inr ⟨_, ⟨goal, most, rfl⟩, rfl⟩

theorem Solver.find_wider (fuel : Nat) :
    ((solver.limitedTo (some limit)).find fuel).SameUnless Halt.TooDeep
      ((solver.limitedTo wider).find fuel) :=
  find_sameUnless (checkDepth_wider le) (Nat.le_refl fuel) (.inl rfl)

theorem Task.perform_wider {α : Type} (task : Task α) :
    (task.perform (solver.limitedTo (some limit))).SameUnless Halt.TooDeep
      (task.perform (solver.limitedTo wider)) := by
  cases task with
  | goal => exact Solver.find_wider le ..
  | offers => exact Solver.tryOffers_sameUnless (Solver.find_wider le _) ..
  | build => exact Solver.build_sameUnless (Solver.find_wider le _) ..
  | complete => exact Solver.complete_sameUnless (Solver.find_wider le _) ..
  | params => exact Solver.findParams_sameUnless (Solver.find_wider le _) ..
  | invoke => exact .refl _

theorem Solver.solve_wider (fuel : Nat) (goal : Term) (values : List Value) :
    ((solver.limitedTo (some limit)).solve fuel goal values).SameUnless Halt.TooDeep
      ((solver.limitedTo wider).solve fuel goal values) :=
  solve_sameUnless (find_wider le fuel) goal values

end

end Synthesis
