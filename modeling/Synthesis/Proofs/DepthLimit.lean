import Synthesis.Proofs.Allowances
import Synthesis.Proofs.Determined
import Synthesis.Proofs.Knots

/-!
# The depth limit

A search with a depth limit stops as soon as it is asked for a goal that is nested too deep. It
stops for good: no part of it takes this for a goal that cannot be built. So up to that point it
does what a search without a limit does.

Results:
1. `find_ends_of_limit`: with a limit and natural numbers for the depths, every search ends.
2. `solve_within_limit`: a search that ends in another way ends so under every wider limit, after
   the same calls, and the limit stops a search if and only if the search without a limit demands a
   goal that is nested too deep (`Solver.Demands`).
-/
namespace Synthesis

open Search

/-! ## 1. The end of each search -/

/-- The fuel of a part of a search suffices to nest goals deeper than a limit. -/
def Task.Exceeds (limit : Nat) : {α : Type} → Task α → Prop
  | _, .goal fuel _ _ depth => 0 < fuel ∧ limit + 1 < fuel + depth
  | _, .offers fuel _ _ depth _ | _, .build fuel _ _ _ _ depth
  | _, .complete fuel _ _ _ _ _ depth | _, .params fuel _ depth _ _ _ =>
      0 < fuel ∧ limit < fuel + depth
  | _, .invoke .. => True

/-- A goal at an allowed depth takes one level of fuel, and its parameters are one level deeper. -/
theorem Task.Next.keepsExceeds {solver : Solver} {limit : Nat}
    (natural : solver.depths = .unbounded) (limited : solver.settings.maxDepth = some limit)
    {α β : Type} {task : Task α} {part : Task β} {arena middle : Arena}
    (next : task.Next solver arena part middle) (exceeds : task.Exceeds limit) :
    part.Exceeds limit := by
  cases next with
  | tries _ allows =>
      have within := allows limit limited
      simp only [Exceeds] at exceeds ⊢
      omega
  | probe | param =>
      simp only [Exceeds, natural, DepthCount.next_unbounded] at exceeds ⊢
      omega
  | body => trivial
  | afterMismatch | afterOpen | attempt | afterAttempt | plain | withCell | guarded | params
  | afterParam => exact exceeds

/-- With a depth limit and natural numbers for the depths, a search for a goal ends, whatever branch
and depth it starts from: with enough fuel it does not run out of it, and always does the same. -/
theorem find_ends_of_limit {solver : Solver} {limit : Nat} (natural : solver.depths = .unbounded)
    (limited : solver.settings.maxDepth = some limit) (goal : Term) (branch : Branch) (depth : Nat)
    (arena : Arena) :
    ∃ result reached, result ≠ .error .outOfFuel ∧
      ∀ fuel, limit + 1 - depth < fuel →
        (solver.find fuel goal branch depth).runFrom arena = (result, reached) := by
  refine Search.ends_of_more (fun _ le => Solver.find_more le ..) ?_
  exact Task.never_runsOut (motive := fun task _ => task.Exceeds limit)
    (fun next => next.keepsExceeds natural limited)
    (fun _ _ _ _ exceeds => Nat.lt_irrefl 0 exceeds.1) ⟨by omega, by omega⟩

/-- A shape with a tower that needs a taller one, and with a hut that needs a roof. -/
def towering : ShapeDecl where
  kind := .provider 0
  name := "Towers"
  bearing := true
  base := none
  rules := [
    .producing "tower" (.app "Tower" [.var "a"]) [.app "Tower" [.app "Box" [.var "a"]]],
    .producing "hut" (.constant "Hut") [.constant "Roof"],
    .producing "roof" (.constant "Roof") []]

def toweringSolver : Solver := ⟨⟨[towering.toShape]⟩, .silent, .unbounded⟩

def toweringHost : Value := .mk 0 (.provider 0 "p" none)

theorem find_ends_of_limit_tower :
    (toweringSolver.limitedTo (some 8)).depths = .unbounded ∧
    (toweringSolver.limitedTo (some 8)).settings.maxDepth = some 8 ∧
    ∃ result reached, result ≠ .error .outOfFuel ∧
      ∀ fuel, 8 + 1 - 0 < fuel →
        ((toweringSolver.limitedTo (some 8)).find fuel (.app "Tower" [.constant "Int"])
          (toweringSolver.startingBranch [toweringHost]) 0).runFrom ⟨⟨1, []⟩, 0, []⟩ =
            (result, reached) :=
  ⟨rfl, rfl, find_ends_of_limit rfl rfl _ _ 0 _⟩

/-! ## 2. Parts of a search under two limits -/

def Task.Limited (solver : Solver) {α : Type} (task : Task α) (arena : Arena) : Prop :=
  ∃ halt reached, halt.TooDeep ∧ (task.perform solver).runFrom arena = (.error halt, reached)

theorem Task.Next.limited {solver : Solver} {α β : Type} {task : Task α} {part : Task β}
    {arena middle : Arena} (next : task.Next solver arena part middle)
    (limited : part.Limited solver middle) : task.Limited solver arena := by
  obtain ⟨halt, reached, deep, ends⟩ := limited
  exact ⟨halt, reached, deep, next.halts ends⟩

section

variable {solver : Solver} {limit : Nat} {wider : Option Nat}
  (le : ∀ other, wider = some other → limit ≤ other) {α β : Type} {task : Task α} {part : Task β}
  {arena middle : Arena}
include le

/-- Under a wider limit a part of a search comes to whatever it came to. -/
theorem Task.Next.widen (next : task.Next (solver.limitedTo (some limit)) arena part middle) :
    task.Next (solver.limitedTo wider) arena part middle := by
  have again {γ : Type} {first : Task γ} {result : γ} {start last : Arena}
      (ran : (first.perform (solver.limitedTo (some limit))).runFrom start = (.ok result, last)) :
      (first.perform (solver.limitedTo wider)).runFrom start = (.ok result, last) :=
    (Task.perform_wider le first).eq_of ran fun _ _ same => by cases same
  cases next with
  | tries same allows unknown => exact .tries same (Solver.allows_wider le allows) unknown
  | afterMismatch matched => exact .afterMismatch matched
  | afterOpen matched ground => exact .afterOpen matched ground
  | attempt matched same ground => exact .attempt matched same ground
  | afterAttempt matched same ground first => exact .afterAttempt matched same ground (again first)
  | plain unentered => exact .plain unentered
  | probe entered => exact .probe entered
  | withCell entered first cell => exact .withCell entered (again first) cell
  | guarded entered first => exact .guarded entered (again first)
  | params => exact .params
  | body first => exact .body (again first)
  | param => exact .param
  | afterParam first => exact .afterParam (again first)

theorem Task.ComesTo.widen
    (comes : task.ComesTo (solver.limitedTo (some limit)) arena part middle) :
    task.ComesTo (solver.limitedTo wider) arena part middle := by
  induction comes with
  | here => exact .here
  | next first _ ih => exact .next (first.widen le) ih

/-- What a part of a search comes to under a wider limit, it comes to, or the limit stops it. -/
theorem Task.Next.narrow (next : task.Next (solver.limitedTo wider) arena part middle) :
    task.Next (solver.limitedTo (some limit)) arena part middle ∨
      task.Limited (solver.limitedTo (some limit)) arena := by
  -- a part before it did the same, or the limit stopped that one
  have again {γ : Type} {first : Task γ} {result : γ} {start last : Arena}
      (ran : (first.perform (solver.limitedTo wider)).runFrom start = (.ok result, last))
      (before : task.Next (solver.limitedTo (some limit)) arena first start)
      (after : (first.perform (solver.limitedTo (some limit))).runFrom start = (.ok result, last) →
        task.Next (solver.limitedTo (some limit)) arena part middle) :
      task.Next (solver.limitedTo (some limit)) arena part middle ∨
        task.Limited (solver.limitedTo (some limit)) arena := by
    rcases (Task.perform_wider le first).eq_or_excused ran with same | stopped
    · exact .inl (after same)
    · exact .inr (before.limited stopped)
  cases next with
  | @tries _ depth _ _ _ _ same _ unknown =>
      rcases (solver.limitedTo (some limit)).allows_or_exceeds depth with
        allows | ⟨other, limited, deep⟩
      · exact .inl (.tries same allows unknown)
      · exact .inr ⟨_, _, ⟨_, _, rfl⟩, Task.Stops.halts (.tooDeep same limited deep)⟩
  | afterMismatch matched => exact .inl (.afterMismatch matched)
  | afterOpen matched ground => exact .inl (.afterOpen matched ground)
  | attempt matched same ground => exact .inl (.attempt matched same ground)
  | afterAttempt matched same ground first =>
      exact again first (.attempt matched same ground) (.afterAttempt matched same ground)
  | plain unentered => exact .inl (.plain unentered)
  | probe entered => exact .inl (.probe entered)
  | withCell entered first cell =>
      exact again first (.probe entered) fun first => .withCell entered first cell
  | guarded entered first => exact again first (.probe entered) (.guarded entered)
  | params => exact .inl .params
  | body first => exact again first .params .body
  | param => exact .inl .param
  | afterParam first => exact again first .param .afterParam

/-- If the limit stops a part to which a part of a search comes under a wider limit, it stops that
one. -/
theorem Task.ComesTo.limited (comes : task.ComesTo (solver.limitedTo wider) arena part middle)
    (limited : part.Limited (solver.limitedTo (some limit)) middle) :
    task.Limited (solver.limitedTo (some limit)) arena := by
  induction comes with
  | here => exact limited
  | next first _ ih =>
      rcases first.narrow le with same | stopped
      · exact same.limited (ih limited)
      · exact stopped

end

/-! ## 3. What the limit stops -/

def Task.Tries (registry : Registry) : {α : Type} → Task α → Prop
  | _, .offers _ _ _ _ tries => Offers registry tries
  | _, .build _ offer _ _ _ _ | _, .complete _ offer _ _ _ _ _ | _, .invoke offer _ _ _ _ _ _ =>
      registry.Declares offer.rule
  | _, .goal .. | _, .params .. => True

/-- A part of a search knows of no rules but those of the registry. -/
structure Task.Registered (solver : Solver) {α : Type} (task : Task α) : Prop where
  offers : Offers solver.registry task.start.providers.offers
  tries : task.Tries solver.registry

theorem Task.Next.keepsRegistered {solver : Solver} {α β : Type} {task : Task α} {part : Task β}
    {arena middle : Arena} (next : task.Next solver arena part middle)
    (registered : task.Registered solver) : part.Registered solver := by
  obtain ⟨offers, tries⟩ := registered
  have after {γ : Type} {first : Task γ} {result : γ} {start last : Arena} {later : Branch}
      (ran : (first.perform solver).runFrom start = (.ok result, last))
      (before : Offers solver.registry first.start.providers.offers)
      (finished : first.finish? result = some later) :
      Offers solver.registry later.providers.offers :=
    (Runs.of_perform ran).keepsProviders (fun providers => Offers solver.registry providers.offers)
      (fun _ value offers => offers.enroll value) before rfl finished
  cases next with
  | tries => exact ⟨offers, offers⟩
  | afterMismatch | afterOpen | afterAttempt =>
      exact ⟨offers, fun offer member => tries offer (.tail _ member)⟩
  | attempt => exact ⟨offers, tries _ (.head _)⟩
  | plain | withCell | guarded => exact ⟨offers, tries⟩
  | probe | params | param => exact ⟨offers, trivial⟩
  | body first => exact ⟨after first offers rfl, tries⟩
  | afterParam first => exact ⟨(after first offers rfl).enroll _, trivial⟩

/-- If no rule body raises this failure itself, what the limit stops has come to a goal that is
nested too deep. -/
theorem Task.comesTo_of_limited {solver : Solver} {limit : Nat}
    (bodies : ∀ goal most, ¬ solver.Raises (.depthLimit goal most)) {α : Type} {task : Task α}
    {arena : Arena} (registered : task.Registered solver)
    (limited : task.Limited (solver.limitedTo (some limit)) arena) :
    ∃ left sought branch depth middle, limit < depth ∧
      task.ComesTo (solver.limitedTo (some limit)) arena (.goal (left + 1) sought branch depth)
        middle := by
  obtain ⟨_, reached, ⟨goal, most, rfl⟩, ends⟩ := limited
  obtain ⟨_, part, middle, comes, stops⟩ := Task.halts_iff.1 ends
  have still : part.Registered (solver.limitedTo (some limit)) :=
    comes.keeps (motive := fun task _ => task.Registered (solver.limitedTo (some limit)))
      (fun next => next.keepsRegistered) ⟨registered.offers, registered.tries⟩
  cases stops with
  | tooDeep same limited beyond =>
      cases limited
      exact ⟨_, _, _, _, _, beyond, comes⟩
  | noView closed unseen =>
      obtain ⟨_, impossible⟩ := Solver.inputs_error unseen
      cases impossible
  | bodyFails closed seen ran =>
      exact absurd ⟨_, _, _, still.tries, by rw [ran]⟩ (bodies goal most)

/-! ## 4. Whole searches -/

/-- With some fuel, a whole search demands a goal at a depth. -/
def Solver.Demands (solver : Solver) (fuel : Nat) (goal : Term) (values : List Value)
    (arena : Arena) (depth : Nat) : Prop :=
  ∃ first left sought branch reached, solver.Begins goal values arena first ∧
    (Task.goal fuel goal (solver.startingBranch values) 0).ComesTo solver first
      (.goal (left + 1) sought branch depth) reached

theorem Solver.begins_limitedTo {solver : Solver} {limit : Option Nat} {goal : Term}
    {values : List Value} {arena first : Arena} :
    (solver.limitedTo limit).Begins goal values arena first ↔
      solver.Begins goal values arena first := by
  constructor
  · rintro ⟨ground, taken⟩
    rw [start_limitedTo] at taken
    exact ⟨ground, taken⟩
  · rintro ⟨ground, taken⟩
    rw [← solver.start_limitedTo limit] at taken
    exact ⟨ground, taken⟩

section

variable {solver : Solver} {limit : Nat} {goal : Term} {values : List Value} {arena : Arena}

/-- If the limit stops a whole search, the search without a limit demands a goal that is nested too
deep. -/
theorem Solver.demands_of_tooDeep
    (bodies : ∀ goal most, ¬ solver.Raises (.depthLimit goal most)) {fuel : Nat} {reached : Arena}
    {halt : Halt} (deep : halt.TooDeep)
    (ends : ((solver.limitedTo (some limit)).solve fuel goal values).runFrom arena =
      (.error halt, reached)) :
    ∃ depth, limit < depth ∧ (solver.limitedTo none).Demands fuel goal values arena depth := by
  obtain ⟨sought, most, rfl⟩ := deep
  rcases solve_halted ends with impossible | ⟨_, impossible⟩ | impossible | ⟨first, begins, ends⟩
  iterate 3 cases impossible
  have registered : (Task.goal fuel goal (solver.startingBranch values) 0).Registered solver :=
    ⟨offers_startingBranch solver values, trivial⟩
  obtain ⟨left, sought, branch, depth, middle, beyond, comes⟩ :=
    Task.comesTo_of_limited bodies registered ⟨_, reached, ⟨sought, most, rfl⟩, ends⟩
  exact ⟨depth, beyond, first, left, sought, branch, middle,
    begins_limitedTo.2 (begins_limitedTo.1 begins), comes.widen fun _ none => by cases none⟩

/-- If the search without a limit demands a goal that is nested too deep, the limit stops the
search. -/
theorem Solver.tooDeep_of_demands {fuel depth : Nat} (beyond : limit < depth)
    (demands : (solver.limitedTo none).Demands fuel goal values arena depth) :
    ∃ halt reached, halt.TooDeep ∧
      ((solver.limitedTo (some limit)).solve fuel goal values).runFrom arena =
        (.error halt, reached) := by
  obtain ⟨first, left, sought, branch, middle, begins, comes⟩ := demands
  have stopped : (Task.goal (left + 1) sought branch depth).Limited
      (solver.limitedTo (some limit)) middle :=
    ⟨_, _, ⟨_, limit, rfl⟩, Task.Stops.halts (.tooDeep rfl rfl beyond)⟩
  obtain ⟨halt, reached, deep, ends⟩ := comes.limited (fun _ none => by cases none) stopped
  exact ⟨halt, reached, deep,
    (begins_limitedTo.2 (begins_limitedTo.1 begins)).solve_halts ends⟩

end

/-- Let no rule body raise the failure of the depth limit itself. A search with a limit that ends in
another way makes the same calls and ends in the same way under every wider limit. The limit stops a
search if and only if the search without a limit demands a goal that is nested too deep. -/
theorem solve_within_limit {solver : Solver} {limit : Nat}
    (bodies : ∀ goal most, ¬ solver.Raises (.depthLimit goal most)) (goal : Term)
    (values : List Value) (arena : Arena) :
    (∀ wider, (∀ other, wider = some other → limit ≤ other) → ∀ fuel result reached,
      (∀ deep most, result ≠ .error (.failed (.depthLimit deep most))) →
      ((solver.limitedTo (some limit)).solve fuel goal values).runFrom arena = (result, reached) →
      ((solver.limitedTo wider).solve fuel goal values).runFrom arena = (result, reached)) ∧
    ((∃ deep most reached,
        Settles (fun fuel => (solver.limitedTo (some limit)).solve fuel goal values) arena
          (.error (.failed (.depthLimit deep most))) reached) ↔
      ∃ fuel depth, limit < depth ∧
        (solver.limitedTo none).Demands fuel goal values arena depth) := by
  refine ⟨fun wider le fuel result reached other ran => ?_, ?_, ?_⟩
  · refine (Solver.solve_wider le fuel goal values).eq_of ran ?_
    rintro _ ⟨deep, most, rfl⟩
    exact other deep most
  · rintro ⟨deep, most, reached, least, ends⟩
    obtain ⟨depth, beyond, demands⟩ :=
      Solver.demands_of_tooDeep bodies ⟨deep, most, rfl⟩ (ends least (Nat.le_refl least))
    exact ⟨least, depth, beyond, demands⟩
  · rintro ⟨fuel, depth, beyond, demands⟩
    obtain ⟨_, reached, ⟨deep, most, rfl⟩, ends⟩ := Solver.tooDeep_of_demands beyond demands
    exact ⟨deep, most, reached, Solver.settles_of_solve ends fun same => by cases same⟩

theorem toweringSolver_raises_nothing (failure : Failure) : ¬ toweringSolver.Raises failure := by
  rintro ⟨rule, given, heap, declared, raised⟩
  obtain ⟨decl, listed, rfl⟩ := Registry.declares_of_single declared
  simp only [towering, List.mem_cons, List.not_mem_nil, or_false] at listed
  rcases listed with rfl | rfl | rfl <;> cases raised

/-- A limit stops the search for a tower, and it makes no difference to the search for a hut. -/
theorem solve_within_limit_tower :
    (∀ goal most, ¬ toweringSolver.Raises (.depthLimit goal most)) ∧
    (∃ fuel depth, 3 < depth ∧
      (toweringSolver.limitedTo none).Demands fuel (.app "Tower" [.constant "Int"]) [toweringHost]
        ⟨⟨1, []⟩, 0, []⟩ depth) ∧
    ∃ value reached,
      ((toweringSolver.limitedTo none).solve 2 (.constant "Hut") [toweringHost]).runFrom
        ⟨⟨1, []⟩, 0, []⟩ = (.ok value, reached) := by
  have bodies : ∀ goal most, ¬ toweringSolver.Raises (.depthLimit goal most) :=
    fun _ _ => toweringSolver_raises_nothing _
  have stopped : (((toweringSolver.limitedTo (some 3)).solve 5 (.app "Tower" [.constant "Int"])
      [toweringHost]).runFrom ⟨⟨1, []⟩, 0, []⟩).1 = .error (.failed (.depthLimit
        (.app "Recursive" [.app "Tower" [.app "Box" [.app "Box" [.app "Box" [.constant "Int"]]]]])
        3)) :=
    Search.error_of_failsWith (by decide +kernel)
  have built : ((toweringSolver.limitedTo (some 3)).solve 2 (.constant "Hut")
      [toweringHost]).passes ⟨⟨1, []⟩, 0, []⟩ (fun _ _ => true) = true := by decide +kernel
  obtain ⟨value, reached, ran, -⟩ := Search.exists_of_passes built
  refine ⟨bodies, ?_, value, reached, ?_⟩
  · have settles := Solver.settles_of_solve (Prod.ext stopped rfl) fun same => by cases same
    exact (solve_within_limit bodies _ _ _).2.1 ⟨_, _, _, settles⟩
  · exact (solve_within_limit bodies _ _ _).1 none (fun _ same => by cases same) 2 _ _
      (fun _ _ same => by cases same) ran

end Synthesis
