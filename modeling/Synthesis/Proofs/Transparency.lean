import Synthesis.Proofs.Recomputation

/-!
# The memo saves work and nothing else

Let the rules be determined, let no rule return a goal that asks for a cell, let no body produce a
provider, and let the bodies look at the contents of their arguments only. Then a search gives what
the search without a memo gives, unless it ends because a goal is needed for itself.

Results:
1. `Runs.repeats`: what a run gives is found without a memo, and so is every value in its memo.
2. `find_repeats`, `solve_repeats`: the same for searches that start with providers only.
-/
namespace Synthesis

section

variable {solver : Solver} {providers : Providers} {base : Heap}

/-! ## 1. Runs -/

theorem Conclusive.of_map {α β : Type} {f : α → β} {result : Except Halt α}
    (conclusive : Conclusive (result.map f)) : Conclusive result where
  enough out := conclusive.enough (by rw [out]; rfl)
  acyclic goal cyclic := conclusive.acyclic goal (by rw [cyclic]; rfl)

theorem Conclusive.of_ok {α : Type} {outcome : α} : Conclusive (.ok outcome) := ⟨nofun, nofun⟩

theorem Conclusive.of_error {α β : Type} {halt : Halt}
    (conclusive : Conclusive (.error halt : Except Halt α)) :
    Conclusive (.error halt : Except Halt β) where
  enough out := conclusive.enough (by cases out; rfl)
  acyclic goal cyclic := conclusive.acyclic goal (by cases cyclic; rfl)

theorem Solver.Recomputes.mono {goal : Term} {heap after : Heap}
    {given : Except Halt (Option Value)}
    (recomputes : solver.Recomputes providers base goal heap given) (wider : heap.Extends after) :
    solver.Recomputes providers base goal after given :=
  fun depth sought branch arena anew same =>
    (recomputes depth sought branch arena anew same).imp
      fun _ _ _ content => content.mono wider (.refl _)

namespace Memo.Recomputed

variable {heap after : Heap} {except : Option Term} {memo : Memo}

theorem mono (known : memo.Recomputed solver providers base heap except)
    (wider : heap.Extends after) : memo.Recomputed solver providers base after except :=
  fun key value other held => (known key value other held).mono wider

theorem insert_guarded (known : memo.Recomputed solver providers base heap except) (aim : Term) :
    (memo.insert aim .guarded).Recomputed solver providers base heap except := by
  intro key value other held
  rw [Memo.get?_insert] at held
  split at held
  · cases held
  · exact known key value other held

end Memo.Recomputed

namespace Task.Sound

variable {fuel depth later index : Nat} {sought asked aim first : Term} {branch : Branch}
  {offer : Offer} {tries : List Offer} {renamed : Renamed} {own : Option Nat} {rule : Signature}
  {patterns : List Term} {args : List Value} {arena after : Arena}

theorem mono {α : Type} {task : Task α} (sound : task.Sound solver providers base arena)
    (heap : arena.heap.Extends after.heap) (stamp : arena.stamp ≤ after.stamp) :
    task.Sound solver providers base after :=
  ⟨sound.ready.mono stamp, sound.bare, sound.offered, sound.later.trans heap,
    sound.known.mono heap⟩

theorem offers (sound : (Task.goal fuel sought branch depth).Sound solver providers base arena)
    (same : branch.subst.apply sought = asked) :
    (Task.offers later asked branch depth branch.providers.offers).Sound solver providers base
      (solver.noted (.attempting depth asked) (arena.note (.demanded asked))) where
  ready := (sound.ready.offers same).mono (by simp)
  bare := sound.bare
  offered := fun _ => sound.bare.providers ▸ id
  later := by simpa using sound.later
  known := sound.known.mono (.of_eq (by simp))

theorem rest
    (sound : (Task.offers fuel asked branch depth (offer :: tries)).Sound solver providers base
      arena)
    (heap : arena.heap.Extends after.heap) (stamp : arena.stamp + 1 ≤ after.stamp) :
    (Task.offers fuel asked branch depth tries).Sound solver providers base after :=
  ⟨sound.ready.rest.mono stamp, sound.bare, fun _ member => sound.offered _ (.tail _ member),
    sound.later.trans heap, sound.known.mono heap⟩

theorem build
    (sound : (Task.offers fuel asked branch depth (offer :: tries)).Sound solver providers base
      arena)
    {subst : Substitution}
    (matched : branch.subst.matching (offer.rule.rename (arena.stamp + 1)).returns asked =
      .ok subst) (same : subst.apply asked = aim) (ground : aim.isGround = true) :
    (Task.build fuel offer (offer.rule.rename (arena.stamp + 1)) aim { branch with subst }
      depth).Sound solver providers base
      (solver.noted (.trying depth offer.rule.toSignature aim)
        ((arena.tried offer.rule.toSignature asked branch.subst).note (.matched asked aim))) where
  ready := (sound.ready.build matched same ground).mono (by simp)
  bare := ⟨sound.bare.providers, sound.bare.entries⟩
  offered := sound.offered _ (.head _)
  later := by simpa using sound.later
  known := sound.known.mono (.of_eq (by simp))

theorem probe
    (sound : (Task.build fuel offer renamed aim branch depth).Sound solver providers base arena) :
    (Task.goal fuel (aim.under solver.settings.placeholder) branch later).Sound solver providers
      base arena :=
  ⟨sound.ready.probe, sound.bare, trivial, sound.later, sound.known⟩

theorem plain
    (sound : (Task.build fuel offer renamed aim branch depth).Sound solver providers base arena) :
    (Task.complete fuel offer renamed aim none branch depth).Sound solver providers base arena :=
  ⟨sound.ready.complete _ _, sound.bare, ⟨sound.offered, rfl⟩, sound.later, sound.known⟩

theorem entered (cells : solver.MakesNoCells)
    (sound : (Task.build fuel offer renamed aim branch depth).Sound solver providers base arena) :
    (Task.complete fuel offer renamed aim none
      { branch with memo := branch.memo.insert aim .guarded } depth).Sound solver providers base
      arena :=
  ⟨sound.ready.complete _ _, sound.bare.insert (cells.asks sound.ready.ground) (.inl rfl) _,
    ⟨sound.offered, rfl⟩, sound.later, sound.known.insert_guarded _⟩

theorem params (determined : solver.Determined)
    (sound : (Task.complete fuel offer renamed aim own branch depth).Sound solver providers base
      arena) :
    (Task.params fuel offer.rule.toSignature depth 0 renamed.params branch).Sound solver providers
      base arena :=
  ⟨sound.ready.params determined, sound.bare, trivial, sound.later, sound.known⟩

theorem param
    (sound : (Task.params fuel rule depth index (first :: patterns) branch).Sound solver providers
      base arena) :
    (Task.goal fuel first branch later).Sound solver providers base arena :=
  ⟨sound.ready.param, sound.bare, trivial, sound.later, sound.known⟩

/-- What a run that produces no providers adds, finds and ends in. -/
theorem stays (repeatable : solver.Repeatable providers base) {α : Type} {task : Task α}
    {result : Except Halt α} (sound : task.Sound solver providers base arena)
    (run : Runs solver task arena result after) (inert : solver.MakesNoProviders arena after) :
    task.StaysBare solver providers arena.heap result after.heap :=
  run.bare repeatable inert sound.ready sound.bare sound.offered

theorem invoke (determined : solver.Determined)
    (sound : (Task.complete fuel offer renamed aim own branch depth).Sound solver providers base
      arena) {last : Branch}
    (params : Runs solver (.params fuel offer.rule.toSignature depth 0 renamed.params branch) arena
      (.ok (some (args, last))) after)
    (stays : (Task.params fuel offer.rule.toSignature depth 0 renamed.params branch).StaysBare
      solver providers arena.heap (.ok (some (args, last))) after.heap)
    (known : last.memo.Recomputed solver providers base after.heap none) :
    (Task.invoke offer renamed aim own args last depth).Sound solver providers base after :=
  ⟨sound.ready.invoke determined params, stays.last rfl rfl, sound.offered,
    sound.later.trans stays.heap, known⟩

theorem params_later (determined : solver.Determined)
    (sound : (Task.params fuel rule depth index (first :: patterns) branch).Sound solver providers
      base arena) {found : Found}
    (goal : Runs solver (.goal fuel first branch (solver.depths.next depth)) arena
      (.ok (some found)) after)
    (stays : (Task.goal fuel first branch (solver.depths.next depth)).StaysBare solver providers
      arena.heap (.ok (some found)) after.heap)
    (known : found.branch.memo.Recomputed solver providers base after.heap none) :
    (Task.params fuel rule depth (index + 1) patterns
      { found.branch with
        providers := found.branch.providers.enroll solver.registry found.value }).Sound solver
      providers base
      (solver.enrolled found.value found.branch.providers
        (after.note (.passed (found.branch.subst.apply first) found.value))) where
  ready := (sound.ready.later determined goal).mono (by simp)
  bare := (stays.last rfl rfl).enroll (stays.inert rfl rfl)
  offered := trivial
  later := by simpa using sound.later.trans stays.heap
  known := known.mono (.of_eq (by simp))

end Task.Sound

namespace Task.Repeats

theorem of_halt {β : Type} {task : Task β} {halt : Halt} {before after : Heap}
    (again : task.Recomputed solver providers base before after (.error halt)) :
    task.Repeats solver providers base before after (.error halt) :=
  ⟨again, nofun⟩

theorem of_none {β : Type} {task : Task (Option β)} {before after : Heap}
    (again : task.Recomputed solver providers base before after (.ok none))
    (finish : task.finish? none = none) :
    task.Repeats solver providers base before after (.ok none) := by
  refine ⟨again, fun ok finished => ?_⟩
  cases ok
  rw [finish] at finished
  cases finished

variable {fuel depth index : Nat} {sought goal asked aim param : Term} {branch : Branch}
  {offer : Offer} {tries : List Offer} {renamed : Renamed} {rule : Signature}
  {patterns : List Term} {args : List Value} {arena middle reached : Arena} {after : Heap}
  {subst : Substitution} {result : Except Halt (Option Found)}

/-- A known goal is found again because all values in the memo are. -/
theorem recalled (sound : (Task.goal fuel sought branch depth).Sound solver providers base arena)
    (same : branch.subst.apply sought = goal) {entry : Memo.Entry} {value : Value}
    (known : Solver.known? goal branch.memo = some entry)
    (read : entry.recall goal arena.heap = (.ok value, after)) (history : List Settled) :
    (Task.goal fuel sought branch depth).Repeats solver providers base arena.heap after
      (.ok (some ⟨value, { branch with history }⟩)) := by
  have held := (isGround_of_known? known).2
  obtain ⟨rfl, rfl, -⟩ := sound.bare.of_recall held read
  subst same
  refine ⟨sound.known _ _ nofun held, fun ok finished => ?_⟩
  cases ok
  cases finished
  exact sound.known

theorem unfound (unlimited : solver.settings.maxDepth = none)
    (sound : (Task.goal (fuel + 1) sought branch depth).Sound solver providers base arena)
    (same : branch.subst.apply sought = goal)
    (tried : (Task.offers fuel goal branch depth branch.providers.offers).Repeats solver providers
      base arena.heap after (.ok none)) :
    (Task.goal (fuel + 1) sought branch depth).Repeats solver providers base arena.heap after
      (.ok none) :=
  .of_none (.goal unlimited sound.bare.providers same tried.again) rfl

/-- A goal that is found is entered in the memo with the value that was found. -/
theorem searched (unlimited : solver.settings.maxDepth = none)
    (sound : (Task.goal (fuel + 1) sought branch depth).Sound solver providers base arena)
    (same : branch.subst.apply sought = goal) {begun : Arena}
    (run : Runs solver (.offers fuel goal branch depth branch.providers.offers) begun result
      reached)
    (tried : (Task.offers fuel goal branch depth branch.providers.offers).Repeats solver providers
      base arena.heap after result) :
    (Task.goal (fuel + 1) sought branch depth).Repeats solver providers base arena.heap after
      result := by
  have again := Task.Recomputed.goal unlimited sound.bare.providers same tried.again
  refine ⟨again, fun {outcome last} ok finished key value _ held => ?_⟩
  by_cases here : goal = key
  · obtain _ | found := outcome
    · cases finished
    subst ok here
    have ground : goal.isGround = true := same ▸ sound.ready.ground
    have settled := (run.keepsMarks sound.ready.start.triangular rfl finished).built rfl rfl
    rw [Substitution.apply_of_ground _ ground, held] at settled
    cases settled
    exact same ▸ again
  · exact tried.known ok finished key value (fun same => here (Option.some.inj same)) held

theorem noOffers {before : Heap} :
    (Task.offers fuel asked branch depth []).Repeats solver providers base before after
      (.ok none) :=
  .of_none (fun _ _ _ anew => ⟨_, _, .of_eq fun _ => rfl,
    .fails (.stay anew.proper (.refl _) (Nat.le_refl _))⟩) rfl

theorem mismatch
    (sound : (Task.offers fuel asked branch depth (offer :: tries)).Sound solver providers base
      arena)
    {clash : Clash}
    (clashes : branch.subst.matching (offer.rule.rename (arena.stamp + 1)).returns asked =
      .error clash)
    (rest : (Task.offers fuel asked branch depth tries).Repeats solver providers base arena.heap
      after result) :
    (Task.offers fuel asked branch depth (offer :: tries)).Repeats solver providers base arena.heap
      after result := by
  refine ⟨.mismatch (fun returns => ?_) rest.again, rest.known⟩
  obtain ⟨later, matched⟩ := sound.ready.matching_iff.2 returns
  cases clashes.symm.trans matched

theorem settles
    (sound : (Task.offers fuel asked branch depth (offer :: tries)).Sound solver providers base
      arena)
    (matched : branch.subst.matching (offer.rule.rename (arena.stamp + 1)).returns asked =
      .ok subst)
    (same : subst.apply asked = aim)
    (build : (Task.build fuel offer renamed aim { branch with subst } depth).Repeats solver
      providers base arena.heap after result) (found : result ≠ .ok none) :
    (Task.offers fuel asked branch depth (offer :: tries)).Repeats solver providers base arena.heap
      after result := by
  obtain ⟨rfl, returns⟩ := sound.ready.returns_of_matched matched same
  exact ⟨.attempt returns build.again found, build.known⟩

theorem moveOn
    (sound : (Task.offers fuel asked branch depth (offer :: tries)).Sound solver providers base
      arena)
    (matched : branch.subst.matching (offer.rule.rename (arena.stamp + 1)).returns asked =
      .ok subst)
    (same : subst.apply asked = aim)
    (build : (Task.build fuel offer renamed aim { branch with subst } depth).Repeats solver
      providers base arena.heap middle.heap (.ok none))
    (rest : (Task.offers fuel asked branch depth tries).Repeats solver providers base middle.heap
      after result) :
    (Task.offers fuel asked branch depth (offer :: tries)).Repeats solver providers base arena.heap
      after result := by
  obtain ⟨rfl, returns⟩ := sound.ready.returns_of_matched matched same
  exact ⟨.moveOn returns build.again rest.again, rest.known⟩

theorem guarded
    (sound : (Task.build fuel offer renamed aim branch depth).Sound solver providers base arena)
    (entered : (renamed.params.isEmpty || solver.asksForCell aim) = false) {memo : Memo}
    (probe : (Task.goal fuel (aim.under solver.settings.placeholder) branch
      (solver.depths.next depth)).Repeats solver providers base arena.heap middle.heap (.ok none))
    (complete : (Task.complete fuel offer renamed aim none { branch with memo } depth).Repeats
      solver providers base middle.heap after result) :
    (Task.build fuel offer renamed aim branch depth).Repeats solver providers base arena.heap after
      result :=
  ⟨.guarded sound.ready.ground entered probe.again complete.again, complete.known⟩

theorem paramsSettled (determined : solver.Determined) {own : Option Nat} {later : Branch}
    (sound : (Task.complete fuel offer renamed aim own branch depth).Sound solver providers base
      arena)
    (params : (Task.params fuel offer.rule.toSignature depth 0 renamed.params branch).Repeats solver
      providers base arena.heap middle.heap (.ok (some (args, later))))
    (invoke : (Task.invoke offer renamed aim own args later depth).Repeats solver providers base
      middle.heap after result) :
    (Task.complete fuel offer renamed aim own branch depth).Repeats solver providers base arena.heap
      after result :=
  ⟨.paramsSettled determined sound.ready.ground params.again invoke.again, invoke.known⟩

/-- The parameters to come are ground already, so they are the same under the bindings that the
first one adds. -/
theorem paramFound
    (sound : (Task.params fuel rule depth index (param :: patterns) branch).Sound solver providers
      base arena) {found : Found}
    (run : Runs solver (.goal fuel param branch (solver.depths.next depth)) arena
      (.ok (some found)) middle)
    (inert : solver.registry.bearsRules found.value = false) (wider : middle.heap.Extends after)
    (first : (Task.goal fuel param branch (solver.depths.next depth)).Repeats solver providers base
      arena.heap middle.heap (.ok (some found)))
    {result : Except Halt (Option (List Value × Branch))}
    (rest : (Task.params fuel rule depth (index + 1) patterns
      { found.branch with
        providers := found.branch.providers.enroll solver.registry found.value }).Repeats solver
      providers base middle.heap after result) :
    (Task.params fuel rule depth index (param :: patterns) branch).Repeats solver providers base
      arena.heap after (result.map (consValue found.value)) := by
  have extended := (run.keepsSubst sound.ready.start.triangular rfl rfl).extended
  have kept := List.map_congr_left fun pattern member =>
    extended.apply_of_ground sound.ready.start.triangular
      (sound.ready.ground pattern (.tail _ member))
  refine ⟨.paramFound inert kept wider first.again rest.again, fun ok finished => ?_⟩
  obtain _ | _ | settled := result <;> cases ok <;> cases finished
  exact rest.known rfl rfl

theorem built (repeatable : solver.Repeatable providers base) {own : Option Nat}
    (sound : (Task.invoke offer renamed aim own args branch depth).Sound solver providers base
      arena) {types : List Term} {given : Inputs} {value : Value}
    (closed : Solver.slotTypes branch.subst renamed.slots = .ok types)
    (seen : Solver.inputs offer types args = .ok given)
    (ran : (offer.rule.recipe.run given arena.heap).val = (.ok (.produced value), after))
    (history : List Settled) :
    (Task.invoke offer renamed aim own args branch depth).Repeats solver providers base arena.heap
      after (.ok (some ⟨value,
        { branch with memo := branch.memo.insert aim (.ready value), history }⟩)) := by
  obtain ⟨offered, rfl⟩ := sound.offered
  refine ⟨.built repeatable.determined sound.ready.ground (repeatable.pure _ offered) sound.later
    closed seen ran, fun ok finished key value other held => ?_⟩
  cases ok
  cases finished
  rw [Memo.get?_insert] at held
  split at held
  · next same => exact absurd (congrArg some same.symm) other
  · exact (sound.known key value nofun held).mono (Recipe.run_extends ran)

end Task.Repeats

/-- What a conclusive run gives is found without a memo, and so are the values that it leaves in the
memo. -/
theorem Runs.repeats (repeatable : solver.Repeatable providers base) {α : Type} {task : Task α}
    {arena reached : Arena} {result : Except Halt α} (run : Runs solver task arena result reached)
    (inert : solver.MakesNoProviders arena reached)
    (sound : task.Sound solver providers base arena) (conclusive : Conclusive result) :
    task.Repeats solver providers base arena.heap reached.heap result := by
  induction run with
  | exhausted => exact absurd rfl conclusive.enough
  | tooDeep _ limited => simp [repeatable.unlimited] at limited
  | cyclic => exact absurd rfl (conclusive.acyclic _)
  | known same known read =>
      rw [Solver.heap_noted]
      exact .recalled sound same known read _
  | unfound same _ _ _ ih =>
      have tried := ih (inert.within .asking (.noted .refl _ _)) (sound.offers same) .of_ok
      simp only [Solver.heap_noted, Arena.heap_note] at tried ⊢
      exact .unfound repeatable.unlimited sound same tried
  | searched same _ tries _ _ ih =>
      have tried := ih (inert.within .asking .refl) (sound.offers same) conclusive
      simp only [Solver.heap_noted, Arena.heap_note] at tried
      exact .searched repeatable.unlimited sound same tries tried
  | noOffers => exact .noOffers
  | mismatch clashes _ ih =>
      have rest := ih (inert.within .skipping .refl) (sound.rest (.of_eq (by simp)) (by simp))
        conclusive
      simp only [Solver.heap_noted, Arena.heap_tried] at rest
      exact .mismatch sound clashes rest
  | @leftOpen _ _ _ _ _ _ _ _ subst _ _ openGoal =>
      rw [subst.apply_of_ground sound.ready.ground.1, sound.ready.ground.1] at openGoal
      cases openGoal
  | settles matched same ground _ found ih =>
      have build := ih (inert.within .trying .refl) (sound.build matched same ground) conclusive
      simp only [Solver.heap_noted, Arena.heap_note, Arena.heap_tried] at build
      exact .settles sound matched same build found
  | moveOn matched same ground first others one two =>
      have attempt := sound.build matched same ground
      have stays := attempt.stays repeatable first (inert.within .trying others.grows)
      have stamps := first.grows.stamp
      have build := one (inert.within .trying others.grows) attempt .of_ok
      simp only [Solver.heap_noted, Arena.heap_note, Arena.heap_tried, Solver.stamp_noted,
        Arena.stamp_note, Arena.stamp_tried] at stays stamps build
      have rest := two (inert.within (.trans .trying first.grows) .refl)
        (sound.rest stays.heap stamps) conclusive
      exact .moveOn sound matched same build rest
  | plain unentered _ ih =>
      have repeats := ih inert sound.plain conclusive
      exact ⟨.plain sound.ready.ground unentered repeats.again, repeats.known⟩
  | withCell _ probe _ rest =>
      have stays := sound.probe.stays repeatable probe
        (inert.within .refl (.leave (.trans (.note .refl) rest.grows) _ _))
      exact (probe.finds_no_cell sound.ready.start.triangular sound.ready.ground.ground
        (stays.last rfl rfl)).elim
  | notDeferred _ probe =>
      have stays := sound.probe.stays repeatable probe (inert.within .refl (.note .refl))
      exact (probe.finds_no_cell sound.ready.start.triangular sound.ready.ground.ground
        (stays.last rfl rfl)).elim
  | guarded entered probe complete one two =>
      have quiet := inert.within .refl (.leave (.trans (.note .refl) complete.grows) _ _)
      have stays := sound.probe.stays repeatable probe quiet
      have rest := two (inert.within (.note probe.grows) (.leave .refl _ _))
        ((sound.entered repeatable.cells).mono stays.heap probe.grows.stamp) conclusive
      rw [Arena.heap_leave]
      exact .guarded sound entered (one quiet sound.probe .of_ok) rest
  | probeHalts entered _ ih =>
      have halted := ih inert sound.probe conclusive.of_error
      exact .of_halt (.probeHalts sound.ready.ground entered halted.again)
  | paramsHalt _ ih =>
      have halted := ih inert (sound.params repeatable.determined) conclusive.of_error
      exact .of_halt (.paramsHalt repeatable.determined sound.ready.ground halted.again)
  | paramsFail _ ih =>
      have missed := ih inert (sound.params repeatable.determined) .of_ok
      exact .of_none (.paramsFail repeatable.determined sound.ready.ground missed.again) rfl
  | paramsSettled params invoked one two =>
      have start := sound.params repeatable.determined
      have quiet := inert.within .refl invoked.grows
      have settled := one quiet start .of_ok
      have rest := two (inert.within params.grows .refl)
        (sound.invoke repeatable.determined params (start.stays repeatable params quiet)
          (settled.known rfl rfl)) conclusive
      exact .paramsSettled repeatable.determined sound settled rest
  | noParams =>
      refine ⟨.noParams, fun ok finished => ?_⟩
      cases ok
      cases finished
      exact sound.known
  | paramHalts _ ih =>
      exact .of_halt (.paramHalts (ih inert sound.param conclusive.of_error).again)
  | paramFails _ ih =>
      have quiet := inert.within .refl (.noted .refl _ _)
      rw [Solver.heap_noted]
      exact .of_none (.paramFails (ih quiet sound.param .of_ok).again) rfl
  | paramFound goal rest one two =>
      have quiet := inert.within .refl (.trans .passing rest.grows)
      have stays := sound.param.stays repeatable goal quiet
      have first := one quiet sound.param .of_ok
      have start := sound.params_later repeatable.determined goal stays (first.known rfl rfl)
      have others := start.stays repeatable rest
        (inert.within (goal.grows.trans .passing) .refl)
      have later := two (inert.within (goal.grows.trans .passing) .refl) start conclusive.of_map
      simp only [Solver.heap_enrolled, Arena.heap_note] at others later
      exact .paramFound sound goal (stays.inert rfl rfl) others.heap first later
  | @slotOpen _ _ _ _ _ _ _ _ _ opened =>
      obtain ⟨types, closed⟩ := Chosen.slots_closed sound.ready.ground repeatable.determined
      cases opened.symm.trans closed
  | noView closed unseen =>
      exact .of_halt (.noView repeatable.determined sound.ready.ground closed unseen)
  | bodyFails closed seen ran =>
      exact .of_halt (.bodyFails repeatable.determined sound.ready.ground
        (repeatable.pure _ sound.offered.1) sound.later closed seen ran)
  | declines closed seen ran =>
      rw [Solver.heap_noted]
      exact .of_none (.declines repeatable.determined sound.ready.ground
        (repeatable.pure _ sound.offered.1) sound.later closed seen ran) rfl
  | tiedBefore => cases sound.offered.2
  | built closed seen ran tied =>
      obtain ⟨-, rfl⟩ := sound.offered
      cases tied
      rw [Solver.heap_noted]
      exact .built repeatable sound closed seen ran _

end

/-! ## 2. Whole searches -/

/-- Two searches end alike: with values of the same content, or for the same reason. -/
inductive SameResult (first second : Heap) : Except Halt Value → Except Halt Value → Prop
  | value {value value' : Value} : SameContent first second value value' →
      SameResult first second (.ok value) (.ok value')
  | halt {halt : Halt} : SameResult first second (.error halt) (.error halt)

/-- What a conclusive search for a ground goal gives from some providers is found without a memo. -/
theorem find_repeats {solver : Solver} {values : List Value} {base : Heap}
    (repeatable : solver.Repeatable (solver.startingBranch values).providers base) {fuel : Nat}
    {goal : Term} (ground : goal.isGround = true) {arena reached other : Arena}
    {given : Except Halt (Option Found)}
    (ran : (solver.find fuel goal (solver.startingBranch values) 0).runFrom arena =
      (given, reached))
    (inert : solver.MakesNoProviders arena reached) (conclusive : Conclusive given)
    (later : base.Extends arena.heap) (also : base.Extends other.heap) :
    Agrees solver Found.branch (SameFound reached.heap)
      (solver.findAfresh · goal (solver.startingBranch values) 0) (solver.startingBranch values)
      other (given.map (Option.map (·.value))) := by
  have bare : (solver.startingBranch values).Bare solver
      (solver.startingBranch values).providers := ⟨rfl, fun none => by cases none⟩
  have sound : Task.Sound solver (solver.startingBranch values).providers base
      (.goal fuel goal (solver.startingBranch values) 0) arena :=
    ⟨.of_start ground, bare, trivial, later, fun _ _ _ none => by cases none⟩
  have repeats := (Runs.of_find ran).repeats repeatable inert sound conclusive
  exact repeats.again 0 goal (solver.startingBranch values) other ⟨.of_start ground, rfl, also⟩ rfl

/-- The memo is transparent. Let the rules be determined, let none of them return a goal that asks
for a cell, let the depth be unlimited, and let the bodies of the providers' rules look at contents
only. If a search that produces no providers is not given up for want of fuel or because a goal is
needed for itself, then the search without a memo comes to an end and gives the same. -/
theorem solve_repeats {solver : Solver} (determined : solver.Determined)
    (cells : solver.MakesNoCells) (unlimited : solver.settings.maxDepth = none) {fuel : Nat}
    {goal : Term} {values : List Value} {arena reached : Arena} {result : Except Halt Value}
    (pure : ∀ offer ∈ (solver.startingBranch values).providers.offers, offer.Pure arena.heap)
    (ran : (solver.solve fuel goal values).runFrom arena = (result, reached))
    (inert : solver.MakesNoProviders arena reached) (conclusive : Conclusive result) :
    ∃ result' reached', Settles (solver.solveAfresh · goal values) arena result' reached' ∧
      SameResult reached.heap reached'.heap result result' := by
  cases ground : goal.isGround with
  | false =>
      have same : (solver.solve fuel goal values).runFrom arena =
          (.error (.failed (.unboundGoal goal)), arena.note (.halted (.unboundGoal goal))) := by
        simp [Solver.solve, Solver.derive, ground]
      cases ran.symm.trans same
      refine ⟨_, arena.note (.halted (.unboundGoal goal)), .of_eq fun fuel => ?_, .halt⟩
      simp [Solver.solveAfresh, ground]
  | true =>
      rcases start : (solver.start values).runFrom arena with ⟨halt | branch, middle⟩
      · have same : (solver.solve fuel goal values).runFrom arena = (.error halt, middle) := by
          simp [Solver.solve, Solver.derive, ground, start]
        cases ran.symm.trans same
        refine ⟨_, reached, .of_eq fun fuel => ?_, .halt⟩
        simp [Solver.solveAfresh, ground, start]
      obtain ⟨rfl, reports⟩ := solver.start_ok start
      have repeatable : solver.Repeatable (solver.startingBranch values).providers arena.heap :=
        ⟨determined, cells, unlimited, pure⟩
      have grown : arena.Grows middle := .of_reports reports
      have started : arena.heap.Extends middle.heap := by
        obtain ⟨_, rfl⟩ := reports
        exact .refl _
      rcases searched : (solver.find fuel goal (solver.startingBranch values) 0).runFrom
        (solver.noted (.solving goal (solver.startingBranch values).providers.members.length)
          middle) with ⟨halt | _ | found, last⟩
      · have same : (solver.solve fuel goal values).runFrom arena = (.error halt, last) := by
          simp [Solver.solve, Solver.derive, ground, start, searched]
        cases ran.symm.trans same
        obtain ⟨last', settles⟩ := (find_repeats repeatable ground searched
          (inert.within (grown.noted _ _) .refl) conclusive.of_error (by simpa using started)
          started).stops
        refine ⟨_, last', settles.map fun fuel ran => ?_, .halt⟩
        simp [Solver.solveAfresh, ground, start, ran]
      · have same : (solver.solve fuel goal values).runFrom arena =
            (.error (.failed (.noDerivation goal)), last.note (.halted (.noDerivation goal))) := by
          simp [Solver.solve, Solver.derive, ground, start, searched]
        cases ran.symm.trans same
        obtain ⟨last', settles, -⟩ := (find_repeats repeatable ground searched
          (inert.within (grown.noted _ _) (.note .refl)) .of_ok
          (by simpa using started) started).misses
        refine ⟨_, last'.note (.halted (.noDerivation goal)), settles.map fun fuel ran => ?_, .halt⟩
        simp [Solver.solveAfresh, ground, start, ran]
      · have same : (solver.solve fuel goal values).runFrom arena =
            (.ok found.value, solver.noted (.solved goal found.branch.memo.size) last) := by
          simp [Solver.solve, Solver.derive, ground, start, searched]
        cases ran.symm.trans same
        obtain ⟨found', last', settles, -, content⟩ := (find_repeats repeatable ground searched
          (inert.within (grown.noted _ _) (.noted .refl _ _)) .of_ok
          (by simpa using started) started).meets
        refine ⟨.ok found'.value, last', settles.map fun fuel ran => ?_, .value ?_⟩
        · simp [Solver.solveAfresh, ground, start, ran]
        · rw [Solver.heap_noted]
          exact content

def RuleDecl.bundling (name : String) (returns : Term) (params : List Term) : RuleDecl :=
  ⟨name, returns, params, .body fun inputs =>
    do return .produced (← Build.alloc (.record name inputs.args))⟩

/-- A record has the content that its fields have. -/
theorem Offer.pure_of_bundling {offer : Offer} {name shape : String} {returns : Term}
    {params : List Term}
    (made : offer.rule = (RuleDecl.bundling name returns params).onShape shape) (base : Heap) :
    offer.Pure base := by
  intro provider types args args' first second _ _ _ same
  rw [made]
  refine .produced (SameContent.record (same.imp fun _ _ content => ?_))
  exact content.mono (first.extends_alloc _) (second.extends_alloc _)

/-- A shape in which two things that a pair needs are made of the same leaf. -/
def pairing : ShapeDecl where
  kind := .provider 0
  name := "Host"
  bearing := true
  base := none
  rules := [
    .bundling "leaf" (.constant "Leaf") [],
    .bundling "left" (.constant "Left") [.constant "Leaf"],
    .bundling "right" (.constant "Right") [.constant "Leaf"],
    .bundling "pair" (.constant "Pair") [.constant "Left", .constant "Right"]]

def pairingSolver : Solver := ⟨⟨[pairing.toShape]⟩, .silent, .word⟩

def pairingHost : Value := .mk 0 (.provider 0 "p" none)

theorem pairingSolver_bundles {rule : Rule} (declared : pairingSolver.registry.Declares rule) :
    ∃ name head params, rule = (RuleDecl.bundling name (.constant head) params).onShape "Host" ∧
      head ≠ "Recursive" ∧ ∀ param ∈ params, param.isGround = true := by
  obtain ⟨decl, listed, rfl⟩ := Registry.declares_of_single declared
  simp only [pairing, List.mem_cons, List.not_mem_nil, or_false] at listed
  rcases listed with rfl | rfl | rfl | rfl <;>
    exact ⟨_, _, _, rfl, by decide, by decide⟩

theorem pairingSolver_determined : pairingSolver.Determined := by
  intro rule declared
  obtain ⟨name, head, params, rfl, -, ground⟩ := pairingSolver_bundles declared
  exact Signature.determined_of_ground ground

theorem pairingSolver_makesNoCells : pairingSolver.MakesNoCells := by
  intro rule declared slots
  obtain ⟨name, head, params, rfl, other, -⟩ := pairingSolver_bundles declared
  show (((Term.constant head).subst slots).head? == some "Recursive") = false
  simpa [Term.constant, Term.head?] using other

theorem pairingSolver_pure (base : Heap) (offer : Offer)
    (offered : offer ∈ (pairingSolver.startingBranch [pairingHost]).providers.offers) :
    offer.Pure base := by
  obtain ⟨name, head, params, same, -⟩ := pairingSolver_bundles
    (offers_startingBranch pairingSolver [pairingHost] offer offered)
  exact Offer.pure_of_bundling same base

/-- Whether an entry of a log is about a value that was produced and is a provider. -/
def LogEntry.bearing (registry : Registry) : LogEntry → Bool
  | .produced _ _ value => registry.bearsRules value
  | _ => false

theorem solve_repeats_pair : ∃ result reached, pairingSolver.Determined ∧
    pairingSolver.MakesNoCells ∧ pairingSolver.settings.maxDepth = none ∧
    (∀ offer ∈ (pairingSolver.startingBranch [pairingHost]).providers.offers,
      offer.Pure ⟨1, []⟩) ∧
    (pairingSolver.solve 8 (.constant "Pair") [pairingHost]).runFrom ⟨⟨1, []⟩, 0, []⟩ =
      (result, reached) ∧
    pairingSolver.MakesNoProviders ⟨⟨1, []⟩, 0, []⟩ reached ∧ Conclusive result ∧
    ∃ result' reached',
      Settles (pairingSolver.solveAfresh · (.constant "Pair") [pairingHost]) ⟨⟨1, []⟩, 0, []⟩
        result' reached' ∧ SameResult reached.heap reached'.heap result result' := by
  have passed : (pairingSolver.solve 8 (.constant "Pair") [pairingHost]).passes ⟨⟨1, []⟩, 0, []⟩
      (fun _ arena => !arena.log.any (·.bearing pairingSolver.registry)) = true := by
    decide +kernel
  obtain ⟨value, reached, ran, quiet⟩ := Search.exists_of_passes passed
  have inert : pairingSolver.MakesNoProviders ⟨⟨1, []⟩, 0, []⟩ reached := by
    rintro goal own value ⟨new, same, member⟩
    rw [List.append_nil] at same
    simp only [same, Bool.not_eq_true', List.any_eq_false, Bool.not_eq_true] at quiet
    exact quiet _ member
  exact ⟨.ok value, reached, pairingSolver_determined, pairingSolver_makesNoCells, rfl,
    pairingSolver_pure _, ran, inert, .of_ok,
    solve_repeats pairingSolver_determined pairingSolver_makesNoCells rfl (pairingSolver_pure _)
      ran inert .of_ok⟩

end Synthesis
