import Synthesis.Proofs.Afresh
import Synthesis.Proofs.Repeatable

/-!
# Finding a value again without a memo

The values that a search takes from its memo were built in another branch, with other bindings and
other identities. So what is shown of a value is that the search without a memo finds one of the
same content from any branch with the same providers, and what is shown of a part of a search is
that it settles on the same from any such branch.

Results:
1. `Solver.Recomputes`, `Task.Recomputed`: what a search has given is found without a memo, too.
2. One lemma for each step of a search: what the step gives is found without a memo, if what the
   steps within it give is (`Task.Recomputed.goal` to `Task.Recomputed.built`).
-/
namespace Synthesis

section

variable {solver : Solver} {providers : Providers} {base : Heap}

/-! ## 1. What is found again -/

/-- From a branch and an arena a search leads to others: the heap is extended and the stamps go on,
the providers are the same, and bindings are added. -/
structure Follows (solver : Solver) (branch : Branch) (arena : Arena) (last : Branch)
    (reached : Arena) : Prop where
  heap : arena.heap.Extends reached.heap
  stamp : arena.stamp ≤ reached.stamp
  providers : last.providers = branch.providers
  extended : branch.subst.Extends last.subst
  proper : last.Proper solver reached.stamp

/-- A search without a memo ends as a search with one did: both stop for the same reason, both find
nothing, or what they find is the same in some sense. -/
inductive Echoes (solver : Solver) {γ β : Type} (lead : β → Branch) (same : Heap → γ → β → Prop)
    (branch : Branch) (arena : Arena) :
    Except Halt (Option γ) → Except Halt (Option β) → Arena → Prop
  | halts {halt : Halt} {reached : Arena} :
      Echoes solver lead same branch arena (.error halt) (.error halt) reached
  | fails {reached : Arena} : Follows solver branch arena branch reached →
      Echoes solver lead same branch arena (.ok none) (.ok none) reached
  | finds {given : γ} {outcome : β} {reached : Arena} :
      Follows solver branch arena (lead outcome) reached → same reached.heap given outcome →
      Echoes solver lead same branch arena (.ok (some given)) (.ok (some outcome)) reached

/-- From a branch and an arena, a part of a search without a memo settles on what was given. -/
def Agrees (solver : Solver) {γ β : Type} (lead : β → Branch) (same : Heap → γ → β → Prop)
    (part : Nat → Search (Option β)) (branch : Branch) (arena : Arena)
    (given : Except Halt (Option γ)) : Prop :=
  ∃ result reached, Settles part arena result reached ∧
    Echoes solver lead same branch arena given result reached

def SameFound (heap : Heap) (later : Heap) (value : Value) (found : Found) : Prop :=
  SameContent heap later value found.value

def SameSettled (heap : Heap) (later : Heap) (values : List Value)
    (settled : List Value × Branch) : Prop :=
  List.Forall₂ (SameContent heap later) values settled.1

/-- A part of a search that is ready for ground goals, with given providers and in a heap that
extends a first one. -/
structure Task.Anew (solver : Solver) (providers : Providers) (base : Heap) {α : Type}
    (task : Task α) (arena : Arena) : Prop where
  ready : task.Ready solver arena.stamp
  providers : task.start.providers = providers
  later : base.Extends arena.heap

/-- From every branch with given providers, what was given for a goal is found without a memo. -/
def Solver.Recomputes (solver : Solver) (providers : Providers) (base : Heap) (goal : Term)
    (heap : Heap) (given : Except Halt (Option Value)) : Prop :=
  ∀ depth sought branch arena,
    (Task.goal 0 sought branch depth).Anew solver providers base arena →
    branch.subst.apply sought = goal →
    Agrees solver Found.branch (SameFound heap) (solver.findAfresh · sought branch depth) branch
      arena given

/-- What a part of a search has given is found without a memo, too. -/
def Task.Recomputed (solver : Solver) (providers : Providers) (base before after : Heap) :
    {α : Type} → Task α → Except Halt α → Prop
  | _, .goal _ sought branch _, result =>
      solver.Recomputes providers base (branch.subst.apply sought) after
        (result.map (Option.map (·.value)))
  | _, .offers _ asked _ _ tries, result => ∀ depth branch arena,
      (Task.offers 0 asked branch depth tries).Anew solver providers base arena →
      Agrees solver Found.branch (SameFound after)
        (fun fuel => solver.tryOffers (solver.findAfresh fuel) asked branch depth tries) branch
        arena (result.map (Option.map (·.value)))
  | _, .build _ offer _ aim _ _, result => ∀ renamed depth branch arena,
      (Task.build 0 offer renamed aim branch depth).Anew solver providers base arena →
      Agrees solver Found.branch (SameFound after)
        (fun fuel => solver.build (solver.findAfresh fuel) offer renamed aim branch depth) branch
        arena (result.map (Option.map (·.value)))
  | _, .complete _ offer _ aim _ _ _, result => ∀ renamed depth branch arena,
      (Task.complete 0 offer renamed aim none branch depth).Anew solver providers base arena →
      Agrees solver Found.branch (SameFound after)
        (fun fuel => solver.complete (solver.findAfresh fuel) offer renamed aim none branch depth)
        branch arena (result.map (Option.map (·.value)))
  | _, .params _ _ _ _ patterns before, result => ∀ rule depth index others branch arena,
      (Task.params 0 rule depth index others branch).Anew solver providers base arena →
      others.map branch.subst.apply = patterns.map before.subst.apply →
      Agrees solver Prod.snd (SameSettled after)
        (fun fuel => solver.findParams (solver.findAfresh fuel) rule depth index others branch)
        branch arena (result.map (Option.map (·.1)))
  | _, .invoke offer _ aim _ args _ _, result => ∀ renamed depth others branch arena,
      (Task.invoke offer renamed aim none others branch depth).Anew solver providers base arena →
      List.Forall₂ (SameContent before arena.heap) args others →
      Agrees solver Found.branch (SameFound after)
        (fun _ => solver.invoke offer renamed aim none others branch depth) branch arena
        (result.map (Option.map (·.value)))

/-- The values of a memo, except that of one goal, are found without it, too. -/
def Memo.Recomputed (solver : Solver) (providers : Providers) (base heap : Heap)
    (except : Option Term) (memo : Memo) : Prop :=
  ∀ key value, except ≠ some key → memo.get? key = some (.ready value) →
    solver.Recomputes providers base key heap (.ok (some value))

/-- The goal for which a part of a search enters values in the memo by itself. -/
def Task.aim? : {α : Type} → Task α → Option Term
  | _, .offers _ asked _ _ _ => some asked
  | _, .build _ _ _ aim _ _ | _, .complete _ _ _ aim _ _ _ | _, .invoke _ _ aim _ _ _ _ => some aim
  | _, .goal .. | _, .params .. => none

/-- A part of a search from a bare branch with values that are found without a memo, too. -/
structure Task.Sound (solver : Solver) (providers : Providers) (base : Heap) {α : Type}
    (task : Task α) (arena : Arena) : Prop where
  ready : task.Ready solver arena.stamp
  bare : task.start.Bare solver providers
  offered : task.Offered providers.offers
  later : base.Extends arena.heap
  known : task.start.memo.Recomputed solver providers base arena.heap none

/-- What a part of a search gives is found without a memo, and so are the values that it leaves in
the memo, except that of the goal which it builds itself. -/
structure Task.Repeats (solver : Solver) (providers : Providers) (base before after : Heap)
    {α : Type} (task : Task α) (result : Except Halt α) : Prop where
  again : task.Recomputed solver providers base before after result
  known : ∀ {outcome : α} {last : Branch}, result = .ok outcome →
    task.finish? outcome = some last →
      last.memo.Recomputed solver providers base after task.aim?

/-- A search is not given up for want of fuel or because a goal is needed for itself. -/
structure Conclusive {α : Type} (result : Except Halt α) : Prop where
  enough : result ≠ .error .outOfFuel
  acyclic : ∀ goal, result ≠ .error (.failed (.cyclicDemand goal))

section

variable {branch middle last : Branch} {arena between reached : Arena}

theorem Follows.trans (one : Follows solver branch arena middle between)
    (two : Follows solver middle between last reached) :
    Follows solver branch arena last reached where
  heap := one.heap.trans two.heap
  stamp := Nat.le_trans one.stamp two.stamp
  providers := two.providers.trans one.providers
  extended := one.extended.trans two.extended
  proper := two.proper

/-- A search that comes back to its branch. -/
theorem Follows.stay (proper : branch.Proper solver arena.stamp)
    (heap : arena.heap.Extends reached.heap) (stamp : arena.stamp ≤ reached.stamp) :
    Follows solver branch arena branch reached :=
  ⟨heap, stamp, rfl, .refl _, proper.mono stamp⟩

/-- A value that is found and is no provider. -/
theorem Follows.enroll (follows : Follows solver branch arena middle between) {value : Value}
    (inert : solver.registry.bearsRules value = false) (entry : LogEntry) :
    Follows solver branch arena
      { middle with providers := middle.providers.enroll solver.registry value }
      (solver.enrolled value middle.providers (between.note entry)) := by
  refine ⟨by simpa using follows.heap, by simpa using follows.stamp, ?_, follows.extended, ?_⟩
  · rw [Providers.enroll_of_inert inert, follows.providers]
  · rw [Solver.stamp_enrolled]
    exact ⟨follows.proper.offers.enroll _, follows.proper.triangular, follows.proper.stamped⟩

variable {γ β : Type} {lead : β → Branch} {same weaker : Heap → γ → β → Prop}
  {part next : Nat → Search (Option β)} {given : Except Halt (Option γ)}
  {result : Except Halt (Option β)}

theorem Echoes.none_iff (echoes : Echoes solver lead same branch arena given result reached) :
    result = .ok none ↔ given = .ok none := by
  cases echoes <;> simp

theorem Echoes.imp (echoes : Echoes solver lead same branch arena given result reached)
    (weaken : ∀ heap value outcome, same heap value outcome → weaker heap value outcome) :
    Echoes solver lead weaker branch arena given result reached := by
  cases echoes with
  | halts => exact .halts
  | fails follows => exact .fails follows
  | finds follows found => exact .finds follows (weaken _ _ _ found)

/-- What a part of a search ends with, the whole ends with. -/
theorem Echoes.of_part (echoes : Echoes solver lead same middle between given result reached)
    (proper : branch.Proper solver arena.stamp) (start : Follows solver branch arena middle between)
    {after : Arena} (heap : after.heap = reached.heap) (stamp : after.stamp = reached.stamp) :
    Echoes solver lead same branch arena given result after := by
  cases echoes with
  | halts => exact .halts
  | fails follows =>
      refine .fails (.stay proper ?_ ?_)
      · exact heap ▸ start.heap.trans follows.heap
      · exact stamp ▸ Nat.le_trans start.stamp follows.stamp
  | finds follows found =>
      have whole := start.trans follows
      exact .finds ⟨heap ▸ whole.heap, stamp ▸ whole.stamp, whole.providers, whole.extended,
        stamp ▸ whole.proper⟩ (heap ▸ found)

namespace Agrees

theorem imp (agrees : Agrees solver lead same part branch arena given)
    (weaken : ∀ heap value outcome, same heap value outcome → weaker heap value outcome) :
    Agrees solver lead weaker part branch arena given := by
  obtain ⟨result, reached, settles, echoes⟩ := agrees
  exact ⟨result, reached, settles, echoes.imp weaken⟩

/-- What a part of a search settles on, the whole settles on. -/
theorem of_part (agrees : Agrees solver lead same part middle between given)
    (proper : branch.Proper solver arena.stamp) (start : Follows solver branch arena middle between)
    (step : ∀ result reached, Settles part between result reached →
      (result = .ok none ↔ given = .ok none) → Settles next arena result reached) :
    Agrees solver lead same next branch arena given := by
  obtain ⟨result, reached, settles, echoes⟩ := agrees
  exact ⟨result, reached, step result reached settles echoes.none_iff,
    echoes.of_part proper start rfl rfl⟩

theorem of_halt {halt : Halt} (settles : Settles part arena (.error halt) reached) :
    Agrees solver lead same part branch arena (.error halt) :=
  ⟨_, _, settles, .halts⟩

theorem of_none (settles : Settles part arena (.ok none) reached)
    (follows : Follows solver branch arena branch reached) :
    Agrees solver lead same part branch arena (.ok none) :=
  ⟨_, _, settles, .fails follows⟩

theorem stops {halt : Halt}
    (agrees : Agrees solver lead same part branch arena (.error halt)) :
    ∃ reached, Settles part arena (.error halt) reached := by
  obtain ⟨result, reached, settles, echoes⟩ := agrees
  cases echoes with
  | halts => exact ⟨reached, settles⟩

theorem misses (agrees : Agrees solver lead same part branch arena (.ok none)) :
    ∃ reached, Settles part arena (.ok none) reached ∧
      Follows solver branch arena branch reached := by
  obtain ⟨result, reached, settles, echoes⟩ := agrees
  cases echoes with
  | fails follows => exact ⟨reached, settles, follows⟩

theorem meets {value : γ} (agrees : Agrees solver lead same part branch arena (.ok (some value))) :
    ∃ outcome reached, Settles part arena (.ok (some outcome)) reached ∧
      Follows solver branch arena (lead outcome) reached ∧ same reached.heap value outcome := by
  obtain ⟨result, reached, settles, echoes⟩ := agrees
  cases echoes with
  | finds follows found => exact ⟨_, reached, settles, follows, found⟩

end Agrees

end

/-! ## 2. The steps of a search -/

namespace Task.Anew

variable {depth index : Nat} {sought asked aim first : Term} {branch middle : Branch}
  {offer : Offer} {tries : List Offer} {renamed : Renamed} {rule : Signature}
  {patterns : List Term} {args : List Value} {arena after : Arena}

theorem proper {α : Type} {task : Task α} (anew : task.Anew solver providers base arena) :
    task.start.Proper solver arena.stamp :=
  anew.ready.start

theorem mono {α : Type} {task : Task α} (anew : task.Anew solver providers base arena)
    (heap : arena.heap.Extends after.heap) (stamp : arena.stamp ≤ after.stamp) :
    task.Anew solver providers base after :=
  ⟨anew.ready.mono stamp, anew.providers, anew.later.trans heap⟩

theorem offers (anew : (Task.goal 0 sought branch depth).Anew solver providers base arena)
    (same : branch.subst.apply sought = asked) :
    (Task.offers 0 asked { branch with memo := {} } depth branch.providers.offers).Anew solver
      providers base arena where
  ready := ⟨⟨anew.proper.offers, anew.proper.triangular, anew.proper.stamped⟩,
    same ▸ anew.ready.ground, anew.proper.offers⟩
  providers := anew.providers
  later := anew.later

theorem rest
    (anew : (Task.offers 0 asked branch depth (offer :: tries)).Anew solver providers base arena)
    (heap : arena.heap.Extends after.heap) (stamp : arena.stamp + 1 ≤ after.stamp) :
    (Task.offers 0 asked branch depth tries).Anew solver providers base after :=
  ⟨anew.ready.rest.mono stamp, anew.providers, anew.later.trans heap⟩

theorem build
    (anew : (Task.offers 0 asked branch depth (offer :: tries)).Anew solver providers base arena)
    {subst : Substitution}
    (matched : branch.subst.matching (offer.rule.rename (arena.stamp + 1)).returns asked =
      .ok subst) (same : subst.apply asked = aim) (ground : aim.isGround = true)
    (heap : arena.heap.Extends after.heap) (stamp : arena.stamp + 1 ≤ after.stamp) :
    (Task.build 0 offer (offer.rule.rename (arena.stamp + 1)) aim { branch with subst } depth).Anew
      solver providers base after :=
  ⟨(anew.ready.build matched same ground).mono stamp, anew.providers, anew.later.trans heap⟩

theorem probe
    (anew : (Task.build 0 offer renamed aim branch depth).Anew solver providers base arena)
    (deeper : Nat) :
    (Task.goal 0 (aim.under solver.settings.placeholder) branch deeper).Anew solver providers base
      arena :=
  ⟨anew.ready.probe, anew.providers, anew.later⟩

theorem complete
    (anew : (Task.build 0 offer renamed aim branch depth).Anew solver providers base arena)
    (memo : Memo) :
    (Task.complete 0 offer renamed aim none { branch with memo } depth).Anew solver providers base
      arena :=
  ⟨anew.ready.complete _ _, anew.providers, anew.later⟩

theorem params (determined : solver.Determined)
    (anew : (Task.complete 0 offer renamed aim none branch depth).Anew solver providers base
      arena) :
    (Task.params 0 offer.rule.toSignature depth 0 renamed.params branch).Anew solver providers base
      arena :=
  ⟨anew.ready.params determined, anew.providers, anew.later⟩

theorem invoke
    (anew : (Task.complete 0 offer renamed aim none branch depth).Anew solver providers base arena)
    (follows : Follows solver branch arena middle after) (args : List Value) :
    (Task.invoke offer renamed aim none args middle depth).Anew solver providers base after where
  ready := anew.ready.invoke_from follows.proper follows.extended args
  providers := follows.providers.trans anew.providers
  later := anew.later.trans follows.heap

theorem param
    (anew : (Task.params 0 rule depth index (first :: patterns) branch).Anew solver providers base
      arena) (deeper : Nat) :
    (Task.goal 0 first branch deeper).Anew solver providers base arena :=
  ⟨anew.ready.param, anew.providers, anew.later⟩

theorem params_later
    (anew : (Task.params 0 rule depth index (first :: patterns) branch).Anew solver providers base
      arena) (follows : Follows solver branch arena middle after) :
    (Task.params 0 rule depth (index + 1) patterns middle).Anew solver providers base after where
  ready := by
    refine ⟨follows.proper, fun pattern member => ?_⟩
    have ground := anew.ready.ground pattern (.tail _ member)
    rwa [← follows.extended.apply_of_ground anew.proper.triangular ground] at ground
  providers := follows.providers.trans anew.providers
  later := anew.later.trans follows.heap

end Task.Anew

namespace Task.Recomputed

variable {fuel depth deeper index : Nat} {sought asked aim param : Term} {branch later : Branch}
  {offer : Offer} {tries : List Offer} {renamed : Renamed} {rule : Signature}
  {patterns : List Term} {own : Option Nat} {args : List Value} {before middle after : Heap}
  {halt : Halt} {result : Except Halt (Option Found)}

theorem goal (unlimited : solver.settings.maxDepth = none) (within : branch.providers = providers)
    (same : branch.subst.apply sought = asked)
    (tried : (Task.offers fuel asked branch depth branch.providers.offers).Recomputed solver
      providers base before after result) :
    (Task.goal (fuel + 1) sought branch depth).Recomputed solver providers base before after
      result := by
  intro depth sought branch' arena anew equal
  rw [same] at equal
  have providers_same : branch'.providers = branch.providers := anew.providers.trans within.symm
  have start : Follows solver branch' arena { branch' with memo := {} }
      (solver.noted (.attempting depth asked) (arena.note (.demanded asked))) :=
    ⟨.of_eq (by simp), by simp, rfl, .refl _,
      ⟨anew.proper.offers, anew.proper.triangular, anew.proper.stamped.mono (by simp)⟩⟩
  rw [← providers_same] at tried
  obtain ⟨result', reached, settles, echoes⟩ :=
    tried depth _ _ ((anew.offers equal).mono start.heap start.stamp)
  by_cases missed : result' = .ok none
  · subst missed
    exact ⟨_, _, .unfound unlimited equal settles,
      echoes.of_part anew.proper start (by simp) (by simp)⟩
  · exact ⟨_, _, .searched unlimited equal settles missed,
      echoes.of_part anew.proper start rfl rfl⟩

theorem mismatch (differs : ¬ ∃ slots, offer.rule.returns.subst slots = asked)
    (rest : (Task.offers fuel asked branch depth tries).Recomputed solver providers base before
      after result) :
    (Task.offers fuel asked branch depth (offer :: tries)).Recomputed solver providers base before
      after result := by
  intro depth branch' arena anew
  -- whether a rule matches a ground goal is the same in all branches
  obtain ⟨clash, clashes⟩ : ∃ clash, branch'.subst.matching
      (offer.rule.rename (arena.stamp + 1)).returns asked = .error clash := by
    cases matched : branch'.subst.matching (offer.rule.rename (arena.stamp + 1)).returns asked with
    | error clash => exact ⟨clash, rfl⟩
    | ok later =>
        exact absurd (anew.ready.matching_iff.1 ⟨later, matched⟩) differs
  have start : Follows solver branch' arena branch'
      (solver.noted (.skippedMismatch depth offer.rule.toSignature clash)
        (arena.tried offer.rule.toSignature asked branch'.subst)) :=
    .stay anew.proper (.of_eq (by simp)) (by simp)
  exact (rest _ _ _ (anew.rest start.heap (by simp))).of_part anew.proper start
    fun _ _ settles _ => .mismatch clashes settles

/-- A rule that returns the goal is matched with it, and the goal stays as it is. -/
theorem exists_attempt {depth : Nat} {arena : Arena}
    (anew : (Task.offers 0 asked branch depth (offer :: tries)).Anew solver providers base arena)
    (returns : ∃ slots, offer.rule.returns.subst slots = asked) :
    ∃ subst,
      branch.subst.matching (offer.rule.rename (arena.stamp + 1)).returns asked = .ok subst ∧
      subst.apply asked = asked ∧
      Follows solver branch arena { branch with subst }
        (solver.noted (.trying depth offer.rule.toSignature asked)
          ((arena.tried offer.rule.toSignature asked branch.subst).note (.matched asked asked))) ∧
      (Task.build 0 offer (offer.rule.rename (arena.stamp + 1)) asked { branch with subst }
        depth).Anew solver providers base
        (solver.noted (.trying depth offer.rule.toSignature asked)
          ((arena.tried offer.rule.toSignature asked branch.subst).note
            (.matched asked asked))) := by
  have ground := anew.ready.ground.1
  obtain ⟨subst, matched⟩ := anew.ready.matching_iff.2 returns
  have same : subst.apply asked = asked := subst.apply_of_ground ground
  have extended := (Substitution.matching_ok anew.proper.triangular matched).1
  refine ⟨subst, matched, same, ⟨.of_eq (by simp), by simp, rfl, extended, ?_⟩, ?_⟩
  · exact (anew.build matched same ground (.of_eq (by simp)) (by simp)).proper
  · exact anew.build matched same ground (.of_eq (by simp)) (by simp)

theorem attempt (returns : ∃ slots, offer.rule.returns.subst slots = asked)
    (build : (Task.build fuel offer renamed asked branch depth).Recomputed solver providers base
      before after result) (found : result ≠ .ok none) {start : Branch} :
    (Task.offers fuel asked start depth (offer :: tries)).Recomputed solver providers base before
      after result := by
  intro depth branch' arena anew
  obtain ⟨subst, matched, same, start, ready⟩ := exists_attempt anew returns
  refine (build _ _ _ _ ready).of_part anew.proper start fun result' reached settles none_iff => ?_
  refine .attempt matched same anew.ready.ground.1 settles fun missed => found ?_
  rcases result with _ | _ | _ <;> cases none_iff.1 missed
  rfl

theorem moveOn (returns : ∃ slots, offer.rule.returns.subst slots = asked)
    (build : (Task.build fuel offer renamed asked branch depth).Recomputed solver providers base
      before middle (.ok none)) {start : Branch} {between : Heap}
    (rest : (Task.offers fuel asked start depth tries).Recomputed solver providers base between
      after result) :
    (Task.offers fuel asked start depth (offer :: tries)).Recomputed solver providers base before
      after result := by
  intro depth branch' arena anew
  obtain ⟨subst, matched, same, start, ready⟩ := exists_attempt anew returns
  obtain ⟨reached, settles, follows⟩ := (build _ _ _ _ ready).misses
  have stamp := follows.stamp
  simp only [Solver.stamp_noted, Arena.stamp_note, Arena.stamp_tried] at stamp
  have back : Follows solver branch' arena branch' reached :=
    .stay anew.proper (start.trans follows).heap (start.trans follows).stamp
  exact (rest _ _ _ (anew.rest back.heap stamp)).of_part anew.proper back
    fun _ _ others _ => .moveOn matched same anew.ready.ground.1 settles others

theorem plain (chosen : Chosen solver.registry offer renamed aim branch.subst)
    (unentered : (renamed.params.isEmpty || solver.asksForCell aim) = true)
    (complete : (Task.complete fuel offer renamed aim own branch depth).Recomputed solver providers
      base before after result) :
    (Task.build fuel offer renamed aim branch depth).Recomputed solver providers base before after
      result := by
  intro other depth branch' arena anew
  have agrees := complete other depth branch' arena (anew.complete _)
  rw [← chosen.isEmpty_params anew.ready.ground] at unentered
  exact agrees.of_part anew.proper (.stay anew.proper (.refl _) (Nat.le_refl _))
    fun _ _ settles _ => .plain unentered settles

theorem probe (ground : aim.isGround = true) {result : Except Halt (Option Found)}
    (probe : (Task.goal fuel (aim.under solver.settings.placeholder) branch deeper).Recomputed
      solver providers base before after result) {branch' : Branch} {depth : Nat} {arena : Arena}
    (anew : (Task.goal 0 (aim.under solver.settings.placeholder) branch' depth).Anew solver
      providers base arena) :
    Agrees solver Found.branch (SameFound after)
      (solver.findAfresh · (aim.under solver.settings.placeholder) branch' depth) branch' arena
      (result.map (Option.map (·.value))) := by
  have ground : (aim.under solver.settings.placeholder).isGround = true := by simpa using ground
  refine probe depth _ branch' arena anew ?_
  rw [Substitution.apply_of_ground _ ground, Substitution.apply_of_ground _ ground]

theorem guarded (chosen : Chosen solver.registry offer renamed aim branch.subst)
    (entered : (renamed.params.isEmpty || solver.asksForCell aim) = false)
    (probe : (Task.goal fuel (aim.under solver.settings.placeholder) branch deeper).Recomputed
      solver providers base before middle (.ok none)) {memo : Memo}
    (complete : (Task.complete fuel offer renamed aim own { branch with memo } depth).Recomputed
      solver providers base middle after result) :
    (Task.build fuel offer renamed aim branch depth).Recomputed solver providers base before after
      result := by
  intro other depth branch' arena anew
  obtain ⟨between, missed, follows⟩ :=
    (probe.probe chosen.ground (anew.probe (solver.depths.next depth))).misses
  have start : Follows solver branch' arena
      { branch' with memo := branch'.memo.insert aim .guarded }
      (between.note (.entered aim none)) :=
    ⟨follows.heap, follows.stamp, rfl, .refl _,
      ⟨anew.proper.offers, anew.proper.triangular, anew.proper.stamped.mono follows.stamp⟩⟩
  obtain ⟨result', reached, settles, echoes⟩ :=
    complete other depth _ _ ((anew.complete _).mono start.heap start.stamp)
  rw [← chosen.isEmpty_params anew.ready.ground] at entered
  exact ⟨_, _, .guarded entered missed settles,
    echoes.of_part anew.proper start (by simp) (by simp)⟩

theorem probeHalts (chosen : Chosen solver.registry offer renamed aim branch.subst)
    (entered : (renamed.params.isEmpty || solver.asksForCell aim) = false)
    (probe : (Task.goal fuel (aim.under solver.settings.placeholder) branch deeper).Recomputed
      solver providers base before after (.error halt)) :
    (Task.build fuel offer renamed aim branch depth).Recomputed solver providers base before after
      (.error halt) := by
  intro other depth branch' arena anew
  obtain ⟨reached, halted⟩ :=
    (probe.probe chosen.ground (anew.probe (solver.depths.next depth))).stops
  rw [← chosen.isEmpty_params anew.ready.ground] at entered
  exact .of_halt (.probeHalts entered halted)

/-- The parameters of an offer that was chosen for the same goal in another branch. -/
theorem settled (determined : solver.Determined)
    (chosen : Chosen solver.registry offer renamed aim branch.subst)
    {result : Except Halt (Option (List Value × Branch))}
    (params : (Task.params fuel offer.rule.toSignature deeper 0 renamed.params branch).Recomputed
      solver providers base before after result) {other : Renamed} {branch' : Branch} {depth : Nat}
    {arena : Arena}
    (anew : (Task.complete 0 offer other aim none branch' depth).Anew solver providers base arena) :
    Agrees solver Prod.snd (SameSettled after)
      (fun fuel => solver.findParams (solver.findAfresh fuel) offer.rule.toSignature depth 0
        other.params branch') branch' arena (result.map (Option.map (·.1))) :=
  params _ _ _ _ _ _ (anew.params determined) (chosen.params_same determined anew.ready.ground)

theorem paramsHalt (determined : solver.Determined)
    (chosen : Chosen solver.registry offer renamed aim branch.subst)
    (params : (Task.params fuel offer.rule.toSignature depth 0 renamed.params branch).Recomputed
      solver providers base before after (.error halt)) :
    (Task.complete fuel offer renamed aim own branch depth).Recomputed solver providers base before
      after (.error halt) := by
  intro other depth branch' arena anew
  obtain ⟨reached, halted⟩ := (params.settled determined chosen anew).stops
  exact .of_halt (.paramsHalt halted)

theorem paramsFail (determined : solver.Determined)
    (chosen : Chosen solver.registry offer renamed aim branch.subst)
    (params : (Task.params fuel offer.rule.toSignature depth 0 renamed.params branch).Recomputed
      solver providers base before after (.ok none)) :
    (Task.complete fuel offer renamed aim own branch depth).Recomputed solver providers base before
      after (.ok none) := by
  intro other depth branch' arena anew
  obtain ⟨reached, missed, follows⟩ := (params.settled determined chosen anew).misses
  exact .of_none (.paramsFail missed) follows

theorem paramsSettled (determined : solver.Determined)
    (chosen : Chosen solver.registry offer renamed aim branch.subst)
    (params : (Task.params fuel offer.rule.toSignature depth 0 renamed.params branch).Recomputed
      solver providers base before middle (.ok (some (args, later))))
    (invoke : (Task.invoke offer renamed aim own args later depth).Recomputed solver providers base
      middle after result) :
    (Task.complete fuel offer renamed aim own branch depth).Recomputed solver providers base before
      after result := by
  intro other depth branch' arena anew
  obtain ⟨⟨args', later'⟩, between, settled, follows, same⟩ :=
    (params.settled determined chosen anew).meets
  have agrees := invoke other depth args' later' between (anew.invoke follows args') same
  exact agrees.of_part anew.proper follows fun _ _ ran _ => .paramsSettled settled ran

theorem noParams :
    (Task.params fuel rule depth index [] branch).Recomputed solver providers base before after
      (.ok (some ([], later))) := by
  intro rule depth index others branch' arena anew equal
  obtain rfl : others = [] := List.map_eq_nil_iff.1 equal
  exact ⟨_, _, .of_eq fun _ => rfl,
    .finds (.stay anew.proper (.refl _) (Nat.le_refl _)) .nil⟩

theorem paramHalts
    (first : (Task.goal fuel param branch deeper).Recomputed solver providers base before after
      (.error halt)) :
    (Task.params fuel rule depth index (param :: patterns) branch).Recomputed solver providers base
      before after (.error halt) := by
  intro rule depth index others branch' arena anew equal
  obtain ⟨other, others, rfl, same, -⟩ := List.map_eq_cons_iff.1 equal
  obtain ⟨reached, halted⟩ :=
    (first (solver.depths.next depth) other branch' arena (anew.param _) same).stops
  exact .of_halt (.paramHalts halted)

theorem paramFails
    (first : (Task.goal fuel param branch deeper).Recomputed solver providers base before after
      (.ok none)) :
    (Task.params fuel rule depth index (param :: patterns) branch).Recomputed solver providers base
      before after (.ok none) := by
  intro rule depth index others branch' arena anew equal
  obtain ⟨other, others, rfl, same, -⟩ := List.map_eq_cons_iff.1 equal
  obtain ⟨reached, missed, follows⟩ :=
    (first (solver.depths.next depth) other branch' arena (anew.param _) same).misses
  exact .of_none (.paramFails missed) (.stay anew.proper (by simpa using follows.heap)
    (by simpa using follows.stamp))

theorem paramFound {found : Found} (inert : solver.registry.bearsRules found.value = false)
    (kept : patterns.map found.branch.subst.apply = patterns.map branch.subst.apply)
    (wider : middle.Extends after) {settled : Except Halt (Option (List Value × Branch))}
    (first : (Task.goal fuel param branch deeper).Recomputed solver providers base before middle
      (.ok (some found)))
    (rest : (Task.params fuel rule depth (index + 1) patterns
      { found.branch with
        providers := found.branch.providers.enroll solver.registry found.value }).Recomputed solver
      providers base middle after settled) :
    (Task.params fuel rule depth index (param :: patterns) branch).Recomputed solver providers base
      before after (settled.map (consValue found.value)) := by
  intro rule depth index others branch' arena anew equal
  obtain ⟨other, others, rfl, same, others_same⟩ := List.map_eq_cons_iff.1 equal
  obtain ⟨found', between, settles, follows, alike⟩ :=
    (first (solver.depths.next depth) other branch' arena (anew.param _) same).meets
  have inert' : solver.registry.bearsRules found'.value = false := by
    rw [Registry.bearsRules, alike.kind_eq]
    exact inert
  have start := follows.enroll inert' (.passed (found'.branch.subst.apply other) found'.value)
  have kept' : others.map found'.branch.subst.apply = others.map branch'.subst.apply :=
    List.map_congr_left fun pattern member => follows.extended.apply_of_ground
      anew.proper.triangular (anew.ready.ground pattern (.tail _ member))
  obtain ⟨result, reached, ran, echoes⟩ := rest rule depth (index + 1) others _ _
    (anew.params_later start) (kept'.trans (others_same.trans kept.symm))
  refine ⟨_, reached, .paramFound settles ran, ?_⟩
  obtain halt | _ | ⟨values, last⟩ := settled
  · cases echoes with
    | halts => exact .halts
  · cases echoes.of_part anew.proper start rfl rfl with
    | fails follows => exact .fails follows
  · cases echoes with
    | @finds _ outcome _ further values_same =>
        obtain ⟨values', last'⟩ := outcome
        refine .finds (start.trans further) (.cons (alike.mono wider ?_) values_same)
        simpa using further.heap

end Task.Recomputed

/-! ## 3. The bodies of rules -/

theorem Solver.inputs_eq (offer : Offer) (types : List Term) (args : List Value) :
    Solver.inputs offer types args =
      offer.view.map fun provider => ⟨offer.rule.toSignature, provider, types, args⟩ := by
  unfold Solver.inputs
  cases offer.view <;> rfl

/-- A body that looks at contents only decides the same for other arguments of the same contents. -/
theorem Offer.Pure.again {offer : Offer} (pure : offer.Pure base) {types : List Term}
    {args others : List Value} {given : Inputs} {first second : Heap}
    (seen : Solver.inputs offer types args = .ok given) (one : base.Extends first)
    (two : base.Extends second) (same : List.Forall₂ (SameContent first second) args others) :
    ∃ given', Solver.inputs offer types others = .ok given' ∧
      SameOutcome (offer.rule.recipe.run given first).val
        (offer.rule.recipe.run given' second).val := by
  simp only [Solver.inputs_eq] at seen ⊢
  cases view : offer.view with
  | error failure => rw [view] at seen; cases seen
  | ok provider =>
      rw [view] at seen
      cases seen
      exact ⟨_, rfl, pure provider types args others first second view one two same⟩

namespace Task.Recomputed

variable {depth : Nat} {aim : Term} {branch last : Branch} {offer : Offer} {renamed : Renamed}
  {own : Option Nat} {args : List Value} {types : List Term} {given : Inputs}
  {before after : Heap} {failure : Failure}

theorem noView (determined : solver.Determined)
    (chosen : Chosen solver.registry offer renamed aim branch.subst)
    (closed : Solver.slotTypes branch.subst renamed.slots = .ok types)
    (unseen : Solver.inputs offer types args = .error failure) :
    (Task.invoke offer renamed aim own args branch depth).Recomputed solver providers base before
      after (.error (.failed failure)) := by
  intro other depth others branch' arena anew alike
  have closed' := chosen.slotTypes_same determined anew.ready.ground closed
  have unseen' : Solver.inputs offer types others = .error failure := by
    rw [Solver.inputs_eq] at unseen ⊢
    cases view : offer.view with
    | error cause => rwa [view] at unseen
    | ok provider => rw [view] at unseen; cases unseen
  refine ⟨.error (.failed failure), arena.note (.halted failure), .of_eq fun fuel => ?_, .halts⟩
  simp [Solver.invoke, closed', unseen']

theorem bodyFails (determined : solver.Determined)
    (chosen : Chosen solver.registry offer renamed aim branch.subst) (pure : offer.Pure base)
    (later : base.Extends before)
    (closed : Solver.slotTypes branch.subst renamed.slots = .ok types)
    (seen : Solver.inputs offer types args = .ok given)
    (ran : (offer.rule.recipe.run given before).val = (.error failure, after)) :
    (Task.invoke offer renamed aim own args branch depth).Recomputed solver providers base before
      after (.error (.failed failure)) := by
  intro other depth others branch' arena anew alike
  have closed' := chosen.slotTypes_same determined anew.ready.ground closed
  obtain ⟨given', seen', same⟩ := pure.again seen later anew.later alike
  rw [ran] at same
  obtain ⟨heap, ran'⟩ := same.of_failed
  let called := (arena.note (.called ⟨offer.rule, aim, given', arena.heap⟩)).onHeap heap
  refine ⟨.error (.failed failure), called.note (.halted failure), .of_eq fun fuel => ?_, .halts⟩
  simp [Solver.invoke, closed', seen', ran', called]

theorem declines (determined : solver.Determined)
    (chosen : Chosen solver.registry offer renamed aim branch.subst) (pure : offer.Pure base)
    (later : base.Extends before)
    (closed : Solver.slotTypes branch.subst renamed.slots = .ok types)
    (seen : Solver.inputs offer types args = .ok given)
    (ran : (offer.rule.recipe.run given before).val = (.ok .declined, after)) :
    (Task.invoke offer renamed aim own args branch depth).Recomputed solver providers base before
      after (.ok none) := by
  intro other depth others branch' arena anew alike
  have closed' := chosen.slotTypes_same determined anew.ready.ground closed
  obtain ⟨given', seen', same⟩ := pure.again seen later anew.later alike
  rw [ran] at same
  obtain ⟨heap, ran'⟩ := same.of_declined
  let called := (arena.note (.called ⟨offer.rule, aim, given', arena.heap⟩)).onHeap heap
  refine ⟨.ok none, solver.noted (.declined depth offer.rule.toSignature) called,
    .of_eq fun fuel => ?_, .fails (.stay anew.proper ?_ ?_)⟩
  · simp [Solver.invoke, closed', seen', ran', called]
  · simpa [called] using Recipe.run_extends ran'
  · simp [called]

theorem built (determined : solver.Determined)
    (chosen : Chosen solver.registry offer renamed aim branch.subst) (pure : offer.Pure base)
    (later : base.Extends before)
    (closed : Solver.slotTypes branch.subst renamed.slots = .ok types)
    (seen : Solver.inputs offer types args = .ok given) {value : Value}
    (ran : (offer.rule.recipe.run given before).val = (.ok (.produced value), after)) :
    (Task.invoke offer renamed aim own args branch depth).Recomputed solver providers base before
      after (.ok (some ⟨value, last⟩)) := by
  intro other depth others branch' arena anew alike
  have closed' := chosen.slotTypes_same determined anew.ready.ground closed
  obtain ⟨given', seen', same⟩ := pure.again seen later anew.later alike
  rw [ran] at same
  obtain ⟨value', heap, ran', content⟩ := same.of_produced
  let called := (arena.note (.called ⟨offer.rule, aim, given', arena.heap⟩)).onHeap heap
  let last' : Branch := { branch' with
    memo := branch'.memo.insert aim (.ready value')
    history := .built aim given' none value' :: branch'.history }
  refine ⟨.ok (some ⟨value', last'⟩), solver.noted (.built depth offer.rule.toSignature aim value')
    ((called.note (.produced aim none value')).onHeap heap), .of_eq fun fuel => ?_, .finds ?_ ?_⟩
  · simp [Solver.invoke, closed', seen', ran', called, last', Heap.settle?]
  · refine ⟨by simpa [called] using Recipe.run_extends ran', by simp [called], rfl, .refl _, ?_⟩
    exact ⟨anew.proper.offers, anew.proper.triangular, anew.proper.stamped.mono (by simp [called])⟩
  · simpa [called, SameFound] using content

end Task.Recomputed

end

end Synthesis
