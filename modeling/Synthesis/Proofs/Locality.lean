import Synthesis.Proofs.Slots

/-!
# A goal leaves the variables of other goals open

When a goal is settled, variables are bound that are new, since the rules that are tried for it and
for its parameters are renamed apart, and the variables that were left in the goal itself. A match
binds in both directions, but whatever a variable of the goal is passed on to is one of these again.
So parameters that wait to be settled keep their variables, unless they share them with the goal.

Results:
1. `Substitution.GrowsWithin.matching`: a match adds bindings of variables of the terms that are
   matched.
2. `Runs.bindsWithin`: a run adds bindings of variables that it brings in itself, and of those that
   the bindings leave in the terms with which it starts.
3. `Task.Next.keepsApart`: from each part of a search to the next one, rules are renamed apart.
4. `find_leaves_others_open`: this for every goal that is looked for in a whole search.
-/
namespace Synthesis

open Substitution (Triangular)

/-! ## 1. Bindings of some variables only -/

/-- A substitution is continued by bindings of variables of some kind, to terms with such variables.
-/
def Substitution.GrowsWithin (names : String → Prop) (subst later : Substitution) : Prop :=
  ∃ added, later = subst.append added ∧ added.Within names

namespace Substitution.GrowsWithin

variable {names : String → Prop} {subst middle later : Substitution}

theorem refl (subst : Substitution) : subst.GrowsWithin names subst :=
  ⟨.empty, subst.append_empty.symm, .empty⟩

theorem trans (one : subst.GrowsWithin names middle) (two : middle.GrowsWithin names later) :
    subst.GrowsWithin names later := by
  obtain ⟨first, rfl, inFirst⟩ := one
  obtain ⟨second, rfl, inSecond⟩ := two
  refine ⟨first.append second, by simp only [append, List.append_assoc], fun binding member => ?_⟩
  exact (List.mem_append.1 member).elim (inFirst binding) (inSecond binding)

theorem apply (grows : subst.GrowsWithin names later) {term : Term}
    (inside : (subst.apply term).Within names) : (later.apply term).Within names := by
  obtain ⟨added, rfl, within⟩ := grows
  rw [apply_append]
  exact within.apply inside

/-- A match adds bindings of variables of the terms that are matched. -/
theorem matching {pattern goal : Term} (inPattern : (subst.apply pattern).Within names)
    (inGoal : (subst.apply goal).Within names)
    (matched : subst.matching pattern goal = .ok later) : subst.GrowsWithin names later := by
  obtain ⟨added, rfl, scope⟩ := added_of_matching matched
  refine ⟨added, rfl, fun binding member => ?_⟩
  have known (other : String)
      (concerned : binding.1 = other ∨ binding.2.mentions other = true) : names other :=
    (scope binding member other concerned).elim (inPattern other) (inGoal other)
  exact ⟨known _ (.inl rfl), fun other inTerm => known other (.inr inTerm)⟩

/-- A variable that is bound in the end was bound before or is of the kind. -/
theorem mem_domain (grows : subst.GrowsWithin names later) {name : String}
    (bound : name ∈ later.domain) : name ∈ subst.domain ∨ names name := by
  obtain ⟨added, rfl, within⟩ := grows
  obtain ⟨binding, member, rfl⟩ := List.mem_map.1 bound
  rcases List.mem_append.1 member with before | new
  · exact .inl (List.mem_map_of_mem before)
  · exact .inr (within binding new).1

end Substitution.GrowsWithin

/-! ## 2. Variables that a run brings in -/

/-- A variable belongs to a rule that was tried between two arenas. -/
def Arena.Introduced (arena reached : Arena) (name : String) : Prop :=
  ∃ rule stamp asked subst,
    arena.Wrote reached (.tried rule stamp asked subst) ∧ (rule.rename stamp).Uses name

namespace Arena.Introduced

variable {first second third : Arena} {name : String}

theorem of_earlier (introduced : first.Introduced second name) (grown : second.Grows third) :
    first.Introduced third name := by
  obtain ⟨rule, stamp, asked, subst, wrote, uses⟩ := introduced
  exact ⟨rule, stamp, asked, subst, wrote.of_earlier grown, uses⟩

theorem of_later (introduced : second.Introduced third name) (grown : first.Grows second) :
    first.Introduced third name := by
  obtain ⟨rule, stamp, asked, subst, wrote, uses⟩ := introduced
  exact ⟨rule, stamp, asked, subst, wrote.of_later grown, uses⟩

theorem tried {rule : Signature} {asked : Term} {subst : Substitution}
    (uses : (rule.rename (first.stamp + 1)).Uses name) :
    first.Introduced (first.tried rule asked subst) name :=
  ⟨rule, _, asked, subst, ⟨[_], rfl, .head _⟩, uses⟩

end Arena.Introduced

/-- Bindings of variables with stamps of a search leave the terms of a rule alone that is renamed by
a new stamp. -/
theorem Signature.apply_renamed {subst : Substitution} {first last stamp : Nat}
    (within : subst.Within (StampedIn first last)) (new : last < stamp) {signature : Signature}
    {term : Term}
    (own : ∀ name, term.mentions name = true → (signature.rename stamp).Uses name) :
    subst.apply term = term := by
  refine Substitution.apply_of_unbound fun binding member => Bool.eq_false_iff.2 fun inTerm => ?_
  exact not_stampedIn_of_uses first (own _ inTerm) new (within binding member).1

/-- A rule that is tried adds bindings of its own variables and of those that are left in the goal,
and its parameters have no other variables then. -/
theorem Substitution.GrowsWithin.of_tried {names : String → Prop} {first : Nat}
    {branch : Branch} {arena : Arena} {rule : Signature} {asked : Term} {subst : Substitution}
    (within : branch.subst.Within (Signature.StampedIn first arena.stamp))
    (inGoal : (branch.subst.apply asked).Within names)
    (new : ∀ name, (rule.rename (arena.stamp + 1)).Uses name → names name)
    (matched : branch.subst.matching (rule.rename (arena.stamp + 1)).returns asked = .ok subst) :
    branch.subst.GrowsWithin names subst ∧
      ∀ param ∈ (rule.rename (arena.stamp + 1)).params, (subst.apply param).Within names := by
  have alone {term : Term}
      (own : ∀ name, term.mentions name = true → (rule.rename (arena.stamp + 1)).Uses name) :
      (branch.subst.apply term).Within names := by
    rw [Signature.apply_renamed within (Nat.lt_succ_self _) own]
    exact fun name inTerm => new name (own name inTerm)
  have grows : branch.subst.GrowsWithin names subst :=
    .matching (alone fun name inTerm => .inl inTerm) inGoal matched
  exact ⟨grows, fun param member => grows.apply <|
    alone fun name inTerm => .inr ⟨param, member, inTerm⟩⟩

/-- A run adds bindings of variables that it brings in itself, and of those that the bindings leave
in the terms with which it starts. -/
theorem Runs.bindsWithin {solver : Solver} {first : Nat} {names : String → Prop} {α : Type}
    {task : Task α} {arena reached : Arena} {result : Except Halt α}
    (run : Runs solver task arena result reached)
    (triangular : Triangular task.start.subst.bindings)
    (stamped : task.StampedIn first arena.stamp)
    (new : ∀ name, arena.Introduced reached name → names name)
    (inTerms : ∀ term ∈ task.terms, (task.start.subst.apply term).Within names)
    {outcome : α} (ok : result = .ok outcome) {last : Branch}
    (finished : task.finish? outcome = some last) :
    task.start.subst.GrowsWithin names last.subst := by
  induction run generalizing last with
  | exhausted | tooDeep | cyclic | notDeferred | probeHalts | paramsHalt | paramHalts | noView
  | bodyFails | tiedBefore => cases ok
  | unfound | noOffers | paramsFail | paramFails | slotOpen | declines =>
      cases ok
      cases finished
  | known | noParams | built =>
      cases ok
      cases finished
      exact .refl _
  | @searched _ _ sought goal branch _ _ _ same _ _ _ _ ih =>
      have idle : branch.subst.apply goal = goal :=
        same ▸ Substitution.apply_apply triangular sought
      have inGoal : (branch.subst.apply goal).Within names :=
        idle.trans same.symm ▸ inTerms sought (.head _)
      exact ih triangular (by simpa using stamped.offers same)
        (fun name later => new name (later.of_later .asking)) (List.forall_mem_singleton.2 inGoal)
        ok finished
  | mismatch _ _ ih | leftOpen _ _ _ ih =>
      exact ih triangular (by simpa using stamped.rest)
        (fun name later => new name (later.of_later .skipping)) inTerms ok finished
  | settles matched same ground run _ ih =>
      have ⟨grows, inParams⟩ := Substitution.GrowsWithin.of_tried stamped.start
        (inTerms _ (.head _))
        (fun name uses => new name ((Arena.Introduced.tried uses).of_earlier
          (.trans (.noted (.note .refl) _ _) run.grows))) matched
      refine grows.trans (ih (Substitution.matching_ok triangular matched).2.1
        (by simpa using stamped.build matched same)
        (fun name later => new name (later.of_later .trying)) ?_ ok finished)
      refine List.forall_mem_cons.2 ⟨?_, inParams⟩
      show (Substitution.apply _ _).Within names
      rw [Substitution.apply_of_ground _ ground]
      exact .of_ground ground
  | moveOn _ _ _ attempt _ _ ih =>
      have stamps := attempt.grows.stamp
      simp only [Solver.stamp_noted, Arena.stamp_note, Arena.stamp_tried] at stamps
      exact ih triangular (stamped.rest.mono stamps)
        (fun name later => new name (later.of_later (.trans .trying attempt.grows))) inTerms ok
        finished
  | plain _ _ ih =>
      exact ih triangular (stamped.complete _) new
        (fun term member => inTerms term (.tail _ member)) ok finished
  | withCell _ probe _ _ _ ih | guarded _ probe _ _ ih =>
      refine ih triangular ((stamped.complete _).mono probe.grows.stamp)
        (fun name later => new name ?_) (fun term member => inTerms term (.tail _ member)) ok
        finished
      exact (later.of_earlier (.leave .refl _ _)).of_later (.note probe.grows)
  | paramsSettled params body one ih =>
      have settled := one triangular stamped.params
        (fun name early => new name (early.of_earlier body.grows)) inTerms rfl rfl
      refine settled.trans (ih (params.keepsSubst triangular rfl rfl).triangular
        ⟨Nat.le_trans stamped.le params.grows.stamp, params.keepsStamped stamped.params rfl rfl,
          nofun⟩ (fun name later => new name (later.of_later params.grows)) nofun ok finished)
  | @paramFound _ _ _ _ _ _ _ _ _ _ _ result goal rest one ih =>
      obtain _ | _ | settled := result <;> cases ok <;> cases finished
      have first := one triangular stamped.param
        (fun name early => new name (early.of_earlier (.trans .passing rest.grows)))
        (List.forall_mem_singleton.2 (inTerms _ (.head _))) rfl rfl
      refine first.trans (ih (goal.keepsSubst triangular rfl rfl).triangular ?_
        (fun name later => new name (later.of_later (goal.grows.trans .passing)))
        (fun term member => first.apply (inTerms term (.tail _ member))) rfl rfl)
      rw [Solver.stamp_enrolled, Arena.stamp_note]
      exact stamped.following goal.grows.stamp (goal.keepsStamped stamped.param rfl rfl)

/-! ## 3. From part to part -/

/-- Rules that are tried between two arenas get stamps that were not used before the first one. -/
theorem Arena.Proceeds.stamp_lt {arena reached : Arena}
    (grown : arena.Proceeds (fun _ _ => True) reached) {rule : Signature} {stamp : Nat}
    {asked : Term} {subst : Substitution}
    (wrote : arena.Wrote reached (.tried rule stamp asked subst)) : arena.stamp < stamp := by
  obtain ⟨-, new, same, inNew⟩ : arena.stamp ≤ reached.stamp ∧ ∃ new,
      reached.log = new ++ arena.log ∧
        ∀ rule stamp asked subst, .tried rule stamp asked subst ∈ new → arena.stamp < stamp := by
    refine grown.keeps (motive := fun reached => arena.stamp ≤ reached.stamp ∧ ∃ new,
      reached.log = new ++ arena.log ∧ ∀ rule stamp asked subst,
        .tried rule stamp asked subst ∈ new → arena.stamp < stamp) ?_
      ⟨Nat.le_refl _, [], rfl, nofun⟩
    rintro first second step ⟨le, new, before, inNew⟩
    obtain ⟨entry, log, -, stamps⟩ := step.exists_entry
    refine ⟨Nat.le_trans le step.stamp, entry :: new, by rw [log, before, List.cons_append], ?_⟩
    intro rule stamp asked subst member
    rcases List.mem_cons.1 member with here | earlier
    · rw [(stamps _ _ _ _ here.symm).1]
      exact Nat.lt_succ_of_le le
    · exact inNew _ _ _ _ earlier
  obtain ⟨other, here, member⟩ := wrote
  obtain rfl : other = new := List.append_cancel_right (here.symm.trans same)
  exact inNew _ _ _ _ member

/-- A part of a search in which rules are renamed apart, as they were on the way to it. -/
structure Task.RenamesApart (first : Nat) {α : Type} (task : Task α) (arena : Arena) : Prop where
  triangular : Triangular task.start.subst.bindings
  stamped : task.StampedIn first arena.stamp
  fresh : arena.Fresh first

theorem Task.Next.keepsApart {solver : Solver} {first : Nat} {α β : Type} {task : Task α}
    {part : Task β} {arena middle : Arena} (next : task.Next solver arena part middle)
    (apart : task.RenamesApart first arena) : part.RenamesApart first middle where
  triangular := next.keepsTriangular apart.triangular
  stamped := next.keepsStamped apart.stamped
  fresh := apart.fresh.proceeds (next.proceeds.mono fun _ _ writes => writes.stamped apart.stamped)

/-! ## 4. Goals of whole searches -/

/-- A variable is in use when a goal is looked for: it belongs to a rule that was tried before, to a
binding or to the goal. -/
inductive Arena.InUse (arena : Arena) (subst : Substitution) (sought : Term) (name : String) :
    Prop
  | ofRule {rule : Signature} {stamp : Nat} {asked : Term} {bindings : Substitution} :
      .tried rule stamp asked bindings ∈ arena.log → (rule.rename stamp).Uses name →
      InUse arena subst sought name
  | ofBinding {binding : String × Term} : binding ∈ subst.bindings →
      binding.1 = name ∨ binding.2.mentions name = true → InUse arena subst sought name
  | ofGoal : sought.mentions name = true → InUse arena subst sought name

/-- No variable that a run brings in was in use before. -/
theorem Task.RenamesApart.not_introduced {first fuel depth : Nat} {sought : Term} {branch : Branch}
    {arena reached : Arena} (apart : (Task.goal fuel sought branch depth).RenamesApart first arena)
    (grown : arena.Grows reached) {name : String}
    (used : arena.InUse branch.subst sought name) : ¬ arena.Introduced reached name := by
  rintro ⟨rule, stamp, asked, subst, wrote, uses⟩
  have new := grown.stamp_lt wrote
  have unused := Signature.not_stampedIn_of_uses first uses new
  cases used with
  | ofRule tried usedBefore =>
      have old := apart.fresh.used _ _ _ _ tried
      exact Signature.not_uses_of_ne (Nat.ne_of_gt (Nat.lt_of_le_of_lt old new)) uses usedBefore
  | ofBinding member concerned =>
      obtain ⟨bound, inValue⟩ := apart.stamped.start _ member
      exact unused (concerned.elim (· ▸ bound) (inValue _))
  | ofGoal inGoal => exact unused (apart.stamped.terms _ (.head _) _ inGoal)

/-- Rules are renamed apart when a whole search begins, since its goal is ground. -/
theorem Solver.Begins.apart {solver : Solver} {goal : Term} {values : List Value} {heap : Heap}
    {first fuel : Nat} {started : Arena}
    (begins : solver.Begins goal values ⟨heap, first, []⟩ started) :
    (Task.goal fuel goal (solver.startingBranch values) 0).RenamesApart first started := by
  obtain ⟨ground, taken, start, rfl⟩ := begins
  have begin : Arena.Fresh first ⟨heap, first, []⟩ := ⟨.nil, nofun⟩
  have silent : Arena.Proceeds (LogEntry.Stamped first) ⟨heap, first, []⟩ taken :=
    .of_reports (solver.start_ok start).2
  refine ⟨trivial, ⟨?_, .empty, List.forall_mem_singleton.2 (.of_ground ground)⟩,
    begin.proceeds (silent.noted _ _)⟩
  rw [Solver.stamp_noted]
  exact silent.grows.stamp

/-- When a goal is found in a search, wherever the search comes to it, each variable that is bound
by then and was not before belongs to a rule that was tried for it on the way, or it is one of those
that the bindings had left in the goal. The latter have ground values. Every other variable that was
in use before and was not bound is still not bound. -/
theorem find_leaves_others_open {solver : Solver} {goal : Term} {values : List Value}
    {heap : Heap} {first fuel left depth : Nat} {started arena reached : Arena} {sought : Term}
    {branch : Branch} {found : Found}
    (begins : solver.Begins goal values ⟨heap, first, []⟩ started)
    (comes : (Task.goal fuel goal (solver.startingBranch values) 0).ComesTo solver started
      (.goal left sought branch depth) arena)
    (ran : (solver.find left sought branch depth).runFrom arena = (.ok (some found), reached)) :
    (∀ name ∈ found.branch.subst.domain, name ∉ branch.subst.domain →
      arena.Introduced reached name ∨ (branch.subst.apply sought).mentions name = true) ∧
    (∀ name, (branch.subst.apply sought).mentions name = true → name ∉ branch.subst.domain ∧
      (found.branch.subst.apply (.var name)).isGround = true) ∧
    ∀ name, arena.InUse branch.subst sought name → ¬ arena.Introduced reached name ∧
      (name ∉ branch.subst.domain → (branch.subst.apply sought).mentions name = false →
        name ∉ found.branch.subst.domain ∧
          found.branch.subst.apply (.var name) = .var name) := by
  have apart : (Task.goal left sought branch depth).RenamesApart first arena :=
    comes.keeps (motive := fun task arena => task.RenamesApart first arena) (·.keepsApart)
      begins.apart
  have triangular : Triangular branch.subst.bindings := apart.triangular
  have run : Runs solver (.goal left sought branch depth) arena (.ok (some found)) reached :=
    .of_perform ran
  have settles : branch.subst.Settles [sought] found.branch.subst :=
    run.keepsSubst triangular rfl rfl
  have grows : branch.subst.GrowsWithin
      (fun name => arena.Introduced reached name ∨ (branch.subst.apply sought).mentions name = true)
      found.branch.subst :=
    run.bindsWithin triangular apart.stamped (fun _ => .inl)
      (List.forall_mem_singleton.2 fun _ => .inr) rfl rfl
  refine ⟨fun name bound unbound => (grows.mem_domain bound).resolve_left unbound, ?_, ?_⟩
  · intro name inGoal
    constructor
    · intro bound
      obtain ⟨binding, member, rfl⟩ := List.mem_map.1 bound
      rw [Substitution.mentions_apply_of_bound triangular member] at inGoal
      cases inGoal
    · have ground : (found.branch.subst.apply (branch.subst.apply sought)).isGround = true := by
        rw [settles.extended.apply_apply triangular]
        exact settles.ground _ (.head _)
      exact Substitution.ground_of_mentions ground inGoal
  · intro name used
    have old := apart.not_introduced run.grows used
    refine ⟨old, fun unbound absent => ?_⟩
    have still : name ∉ found.branch.subst.domain := by
      intro bound
      rcases grows.mem_domain bound with before | new | inGoal
      · exact unbound before
      · exact old new
      · rw [absent] at inGoal
        cases inGoal
    refine ⟨still, Substitution.apply_of_unbound fun binding member => ?_⟩
    rw [Term.mentions_var]
    exact beq_false_of_ne fun same => still (same ▸ List.mem_map_of_mem member)

/-- A shape with twins, and a goal that asks for two of them. -/
def twinning : ShapeDecl where
  kind := .provider 0
  name := "Host"
  bearing := true
  base := none
  rules := [
    .producing "twin" (.app "Twin" [.var "z", .var "z"]) [],
    .producing "top" (.constant "Top")
      [.app "Twin" [.var "x", .constant "Int"], .app "Twin" [.var "y", .var "x"]]]

def twinningSolver : Solver := ⟨⟨[twinning.toShape]⟩, .silent, .word⟩

def twinningHost : Value := .mk 0 (.provider 0 "p" none)

def topOffer : Offer :=
  ⟨(RuleDecl.producing "top" (.constant "Top")
    [.app "Twin" [.var "x", .constant "Int"], .app "Twin" [.var "y", .var "x"]]).onShape "Host",
    twinningHost, []⟩

def amidTwins : Branch :=
  { twinningSolver.startingBranch [twinningHost] with
    subst := Unification.reached (Substitution.empty.unify
      (topOffer.rule.rename 1).returns (.constant "Top"))
    memo := ⟨[(.constant "Top", .guarded)]⟩ }

def twinsBegun : Arena := ⟨⟨1, []⟩, 0, [.reported (.admitting (.provider 0) 2)]⟩

def topTried : Arena :=
  ((twinsBegun.note (.demanded (.constant "Top"))).tried topOffer.rule.toSignature
    (.constant "Top") .empty).note (.matched (.constant "Top") (.constant "Top"))

/-- When the first twin was found, its variable is bound. That of the second twin was in use, and is
still open. -/
theorem find_leaves_others_open_twin : ∃ arena reached found,
    twinningSolver.Begins (.constant "Top") [twinningHost] ⟨⟨1, []⟩, 0, []⟩ twinsBegun ∧
    (Task.goal 8 (.constant "Top") (twinningSolver.startingBranch [twinningHost]) 0).ComesTo
      twinningSolver twinsBegun
      (.goal 7 (.app "Twin" [.var "x#1", .constant "Int"]) amidTwins 1) arena ∧
    (twinningSolver.find 7 (.app "Twin" [.var "x#1", .constant "Int"]) amidTwins 1).runFrom arena =
      (.ok (some found), reached) ∧
    "x#1" ∈ found.branch.subst.domain ∧
    arena.InUse amidTwins.subst (.app "Twin" [.var "x#1", .constant "Int"]) "y#1" ∧
    "y#1" ∉ found.branch.subst.domain := by
  have begins : twinningSolver.Begins (.constant "Top") [twinningHost] ⟨⟨1, []⟩, 0, []⟩
      twinsBegun := ⟨by decide, _, rfl, rfl⟩
  have passed : (twinningSolver.find 7
      ((Term.constant "Top").under twinningSolver.settings.placeholder)
      { amidTwins with memo := {} } 1).passes topTried (fun probed middle => probed.isNone &&
        (twinningSolver.find 7 (.app "Twin" [.var "x#1", .constant "Int"]) amidTwins 1).passes
          (middle.note (.entered (.constant "Top") none)) fun found _ => found.any fun found =>
            "x#1" ∈ found.branch.subst.domain) = true := by
    decide +kernel
  obtain ⟨probed, middle, probe, passed⟩ := Search.exists_of_passes passed
  obtain ⟨noCell, passed⟩ := Bool.and_eq_true_iff.1 passed
  obtain rfl : probed = none := Option.isNone_iff_eq_none.1 noCell
  obtain ⟨_ | found, reached, ran, passed⟩ := Search.exists_of_passes passed
  · cases passed
  have matched := Substitution.matching_of_unify (Unification.eq_ok_reached (by decide +kernel :
    (Substitution.empty.unify (topOffer.rule.rename 1).returns (.constant "Top")).isOk = true))
  have comes : (Task.goal 8 (.constant "Top") (twinningSolver.startingBranch [twinningHost])
      0).ComesTo twinningSolver twinsBegun
        (.goal 7 (.app "Twin" [.var "x#1", .constant "Int"]) amidTwins 1)
        (middle.note (.entered (.constant "Top") none)) := by
    refine .next (.tries rfl (fun _ limited => by cases limited) rfl) ?_
    refine .next (.attempt matched rfl (by decide +kernel)) ?_
    refine .next (.guarded (by decide +kernel) probe) ?_
    exact .next .params (.next .param .here)
  have used : (middle.note (.entered (.constant "Top") none)).InUse amidTwins.subst
      (.app "Twin" [.var "x#1", .constant "Int"]) "y#1" := by
    have tried : .tried topOffer.rule.toSignature 1 (.constant "Top") .empty ∈ topTried.log :=
      .tail _ (.head _)
    refine .ofRule (.tail _ ((Runs.of_find probe).grows.subset tried)) ?_
    exact .inr ⟨.app "Twin" [.var "y#1", .var "x#1"], by decide +kernel, by decide +kernel⟩
  refine ⟨_, reached, found, begins, comes, ran, of_decide_eq_true passed, used, ?_⟩
  have still := ((find_leaves_others_open begins comes ran).2.2 "y#1" used).2
  exact (still (by decide +kernel) (by decide +kernel)).1

end Synthesis
