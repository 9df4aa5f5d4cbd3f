import Synthesis.Proofs.Determined

/-!
# Rules are renamed apart

Each time a rule is tried, its variables are renamed by a stamp that is greater than all stamps used
before. A search for a ground goal starts without variables, so all variables in its goals and
bindings are those of rules that were tried before, and the stamp tells them from the new ones. This
holds for all names that rules may have for their variables, since a stamp is read from the end of
a name.

Results:
1. `Substitution.Within.matching`: a match binds only variables of the terms that are matched, to
   terms with such variables.
2. `Runs.keepsStamped`: in a run, all variables carry stamps of this search.
3. `Task.WritesWithin.stamped`: where a rule is tried, the variables of the goal and of the bindings
   carry stamps that were used before.
4. `solve_renames_apart`: this for whole searches, and different stamps give different variables.
-/
namespace Synthesis

open Substitution (Triangular)

/-! ## 1. The variables of terms and bindings -/

/-- All variables of a term are of some kind. -/
def Term.Within (term : Term) (names : String → Prop) : Prop :=
  ∀ name, term.mentions name = true → names name

/-- All variables of a substitution are of some kind, those that it binds and those of their terms.
-/
def Substitution.Within (subst : Substitution) (names : String → Prop) : Prop :=
  ∀ binding ∈ subst.bindings, names binding.1 ∧ binding.2.Within names

variable {names more : String → Prop}

theorem Term.Within.mono {term : Term} (within : term.Within names)
    (le : ∀ name, names name → more name) : term.Within more :=
  fun name inTerm => le name (within name inTerm)

theorem Term.Within.of_ground {term : Term} (ground : term.isGround = true) :
    term.Within names := by
  intro name inTerm
  rw [Term.mentions_of_ground ground] at inTerm
  cases inTerm

theorem Term.Within.var {name : String} (known : names name) : (Term.var name).Within names := by
  intro other inTerm
  obtain rfl : name = other := by simpa using inTerm
  exact known

/-- The variables of a term in which variables were replaced are those of the replacements. -/
theorem Term.Within.subst {term : Term} {f : String → Term}
    (all : ∀ name, term.mentions name = true → (f name).Within names) :
    (term.subst f).Within names := by
  intro other inTerm
  obtain ⟨name, here, inValue⟩ := Term.mentions_subst.1 inTerm
  exact all name here other inValue

namespace Substitution.Within

variable {subst : Substitution}

theorem empty : Substitution.empty.Within names := fun _ none => by cases none

theorem mono (within : subst.Within names) (le : ∀ name, names name → more name) :
    subst.Within more :=
  fun binding member => (within binding member).imp (le _) (·.mono le)

/-- Applying bindings brings in variables of their terms only. -/
theorem apply (within : subst.Within names) {term : Term} (inside : term.Within names) :
    (subst.apply term).Within names := by
  suffices values : ∀ name, names name → (valueUnder subst.bindings name).Within names from
    .subst fun name inTerm => values name (inside name inTerm)
  obtain ⟨bindings⟩ := subst
  induction bindings with
  | nil => exact fun _ => .var
  | cons first later ih =>
      have rest := ih fun binding member => within binding (.tail _ member)
      intro name known
      rw [valueUnder]
      split
      · exact .subst fun other inTerm => rest other ((within first (.head _)).2 other inTerm)
      · exact rest name known

/-- A match binds only variables of the terms that are matched, to terms with such variables. -/
theorem matching (within : subst.Within names) {pattern goal : Term}
    (inPattern : pattern.Within names) (inGoal : goal.Within names) {later : Substitution}
    (matched : subst.matching pattern goal = .ok later) : later.Within names := by
  intro binding member
  rcases scope_matching matched binding member with before | scope
  · exact within binding before
  · have known (other : String) (concerned : binding.1 = other ∨ binding.2.mentions other = true) :
        names other :=
      (scope other concerned).elim (within.apply inPattern other) (within.apply inGoal other)
    exact ⟨known _ (.inl rfl), fun other inTerm => known other (.inr inTerm)⟩

end Substitution.Within

/-! ## 2. Stamps of a search -/

/-- A variable was renamed by a stamp after a first one and up to a last one. -/
def Signature.StampedIn (first last : Nat) (name : String) : Prop :=
  ∃ stamp slot, first < stamp ∧ stamp ≤ last ∧ name = stamped stamp slot

def Renamed.Uses (renamed : Renamed) (name : String) : Prop :=
  renamed.returns.mentions name = true ∨ ∃ param ∈ renamed.params, param.mentions name = true

namespace Signature

variable {first last stamp later : Nat} {signature other : Signature} {name : String}

theorem StampedIn.mono (stamped : StampedIn first last name) (le : last ≤ later) :
    StampedIn first later name := by
  obtain ⟨stamp, slot, after, before, same⟩ := stamped
  exact ⟨stamp, slot, after, Nat.le_trans before le, same⟩

theorem mentions_renamed {term : Term} :
    (term.subst fun slot => .var (stamped stamp slot)).mentions name = true ↔
      ∃ slot, term.mentions slot = true ∧ name = stamped stamp slot := by
  simp only [Term.mentions_subst, Term.mentions_var, beq_iff_eq]
  exact exists_congr fun slot => and_congr_right fun _ => eq_comm

theorem uses_rename :
    (signature.rename stamp).Uses name ↔ ∃ slot ∈ signature.slots, name = stamped stamp slot := by
  simp only [Renamed.Uses, rename, List.mem_map, mentions_renamed, mem_slots]
  constructor
  · rintro (⟨slot, inReturns, same⟩ | ⟨-, ⟨param, member, rfl⟩, here⟩)
    · exact ⟨slot, .inl inReturns, same⟩
    · obtain ⟨slot, inParam, same⟩ := mentions_renamed.1 here
      exact ⟨slot, .inr ⟨param, member, inParam⟩, same⟩
  · rintro ⟨slot, inReturns | ⟨param, member, inParam⟩, same⟩
    · exact .inl ⟨slot, inReturns, same⟩
    · exact .inr ⟨_, ⟨param, member, rfl⟩, mentions_renamed.2 ⟨slot, inParam, same⟩⟩

/-- Different stamps give different variables, whatever the rules and the names of their variables.
-/
theorem not_uses_of_ne (apart : stamp ≠ later) (uses : (signature.rename stamp).Uses name) :
    ¬ (other.rename later).Uses name := by
  obtain ⟨slot, -, rfl⟩ := uses_rename.1 uses
  rw [uses_rename]
  rintro ⟨_, -, same⟩
  exact apart (stamped_inj same).1

/-- No variable of a rule carries a stamp up to one that is smaller than its own. -/
theorem not_stampedIn_of_uses (first : Nat) (uses : (signature.rename stamp).Uses name)
    (new : last < stamp) :
    ¬ StampedIn first last name := by
  obtain ⟨slot, -, rfl⟩ := uses_rename.1 uses
  rintro ⟨used, _, -, before, same⟩
  have := (stamped_inj same).1
  omega

theorem nodup_slots (signature : Signature) : signature.slots.Nodup := by
  have all (params : List Term) (found : List String) (distinct : found.Nodup) :
      (params.foldl Term.addVars found).Nodup := by
    induction params generalizing found with
    | nil => exact distinct
    | cons param params ih => exact ih _ (Term.nodup_addVars distinct param)
  exact all _ _ (Term.nodup_addVars .nil _)

theorem stamped_injective (stamp : Nat) : Function.Injective (stamped stamp) :=
  fun _ _ same => (stamped_inj same).2

/-- A rule that is renamed by the next stamp has variables with stamps of the search. -/
theorem rename_within (signature : Signature) (le : first ≤ last) :
    (signature.rename (last + 1)).returns.Within (StampedIn first (last + 1)) ∧
      ∀ param ∈ (signature.rename (last + 1)).params,
        param.Within (StampedIn first (last + 1)) := by
  have all (name : String) (uses : (signature.rename (last + 1)).Uses name) :
      StampedIn first (last + 1) name := by
    obtain ⟨slot, -, same⟩ := uses_rename.1 uses
    exact ⟨last + 1, slot, by omega, Nat.le_refl _, same⟩
  exact ⟨fun name inTerm => all name (.inl inTerm),
    fun param member name inTerm => all name (.inr ⟨param, member, inTerm⟩)⟩

end Signature

/-! ## 3. Runs -/

def Task.terms : {α : Type} → Task α → List Term
  | _, .goal _ sought _ _ => [sought]
  | _, .offers _ asked _ _ _ => [asked]
  | _, .build _ _ renamed aim _ _ => aim :: renamed.params
  | _, .complete _ _ renamed _ _ _ _ => renamed.params
  | _, .params _ _ _ _ patterns _ => patterns
  | _, .invoke .. => []

/-- All variables with which a part of a search starts carry stamps after a first one and up to a
last one. -/
structure Task.StampedIn (first last : Nat) {α : Type} (task : Task α) : Prop where
  le : first ≤ last
  start : task.start.subst.Within (Signature.StampedIn first last)
  terms : ∀ term ∈ task.terms, term.Within (Signature.StampedIn first last)

namespace Task.StampedIn

variable {first last later fuel depth index : Nat} {sought asked aim pattern : Term}
  {branch : Branch} {offer : Offer} {tries : List Offer} {renamed : Renamed}
  {own : Option Nat} {rule : Signature} {patterns : List Term}

theorem mono {α : Type} {task : Task α} (stamped : task.StampedIn first last) (le : last ≤ later) :
    task.StampedIn first later where
  le := Nat.le_trans stamped.le le
  start := stamped.start.mono fun _ known => known.mono le
  terms term member := (stamped.terms term member).mono fun _ known => known.mono le

theorem offers (stamped : (Task.goal fuel sought branch depth).StampedIn first last)
    (same : branch.subst.apply sought = asked) :
    (Task.offers later asked branch depth tries).StampedIn first last where
  le := stamped.le
  start := stamped.start
  terms := List.forall_mem_singleton.2 (same ▸ stamped.start.apply (stamped.terms _ (.head _)))

theorem rest
    (stamped : (Task.offers fuel asked branch depth (offer :: tries)).StampedIn first last) :
    (Task.offers fuel asked branch depth tries).StampedIn first (last + 1) :=
  Task.StampedIn.mono ⟨stamped.le, stamped.start, stamped.terms⟩ (Nat.le_succ last)

theorem build
    (stamped : (Task.offers fuel asked branch depth (offer :: tries)).StampedIn first last)
    {subst : Substitution}
    (matched : branch.subst.matching (offer.rule.rename (last + 1)).returns asked = .ok subst)
    (same : subst.apply asked = aim) :
    (Task.build fuel offer (offer.rule.rename (last + 1)) aim { branch with subst }
      depth).StampedIn first (last + 1) := by
  have ⟨inReturns, inParams⟩ :=
    Signature.rename_within offer.rule.toSignature stamped.le
  have later := stamped.rest
  have inAsked := later.terms _ (.head _)
  have start := later.start.matching inReturns inAsked matched
  exact ⟨later.le, start, List.forall_mem_cons.2 ⟨same ▸ start.apply inAsked, inParams⟩⟩

theorem probe (stamped : (Task.build fuel offer renamed aim branch depth).StampedIn first last)
    (head : String) : (Task.goal fuel (aim.under head) branch later).StampedIn first last where
  le := stamped.le
  start := stamped.start
  terms := by
    refine List.forall_mem_singleton.2 fun name inTerm => stamped.terms _ (.head _) name ?_
    simpa [Term.under, Term.mentions_app] using inTerm

theorem complete (stamped : (Task.build fuel offer renamed aim branch depth).StampedIn first last)
    (memo : Memo) :
    (Task.complete fuel offer renamed aim own { branch with memo } depth).StampedIn first last :=
  ⟨stamped.le, stamped.start, fun term member => stamped.terms term (.tail _ member)⟩

theorem params
    (stamped : (Task.complete fuel offer renamed aim own branch depth).StampedIn first last) :
    (Task.params fuel rule depth index renamed.params branch).StampedIn first last :=
  ⟨stamped.le, stamped.start, stamped.terms⟩

theorem param
    (stamped : (Task.params fuel rule depth index (pattern :: patterns) branch).StampedIn first
      last) : (Task.goal fuel pattern branch later).StampedIn first last :=
  ⟨stamped.le, stamped.start, List.forall_mem_singleton.2 (stamped.terms _ (.head _))⟩

/-- The parameters that follow go on from a branch whose variables carry stamps as well. -/
theorem following
    (stamped : (Task.params fuel rule depth index (pattern :: patterns) branch).StampedIn first
      last) {middle : Branch} {providers : Providers} (le : last ≤ later)
    (start : middle.subst.Within (Signature.StampedIn first later)) :
    (Task.params fuel rule depth (index + 1) patterns { middle with providers }).StampedIn first
      later where
  le := Nat.le_trans stamped.le le
  start := start
  terms term member := (stamped.mono le).terms term (.tail _ member)

end Task.StampedIn

/-- A run leads to a branch whose variables carry stamps of the search. -/
theorem Runs.keepsStamped {solver : Solver} {first : Nat} {α : Type} {task : Task α}
    {arena reached : Arena} {result : Except Halt α} (run : Runs solver task arena result reached)
    (stamped : task.StampedIn first arena.stamp) {outcome : α} (ok : result = .ok outcome)
    {last : Branch} (finished : task.finish? outcome = some last) :
    last.subst.Within (Signature.StampedIn first reached.stamp) := by
  induction run generalizing last with
  | exhausted | tooDeep | cyclic | notDeferred | probeHalts | paramsHalt | paramHalts | noView
  | bodyFails | tiedBefore => cases ok
  | unfound | noOffers | paramsFail | paramFails | slotOpen | declines =>
      cases ok
      cases finished
  | known | built =>
      cases ok
      cases finished
      simp only [Solver.stamp_noted, Arena.stamp_onHeap, Arena.stamp_note]
      exact stamped.start
  | noParams =>
      cases ok
      cases finished
      exact stamped.start
  | searched same _ _ _ _ ih => exact ih (by simpa using stamped.offers same) ok finished
  | mismatch _ _ ih | leftOpen _ _ _ ih => exact ih (by simpa using stamped.rest) ok finished
  | settles matched same _ _ _ ih =>
      exact ih (by simpa using stamped.build matched same) ok finished
  | moveOn _ _ _ first _ _ ih =>
      have stamps := first.grows.stamp
      simp only [Solver.stamp_noted, Arena.stamp_note, Arena.stamp_tried] at stamps
      exact ih (stamped.rest.mono stamps) ok finished
  | plain _ _ ih => exact ih (stamped.complete _) ok finished
  | withCell _ probe _ _ _ ih | guarded _ probe _ _ ih =>
      rw [Arena.stamp_leave]
      exact ih ((stamped.complete _).mono probe.grows.stamp) ok finished
  | paramsSettled params _ one ih =>
      have later := one stamped.params rfl rfl
      exact ih ⟨Nat.le_trans stamped.le params.grows.stamp, later, nofun⟩ ok finished
  | @paramFound _ _ _ _ _ _ _ _ _ _ _ result goal _ one ih =>
      obtain _ | _ | settled := result <;> cases ok <;> cases finished
      refine ih ?_ rfl rfl
      rw [Solver.stamp_enrolled, Arena.stamp_note]
      exact stamped.following goal.grows.stamp (one stamped.param rfl rfl)

/-- A rule that is tried has a stamp that is greater than those of all rules tried before and of all
variables in its goal and in the bindings. -/
def LogEntry.Fresh (first : Nat) (entry : LogEntry) (before : List LogEntry) : Prop :=
  ∀ rule stamp asked subst, entry = .tried rule stamp asked subst →
    (∃ last, last < stamp ∧ asked.Within (Signature.StampedIn first last) ∧
      subst.Within (Signature.StampedIn first last)) ∧
    ∀ other earlier sought bindings, .tried other earlier sought bindings ∈ before →
      earlier < stamp

/-- All rules were tried with new stamps, and none with a stamp that is still to come. -/
structure Arena.Fresh (first : Nat) (arena : Arena) : Prop where
  points : AtEveryPoint (LogEntry.Fresh first) arena.log
  used : ∀ rule stamp asked subst, .tried rule stamp asked subst ∈ arena.log → stamp ≤ arena.stamp

/-- Where a rule is tried, the variables of its goal and of the bindings carry stamps of the search
that were used before. -/
def LogEntry.Stamped (first : Nat) (point : Arena) (entry : LogEntry) : Prop :=
  ∀ rule stamp asked subst, entry = .tried rule stamp asked subst →
    asked.Within (Signature.StampedIn first point.stamp) ∧
      subst.Within (Signature.StampedIn first point.stamp)

theorem Arena.Fresh.proceeds {first : Nat} {arena reached : Arena} (fresh : arena.Fresh first)
    (proceeds : arena.Proceeds (LogEntry.Stamped first) reached) : reached.Fresh first := by
  refine proceeds.keeps (motive := Arena.Fresh first) ?_ fresh
  intro point next step fresh
  obtain ⟨entry, log, now, stamps⟩ := step.exists_entry
  constructor
  case points =>
    refine log ▸ fresh.points.cons fun rule stamp asked subst same => ?_
    subst same
    obtain ⟨rfl, -⟩ := stamps _ _ _ _ rfl
    refine ⟨⟨point.stamp, Nat.lt_succ_self _, now _ _ _ _ rfl⟩, fun _ _ _ _ member => ?_⟩
    exact Nat.lt_succ_of_le (fresh.used _ _ _ _ member)
  case used =>
    intro rule stamp asked subst member
    rcases List.mem_cons.1 (log ▸ member) with same | member
    · exact (stamps _ _ _ _ same.symm).2
    · exact Nat.le_trans (fresh.used _ _ _ _ member) step.stamp

theorem Task.Next.keepsStamped {solver : Solver} {first : Nat} {α β : Type} {task : Task α}
    {part : Task β} {arena middle : Arena} (next : task.Next solver arena part middle)
    (stamped : task.StampedIn first arena.stamp) : part.StampedIn first middle.stamp := by
  cases next with
  | tries same => simpa using stamped.offers same
  | afterMismatch | afterOpen => simpa using stamped.rest
  | attempt matched same => simpa using stamped.build matched same
  | afterAttempt _ _ _ attempt =>
      have stamps := (Runs.of_perform attempt).grows.stamp
      simp only [Solver.stamp_noted, Arena.stamp_note, Arena.stamp_tried] at stamps
      exact stamped.rest.mono stamps
  | plain => exact stamped.complete _
  | probe => exact stamped.probe _
  | withCell _ probe | guarded _ probe =>
      exact (stamped.complete _).mono (Runs.of_perform probe).grows.stamp
  | params => exact stamped.params
  | body params =>
      have run := Runs.of_perform params
      exact ⟨Nat.le_trans stamped.le run.grows.stamp,
        run.keepsStamped stamped.params rfl rfl, nofun⟩
  | param => exact stamped.param
  | afterParam goal =>
      have run := Runs.of_perform goal
      rw [Solver.stamp_enrolled, Arena.stamp_note]
      exact stamped.following run.grows.stamp
        (run.keepsStamped stamped.param rfl rfl)

theorem Task.WritesWithin.stamped {solver : Solver} {first : Nat} {α : Type} {task : Task α}
    {arena point : Arena} {entry : LogEntry}
    (writes : task.WritesWithin solver arena point entry)
    (stamped : task.StampedIn first arena.stamp) : entry.Stamped first point := by
  obtain ⟨_, part, there, comes, writes⟩ := writes
  have stamped := comes.keeps (motive := fun task arena => task.StampedIn first arena.stamp)
    (·.keepsStamped) stamped
  cases writes with
  | free free =>
      rintro _ _ _ _ rfl
      cases free
  | tried =>
      rintro _ _ _ _ same
      cases same
      exact ⟨stamped.terms _ (.head _), stamped.start⟩
  | recalled | left | called | produced | refused | bodyFails | halted => exact nofun

/-! ## 4. Whole searches -/

/-- A rule that is tried is renamed apart: none of its variables occurs in its goal or in the
bindings, nor is it one of a rule that was tried before. -/
def LogEntry.RenamedApart (entry : LogEntry) (before : List LogEntry) : Prop :=
  ∀ rule stamp asked subst, entry = .tried rule stamp asked subst →
    ∀ name, (rule.rename stamp).Uses name →
      asked.mentions name = false ∧
      (∀ binding ∈ subst.bindings, binding.1 ≠ name ∧ binding.2.mentions name = false) ∧
      ∀ other earlier sought bindings, .tried other earlier sought bindings ∈ before →
        ¬ (other.rename earlier).Uses name

theorem LogEntry.Fresh.renamedApart {first : Nat} {entry : LogEntry} {before : List LogEntry}
    (fresh : entry.Fresh first before) : entry.RenamedApart before := by
  intro rule stamp asked subst same name uses
  obtain ⟨⟨last, new, inGoal, inBindings⟩, later⟩ := fresh rule stamp asked subst same
  have unused := Signature.not_stampedIn_of_uses first uses new
  refine ⟨Bool.eq_false_iff.2 fun here => unused (inGoal name here), fun binding member => ?_, ?_⟩
  · obtain ⟨bound, inValue⟩ := inBindings binding member
    exact ⟨fun here => unused (here ▸ bound),
      Bool.eq_false_iff.2 fun here => unused (inValue name here)⟩
  · intro other earlier sought bindings member
    exact Signature.not_uses_of_ne (Nat.ne_of_gt (later other earlier sought bindings member)) uses

/-- A rule is renamed by an injective map of its generic slots, and the results are all variables of
the renamed rule. -/
structure Signature.RenamedBy (signature : Signature) (stamp : Nat) : Prop where
  injective : Function.Injective (stamped stamp)
  returns : (signature.rename stamp).returns =
    signature.returns.subst fun slot => .var (stamped stamp slot)
  params : (signature.rename stamp).params =
    signature.params.map (·.subst fun slot => .var (stamped stamp slot))
  slots : (signature.rename stamp).slots = signature.slots.map (stamped stamp)
  nodup : (signature.rename stamp).slots.Nodup
  uses : ∀ name, (signature.rename stamp).Uses name ↔ name ∈ (signature.rename stamp).slots

/-- In a search, with whichever stamp it starts, every rule that is tried is renamed apart from its
goal, from the bindings and from all rules that were tried before. Renaming is injective, and rules
renamed by different stamps have no variable in common. -/
theorem solve_renames_apart (solver : Solver) (fuel : Nat) (goal : Term) (providers : List Value)
    (heap : Heap) (first : Nat) :
    AtEveryPoint LogEntry.RenamedApart
        ((solver.solve fuel goal providers).runFrom ⟨heap, first, []⟩).2.log ∧
      (∀ (signature : Signature) (stamp : Nat), signature.RenamedBy stamp) ∧
      ∀ (signature other : Signature) (stamp later : Nat), stamp ≠ later →
        ∀ name, (signature.rename stamp).Uses name → ¬ (other.rename later).Uses name := by
  refine ⟨?_, fun signature stamp => ?_, fun _ _ _ _ apart _ => Signature.not_uses_of_ne apart⟩
  · suffices fresh : ((solver.solve fuel goal providers).runFrom ⟨heap, first, []⟩).2.Fresh first
      from fun entry before part => (fresh.points entry before part).renamedApart
    have begin : Arena.Fresh first ⟨heap, first, []⟩ := ⟨.nil, nofun⟩
    refine begin.proceeds (solve_leads rfl (fun _ _ => nofun) (fun _ _ _ => nofun)
      fun ground reports run => ?_).proceeds
    refine run.leads.mono fun _ _ writes => writes.stamped ⟨?_, .empty, ?_⟩
    · exact Arena.Proceeds.stamp (.of_reports reports)
    · exact List.forall_mem_singleton.2 (.of_ground ground)
  · have injective := Signature.stamped_injective stamp
    have nodup : (signature.rename stamp).slots.Nodup :=
      List.pairwise_map.2 (signature.nodup_slots.imp fun apart same => apart (injective same))
    refine ⟨injective, rfl, rfl, rfl, nodup, fun name => ?_⟩
    rw [Signature.uses_rename, Signature.rename, List.mem_map]
    exact exists_congr fun slot => and_congr_right fun _ => eq_comm

end Synthesis
