import Synthesis.Proofs.Cells
import Synthesis.Proofs.Determined
import Synthesis.Proofs.Freshness
import Synthesis.Proofs.Nesting

/-!
# Generic slots have ground types when a rule is run

A generic slot of a rule is a variable of its return pattern or of a parameter. The return pattern
is ground once it is matched with the goal and the goal is ground, and a parameter is ground once it
has a value. Bindings that are added later keep what is ground. So the types of all slots are known
when the parameters are settled, whatever stamp the rule was renamed by, and an attempt is never
given up for an open slot.

Results:
1. `Renamed.Aimed.closed`: the slots have ground types once the parameters are settled.
2. `Task.Next.keepsClosing`: from each part of a search to the next one, rules that are being tried
   are aimed at ground goals, and rules that are to be run have ground types for their slots.
3. `attempt_closes_slots`: all of this for any branch with a substitution that the operations made.
-/
namespace Synthesis

open Substitution (Triangular)

/-! ## 1. Slots -/

/-- All generic slots have types under a substitution. These are the terms of the slots, and they
are ground. -/
structure Renamed.Closed (renamed : Renamed) (subst : Substitution) : Prop where
  types : Solver.slotTypes subst renamed.slots = .ok (renamed.slots.map (subst.apply <| .var ·))
  ground : ∀ slot ∈ renamed.slots, (subst.apply (.var slot)).isGround = true

/-- A renamed rule that is tried for a ground goal: its return pattern is ground, and each slot
occurs in the return pattern or in a parameter. -/
structure Renamed.Aimed (renamed : Renamed) (subst : Substitution) : Prop where
  uses : ∀ slot ∈ renamed.slots, renamed.Uses slot
  ground : (subst.apply renamed.returns).isGround = true

variable {renamed : Renamed} {subst later : Substitution}

/-- The variables of a term that is ground under a substitution have ground values. -/
theorem Substitution.ground_of_mentions {term : Term} (ground : (subst.apply term).isGround = true)
    {name : String} (inTerm : term.mentions name = true) :
    (subst.apply (.var name)).isGround = true := by
  rw [apply, Term.isGround_subst] at ground
  simpa [apply] using ground name inTerm

/-- A renamed rule that matches a goal is tried for it, if the goal is ground. -/
theorem Renamed.Aimed.of_matching (triangular : Triangular subst.bindings) {signature : Signature}
    {stamp : Nat} {asked : Term}
    (matched : subst.matching (signature.rename stamp).returns asked = .ok later)
    (ground : (later.apply asked).isGround = true) : (signature.rename stamp).Aimed later where
  uses slot member := by
    obtain ⟨name, listed, rfl⟩ := List.mem_map.1 member
    exact Signature.uses_rename.2 ⟨name, listed, rfl⟩
  ground := (Substitution.matching_ok triangular matched).2.2 ▸ ground

theorem Renamed.Aimed.closed (aimed : renamed.Aimed subst) (triangular : Triangular subst.bindings)
    (settled : subst.Settles renamed.params later) : renamed.Closed later := by
  suffices ground : ∀ slot ∈ renamed.slots, (later.apply (.var slot)).isGround = true from
    ⟨slotTypes_of_ground ground, ground⟩
  intro slot member
  rcases aimed.uses slot member with inReturns | ⟨param, listed, inParam⟩
  · have same := settled.extended.apply_of_ground triangular aimed.ground
    exact Substitution.ground_of_mentions (same ▸ aimed.ground) inReturns
  · exact Substitution.ground_of_mentions (settled.ground param listed) inParam

/-! ## 2. From part to part -/

/-- What a part of a search that concerns one rule has to know of its slots. -/
def Task.Aims : {α : Type} → Task α → Prop
  | _, .goal .. | _, .offers .. | _, .params .. => True
  | _, .build _ _ renamed _ branch _ => renamed.Aimed branch.subst
  | _, .complete _ _ renamed _ _ branch _ => renamed.Aimed branch.subst
  | _, .invoke _ renamed _ _ _ branch _ => renamed.Closed branch.subst

/-- A part of a search that leaves no slot open. -/
structure Task.Closing {α : Type} (task : Task α) : Prop where
  triangular : Triangular task.start.subst.bindings
  aims : task.Aims

namespace Task.Closing

variable {fuel depth : Nat} {asked aim : Term} {branch last : Branch} {offer : Offer}
  {tries : List Offer} {renamed : Renamed} {own : Option Nat} {args : List Value}

theorem build (closing : (Task.offers fuel asked branch depth tries).Closing) {stamp : Nat}
    {subst : Substitution}
    (matched : branch.subst.matching (offer.rule.rename stamp).returns asked = .ok subst)
    (same : subst.apply asked = aim) (ground : aim.isGround = true) :
    (Task.build fuel offer (offer.rule.rename stamp) aim { branch with subst } depth).Closing where
  triangular := (Substitution.matching_ok closing.triangular matched).2.1
  aims := .of_matching closing.triangular matched (same ▸ ground)

theorem complete (closing : (Task.build fuel offer renamed aim branch depth).Closing)
    (memo : Memo) :
    (Task.complete fuel offer renamed aim own { branch with memo } depth).Closing :=
  ⟨closing.triangular, closing.aims⟩

theorem invoke (closing : (Task.complete fuel offer renamed aim own branch depth).Closing)
    (settled : branch.subst.Settles renamed.params last.subst) :
    (Task.invoke offer renamed aim own args last depth).Closing :=
  ⟨settled.triangular, closing.aims.closed closing.triangular settled⟩

end Task.Closing

/-- A part that leaves no slot open comes to parts that leave none open. -/
theorem Task.Next.keepsClosing {solver : Solver} {α β : Type} {task : Task α} {part : Task β}
    {arena middle : Arena} (next : task.Next solver arena part middle) (closing : task.Closing) :
    part.Closing := by
  cases next with
  | tries | afterMismatch | afterOpen | afterAttempt | probe | params | param =>
      exact ⟨closing.triangular, trivial⟩
  | attempt matched same ground => exact closing.build matched same ground
  | plain => exact closing.complete _
  | withCell | guarded => exact closing.complete _
  | body params =>
      exact closing.invoke ((Runs.of_perform params).keepsSubst closing.triangular rfl rfl)
  | afterParam param =>
      exact ⟨((Runs.of_perform param).keepsSubst closing.triangular rfl rfl).triangular, trivial⟩

/-- Whenever a rule was matched with a goal that is ground then and its parameters have values, its
generic slots have ground types: from any branch with a substitution that the operations made, also
if the variables in it are those that the rule is renamed to. So no slot is open in a part of the
search for the goal that runs a rule, in attempts for other goals on the way either. -/
theorem attempt_closes_slots (solver : Solver) (fuel : Nat) (goal : Term) {branch : Branch}
    (reachable : branch.subst.Reachable) :
    (∀ (offer : Offer) (stamp depth : Nat) (subst : Substitution) (memo : Memo)
        (arena reached : Arena) (args : List Value) (last : Branch),
      branch.subst.matching (offer.rule.rename stamp).returns goal = .ok subst →
      (subst.apply goal).isGround = true →
      (solver.findParams (solver.find fuel) offer.rule.toSignature depth 0
        (offer.rule.rename stamp).params { branch with subst, memo }).runFrom arena =
          (.ok (some (args, last)), reached) →
      (offer.rule.rename stamp).Closed last.subst) ∧
    ∀ (tries : List Offer) (depth deep : Nat) (arena reached : Arena) (offer : Offer)
        (renamed : Renamed) (aim : Term) (own : Option Nat) (args : List Value) (last : Branch),
      (Task.offers fuel goal branch depth tries).ComesTo solver arena
        (.invoke offer renamed aim own args last deep) reached →
      renamed.Closed last.subst := by
  have triangular := reachable.triangular
  refine ⟨?_, ?_⟩
  · intro offer stamp depth subst memo arena reached args last matched ground settled
    have later := (Substitution.matching_ok triangular matched).2.1
    have run : Runs solver (.params fuel offer.rule.toSignature depth 0
        (offer.rule.rename stamp).params { branch with subst, memo }) arena
        (.ok (some (args, last))) reached := .of_perform settled
    exact (Renamed.Aimed.of_matching triangular matched ground).closed later
      (run.keepsSubst later rfl rfl)
  · intro tries depth deep arena reached offer renamed aim own args last comes
    have closing : Task.Closing (.invoke offer renamed aim own args last deep) :=
      comes.keeps (motive := fun task _ => task.Closing) (·.keepsClosing) ⟨triangular, trivial⟩
    exact closing.aims

/-- A shape with a box, and a crate for whatever is in a box. -/
def crating : ShapeDecl where
  kind := .provider 0
  name := "Host"
  bearing := true
  base := none
  rules := [
    .producing "box" (.app "Box" [.constant "Int"]) [],
    .producing "crate" (.constant "Crate") [.app "Box" [.var "x"]]]

def cratingSolver : Solver := ⟨⟨[crating.toShape]⟩, .silent, .word⟩

def cratingHost : Value := .mk 0 (.provider 0 "p" none)

def crateOffer : Offer :=
  ⟨(RuleDecl.producing "crate" (.constant "Crate") [.app "Box" [.var "x"]]).onShape "Host",
    cratingHost, []⟩

/-- A branch in which the slot is bound already under its first stamp, to a variable. -/
def amidCrates : Branch :=
  { cratingSolver.startingBranch [cratingHost] with
    subst := Unification.reached (Substitution.empty.bind "x#1" (.var "z")) }

/-- A crate is asked for by a variable. Its slot does not occur in what the rule returns, and gets
its type from the box. -/
theorem attempt_closes_slots_crate : amidCrates.subst.Reachable ∧ ∃ subst args last reached,
    amidCrates.subst.matching (crateOffer.rule.rename 1).returns (.var "y") = .ok subst ∧
    (subst.apply (.var "y")).isGround = true ∧
    (cratingSolver.findParams (cratingSolver.find 8) crateOffer.rule.toSignature 0 0
      (crateOffer.rule.rename 1).params { amidCrates with subst }).runFrom ⟨⟨1, []⟩, 1, []⟩ =
        (.ok (some (args, last)), reached) ∧
    (crateOffer.rule.rename 1).slots = ["x#1"] ∧
    last.subst.apply (.var "x#1") = .constant "Int" ∧
    (crateOffer.rule.rename 1).Closed last.subst := by
  have reachable : amidCrates.subst.Reachable := .bind _ _ .empty
  have matched := Substitution.matching_of_unify (Unification.eq_ok_reached (by decide +kernel :
    (amidCrates.subst.unify (crateOffer.rule.rename 1).returns (.var "y")).isOk = true))
  generalize here : Unification.reached _ = subst at matched
  have ground : (subst.apply (.var "y")).isGround = true := by
    rw [← here]
    decide +kernel
  have passed : (cratingSolver.findParams (cratingSolver.find 8) crateOffer.rule.toSignature 0 0
      (crateOffer.rule.rename 1).params { amidCrates with subst }).passes ⟨⟨1, []⟩, 1, []⟩
        (fun settled _ => settled.any fun settled =>
          settled.2.subst.apply (.var "x#1") = .constant "Int") = true := by
    rw [← here]
    decide +kernel
  obtain ⟨_ | ⟨args, last⟩, reached, settled, passed⟩ := Search.exists_of_passes passed
  · cases passed
  exact ⟨reachable, subst, args, last, reached, matched, ground, settled, by decide +kernel,
    of_decide_eq_true passed,
    (attempt_closes_slots cratingSolver 8 (.var "y") reachable).1 crateOffer 1 0 subst _ _ _ args
      last matched ground settled⟩

end Synthesis
