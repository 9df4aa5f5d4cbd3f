import Mathlib.Data.List.Forall2
import Synthesis.Proofs.Freshness
import Synthesis.Proofs.Renaming

/-!
# The variables of two searches

Two searches that try the same rules rename them by stamps of their own. Their variables correspond
by these stamps: one with a stamp of the first search has the name with the counterpart of the stamp
in the second search. A variable that has come up keeps its counterpart, while that of a stamp to
come may still change.

Results:
1. `Term.Follows.mono`, `Substitution.Follows.mono`: what corresponds goes on to do so.
2. `Substitution.Follows.apply`, `Substitution.Follows.matching`: bindings that correspond give
   terms and matches that correspond.
3. `Renamed.Follows.of_stamp`: a rule that is renamed by a stamp corresponds to the rule that is
   renamed by its counterpart.
-/
namespace Synthesis

/-- How the variables of a first search are named in a second one: the counterpart of each stamp,
and which variables have come up. -/
structure Naming where
  later : Nat → Nat
  injective : Function.Injective later
  Known : String → Prop

namespace Naming

noncomputable def rename (naming : Naming) : String → String := restampBy naming.later

theorem rename_injective (naming : Naming) : Function.Injective naming.rename :=
  restampBy_injective naming.injective

/-- Two searches have come further: the variables that have come up keep their names. -/
structure Leads (naming further : Naming) : Prop where
  known : ∀ {name : String}, naming.Known name → further.Known name
  same : ∀ {name : String}, naming.Known name → further.rename name = naming.rename name

theorem Leads.refl (naming : Naming) : naming.Leads naming := ⟨id, fun _ => rfl⟩

theorem Leads.trans {naming further last : Naming} (one : naming.Leads further)
    (two : further.Leads last) : naming.Leads last :=
  ⟨two.known ∘ one.known, fun known => (two.same (one.known known)).trans (one.same known)⟩

/-- The variables with a stamp come up. -/
def learn (naming : Naming) (stamp : Nat) : Naming where
  later := naming.later
  injective := naming.injective
  Known name := naming.Known name ∨ ∃ slot, name = Signature.stamped stamp slot

theorem leads_learn (naming : Naming) (stamp : Nat) : naming.Leads (naming.learn stamp) :=
  ⟨.inl, fun _ => rfl⟩

def unchanged : Naming := ⟨id, Function.injective_id, fun _ => True⟩

theorem rename_of_later (naming : Naming) (same : naming.later = id) : naming.rename = id := by
  rw [rename, same, restampBy_id]

end Naming

/-! ## 1. Terms and bindings -/

/-- A term of the first search and that of the second one. -/
structure Term.Follows (naming : Naming) (term again : Term) : Prop where
  same : again = term.rename naming.rename
  known : term.Within naming.Known

structure Substitution.Follows (naming : Naming) (subst again : Substitution) : Prop where
  same : again = subst.rename naming.rename
  known : subst.Within naming.Known

section

variable {naming further : Naming} {subst subst' : Substitution}

namespace Term.Follows

variable {term again : Term}

theorem mono (follows : term.Follows naming again) (leads : naming.Leads further) :
    term.Follows further again where
  same := by
    rw [follows.same]
    exact Term.subst_congr fun name inTerm =>
      congrArg Term.var (leads.same (follows.known name inTerm)).symm
  known := follows.known.mono fun _ => leads.known

theorem of_ground (ground : term.isGround = true) : term.Follows naming term :=
  ⟨(Term.rename_of_ground ground).symm, .of_ground ground⟩

theorem isGround (follows : term.Follows naming again) : again.isGround = term.isGround := by
  rw [follows.same, Term.isGround_rename]

theorem eq_of_ground (follows : term.Follows naming again) (ground : term.isGround = true) :
    again = term := by
  rw [follows.same, Term.rename_of_ground ground]

theorem refl (term : Term) : term.Follows .unchanged term where
  same := by rw [Naming.rename_of_later _ rfl, term.rename_id]
  known _ _ := trivial

theorem eq_of_later (follows : term.Follows naming again) (same : naming.later = id) :
    again = term := by
  rw [follows.same, naming.rename_of_later same, term.rename_id]

end Term.Follows

namespace Substitution.Follows

theorem mono (follows : subst.Follows naming subst') (leads : naming.Leads further) :
    subst.Follows further subst' where
  same := by
    rw [follows.same]
    refine congrArg Substitution.mk (List.map_congr_left fun binding member => ?_)
    obtain ⟨bound, inTerm⟩ := follows.known binding member
    have value : binding.2.Follows naming (binding.2.rename naming.rename) := ⟨rfl, inTerm⟩
    exact Prod.ext (leads.same bound).symm (value.mono leads).same
  known := follows.known.mono fun _ => leads.known

theorem apply (bindings : subst.Follows naming subst') {term again : Term}
    (terms : term.Follows naming again) :
    (subst.apply term).Follows naming (subst'.apply again) where
  same := by
    rw [bindings.same, terms.same, Substitution.apply_rename naming.rename_injective]
  known := bindings.known.apply terms.known

/-- The second search matches what the first one does. -/
theorem matching (bindings : subst.Follows naming subst') {pattern pattern' goal goal' : Term}
    (patterns : pattern.Follows naming pattern') (goals : goal.Follows naming goal') :
    (∃ clash clash', subst.matching pattern goal = .error clash ∧
        subst'.matching pattern' goal' = .error clash') ∨
      ∃ found found', subst.matching pattern goal = .ok found ∧
        subst'.matching pattern' goal' = .ok found' ∧ found.Follows naming found' := by
  have matched := Substitution.matching_rename naming.rename_injective subst pattern goal
  rw [← bindings.same, ← patterns.same, ← goals.same] at matched
  cases fits : subst.matching pattern goal with
  | error clash => exact .inl ⟨clash, _, rfl, by rw [matched, fits]⟩
  | ok found =>
      refine .inr ⟨found, _, rfl, by rw [matched, fits], rfl, ?_⟩
      exact bindings.known.matching patterns.known goals.known fits

theorem refl (subst : Substitution) : subst.Follows .unchanged subst where
  same := by rw [Naming.rename_of_later _ rfl, subst.rename_id]
  known _ _ := ⟨trivial, fun _ _ => trivial⟩

theorem eq_of_later (follows : subst.Follows naming subst') (same : naming.later = id) :
    subst' = subst := by
  rw [follows.same, naming.rename_of_later same, subst.rename_id]

end Substitution.Follows

/-! ## 2. Rules -/

structure Renamed.Follows (naming : Naming) (renamed again : Renamed) : Prop where
  returns : renamed.returns.Follows naming again.returns
  params : List.Forall₂ (Term.Follows naming) renamed.params again.params
  slots : again.slots = renamed.slots.map naming.rename
  known : ∀ slot ∈ renamed.slots, naming.Known slot

namespace Renamed.Follows

variable {renamed again : Renamed}

theorem of_stamp (signature : Signature) {stamp : Nat}
    (known : ∀ slot, naming.Known (Signature.stamped stamp slot)) :
    Renamed.Follows naming (signature.rename stamp) (signature.rename (naming.later stamp)) := by
  have within (term : Term) :
      (term.subst fun slot => .var (Signature.stamped stamp slot)).Within naming.Known := by
    intro name inTerm
    obtain ⟨slot, -, rfl⟩ := Signature.mentions_renamed.1 inTerm
    exact known slot
  have same := restampBy_rename naming.later signature stamp
  refine ⟨⟨congrArg Renamed.returns same, within _⟩, ?_, congrArg Renamed.slots same, ?_⟩
  · rw [congrArg Renamed.params same]
    refine List.forall₂_map_right_iff.2 (List.forall₂_same.2 fun param member => ⟨rfl, ?_⟩)
    obtain ⟨pattern, -, rfl⟩ := List.mem_map.1 member
    exact within pattern
  · intro slot member
    obtain ⟨name, -, rfl⟩ := List.mem_map.1 member
    exact known name

theorem mono (follows : renamed.Follows naming again) (leads : naming.Leads further) :
    renamed.Follows further again where
  returns := follows.returns.mono leads
  params := follows.params.imp fun _ _ follows => follows.mono leads
  slots := by
    rw [follows.slots]
    exact List.map_congr_left fun slot member => (leads.same (follows.known slot member)).symm
  known slot member := leads.known (follows.known slot member)

theorem isEmpty_params (follows : renamed.Follows naming again) :
    again.params.isEmpty = renamed.params.isEmpty := by
  rw [Bool.eq_iff_iff, List.isEmpty_iff_length_eq_zero, List.isEmpty_iff_length_eq_zero,
    follows.params.length_eq]

theorem slotTypes (follows : renamed.Follows naming again)
    (bindings : subst.Follows naming subst') :
    Solver.slotTypes subst' again.slots =
      (Solver.slotTypes subst renamed.slots).mapError naming.rename := by
  rw [bindings.same, follows.slots]
  exact slotTypes_rename naming.rename_injective subst renamed.slots

end Renamed.Follows

end

/-! ## 3. Entries of the log -/

/-- An entry of the first search and that of the second one. Reports are left out. -/
inductive LogEntry.Alike (naming : Naming) : LogEntry → LogEntry → Prop where
  | same {entry : LogEntry} : entry.event? = none → Alike naming entry entry
  | demanded {goal again : Term} : goal.Follows naming again →
      Alike naming (.demanded goal) (.demanded again)
  | tried {rule : Signature} {stamp : Nat} {asked again : Term} {subst subst' : Substitution} :
      asked.Follows naming again → subst.Follows naming subst' →
      Alike naming (.tried rule stamp asked subst) (.tried rule (naming.later stamp) again subst')
  | matched {asked again aim : Term} : asked.Follows naming again →
      Alike naming (.matched asked aim) (.matched again aim)
  | passed {goal again : Term} {value : Value} : goal.Follows naming again →
      Alike naming (.passed goal value) (.passed again value)
  | tooDeep {goal again : Term} {limit : Nat} : goal.Follows naming again →
      Alike naming (.halted (.depthLimit goal limit)) (.halted (.depthLimit again limit))

namespace LogEntry.Alike

variable {naming : Naming} {entry again : LogEntry}

theorem call? (alike : entry.Alike naming again) : again.call? = entry.call? := by
  cases alike <;> rfl

theorem event? (alike : entry.Alike naming again) : entry.event? = none := by
  cases alike with
  | same kept => exact kept
  | demanded | tried | matched | passed | tooDeep => rfl

theorem eq_of_later (alike : entry.Alike naming again) (same : naming.later = id) :
    again = entry := by
  cases alike with
  | same => rfl
  | demanded follows => rw [follows.eq_of_later same]
  | tried asked bindings => rw [asked.eq_of_later same, bindings.eq_of_later same, same, id_eq]
  | matched follows => rw [follows.eq_of_later same]
  | passed follows => rw [follows.eq_of_later same]
  | tooDeep follows => rw [follows.eq_of_later same]

end LogEntry.Alike

end Synthesis
