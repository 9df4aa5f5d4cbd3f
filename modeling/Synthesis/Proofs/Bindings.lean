import Mathlib.Logic.Function.Basic
import Mathlib.Logic.Relation
import Synthesis.Proofs.Unification

/-!
# Bindings lead forward

A substitution can be kept as a list of variables in the order in which they were bound, with a map
from a variable to its term. The two agree, since no variable is bound twice. A term mentions only
variables that are bound after it or not at all, so whoever goes from a variable to those of its
term, and on from there, does not come back.

Results:
1. `Triangular.ledger_eq`, `Triangular.nodup_domain`: the map holds the bindings of the list, since
   none replaces another, and the list has each variable once.
2. `Triangular.mentions_of_le`: no term mentions a variable that is bound at its place or before it.
3. `apply_var`: to apply a substitution to a variable is to go on with the term that it is bound to.
4. `reachable_leads_forward`: all of this for whatever the operations make of the empty
   substitution, also where they fail.
-/
namespace Synthesis
namespace Substitution

/-! ## 1. The order and the map -/

/-- The variables in the order in which they were bound, and a map with their terms. -/
structure Ledger where
  order : List String
  terms : String → Option Term

/-- A binding is put at the end of the order and into the map, there in place of what the variable
was bound to before. -/
def Ledger.bind (ledger : Ledger) (binding : String × Term) : Ledger where
  order := ledger.order ++ [binding.1]
  terms := Function.update ledger.terms binding.1 (some binding.2)

/-- What is left when the bindings are put into an order and a map one after the other. -/
def ledger (subst : Substitution) : Ledger := subst.bindings.foldl Ledger.bind ⟨[], fun _ => none⟩

theorem mem_domain {subst : Substitution} {name : String} :
    name ∈ subst.domain ↔ (subst.lookup name).isSome = true := by
  simp [domain, lookup, List.lookup_isSome_iff]

namespace Triangular

variable {bindings : List (String × Term)}

theorem nodup_domain (triangular : Triangular bindings) : (bindings.map (·.1)).Nodup := by
  induction bindings with
  | nil => exact .nil
  | cons first later ih =>
      obtain ⟨-, fresh, rest⟩ := triangular
      refine List.nodup_cons.2 ⟨fun again => ?_, ih rest⟩
      obtain ⟨binding, member, same⟩ := List.mem_map.1 again
      exact (fresh binding member).1 same

/-- No binding replaces an earlier one, so the map has the first term that a variable got. -/
theorem ledger_eq (triangular : Triangular bindings) :
    ledger ⟨bindings⟩ = ⟨bindings.map (·.1), fun name => bindings.lookup name⟩ := by
  suffices from_start : ∀ start : Ledger, bindings.foldl Ledger.bind start =
      ⟨start.order ++ bindings.map (·.1),
        fun name => (bindings.lookup name).or (start.terms name)⟩ by
    simpa [ledger] using from_start ⟨[], fun _ => none⟩
  induction bindings with
  | nil => simp
  | cons first later ih =>
      obtain ⟨-, fresh, rest⟩ := triangular
      intro start
      have absent : later.lookup first.1 = none :=
        List.lookup_eq_none_iff.2 fun binding member => by simpa using (fresh binding member).1.symm
      rw [List.foldl_cons, ih rest, Ledger.mk.injEq]
      refine ⟨by simp [Ledger.bind], funext fun name => ?_⟩
      rw [List.lookup_cons]
      by_cases same : name = first.1
      · simp [same, absent, Ledger.bind]
      · simp [beq_false_of_ne same, Ledger.bind, same]

theorem lookup_eq_some_iff (triangular : Triangular bindings) {name : String} {term : Term} :
    bindings.lookup name = some term ↔ (name, term) ∈ bindings := by
  induction bindings with
  | nil => simp
  | cons first later ih =>
      obtain ⟨-, fresh, rest⟩ := triangular
      rw [List.lookup_cons, List.mem_cons]
      by_cases same : name = first.1
      · have absent : (name, term) ∉ later := fun member => (fresh _ member).1 same
        simp [same, Prod.ext_iff, eq_comm (a := term), same ▸ absent]
      · have differs : (name, term) ≠ first := fun here => same (congrArg Prod.fst here)
        simp [beq_false_of_ne same, differs, ih rest]

/-- Going through the variables and looking each of them up gives the bindings. -/
theorem filterMap_lookup (triangular : Triangular bindings) :
    (bindings.map (·.1)).filterMap (fun name => (bindings.lookup name).map (name, ·)) =
      bindings := by
  suffices all : ∀ part : List (String × Term), part ⊆ bindings →
      (part.map (·.1)).filterMap (fun name => (bindings.lookup name).map (name, ·)) =
        part from all bindings (List.Subset.refl _)
  intro part within
  induction part with
  | nil => rfl
  | cons first later ih =>
      have found := triangular.lookup_eq_some_iff.2 (within (.head _))
      simp only [List.map_cons, List.filterMap_cons, found, Option.map_some]
      rw [ih fun _ member => within (.tail _ member)]

theorem mentions_of_le (triangular : Triangular bindings) {earlier later : Nat}
    {first second : String × Term} (before : bindings[earlier]? = some first)
    (after : bindings[later]? = some second) (le : earlier ≤ later) :
    second.2.mentions first.1 = false := by
  induction bindings generalizing earlier later with
  | nil => simp at before
  | cons binding rest ih =>
      obtain ⟨proper, fresh, inRest⟩ := triangular
      obtain _ | earlier := earlier
      · obtain rfl : binding = first := by simpa using before
        obtain _ | later := later
        · obtain rfl : binding = second := by simpa using after
          exact proper
        · exact (fresh second (List.mem_of_getElem? (by simpa using after))).2
      · obtain _ | later := later
        · omega
        · exact ih inRest (by simpa using before) (by simpa using after) (by omega)

end Triangular

/-! ## 2. From variable to variable -/

/-- A variable leads to the variables of the term that it is bound to. -/
def Leads (subst : Substitution) (name other : String) : Prop :=
  ∃ term, subst.lookup name = some term ∧ term.mentions other = true

/-- A variable that a term does not mention is none of those that it mentions. -/
theorem ne_of_mentions {term : Term} {name other : String} (absent : term.mentions name = false)
    (inTerm : term.mentions other = true) : name ≠ other := by
  rintro rfl
  rw [absent] at inTerm
  cases inTerm

/-- The variables of a term come after the one that is bound to it. Those that are not bound count
as the last ones. -/
theorem Triangular.idxOf_lt {bindings : List (String × Term)} (triangular : Triangular bindings)
    {name other : String} {term : Term} (member : (name, term) ∈ bindings)
    (inTerm : term.mentions other = true) :
    (bindings.map (·.1)).idxOf name < (bindings.map (·.1)).idxOf other := by
  induction bindings with
  | nil => cases member
  | cons first later ih =>
      obtain ⟨proper, fresh, rest⟩ := triangular
      rw [List.map_cons, List.idxOf_cons, List.idxOf_cons]
      cases member with
      | head => simp [beq_false_of_ne (ne_of_mentions proper inTerm)]
      | tail _ member =>
          obtain ⟨differs, absent⟩ := fresh _ member
          simp [beq_false_of_ne differs.symm, beq_false_of_ne (ne_of_mentions absent inTerm),
            ih rest member]

theorem Leads.idxOf_lt {subst : Substitution} (triangular : Triangular subst.bindings)
    {name other : String} (leads : subst.Leads name other) :
    subst.domain.idxOf name < subst.domain.idxOf other := by
  obtain ⟨term, bound, inTerm⟩ := leads
  exact triangular.idxOf_lt (triangular.lookup_eq_some_iff.1 bound) inTerm

/-- No way from variable to variable comes back to where it started. -/
theorem not_leads_back {subst : Substitution} (triangular : Triangular subst.bindings)
    (name : String) : ¬ Relation.TransGen subst.Leads name name := by
  have forward {name other : String} (leads : Relation.TransGen subst.Leads name other) :
      subst.domain.idxOf name < subst.domain.idxOf other := by
    induction leads with
    | single leads => exact leads.idxOf_lt triangular
    | tail _ leads ih => exact Nat.lt_trans ih (leads.idxOf_lt triangular)
  exact fun back => Nat.lt_irrefl _ (forward back)

theorem Triangular.valueUnder_of_mem {bindings : List (String × Term)}
    (triangular : Triangular bindings) {name : String} {term : Term}
    (member : (name, term) ∈ bindings) :
    valueUnder bindings name = term.subst (valueUnder bindings) := by
  induction bindings with
  | nil => cases member
  | cons first later ih =>
      obtain ⟨proper, fresh, rest⟩ := triangular
      have skip {term : Term} (absent : term.mentions first.1 = false) :
          term.subst (valueUnder (first :: later)) = term.subst (valueUnder later) := by
        refine Term.subst_congr fun other inTerm => ?_
        rw [valueUnder, if_neg (ne_of_mentions absent inTerm).symm]
      cases member with
      | head => rw [skip proper, valueUnder, if_pos rfl]
      | tail _ member =>
          obtain ⟨differs, absent⟩ := fresh _ member
          rw [skip absent, valueUnder, if_neg differs, ih rest member]

/-- To apply a substitution to a variable is to go on with the term that it is bound to, until a
variable is not bound. -/
theorem apply_var {subst : Substitution} (triangular : Triangular subst.bindings) (name : String) :
    subst.apply (.var name) = ((subst.lookup name).map subst.apply).getD (.var name) := by
  cases bound : subst.lookup name with
  | some term =>
      have value := triangular.valueUnder_of_mem (triangular.lookup_eq_some_iff.1 bound)
      simpa [apply] using value
  | none =>
      have unbound : name ∉ subst.domain := fun listed => by simp [mem_domain, bound] at listed
      refine apply_of_unbound fun binding member => ?_
      rw [Term.mentions_var]
      exact beq_false_of_ne fun same => unbound (same ▸ List.mem_map_of_mem member)

/-! ## 3. What the operations make -/

/-- In every substitution that the operations make of the empty one, also where they fail, the order
of the variables and the map of their terms, kept next to each other, hold the same bindings, each
once. The term of a binding mentions no variable that stands in the order up to its place, and
following the bindings never leads back. -/
theorem reachable_leads_forward {subst : Substitution} (reachable : subst.Reachable) :
    subst.ledger = ⟨subst.domain, subst.lookup⟩ ∧
      subst.domain.Nodup ∧ subst.size = subst.domain.length ∧
      (∀ name, name ∈ subst.domain ↔ (subst.lookup name).isSome = true) ∧
      subst.domain.filterMap (fun name => (subst.lookup name).map (name, ·)) = subst.bindings ∧
      (∀ (earlier later : Nat) (listed name : String) (term : Term),
        subst.domain[earlier]? = some listed → subst.domain[later]? = some name →
        subst.lookup name = some term → earlier ≤ later → term.mentions listed = false) ∧
      (∀ name, subst.apply (.var name) =
        ((subst.lookup name).map subst.apply).getD (.var name)) ∧
      ∀ name, ¬ Relation.TransGen subst.Leads name name := by
  have triangular := reachable.triangular
  refine ⟨triangular.ledger_eq, triangular.nodup_domain, (List.length_map _).symm,
    fun _ => mem_domain, triangular.filterMap_lookup, ?_, apply_var triangular,
    not_leads_back triangular⟩
  intro earlier later listed name term before after bound le
  have listed_at {place : Nat} {name : String} (here : subst.domain[place]? = some name) :
      ∃ binding, subst.bindings[place]? = some binding ∧ binding.1 = name := by
    simpa only [domain, List.getElem?_map, Option.map_eq_some_iff] using here
  obtain ⟨first, here, rfl⟩ := listed_at before
  obtain ⟨second, there, rfl⟩ := listed_at after
  have same := triangular.lookup_eq_some_iff.2 (List.mem_of_getElem? there)
  obtain rfl : second.2 = term := Option.some.inj (same.symm.trans bound)
  exact triangular.mentions_of_le here there le

/-- What a unification leaves that fails at its third pair, after `a` was bound to a term with `b`,
and then `b`. -/
def halfway : Substitution :=
  Unification.reached (Substitution.empty.unify
    (.app "Three" [.var "a", .var "b", .constant "Int"])
    (.app "Three" [.app "List" [.var "b"], .var "c", .constant "Bool"]))

theorem reachable_leads_forward_halfway : halfway.Reachable ∧
    halfway.bindings = [("a", .app "List" [.var "b"]), ("b", .var "c")] ∧
    halfway.ledger = ⟨halfway.domain, halfway.lookup⟩ ∧
      halfway.domain.Nodup ∧ halfway.size = halfway.domain.length ∧
      (∀ name, name ∈ halfway.domain ↔ (halfway.lookup name).isSome = true) ∧
      halfway.domain.filterMap (fun name => (halfway.lookup name).map (name, ·)) =
        halfway.bindings ∧
      (∀ (earlier later : Nat) (listed name : String) (term : Term),
        halfway.domain[earlier]? = some listed → halfway.domain[later]? = some name →
        halfway.lookup name = some term → earlier ≤ later → term.mentions listed = false) ∧
      (∀ name, halfway.apply (.var name) =
        ((halfway.lookup name).map halfway.apply).getD (.var name)) ∧
      ∀ name, ¬ Relation.TransGen halfway.Leads name name :=
  ⟨.unify _ _ .empty, by decide +kernel, reachable_leads_forward (.unify _ _ .empty)⟩

end Substitution
end Synthesis
