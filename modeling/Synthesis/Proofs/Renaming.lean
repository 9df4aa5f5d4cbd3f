import Synthesis.Proofs.Matching

/-!
# Renaming variables

What is done with terms does not depend on the names of their variables: if variables are renamed so
that different ones stay different, all results are renamed in the same way.

Results:
1. `Substitution.apply_rename`: renaming goes through the application of bindings.
2. `Substitution.matching_rename`: a match of renamed terms is the renamed match, and it fails if
   the match does.
3. `restampBy_rename`: a rule with another stamp is the rule with the first stamp, renamed.
-/
namespace Synthesis

variable {f : String → String}

/-! ## 1. Terms -/

def Term.rename (f : String → String) (term : Term) : Term := term.subst fun name => .var (f name)

namespace Term

@[simp] theorem rename_var (name : String) : (Term.var name).rename f = .var (f name) :=
  subst_var _ _

@[simp] theorem rename_app (head : String) (args : List Term) :
    (Term.app head args).rename f = .app head (args.map (·.rename f)) := subst_app _ _ _

theorem rename_subst (term : Term) (g : String → Term) :
    (term.subst g).rename f = term.subst fun name => (g name).rename f := subst_subst _ _ _

theorem subst_rename (term : Term) (g : String → Term) :
    (term.rename f).subst g = term.subst fun name => g (f name) := by
  simp [rename, subst_subst]

@[simp] theorem rename_id (term : Term) : term.rename id = term := subst_self term

theorem rename_of_ground {term : Term} (ground : term.isGround = true) : term.rename f = term :=
  subst_of_ground ground _

@[simp] theorem isGround_rename (term : Term) : (term.rename f).isGround = term.isGround := by
  rw [Bool.eq_iff_iff, rename, isGround_subst]
  constructor
  · intro closed
    induction term with
    | var name => cases closed name (by simp)
    | app head args ih =>
        rw [isGround_app, List.all_eq_true]
        exact fun arg member => ih arg member fun name inArg =>
          closed name (mentions_of_mem member head inArg)
  · intro ground name inTerm
    rw [mentions_of_ground ground] at inTerm
    cases inTerm

theorem mentions_rename (injective : Function.Injective f) (term : Term) (name : String) :
    (term.rename f).mentions (f name) = term.mentions name := by
  rw [Bool.eq_iff_iff, rename, mentions_subst]
  constructor
  · rintro ⟨other, inTerm, same⟩
    exact injective (by simpa using same) ▸ inTerm
  · exact fun inTerm => ⟨name, inTerm, by simp⟩

end Term

/-! ## 2. Bindings -/

/-- The substitution with its variables renamed, those that are bound and those of their terms. -/
def Substitution.rename (f : String → String) (subst : Substitution) : Substitution :=
  ⟨subst.bindings.map fun binding => (f binding.1, binding.2.rename f)⟩

namespace Substitution

@[simp] theorem rename_id (subst : Substitution) : subst.rename id = subst := by
  simp [rename]

theorem rename_push (subst : Substitution) (name : String) (term : Term) :
    (subst.push name term).rename f = (subst.rename f).push (f name) (term.rename f) := by
  simp [rename, push]

theorem rename_append (subst further : Substitution) :
    (subst.append further).rename f = (subst.rename f).append (further.rename f) := by
  simp [rename, append]

theorem valueUnder_rename (injective : Function.Injective f) (bindings : List (String × Term))
    (name : String) :
    valueUnder (bindings.map fun binding => (f binding.1, binding.2.rename f)) (f name) =
      (valueUnder bindings name).rename f := by
  induction bindings generalizing name with
  | nil => simp [valueUnder]
  | cons first later ih =>
      by_cases same : name = first.1
      · simp [valueUnder, same, Term.rename_subst, Term.subst_rename, ih]
      · have differs : f name ≠ f first.1 := fun renamed => same (injective renamed)
        simp [valueUnder, same, differs, ih]

theorem apply_rename (injective : Function.Injective f) (subst : Substitution) (term : Term) :
    (subst.rename f).apply (term.rename f) = (subst.apply term).rename f := by
  rw [apply, apply, Term.rename_subst, Term.subst_rename]
  exact Term.subst_congr fun name _ => valueUnder_rename injective subst.bindings name

theorem triangular_rename (injective : Function.Injective f) {bindings : List (String × Term)}
    (triangular : Triangular bindings) :
    Triangular (bindings.map fun binding => (f binding.1, binding.2.rename f)) := by
  induction bindings with
  | nil => trivial
  | cons first later ih =>
      obtain ⟨proper, unused, rest⟩ := triangular
      refine ⟨(Term.mentions_rename injective _ _).trans proper, ?_, ih rest⟩
      rintro _ member
      obtain ⟨binding, inLater, rfl⟩ := List.mem_map.1 member
      exact ⟨fun same => (unused binding inLater).1 (injective same),
        (Term.mentions_rename injective _ _).trans (unused binding inLater).2⟩

end Substitution

/-! ## 3. Unification -/

def Clash.rename (f : String → String) : Clash → Clash
  | .mismatch pattern goal => .mismatch (pattern.rename f) (goal.rename f)
  | .infinite name term => .infinite (f name) (term.rename f)

namespace Unification

def Difference.rename (f : String → String) : Difference → Difference
  | .atVariable name term => .atVariable (f name) (term.rename f)
  | .atConstructor pattern goal => .atConstructor (pattern.rename f) (goal.rename f)

def renamePairs (f : String → String) (pairs : List (Term × Term)) : List (Term × Term) :=
  pairs.map fun pair => (pair.1.rename f, pair.2.rename f)

def renameFound (f : String → String) (found : Difference × List (Term × Term)) :
    Difference × List (Term × Term) :=
  (found.1.rename f, renamePairs f found.2)

theorem renamePairs_append (pairs more : List (Term × Term)) :
    renamePairs f (pairs ++ more) = renamePairs f pairs ++ renamePairs f more :=
  List.map_append

theorem renamePairs_zip (terms terms' : List Term) :
    renamePairs f (terms.zip terms') =
      (terms.map (·.rename f)).zip (terms'.map (·.rename f)) := by
  rw [List.zip_map]
  rfl

theorem firstDifference_rename (injective : Function.Injective f) (p g : Term) :
    firstDifference (p.rename f) (g.rename f) = (firstDifference p g).map (renameFound f) := by
  induction p generalizing g with
  | var v =>
      cases g with
      | var w =>
          by_cases same : v = w
          · simp [firstDifference, same]
          · have differs : f v ≠ f w := fun renamed => same (injective renamed)
            simp [firstDifference, same, differs, renameFound, Difference.rename, renamePairs]
      | app head args =>
          simp [firstDifference, renameFound, Difference.rename, renamePairs]
  | app head args ih =>
      cases g with
      | var w => simp [firstDifference, renameFound, Difference.rename, renamePairs]
      | app head' args' =>
          by_cases fits : head = head' ∧ args.length = args'.length
          · simp only [Term.rename_app, firstDifference, List.length_map, if_pos fits]
            clear fits
            induction args generalizing args' with
            | nil => simp [firstDifferenceAmong]
            | cons arg args ihArgs =>
                cases args' with
                | nil => simp [firstDifferenceAmong]
                | cons arg' args' =>
                    simp only [List.map_cons, firstDifferenceAmong, ih arg (.head _)]
                    cases firstDifference arg arg' with
                    | some found =>
                        simp [renameFound, renamePairs_append, renamePairs_zip]
                    | none => exact ihArgs (fun other member => ih other (.tail _ member)) args'
          · simp [firstDifference, fits, renameFound, Difference.rename, renamePairs]

theorem nextDifference_rename (injective : Function.Injective f) (found : Substitution)
    (pairs : List (Term × Term)) :
    nextDifference (found.rename f) (renamePairs f pairs) =
      (nextDifference found pairs).map (renameFound f) := by
  induction pairs with
  | nil => rfl
  | cons pair pairs ih =>
      simp only [renamePairs, List.map_cons, nextDifference, Substitution.apply_rename injective,
        firstDifference_rename injective]
      cases firstDifference (found.apply pair.1) (found.apply pair.2) with
      | some difference => simp [renameFound, renamePairs]
      | none => exact ih

def Stuck.rename (f : String → String) (stuck : Stuck) : Stuck :=
  ⟨stuck.clash.rename f, stuck.reached.rename f⟩

def renameOutcome (f : String → String) : Except Stuck Substitution → Except Stuck Substitution
  | .ok found => .ok (found.rename f)
  | .error stuck => .error (stuck.rename f)

/-- Renaming goes through the unification of pairs, also if it fails. -/
theorem unifyPairs_rename (injective : Function.Injective f) (found : Substitution)
    (triangular : Substitution.Triangular found.bindings) (pairs : List (Term × Term))
    (renamed : Substitution.Triangular (found.rename f).bindings) :
    unifyPairs (found.rename f) renamed (renamePairs f pairs) =
      renameOutcome f (unifyPairs found triangular pairs) := by
  fun_induction unifyPairs found triangular pairs with
  | case1 found triangular pairs none =>
      have next := nextDifference_rename injective found pairs
      rw [none] at next
      exact unifyPairs_of_none renamed next
  | case2 found triangular pairs pattern goal rest clash =>
      have next := nextDifference_rename injective found pairs
      rw [clash] at next
      exact unifyPairs_of_constructor renamed next
  | case3 found triangular pairs name term rest difference occurs =>
      have next := nextDifference_rename injective found pairs
      rw [difference] at next
      exact unifyPairs_of_infinite renamed next ((Term.mentions_rename injective _ _).trans occurs)
  | case4 found triangular pairs name term rest difference occurs ih =>
      have next := nextDifference_rename injective found pairs
      rw [difference] at next
      have pushed := Substitution.triangular_rename injective
        (triangular_push_of_nextDifference triangular difference (Bool.eq_false_iff.2 occurs))
      have same : (found.push name term).rename f =
          (found.rename f).push (f name) (term.rename f) := Substitution.rename_push _ _ _
      rw [unifyPairs_of_variable renamed next
        ((Term.mentions_rename injective _ _).trans (Bool.eq_false_iff.2 occurs)) (same ▸ pushed)]
      simpa only [same] using ih pushed

end Unification

namespace Substitution

theorem unify_rename (injective : Function.Injective f) (subst : Substitution)
    (pattern goal : Term) :
    (subst.rename f).unify (pattern.rename f) (goal.rename f) =
      Unification.renameOutcome f (subst.unify pattern goal) := by
  have pairs := Unification.unifyPairs_rename injective .empty trivial
    [(subst.apply pattern, subst.apply goal)] trivial
  rw [unify, unify, apply_rename injective, apply_rename injective]
  rw [show Unification.unifyPairs .empty trivial
    [((subst.apply pattern).rename f, (subst.apply goal).rename f)] = _ from pairs]
  cases Unification.unifyPairs .empty trivial [(subst.apply pattern, subst.apply goal)] with
  | ok found => simp only [Unification.renameOutcome, rename_append]
  | error stuck => simp only [Unification.renameOutcome, Unification.Stuck.rename, rename_append]

/-- A match of renamed terms gives what the match gives, renamed. -/
theorem matching_rename (injective : Function.Injective f) (subst : Substitution)
    (pattern goal : Term) :
    (subst.rename f).matching (pattern.rename f) (goal.rename f) =
      match subst.matching pattern goal with
      | .ok found => .ok (found.rename f)
      | .error clash => .error (clash.rename f) := by
  rw [matching, matching, unify_rename injective]
  cases subst.unify pattern goal <;> rfl

end Substitution

/-! ## 4. Slots and memos -/

theorem slotTypes_rename (injective : Function.Injective f) (subst : Substitution)
    (slots : List String) :
    Solver.slotTypes (subst.rename f) (slots.map f) =
      (Solver.slotTypes subst slots).mapError f := by
  induction slots with
  | nil => rfl
  | cons slot slots ih =>
      have value := Substitution.apply_rename injective subst (.var slot)
      rw [Term.rename_var] at value
      simp only [List.map_cons, Solver.slotTypes, value, Term.isGround_rename, ih]
      split
      · next ground =>
          rw [Term.rename_of_ground ground]
          cases Solver.slotTypes subst slots <;> rfl
      · rfl

theorem known?_rename (f : String → String) (goal : Term) (memo : Memo) :
    Solver.known? (goal.rename f) memo = Solver.known? goal memo := by
  unfold Solver.known?
  rw [Term.isGround_rename]
  split
  · next ground => rw [Term.rename_of_ground ground]
  · rfl

/-! ## 5. Stamps -/

/-- The name of a variable that was renamed by a stamp, with another stamp that is made of it; other
names stay as they are. -/
noncomputable def restampBy (later : Nat → Nat) : String → String :=
  Function.extend (fun part : Nat × String => Signature.stamped part.1 part.2)
    (fun part => Signature.stamped (later part.1) part.2) id

section

variable {later : Nat → Nat}

theorem restampBy_stamped (later : Nat → Nat) (stamp : Nat) (name : String) :
    restampBy later (Signature.stamped stamp name) = Signature.stamped (later stamp) name := by
  have injective : Function.Injective fun part : Nat × String =>
      Signature.stamped part.1 part.2 :=
    fun _ _ same => Prod.ext (stamped_inj same).1 (stamped_inj same).2
  exact injective.extend_apply _ _ (stamp, name)

theorem restampBy_of_unstamped (later : Nat → Nat) {name : String}
    (unstamped : ∀ stamp slot, Signature.stamped stamp slot ≠ name) :
    restampBy later name = name :=
  Function.extend_apply' _ _ _ fun ⟨part, same⟩ => unstamped part.1 part.2 same

theorem stamped_or (name : String) : (∃ stamp slot, name = Signature.stamped stamp slot) ∨
    ∀ stamp slot, Signature.stamped stamp slot ≠ name := by
  by_cases has : ∃ stamp slot, name = Signature.stamped stamp slot
  · exact .inl has
  · exact .inr fun stamp slot same => has ⟨stamp, slot, same.symm⟩

theorem restampBy_injective (injective : Function.Injective later) :
    Function.Injective (restampBy later) := by
  intro name other same
  rcases stamped_or name with ⟨stamp, slot, rfl⟩ | plain <;>
    rcases stamped_or other with ⟨stamp', slot', rfl⟩ | plain'
  · rw [restampBy_stamped, restampBy_stamped] at same
    obtain ⟨stamps, rfl⟩ := stamped_inj same
    rw [injective stamps]
  -- a name with a stamp keeps having one, so it meets none without
  · rw [restampBy_stamped, restampBy_of_unstamped later plain'] at same
    exact absurd same (plain' _ _)
  · rw [restampBy_stamped, restampBy_of_unstamped later plain] at same
    exact absurd same.symm (plain _ _)
  · rwa [restampBy_of_unstamped later plain, restampBy_of_unstamped later plain'] at same

end

def Renamed.rename (f : String → String) (renamed : Renamed) : Renamed :=
  ⟨renamed.returns.rename f, renamed.params.map (·.rename f), renamed.slots.map f⟩

/-- A rule with another stamp is the rule with the first stamp, renamed. -/
theorem restampBy_rename (later : Nat → Nat) (signature : Signature) (stamp : Nat) :
    signature.rename (later stamp) = (signature.rename stamp).rename (restampBy later) := by
  simp [Signature.rename, Renamed.rename, Term.rename_subst, Function.comp_def, restampBy_stamped]

/-- If stamps stay as they are, so do names. -/
theorem restampBy_id : restampBy id = id := by
  funext name
  rcases stamped_or name with ⟨stamp, slot, rfl⟩ | plain
  · exact restampBy_stamped id stamp slot
  · exact restampBy_of_unstamped id plain

end Synthesis
