import Synthesis.Proofs.Freshness

/-!
# The order of variables

Every traversal of a term meets its variables in the same order: from left to right, once for each
occurrence (`Term.occurrences`). The slots of a rule are read off its return pattern and then its
parameters. A body is given one type for each slot, by position, so the slots of a renamed rule have
to be the renamed slots in the same places.

Results:
1. `Term.lists_addVars`: collecting variables puts those that are new behind the ones before, in the
   order in which they come up.
2. `Term.addVars_renamed`: collecting variables commutes with an injective renaming.
3. `Term.substM_recording`: a replacement is asked for one variable after the other as they are
   read.
4. `variables_read_in_order`: what this says about terms, rules and renamed rules.
-/
namespace Synthesis

/-! ## 1. First occurrences -/

/-- A list has the names of a reading in the order of their first occurrence in it. The order is
strict, so each name is listed once. -/
structure ListsFirst (names reading : List String) : Prop where
  mem : ∀ name, name ∈ names ↔ name ∈ reading
  ordered : names.Pairwise fun one other => reading.idxOf one < reading.idxOf other

namespace ListsFirst

variable {names reading : List String}

theorem nil : ListsFirst [] [] := ⟨fun _ => .rfl, .nil⟩

/-- The order of names is that of their first occurrences, whatever is read after them. -/
theorem ordered_append (lists : ListsFirst names reading) (more : List String) :
    names.Pairwise fun one other =>
      (reading ++ more).idxOf one < (reading ++ more).idxOf other := by
  refine lists.ordered.imp_of_mem fun {one other} here there before => ?_
  rwa [List.idxOf_append_of_mem ((lists.mem one).1 here),
    List.idxOf_append_of_mem ((lists.mem other).1 there)]

theorem again (lists : ListsFirst names reading) {name : String} (known : name ∈ names) :
    ListsFirst names (reading ++ [name]) where
  mem other := by
    rw [List.mem_append, List.mem_singleton, ← lists.mem]
    exact ⟨.inl, fun | .inl there => there | .inr same => same ▸ known⟩
  ordered := lists.ordered_append [name]

theorem snoc (lists : ListsFirst names reading) {name : String} (new : name ∉ names) :
    ListsFirst (names ++ [name]) (reading ++ [name]) where
  mem other := by rw [List.mem_append, List.mem_append, lists.mem]
  ordered := by
    refine List.pairwise_append.2 ⟨lists.ordered_append [name], List.pairwise_singleton _ _, ?_⟩
    intro one here other last
    obtain rfl := List.mem_singleton.1 last
    have unread : other ∉ reading := mt (lists.mem other).2 new
    have before := List.idxOf_lt_length_of_mem ((lists.mem one).1 here)
    rw [List.idxOf_append_of_mem ((lists.mem one).1 here), List.idxOf_append_of_notMem unread]
    omega

end ListsFirst

namespace Term

/-! ## 2. Collecting variables -/

/-- If a term is read after other names, its new variables come after those. -/
theorem lists_addVars (term : Term) {found reading : List String}
    (lists : ListsFirst found reading) :
    ListsFirst (term.addVars found) (reading ++ term.occurrences) := by
  induction term generalizing found reading with
  | var name =>
      rw [addVars, occurrences]
      split
      · next known => exact lists.again known
      · next new => exact lists.snoc new
  | app head args ih =>
      rw [addVars, occurrences]
      induction args generalizing found reading with
      | nil => simpa [addVarsAmong, occurrencesAmong] using lists
      | cons arg args ihArgs =>
          rw [addVarsAmong, occurrencesAmong, ← List.append_assoc]
          exact ihArgs (fun other member => ih other (.tail _ member)) (ih arg (.head _) lists)

theorem lists_vars (term : Term) : ListsFirst term.vars term.occurrences :=
  term.lists_addVars .nil

theorem isGround_iff_mentions {term : Term} :
    term.isGround = true ↔ ∀ name, term.mentions name = false := by
  conv_lhs => rw [← subst_self term, isGround_subst]
  exact forall_congr' fun name => by simp [isGround]

theorem vars_eq_nil_iff {term : Term} : term.vars = [] ↔ term.isGround = true := by
  rw [List.eq_nil_iff_forall_not_mem, isGround_iff_mentions]
  exact forall_congr' fun name => by rw [mem_vars, Bool.not_eq_true]

/-- Collecting variables commutes with an injective renaming. -/
theorem addVars_renamed {f : String → String} (injective : Function.Injective f)
    (found : List String) (term : Term) :
    (term.subst fun name => .var (f name)).addVars (found.map f) =
      (term.addVars found).map f := by
  induction term generalizing found with
  | var name =>
      simp only [subst_var, addVars, List.mem_map_of_injective injective]
      split
      · rfl
      · rw [List.map_append, List.map_singleton]
  | app head args ih =>
      rw [subst_app, addVars, addVars, addVarsAmong_eq_foldl, addVarsAmong_eq_foldl]
      induction args generalizing found with
      | nil => rfl
      | cons arg args ihArgs =>
          rw [List.map_cons, List.foldl_cons, List.foldl_cons, ih arg (.head _)]
          exact ihArgs (fun other member => ih other (.tail _ member)) _

/-! ## 3. Replacing variables one after the other -/

/-- A replacement that keeps a state of its own, and a list of the names that it was asked for. -/
def recording {σ : Type} (replacement : String → StateM σ Term) (name : String) :
    StateM (List String × σ) Term :=
  fun record =>
    let made := (replacement name).run record.2
    (made.1, record.1 ++ [name], made.2)

section

variable {σ : Type} (replacement : String → StateM σ Term)

theorem run_substM_app (head : String) (args : List Term) (state : σ) :
    ((Term.app head args).substM replacement).run state =
      (.app head ((substAmongM replacement args).run state).1,
        ((substAmongM replacement args).run state).2) := rfl

theorem run_substAmongM_cons (term : Term) (terms : List Term) (state : σ) :
    (substAmongM replacement (term :: terms)).run state =
      (((term.substM replacement).run state).1 ::
          ((substAmongM replacement terms).run ((term.substM replacement).run state).2).1,
        ((substAmongM replacement terms).run ((term.substM replacement).run state).2).2) := rfl

/-- A replacement is asked for the variables of a term as they are read, once for each occurrence.
-/
theorem substM_recording (term : Term) (asked : List String) (state : σ) :
    (term.substM (recording replacement)).run (asked, state) =
      (((term.substM replacement).run state).1, asked ++ term.occurrences,
        ((term.substM replacement).run state).2) := by
  induction term generalizing asked state with
  | var name => rfl
  | app head args ih =>
      suffices among : (substAmongM (recording replacement) args).run (asked, state) =
          (((substAmongM replacement args).run state).1, asked ++ occurrencesAmong args,
            ((substAmongM replacement args).run state).2) by
        rw [run_substM_app, run_substM_app, among, occurrences]
      induction args generalizing asked state with
      | nil =>
          rw [occurrencesAmong, List.append_nil]
          rfl
      | cons arg args ihArgs =>
          rw [run_substAmongM_cons, run_substAmongM_cons, ih arg (.head _),
            ihArgs fun other member => ih other (.tail _ member)]
          rw [occurrencesAmong, List.append_assoc]

end

theorem substM_pure (term : Term) (replacement : String → Term) :
    Id.run (term.substM fun name => pure (replacement name)) = term.subst replacement := by
  induction term with
  | var name => rfl
  | app head args ih =>
      rw [subst_app]
      suffices among : Id.run (substAmongM (fun name => pure (replacement name)) args) =
          args.map (subst replacement) from congrArg (Term.app head) among
      induction args with
      | nil => rfl
      | cons arg args ihArgs =>
          rw [List.map_cons, ← ih arg (.head _),
            ← ihArgs fun other member => ih other (.tail _ member)]
          rfl

end Term

/-! ## 4. Slots -/

namespace Signature

variable (signature : Signature)

def patterns : List Term := signature.returns :: signature.params

/-- The slots of a rule are the variables of its patterns as the arguments of one term. -/
theorem slots_eq_vars : signature.slots = (Term.app signature.name signature.patterns).vars := by
  rw [Term.vars, Term.addVars, Term.addVarsAmong_eq_foldl]
  rfl

theorem lists_slots :
    ListsFirst signature.slots (Term.occurrencesAmong signature.patterns) := by
  rw [slots_eq_vars]
  exact Term.lists_vars _

def renamedBy (stamp : Nat) : Signature :=
  { signature with
    returns := (signature.rename stamp).returns
    params := (signature.rename stamp).params }

theorem slots_renamedBy (stamp : Nat) :
    (signature.renamedBy stamp).slots = (signature.rename stamp).slots := by
  have renamed := Term.addVars_renamed (stamped_injective stamp) []
    (.app signature.name signature.patterns)
  rw [Term.subst_app] at renamed
  rw [slots_eq_vars, rename, signature.slots_eq_vars]
  exact renamed

end Signature

/-- All traversals agree on the variables of a term and on their order. The collected variables are
those that the term mentions, without duplicates and in the order of their first occurrence; there
is none exactly if the term is ground; a replacement is asked for the variables as they are read,
once for each occurrence. The slots of a rule that is declared on a shape are the variables of its
return pattern and its parameters, without duplicates and in the order of their first occurrence
from the return pattern to the last parameter. The slots of the renamed rule are this for the
renamed patterns, each in the place of the slot that it was. -/
theorem variables_read_in_order :
    (∀ (decl : RuleDecl) (shape : String),
      (decl.onShape shape).slots.Nodup ∧
      (∀ name, name ∈ (decl.onShape shape).slots ↔ decl.returns.mentions name = true ∨
        ∃ param ∈ decl.params, param.mentions name = true) ∧
      ListsFirst (decl.onShape shape).slots (Term.occurrencesAmong (decl.returns :: decl.params)) ∧
      ∀ stamp,
        ListsFirst ((decl.onShape shape).rename stamp).slots
          (Term.occurrencesAmong (((decl.onShape shape).rename stamp).returns ::
            ((decl.onShape shape).rename stamp).params)) ∧
        ((decl.onShape shape).rename stamp).slots =
          ((decl.onShape shape).renamedBy stamp).slots ∧
        ((decl.onShape shape).rename stamp).slots =
          (decl.onShape shape).slots.map (Signature.stamped stamp)) ∧
    ∀ term : Term,
      term.vars.Nodup ∧
      (∀ name, name ∈ term.vars ↔ term.mentions name = true) ∧
      ListsFirst term.vars term.occurrences ∧
      (term.vars = [] ↔ term.isGround = true) ∧
      (∀ replacement : String → Term,
        Id.run (term.substM fun name => pure (replacement name)) = term.subst replacement) ∧
      ∀ (σ : Type) (replacement : String → StateM σ Term) (state : σ),
        (term.substM (Term.recording replacement)).run ([], state) =
          (((term.substM replacement).run state).1, term.occurrences,
            ((term.substM replacement).run state).2) := by
  refine ⟨fun decl shape => ?_, fun term => ?_⟩
  · refine ⟨(decl.onShape shape).nodup_slots, fun name => Signature.mem_slots,
      (decl.onShape shape).lists_slots, fun stamp => ?_⟩
    have slots := (decl.onShape shape).slots_renamedBy stamp
    refine ⟨?_, slots.symm, rfl⟩
    rw [← slots]
    exact ((decl.onShape shape).renamedBy stamp).lists_slots
  · exact ⟨Term.nodup_addVars .nil term, fun name => Term.mem_vars, term.lists_vars,
      Term.vars_eq_nil_iff, term.substM_pure,
      fun σ replacement state => Term.substM_recording replacement term [] state⟩

example : Signature.slots
    ⟨"Lists", "zip", .app "List" [.app "Pair" [.var "a", .var "b"]],
      [.app "List" [.var "b"], .app "List" [.var "c"]]⟩ = ["a", "b", "c"] := by decide

end Synthesis
