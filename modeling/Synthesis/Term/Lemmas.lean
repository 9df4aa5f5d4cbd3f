import Synthesis.Term

/-!
# Traversals of a term

How the traversals of a term relate to each other and to the replacement of variables. The main
statements are that the collected variables are those that the term mentions, each once
(`mem_addVars`, `nodup_addVars`), and that two replacements in a row are one
(`subst_subst`).
-/
namespace Synthesis
namespace Term

/-! ## 1. Argument lists -/

theorem substAmong_eq_map (f : String → Term) (terms : List Term) :
    substAmong f terms = terms.map (subst f) := by
  induction terms with
  | nil => rfl
  | cons term terms ih => simp [substAmong, ih]

theorem anyVarAmong_eq_any (test : String → Bool) (terms : List Term) :
    anyVarAmong test terms = terms.any (anyVar test) := by
  induction terms with
  | nil => rfl
  | cons term terms ih => simp [anyVarAmong, ih]

theorem addVarsAmong_eq_foldl (found : List String) (terms : List Term) :
    addVarsAmong found terms = terms.foldl addVars found := by
  induction terms generalizing found with
  | nil => rfl
  | cons term terms ih => simp [addVarsAmong, ih]

theorem allGround_eq_all (terms : List Term) : allGround terms = terms.all isGround := by
  induction terms with
  | nil => rfl
  | cons term terms ih => simp [allGround, ih]

@[simp] theorem subst_var (f : String → Term) (name : String) :
    (Term.var name).subst f = f name := by simp [subst]

@[simp] theorem subst_app (f : String → Term) (head : String) (args : List Term) :
    (Term.app head args).subst f = .app head (args.map (subst f)) := by
  simp [subst, substAmong_eq_map]

@[simp] theorem anyVar_var (test : String → Bool) (name : String) :
    (Term.var name).anyVar test = test name := by simp [anyVar]

@[simp] theorem anyVar_app (test : String → Bool) (head : String) (args : List Term) :
    (Term.app head args).anyVar test = args.any (anyVar test) := by
  simp [anyVar, anyVarAmong_eq_any]

@[simp] theorem mentions_var (name other : String) :
    (Term.var name).mentions other = (name == other) := by simp [mentions]

theorem mentions_app (head : String) (args : List Term) (name : String) :
    (Term.app head args).mentions name = args.any (·.mentions name) := by
  simp [mentions]

theorem mentions_of_mem {args : List Term} {arg : Term} (member : arg ∈ args) (head : String)
    {name : String} (inArg : arg.mentions name = true) :
    (Term.app head args).mentions name = true := by
  rw [mentions_app, List.any_eq_true]
  exact ⟨arg, member, inArg⟩

@[simp] theorem isGround_app (head : String) (args : List Term) :
    (Term.app head args).isGround = args.all isGround := by
  simp [isGround, allGround_eq_all]

@[simp] theorem isGround_under (term : Term) (head : String) :
    (term.under head).isGround = term.isGround := by
  simp [under]

theorem mentions_of_ground {term : Term} (ground : term.isGround = true) (name : String) :
    term.mentions name = false := by
  induction term with
  | var v => simp [isGround] at ground
  | app head args ih =>
      simp only [isGround_app, List.all_eq_true] at ground
      rw [mentions_app, List.any_eq_false]
      intro arg member
      simp [ih arg member (ground arg member)]

/-! ## 2. Replacing variables -/

theorem subst_subst (f g : String → Term) (term : Term) :
    (term.subst f).subst g = term.subst fun name => (f name).subst g := by
  induction term with
  | var name => simp
  | app head args ih =>
      simp only [subst_app, List.map_map, app.injEq, true_and]
      exact List.map_congr_left ih

/-- Replacements that agree on the variables of a term have the same effect on it. -/
theorem subst_congr {f g : String → Term} {term : Term}
    (agree : ∀ name, term.mentions name = true → f name = g name) :
    term.subst f = term.subst g := by
  induction term with
  | var name => simpa using agree name (by simp)
  | app head args ih =>
      simp only [subst_app, app.injEq, true_and]
      exact List.map_congr_left fun arg member => ih arg member fun name inArg =>
        agree name (mentions_of_mem member head inArg)

theorem subst_self (term : Term) : term.subst .var = term := by
  induction term with
  | var name => simp
  | app head args ih =>
      simp only [subst_app, app.injEq, true_and]
      exact (List.map_congr_left ih).trans (List.map_id' args)

theorem subst_of_ground {term : Term} (ground : term.isGround = true) (f : String → Term) :
    term.subst f = term :=
  (subst_congr fun name inTerm => by simp [mentions_of_ground ground] at inTerm).trans
    (subst_self term)

theorem replace_subst (f : String → Term) (name : String) (value term : Term) :
    (term.subst f).replace name value = term.subst fun other => (f other).replace name value :=
  subst_subst _ _ _

theorem replace_of_not_mentions {term : Term} {name : String}
    (absent : term.mentions name = false) (value : Term) : term.replace name value = term := by
  refine Eq.trans (subst_congr fun other inTerm => ?_) (subst_self term)
  have differs : other ≠ name := fun same => by simp [same, absent] at inTerm
  simp [differs]

theorem mentions_subst {f : String → Term} {term : Term} {other : String} :
    (term.subst f).mentions other = true ↔
      ∃ name, term.mentions name = true ∧ (f name).mentions other = true := by
  induction term with
  | var v => simp
  | app head args ih =>
      simp only [subst_app, mentions_app, List.any_map, List.any_eq_true, Function.comp_apply]
      constructor
      · rintro ⟨arg, member, inArg⟩
        obtain ⟨name, h, inValue⟩ := (ih arg member).1 inArg
        exact ⟨name, ⟨arg, member, h⟩, inValue⟩
      · rintro ⟨name, ⟨arg, member, h⟩, inValue⟩
        exact ⟨arg, member, (ih arg member).2 ⟨name, h, inValue⟩⟩

/-- A term is ground after a replacement if the terms for its variables are. -/
theorem isGround_subst {f : String → Term} {term : Term} :
    (term.subst f).isGround = true ↔
      ∀ name, term.mentions name = true → (f name).isGround = true := by
  induction term with
  | var v => simp
  | app head args ih =>
      simp only [subst_app, isGround_app, List.all_map, List.all_eq_true, Function.comp_apply,
        mentions_app, List.any_eq_true]
      constructor
      · rintro ground name ⟨arg, member, inArg⟩
        exact (ih arg member).1 (ground arg member) name inArg
      · intro ground arg member
        exact (ih arg member).2 fun name inArg => ground name ⟨arg, member, inArg⟩

/-- Replacements that have the same effect on a term agree on its variables. -/
theorem agree_of_subst_eq {f g : String → Term} {term : Term}
    (same : term.subst f = term.subst g) {name : String} (inTerm : term.mentions name = true) :
    f name = g name := by
  induction term with
  | var v =>
      obtain rfl : v = name := by simpa using inTerm
      simpa using same
  | app head args ih =>
      rw [mentions_app, List.any_eq_true] at inTerm
      obtain ⟨arg, member, inArg⟩ := inTerm
      simp only [subst_app, app.injEq, true_and] at same
      exact ih arg member (List.map_inj_left.1 same arg member) inArg

theorem mentions_replace {term value : Term} {name other : String} :
    (term.replace name value).mentions other = true ↔
      term.mentions other = true ∧ other ≠ name ∨
        term.mentions name = true ∧ value.mentions other = true := by
  rw [replace, mentions_subst]
  constructor
  · rintro ⟨x, inTerm, inValue⟩
    by_cases same : x = name
    · exact .inr ⟨same ▸ inTerm, by simpa [same] using inValue⟩
    · obtain rfl : x = other := by simpa [same] using inValue
      exact .inl ⟨inTerm, same⟩
  · rintro (⟨inTerm, differs⟩ | ⟨inTerm, inValue⟩)
    · exact ⟨other, inTerm, by simp [differs]⟩
    · exact ⟨name, inTerm, by simpa using inValue⟩

/-! ## 3. Collecting variables -/

/-- The collected variables are the ones found before and those that the term mentions. -/
theorem mem_addVars {name : String} {found : List String} {term : Term} :
    name ∈ term.addVars found ↔ name ∈ found ∨ term.mentions name = true := by
  induction term generalizing found with
  | var v =>
      by_cases known : v ∈ found
      · simp only [addVars, known, if_true, mentions_var, beq_iff_eq]
        exact ⟨.inl, fun | .inl h => h | .inr h => h ▸ known⟩
      · simp only [addVars, known, if_false, List.mem_append, List.mem_singleton, mentions_var,
          beq_iff_eq]
        exact or_congr_right eq_comm
  | app head args ih =>
      simp only [addVars, addVarsAmong_eq_foldl, mentions_app]
      induction args generalizing found with
      | nil => simp
      | cons arg args ihArgs =>
          rw [List.foldl_cons, ihArgs (fun other member => ih other (.tail _ member)),
            ih arg (.head _), List.any_cons, Bool.or_eq_true, or_assoc]

theorem nodup_addVars {found : List String} (distinct : found.Nodup) (term : Term) :
    (term.addVars found).Nodup := by
  induction term generalizing found with
  | var v =>
      by_cases known : v ∈ found
      · simpa [addVars, known] using distinct
      · simp only [addVars, known, if_false]
        refine List.nodup_append.2 ⟨distinct, by simp, fun a inFound b single => ?_⟩
        exact fun same => known (by simp at single; exact single ▸ same ▸ inFound)
  | app head args ih =>
      simp only [addVars, addVarsAmong_eq_foldl]
      induction args generalizing found with
      | nil => simpa using distinct
      | cons arg args ihArgs =>
          exact ihArgs (fun other member => ih other (.tail _ member)) (ih arg (.head _) distinct)

theorem mem_vars {name : String} {term : Term} :
    name ∈ term.vars ↔ term.mentions name = true := by
  simp [vars, mem_addVars]

end Term
end Synthesis
