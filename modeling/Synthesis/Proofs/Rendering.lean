import Synthesis.Proofs.Reading
import Synthesis.Term.Lemmas

/-!
# Reading the text of a term

The text of a term is one of the ways to spell it only if all its variables start with a lowercase
letter: a variable of which the name was quoted is written without the quote, and then any other
name is read as a constructor. Apart from that, the text of a term that was read is read as the same
term again.

Results:
1. `Spells.named`: the names in a term that a text spells are identifiers, and those of constructors
   do not start with a lowercase letter.
2. `parse_render`: the text of a term with such names is read as the term with every variable
   replaced by what its name stands for without a quote.
3. `parse_render_under`: a term whose text is read as the term itself stays so under a constructor.
4. `parse_render_of_parse`: the text of a term that was read is read as the same term if and only if
   all its variables start with a lowercase letter.
5. `parse_render_iff`: the text of a term with any names is read as the same term if and only if
   each name in it is one that stands for what it names.
-/
namespace Synthesis
namespace Term

/-! ## 1. The names in a term -/

/-- All variables of a term have names of one kind, and all constructors have names of another. -/
inductive Named (ofVariable ofConstructor : List Char → Prop) : Term → Prop
  | var {name : String} : ofVariable name.toList → Named ofVariable ofConstructor (.var name)
  | app {head : String} {args : List Term} : ofConstructor head.toList →
      (∀ arg ∈ args, Named ofVariable ofConstructor arg) →
      Named ofVariable ofConstructor (.app head args)

theorem Named.of_mentions {ofVariable ofConstructor : List Char → Prop} {term : Term}
    (named : term.Named ofVariable ofConstructor) {name : String}
    (inTerm : term.mentions name = true) : ofVariable name.toList := by
  induction named with
  | var isVariable =>
      rw [mentions_var, beq_iff_eq] at inTerm
      exact inTerm ▸ isVariable
  | app _ _ ih =>
      rw [mentions_app, List.any_eq_true] at inTerm
      obtain ⟨arg, member, inArg⟩ := inTerm
      exact ih arg member inArg

theorem Named.mono {ofVariable ofVariable' ofConstructor ofConstructor' : List Char → Prop}
    (onVariables : ∀ name, ofVariable name → ofVariable' name)
    (onConstructors : ∀ name, ofConstructor name → ofConstructor' name) {term : Term}
    (named : term.Named ofVariable ofConstructor) : term.Named ofVariable' ofConstructor' := by
  induction named with
  | var isVariable => exact .var (onVariables _ isVariable)
  | app isConstructor _ ih => exact .app (onConstructors _ isConstructor) ih

/-- The variables of a term may have names of another kind, if all of them are of that kind. -/
theorem Named.of_all {ofVariable ofVariable' ofConstructor : List Char → Prop} {term : Term}
    (named : term.Named ofVariable ofConstructor)
    (all : ∀ name, term.mentions name = true → ofVariable' name.toList) :
    term.Named ofVariable' ofConstructor := by
  induction named with
  | @var name _ => exact .var (all name (by simp))
  | @app head _ isConstructor _ ih =>
      exact .app isConstructor fun arg member => ih arg member fun name inArg =>
        all name (mentions_of_mem member head inArg)

theorem VariableName.identifier {name : List Char} (named : VariableName name) : Identifier name :=
  (variableName_iff.1 named).1

mutual
/-- The names in a term that a text spells. -/
theorem Spells.named {text : List Char} {term : Term} :
    Spells text term → term.Named Identifier ConstructorName
  | .quoted _ name => .var (by rwa [String.toList_ofList])
  | .variable _ name => .var (by rw [String.toList_ofList]; exact name.identifier)
  | .constant _ name => .app (by rwa [String.toList_ofList]) fun _ none => by cases none
  | .application _ name _ inner _ => .app (by rwa [String.toList_ofList]) inner.named

theorem SpellsArgs.named {text : List Char} {terms : List Term} :
    SpellsArgs text terms → ∀ term ∈ terms, term.Named Identifier ConstructorName
  | .one spells => List.forall_mem_singleton.2 spells.named
  | .more spells _ others => List.forall_mem_cons.2 ⟨spells.named, others.named⟩
end

/-! ## 2. Texts and sentences -/

theorem sentence_of_parse {source : String} {term : Term} (read : parse source = .ok term) :
    Sentence source.toList term :=
  have reads : Reader.initial.Reads [] := ⟨[], [], rfl, .none, Blanks.nil⟩
  reads.run read

theorem parse_of_sentence {source : String} {term : Term} (sentence : Sentence source.toList term) :
    parse source = .ok term := by
  obtain ⟨spelling, blank, same, spells, blanks⟩ := sentence
  have ends : (⟨[], .complete term⟩ : Reader).Takes (blank ++ []) term :=
    Reader.takes_blanks_after blanks (Reader.takes_nil.2 rfl)
  have accepted := spells.leads ends
  rwa [List.append_nil, ← same] at accepted

theorem Spells.indent {blank text : List Char} {term : Term} (blanks : Blanks blank) :
    Spells text term → Spells (blank ++ text) term
  | .quoted before name => by simpa using Spells.quoted (blanks.append before) name
  | .variable before name => by simpa using Spells.variable (blanks.append before) name
  | .constant before name => by simpa using Spells.constant (blanks.append before) name
  | .application before name gap inner last => by
      simpa using Spells.application (blanks.append before) name gap inner last

theorem SpellsArgs.indent {blank text : List Char} {terms : List Term} (blanks : Blanks blank) :
    SpellsArgs text terms → SpellsArgs (blank ++ text) terms
  | .one first => .one (first.indent blanks)
  | .more first gap others => by
      simpa using SpellsArgs.more (first.indent blanks) gap others

/-! ## 3. The text of a term -/

/-- What a variable becomes when its name is read without a quote. -/
def reread (name : String) : Term := ofName name.toList

theorem reread_eq_var_iff {name : String} (identifier : Identifier name.toList) :
    reread name = .var name ↔ VariableName name.toList := by
  unfold reread ofName
  rw [variableName_iff, String.ofList_toList]
  split
  · next isVariable => exact iff_of_true rfl ⟨identifier, isVariable⟩
  · next other => exact iff_of_false (fun same => by cases same) fun named => other named.2

theorem spellsArgs_render {arg : Term} {args : List Term} {f : Term → Term}
    (first : Spells arg.render.toList (f arg))
    (others : ∀ other ∈ args, Spells other.render.toList (f other)) :
    SpellsArgs (arg.render.toList ++ (renderRest args).toList) (f arg :: args.map f) := by
  induction args generalizing arg with
  | nil => simpa [renderRest] using SpellsArgs.one first
  | cons next args ih =>
      obtain ⟨here, later⟩ := List.forall_mem_cons.1 others
      have space : Blanks [' '] := List.forall_mem_singleton.2 (by decide)
      have rest := SpellsArgs.more first Blanks.nil ((ih here later).indent space)
      simpa [renderRest] using rest

/-- The text of a term spells the term with every variable read without a quote. -/
theorem Named.spells_render {term : Term} (named : term.Named Identifier ConstructorName) :
    Spells term.render.toList (term.subst reread) := by
  induction named with
  | var identifier =>
      rw [subst_var]
      exact spells_ofName Blanks.nil identifier
  | @app head args isConstructor _ ih =>
      rw [subst_app]
      cases args with
      | nil =>
          have spells := Spells.constant Blanks.nil isConstructor
          rwa [String.ofList_toList] at spells
      | cons arg args =>
          obtain ⟨first, others⟩ := List.forall_mem_cons.1 ih
          have spells := Spells.application Blanks.nil isConstructor Blanks.nil
            (spellsArgs_render first others) Blanks.nil
          rw [String.ofList_toList] at spells
          simpa [render] using spells

/-- The text of a term with the right names is read as the term with every variable read without a
quote. -/
theorem Named.parse_render {term : Term} (named : term.Named Identifier ConstructorName) :
    parse term.render = .ok (term.subst reread) :=
  parse_of_sentence ⟨_, [], (List.append_nil _).symm, named.spells_render, Blanks.nil⟩

/-- A term under a constructor is spelled by the constructor with brackets around a spelling of the
term. -/
theorem Sentence.under {text : List Char} {term : Term} (sentence : Sentence text term)
    {head : String} (isConstructor : ConstructorName head.toList) :
    Sentence (head.toList ++ '<' :: text ++ ['>']) (term.under head) := by
  obtain ⟨spelling, blank, rfl, spells, blanks⟩ := sentence
  have whole := Spells.application Blanks.nil isConstructor Blanks.nil (.one spells) blanks
  rw [String.ofList_toList] at whole
  exact ⟨_, [], by simp, whole, Blanks.nil⟩

/-- A term whose text is read as the term itself stays so under a constructor. -/
theorem parse_render_under {term : Term} (read : parse term.render = .ok term) {head : String}
    (isConstructor : ConstructorName head.toList) :
    parse (term.under head).render = .ok (term.under head) := by
  refine parse_of_sentence ?_
  simpa [under, render, renderRest] using (sentence_of_parse read).under isConstructor

/-! ## 4. Reading what was read -/

/-- A term is what reading its variables without quotes makes of it if and only if all of them are
variables without quotes. -/
theorem Named.subst_reread_iff {term : Term} (named : term.Named Identifier ConstructorName) :
    term.subst reread = term ↔ ∀ name, term.mentions name = true → VariableName name.toList := by
  constructor
  · intro same name inTerm
    refine (reread_eq_var_iff (named.of_mentions inTerm)).1 (agree_of_subst_eq ?_ inTerm)
    rw [same, subst_self]
  · intro plain
    refine Eq.trans (subst_congr fun name inTerm => ?_) (subst_self term)
    exact (reread_eq_var_iff (named.of_mentions inTerm)).2 (plain name inTerm)

/-- The text of a term that was read is always read. It gives the term in which every variable whose
name does not start with a lowercase letter has become a constructor, and so the same term if and
only if there is no such variable. -/
theorem parse_render_of_parse {source : String} {term : Term} (read : parse source = .ok term) :
    parse term.render = .ok (term.subst reread) ∧
      (parse term.render = .ok term ↔
        ∀ name, term.mentions name = true → VariableName name.toList) := by
  obtain ⟨spelling, blank, -, spells, -⟩ := sentence_of_parse read
  have named := spells.named
  refine ⟨named.parse_render, ?_⟩
  rw [named.parse_render, Except.ok.injEq]
  exact named.subst_reread_iff

def quotedPair : Term := .app "Pair" [.var "Foo", .var "a"]

theorem parse_render_of_parse_pair : parse " Pair< 'Foo ,'a>" = .ok quotedPair ∧
    parse quotedPair.render = .ok (quotedPair.subst reread) ∧
      (parse quotedPair.render = .ok quotedPair ↔
        ∀ name, quotedPair.mentions name = true → VariableName name.toList) := by
  have read : parse " Pair< 'Foo ,'a>" = .ok quotedPair := rfl
  exact ⟨read, parse_render_of_parse read⟩

/-- The text of a variable whose quoted name starts with an uppercase letter is read as a
constructor, and not as the variable. -/
theorem quoted_variable_lost : parse "'Foo" = .ok (.var "Foo") ∧
    parse (Term.var "Foo").render = .ok (.constant "Foo") ∧
      ¬ ∀ (source : String) (term : Term), parse source = .ok term →
        parse term.render = .ok term := by
  have read : parse "'Foo" = .ok (.var "Foo") := rfl
  have reread : parse (Term.var "Foo").render = .ok (.constant "Foo") := rfl
  refine ⟨read, reread, fun stays => ?_⟩
  have same := stays "'Foo" (.var "Foo") read
  rw [reread] at same
  cases same

/-! ## 5. Terms with any names -/

/-- The text of a term is read as the same term if and only if the name of every variable in it is a
lowercase letter, and that of every constructor an uppercase letter or an underscore, followed by
letters, digits and underscores, all of them ASCII. -/
theorem parse_render_iff (term : Term) :
    parse term.render = .ok term ↔ term.Named VariableName ConstructorName := by
  constructor
  · intro read
    obtain ⟨spelling, blank, -, spells, -⟩ := sentence_of_parse read
    have named := spells.named
    rw [named.parse_render, Except.ok.injEq, named.subst_reread_iff] at read
    exact named.of_all read
  · intro named
    have identifiers := named.mono (fun _ => VariableName.identifier) fun _ => id
    rw [identifiers.parse_render, Except.ok.injEq, identifiers.subst_reread_iff]
    exact fun name => named.of_mentions

/-- A name with a comma in it is read as two arguments. -/
example : parse (Term.app "Box" [.constant "Int, Bool"]).render =
    .ok (.app "Box" [.constant "Int", .constant "Bool"]) := rfl

end Term
end Synthesis
