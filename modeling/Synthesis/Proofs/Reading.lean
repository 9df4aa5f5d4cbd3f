import Synthesis.Term.Grammar
import Synthesis.Term.Parser

/-!
# What the reader of terms accepts

The reader takes a text character by character and keeps no part of it but the applications that
are open and the phase that it is in. What both say about the text read so far is an invariant of
each step; in the other direction, a spelling leads the reader from the start of a term to the end
of it, whatever stands around.

Results:
1. `Reader.Reads.step`: each step keeps what the reader knows about the text read so far.
2. `Spells.leads`: the reader gets over a spelling of a term.
3. `parse_ok_iff_sentence`: the reader gives a term for a text if and only if the text spells it.
-/
namespace Synthesis
namespace Term

/-! ## 1. Characters and names -/

theorem startsName_iff {c : Char} : startsName c = true ↔ c.isAlpha = true ∨ c = '_' := by
  rw [startsName, Bool.or_eq_true, beq_iff_eq]

theorem continuesName_iff {c : Char} : continuesName c = true ↔ NameChar c := by
  rw [continuesName, Bool.or_eq_true, beq_iff_eq, NameChar]

theorem isUpper_iff {c : Char} : c.isUpper = true ↔ 65 ≤ c.toNat ∧ c.toNat ≤ 90 := by
  show decide (c.val ≥ 'A'.val ∧ c.val ≤ 'Z'.val) = true ↔ _
  rw [decide_eq_true_eq, ge_iff_le, UInt32.le_iff_toNat_le, UInt32.le_iff_toNat_le]
  exact Iff.rfl

theorem isLower_iff {c : Char} : c.isLower = true ↔ 97 ≤ c.toNat ∧ c.toNat ≤ 122 := by
  show (decide (c.val ≥ 'a'.val) && decide (c.val ≤ 'z'.val)) = true ↔ _
  rw [Bool.and_eq_true, decide_eq_true_eq, decide_eq_true_eq, ge_iff_le,
    UInt32.le_iff_toNat_le, UInt32.le_iff_toNat_le]
  exact Iff.rfl

theorem isDigit_iff {c : Char} : c.isDigit = true ↔ 48 ≤ c.toNat ∧ c.toNat ≤ 57 := by
  show (decide (c.val ≥ '0'.val) && decide (c.val ≤ '9'.val)) = true ↔ _
  rw [Bool.and_eq_true, decide_eq_true_eq, decide_eq_true_eq, ge_iff_le,
    UInt32.le_iff_toNat_le, UInt32.le_iff_toNat_le]
  exact Iff.rfl

theorem isAlpha_iff {c : Char} : c.isAlpha = true ↔ c.isUpper = true ∨ c.isLower = true := by
  show (c.isUpper || c.isLower) = true ↔ _
  rw [Bool.or_eq_true]

theorem isAlphanum_iff {c : Char} : c.isAlphanum = true ↔ c.isAlpha = true ∨ c.isDigit = true := by
  show (c.isAlpha || c.isDigit) = true ↔ _
  rw [Bool.or_eq_true]

theorem NameChar.not_blank {c : Char} (inName : NameChar c) : Text.isBlank c = false := by
  rcases inName with letter | rfl
  · rw [isAlphanum_iff, isAlpha_iff, isUpper_iff, isLower_iff, isDigit_iff] at letter
    rw [Text.isBlank, List.any_eq_false]
    intro range member
    simp only [Text.blankRanges, List.mem_cons, List.not_mem_nil, or_false] at member
    simp only [Bool.and_eq_true, decide_eq_true_eq]
    rcases member with rfl | rfl | rfl | rfl | rfl | rfl | rfl | rfl | rfl | rfl <;> omega
  · decide

/-- An unquoted name is a variable if and only if it starts with a lowercase letter. -/
theorem variableName_iff {name : List Char} :
    VariableName name ↔ Identifier name ∧ namesVariable name = true := by
  cases name with
  | nil => simp [VariableName, Identifier, NameFrom]
  | cons first rest =>
      simp only [VariableName, Identifier, NameFrom, namesVariable, isAlpha_iff]
      constructor
      · rintro ⟨lower, all⟩
        exact ⟨⟨.inl (.inr lower), all⟩, lower⟩
      · rintro ⟨⟨-, all⟩, lower⟩
        exact ⟨lower, all⟩

theorem isLower_of_isUpper {c : Char} (upper : c.isUpper = true) : c.isLower = false := by
  rw [isUpper_iff] at upper
  rw [Bool.eq_false_iff, ne_eq, isLower_iff]
  omega

theorem constructorName_iff {name : List Char} :
    ConstructorName name ↔ Identifier name ∧ namesVariable name = false := by
  cases name with
  | nil => simp [ConstructorName, Identifier, NameFrom]
  | cons first rest =>
      simp only [ConstructorName, Identifier, NameFrom, namesVariable, isAlpha_iff]
      constructor
      · rintro ⟨upper | rfl, all⟩
        · exact ⟨⟨.inl (.inl upper), all⟩, isLower_of_isUpper upper⟩
        · exact ⟨⟨.inr rfl, all⟩, by decide⟩
      · rintro ⟨⟨(upper | lower) | rfl, all⟩, other⟩
        · exact ⟨.inl upper, all⟩
        · rw [lower] at other
          cases other
        · exact ⟨.inr rfl, all⟩

theorem spells_ofName {blank name : List Char} (blanks : Blanks blank)
    (identifier : Identifier name) : Spells (blank ++ name) (ofName name) := by
  unfold ofName
  split
  · next named => exact .variable blanks (variableName_iff.2 ⟨identifier, named⟩)
  · next other =>
      exact .constant blanks (constructorName_iff.2 ⟨identifier, Bool.eq_false_iff.2 other⟩)

theorem Blanks.nil : Blanks [] := fun _ none => by cases none

theorem Blanks.append {text more : List Char} (first : Blanks text) (second : Blanks more) :
    Blanks (text ++ more) := by
  intro c member
  rcases List.mem_append.1 member with before | after
  · exact first c before
  · exact second c after

theorem Blanks.snoc {text : List Char} {c : Char} (blanks : Blanks text)
    (blank : Text.isBlank c = true) : Blanks (text ++ [c]) :=
  blanks.append (List.forall_mem_singleton.2 blank)

theorem NameFrom.snoc {start : Char → Prop} {name : List Char} {c : Char}
    (isName : NameFrom start name) (inName : NameChar c) : NameFrom start (name ++ [c]) := by
  cases name with
  | nil => exact isName.elim
  | cons first rest =>
      refine ⟨isName.1, fun other member => ?_⟩
      rcases List.mem_append.1 member with before | last
      · exact isName.2 other before
      · rw [List.mem_singleton.1 last]
        exact inName

/-! ## 2. What was read -/

/-- A text opens some applications, the innermost one last, and gives the arguments that were read
for each of them. The last character is a bracket or a comma. -/
inductive Opens : List Frame → List Char → Prop
  | none : Opens [] []
  | bracket {frames : List Frame} {text blank name gap : List Char} : Opens frames text →
      Blanks blank → ConstructorName name → Blanks gap →
      Opens (⟨String.ofList name, []⟩ :: frames) (text ++ (blank ++ name ++ gap ++ ['<']))
  | comma {head : String} {args : List Term} {frames : List Frame} {text inner gap : List Char}
      {term : Term} : Opens (⟨head, args⟩ :: frames) text → Spells inner term → Blanks gap →
      Opens (⟨head, term :: args⟩ :: frames) (text ++ (inner ++ gap ++ [',']))

/-- What a phase says about the text after the last bracket or comma. -/
def Phase.Reads : Phase → List Char → Prop
  | .start, text => Blanks text
  | .quote, text => ∃ blank, text = blank ++ ['\''] ∧ Blanks blank
  | .quotedName letters, text =>
      ∃ blank, text = blank ++ '\'' :: letters.reverse ∧ Blanks blank ∧ Identifier letters.reverse
  | .name letters, text =>
      ∃ blank, text = blank ++ letters.reverse ∧ Blanks blank ∧ Identifier letters.reverse
  | .named letters, text =>
      ∃ blank gap, text = blank ++ letters ++ gap ∧ Blanks blank ∧ Identifier letters ∧ Blanks gap
  | .complete term, text =>
      ∃ spelling gap, text = spelling ++ gap ∧ Spells spelling term ∧ Blanks gap

/-- What a reader says about the text that it has read. -/
def Reader.Reads (reader : Reader) (text : List Char) : Prop :=
  ∃ outer inner, text = outer ++ inner ∧ Opens reader.frames outer ∧ reader.phase.Reads inner

/-- The last argument and a closing bracket complete the innermost application. -/
theorem Opens.close {head : String} {args : List Term} {frames : List Frame} {text : List Char}
    (opens : Opens (⟨head, args⟩ :: frames) text) {inner last : List Char} {terms : List Term}
    (spells : SpellsArgs inner terms) (blanks : Blanks last) :
    ∃ outer spelling, text ++ inner ++ last ++ ['>'] = outer ++ spelling ∧ Opens frames outer ∧
      Spells spelling (.app head (args.reverse ++ terms)) := by
  generalize opened : (⟨head, args⟩ :: frames : List Frame) = all at opens
  induction opens generalizing head args inner terms with
  | none => cases opened
  | @bracket _ text blank name gap outside before named between =>
      cases opened
      refine ⟨text, blank ++ name ++ gap ++ '<' :: inner ++ last ++ ['>'], by simp, outside, ?_⟩
      exact .application before named between spells blanks
  | @comma _ _ _ text first gap term _ arg between ih =>
      cases opened
      obtain ⟨outer, spelling, same, outside, whole⟩ := ih (.more arg between spells) rfl
      refine ⟨outer, spelling, ?_, outside, ?_⟩
      · rw [← same]
        simp
      · simpa using whole

namespace Reader

variable {frames : List Frame} {outer : List Char} {c : Char} {next : Reader}

theorem reads_afterTerm (opens : Opens frames outer) {spelling gap : List Char} {term : Term}
    (spells : Spells spelling term) (blanks : Blanks gap)
    (read : afterTerm frames term c = .ok next) :
    next.Reads (outer ++ (spelling ++ gap) ++ [c]) := by
  unfold afterTerm at read
  split at read
  · next blank =>
      cases read
      exact ⟨outer, spelling ++ (gap ++ [c]), by simp, opens, spelling, gap ++ [c], rfl, spells,
        blanks.snoc blank⟩
  · cases frames with
    | nil => cases read
    | cons frame frames =>
        obtain ⟨head, args⟩ := frame
        simp only at read
        split at read
        · next comma =>
            cases read
            subst comma
            exact ⟨_, [], by simp, .comma opens spells blanks, Blanks.nil⟩
        · split at read
          · next bracket =>
              cases read
              subst bracket
              obtain ⟨before, whole, same, outside, closed⟩ := opens.close (.one spells) blanks
              refine ⟨before, whole, by rw [← same]; simp, outside, whole, [], by simp, ?_,
                .nil⟩
              simpa using closed
          · cases read

theorem reads_afterName (opens : Opens frames outer) {blank name gap : List Char}
    (before : Blanks blank) (identifier : Identifier name) (after : Blanks gap)
    (read : afterName frames name c = .ok next) :
    next.Reads (outer ++ (blank ++ name ++ gap) ++ [c]) := by
  unfold afterName at read
  split at read
  · next here =>
      cases read
      exact ⟨outer, blank ++ name ++ (gap ++ [c]), by simp, opens, blank, gap ++ [c], rfl, before,
        identifier, after.snoc here⟩
  · split at read
    · next bracket =>
        subst bracket
        split at read
        · cases read
        · next other =>
            cases read
            have named := constructorName_iff.2 ⟨identifier, Bool.eq_false_iff.2 other⟩
            exact ⟨_, [], by simp, .bracket opens before named after, Blanks.nil⟩
    · exact reads_afterTerm opens (spells_ofName before identifier) after read

/-- Each step keeps what the reader says about the text. -/
theorem Reads.step {reader : Reader} {text : List Char} (reads : reader.Reads text)
    (read : reader.step c = .ok next) : next.Reads (text ++ [c]) := by
  obtain ⟨frames, phase⟩ := reader
  obtain ⟨outer, inner, rfl, opens, inside⟩ := reads
  unfold Reader.step at read
  cases phase with
  | start =>
      simp only at read
      split at read
      · next blank =>
          cases read
          exact ⟨outer, inner ++ [c], by simp, opens, Blanks.snoc inside blank⟩
      · split at read
        · next quote =>
            cases read
            exact ⟨outer, inner ++ [c], by simp, opens, inner, by rw [quote], inside⟩
        · split at read
          · next starts =>
              cases read
              exact ⟨outer, inner ++ [c], by simp, opens, inner, rfl, inside,
                startsName_iff.1 starts, fun _ none => by cases none⟩
          · cases read
  | quote =>
      obtain ⟨blank, rfl, before⟩ := inside
      simp only at read
      split at read
      · next starts =>
          cases read
          exact ⟨outer, blank ++ '\'' :: [c], by simp, opens, blank, rfl, before,
            startsName_iff.1 starts, fun _ none => by cases none⟩
      · cases read
  | quotedName letters =>
      obtain ⟨blank, rfl, before, identifier⟩ := inside
      simp only at read
      split at read
      · next continues =>
          cases read
          refine ⟨outer, blank ++ '\'' :: (c :: letters).reverse, by simp, opens, blank, rfl,
            before, ?_⟩
          rw [List.reverse_cons]
          exact identifier.snoc (continuesName_iff.1 continues)
      · have after := reads_afterTerm opens (.quoted before identifier) .nil read
        simpa using after
  | name letters =>
      obtain ⟨blank, rfl, before, identifier⟩ := inside
      simp only at read
      split at read
      · next continues =>
          cases read
          refine ⟨outer, blank ++ (c :: letters).reverse, by simp, opens, blank, rfl, before, ?_⟩
          rw [List.reverse_cons]
          exact identifier.snoc (continuesName_iff.1 continues)
      · have after := reads_afterName opens before identifier .nil read
        simpa using after
  | named letters =>
      obtain ⟨blank, gap, rfl, before, identifier, after⟩ := inside
      exact reads_afterName opens before identifier after read
  | complete term =>
      obtain ⟨spelling, gap, rfl, spells, after⟩ := inside
      exact reads_afterTerm opens spells after read

/-- A text at whose end the reader gives a term spells the term. -/
theorem Reads.finish {reader : Reader} {text : List Char} (reads : reader.Reads text) {term : Term}
    (ends : reader.finish = .ok term) : Sentence text term := by
  obtain ⟨frames, phase⟩ := reader
  obtain ⟨outer, inner, rfl, opens, inside⟩ := reads
  unfold Reader.finish at ends
  split at ends
  · cases ends
  · next given closed =>
      cases ends
      subst closed
      cases opens
      cases phase with
      | start => cases given
      | quote => cases given
      | quotedName letters =>
          cases given
          obtain ⟨blank, rfl, before, identifier⟩ := inside
          exact ⟨_, [], by simp, .quoted before identifier, .nil⟩
      | name letters =>
          cases given
          obtain ⟨blank, rfl, before, identifier⟩ := inside
          exact ⟨_, [], by simp, spells_ofName before identifier, .nil⟩
      | named letters =>
          cases given
          obtain ⟨blank, gap, rfl, before, identifier, after⟩ := inside
          exact ⟨_, gap, by simp, spells_ofName before identifier, after⟩
      | complete term =>
          cases given
          obtain ⟨spelling, gap, rfl, spells, after⟩ := inside
          exact ⟨spelling, gap, rfl, spells, after⟩
  · cases ends

/-- What the reader accepts from where it is completes the text that it has read. -/
theorem Reads.run {reader : Reader} {text rest : List Char} (reads : reader.Reads text)
    {offset : Nat} {term : Term} (accepted : reader.run offset rest = .ok term) :
    Sentence (text ++ rest) term := by
  induction rest generalizing reader text offset with
  | nil =>
      rw [Reader.run] at accepted
      cases ends : reader.finish with
      | error misreading =>
          rw [ends] at accepted
          cases accepted
      | ok given =>
          rw [ends] at accepted
          cases accepted
          rw [List.append_nil]
          exact reads.finish ends
  | cons c rest ih =>
      rw [Reader.run] at accepted
      split at accepted
      · cases accepted
      · next read =>
          have whole := ih (reads.step read) accepted
          rwa [List.append_assoc] at whole

end Reader

/-! ## 3. What is accepted -/

namespace Reader

/-- Where a text starts makes no difference to whether it is accepted. -/
theorem run_ok_of_offset {reader : Reader} {rest : List Char} {offset : Nat} {term : Term}
    (accepted : reader.run offset rest = .ok term) (other : Nat) :
    reader.run other rest = .ok term := by
  induction rest generalizing reader offset other with
  | nil =>
      rw [Reader.run] at accepted ⊢
      cases ends : reader.finish with
      | error misreading =>
          rw [ends] at accepted
          cases accepted
      | ok given =>
          rw [ends] at accepted
          exact accepted
  | cons c rest ih =>
      rw [Reader.run] at accepted ⊢
      cases read : reader.step c with
      | error misreading =>
          rw [read] at accepted
          cases accepted
      | ok next =>
          rw [read] at accepted
          exact ih accepted _

/-- The reader accepts a text from where it is. -/
def Takes (reader : Reader) (rest : List Char) (term : Term) : Prop :=
  reader.run 0 rest = .ok term

variable {frames : List Frame} {reader next : Reader} {rest : List Char} {term given : Term}

theorem takes_nil : reader.Takes [] term ↔ reader.finish = .ok term := by
  unfold Takes
  rw [Reader.run]
  cases reader.finish with
  | error misreading =>
      show Except.error (ParseError.mk 0 misreading) = Except.ok term ↔ _
      simp
  | ok given =>
      show (Except.ok given : Except ParseError Term) = .ok term ↔ _
      simp

theorem takes_cons_iff {c : Char} :
    reader.Takes (c :: rest) term ↔ ∃ next, reader.step c = .ok next ∧ next.Takes rest term := by
  unfold Takes
  rw [Reader.run]
  cases read : reader.step c with
  | error misreading => simp
  | ok next =>
      simp only [Except.ok.injEq, exists_eq_left']
      exact ⟨fun accepted => run_ok_of_offset accepted 0,
        fun accepted => run_ok_of_offset accepted _⟩

theorem takes_cons {c : Char} (read : reader.step c = .ok next) (accepted : next.Takes rest term) :
    reader.Takes (c :: rest) term :=
  takes_cons_iff.2 ⟨next, read, accepted⟩

/-- A complete term is followed by white space, by a comma or by a closing bracket. -/
theorem eq_of_afterTerm {c : Char} (read : afterTerm frames given c = .ok next) :
    Text.isBlank c = true ∨ c = ',' ∨ c = '>' := by
  unfold afterTerm at read
  split at read
  · next blank => exact .inl blank
  · split at read
    · cases read
    · split at read
      · next comma => exact .inr (.inl comma)
      · split at read
        · next bracket => exact .inr (.inr bracket)
        · cases read

theorem not_nameChar_of_afterTerm {c : Char} (read : afterTerm frames given c = .ok next) :
    continuesName c = false := by
  rcases eq_of_afterTerm read with blank | rfl | rfl
  · rw [Bool.eq_false_iff]
    intro continues
    rw [(continuesName_iff.1 continues).not_blank] at blank
    cases blank
  · decide
  · decide

theorem ne_bracket_of_afterTerm {c : Char} (read : afterTerm frames given c = .ok next) :
    c ≠ '<' := by
  rintro rfl
  rcases eq_of_afterTerm read with blank | same | same
  · cases blank
  · cases same
  · cases same

/-- White space after an unquoted name is passed over like white space after a complete term. -/
theorem takes_named {name : List Char}
    (accepted : (⟨frames, .complete (ofName name)⟩ : Reader).Takes rest term) :
    (⟨frames, .named name⟩ : Reader).Takes rest term := by
  induction rest with
  | nil =>
      rw [takes_nil] at accepted ⊢
      exact accepted
  | cons c rest ih =>
      obtain ⟨next, read, accepted⟩ := takes_cons_iff.1 accepted
      have read : afterTerm frames (ofName name) c = .ok next := read
      by_cases blank : Text.isBlank c = true
      · simp only [afterTerm, blank, if_true] at read
        cases read
        exact takes_cons (by simp only [Reader.step, afterName, blank, if_true]) (ih accepted)
      · refine takes_cons ?_ accepted
        simp only [Reader.step, afterName, blank, if_false, ne_bracket_of_afterTerm read, read]
        rfl

theorem takes_name {letters : List Char}
    (accepted : (⟨frames, .complete (ofName letters.reverse)⟩ : Reader).Takes rest term) :
    (⟨frames, .name letters⟩ : Reader).Takes rest term := by
  cases rest with
  | nil =>
      rw [takes_nil] at accepted ⊢
      exact accepted
  | cons c rest =>
      obtain ⟨next, read, after⟩ := takes_cons_iff.1 (takes_named accepted)
      obtain ⟨_, complete, -⟩ := takes_cons_iff.1 accepted
      refine takes_cons ?_ after
      simp only [Reader.step, not_nameChar_of_afterTerm complete]
      exact read

theorem takes_quotedName {letters : List Char}
    (accepted : (⟨frames, .complete (.var (String.ofList letters.reverse))⟩ : Reader).Takes rest
      term) : (⟨frames, .quotedName letters⟩ : Reader).Takes rest term := by
  cases rest with
  | nil =>
      rw [takes_nil] at accepted ⊢
      exact accepted
  | cons c rest =>
      obtain ⟨next, read, after⟩ := takes_cons_iff.1 accepted
      refine takes_cons ?_ after
      simp only [Reader.step, not_nameChar_of_afterTerm read]
      exact read

theorem takes_blanks {blank : List Char} (blanks : Blanks blank)
    (accepted : (⟨frames, .start⟩ : Reader).Takes rest term) :
    (⟨frames, .start⟩ : Reader).Takes (blank ++ rest) term := by
  induction blank with
  | nil => exact accepted
  | cons c blank ih =>
      have first : Text.isBlank c = true := blanks c (.head _)
      refine takes_cons ?_ (ih fun other member => blanks other (.tail _ member))
      simp only [Reader.step, first, if_true]

theorem takes_blanks_after {blank : List Char} (blanks : Blanks blank)
    (accepted : (⟨frames, .complete given⟩ : Reader).Takes rest term) :
    (⟨frames, .complete given⟩ : Reader).Takes (blank ++ rest) term := by
  induction blank with
  | nil => exact accepted
  | cons c blank ih =>
      have first : Text.isBlank c = true := blanks c (.head _)
      refine takes_cons ?_ (ih fun other member => blanks other (.tail _ member))
      simp only [Reader.step, afterTerm, first, if_true]

theorem takes_letters {more letters : List Char} (all : ∀ c ∈ more, NameChar c)
    (accepted : (⟨frames, .name (more.reverse ++ letters)⟩ : Reader).Takes rest term) :
    (⟨frames, .name letters⟩ : Reader).Takes (more ++ rest) term := by
  induction more generalizing letters with
  | nil => exact accepted
  | cons c more ih =>
      have first : continuesName c = true := continuesName_iff.2 (all c (.head _))
      have read : (⟨frames, .name letters⟩ : Reader).step c =
          .ok ⟨frames, .name (c :: letters)⟩ := by
        simp only [Reader.step, first, if_true]
      refine takes_cons read (ih (fun other member => all other (.tail _ member)) ?_)
      rwa [List.reverse_cons, List.append_assoc] at accepted

theorem takes_quotedLetters {more letters : List Char} (all : ∀ c ∈ more, NameChar c)
    (accepted : (⟨frames, .quotedName (more.reverse ++ letters)⟩ : Reader).Takes rest term) :
    (⟨frames, .quotedName letters⟩ : Reader).Takes (more ++ rest) term := by
  induction more generalizing letters with
  | nil => exact accepted
  | cons c more ih =>
      have first : continuesName c = true := continuesName_iff.2 (all c (.head _))
      have read : (⟨frames, .quotedName letters⟩ : Reader).step c =
          .ok ⟨frames, .quotedName (c :: letters)⟩ := by
        simp only [Reader.step, first, if_true]
      refine takes_cons read (ih (fun other member => all other (.tail _ member)) ?_)
      rwa [List.reverse_cons, List.append_assoc] at accepted

/-- The reader gets from the start of a term to the end of an unquoted name. -/
theorem takes_identifier {name : List Char} (identifier : Identifier name)
    (accepted : (⟨frames, .name name.reverse⟩ : Reader).Takes rest term) :
    (⟨frames, .start⟩ : Reader).Takes (name ++ rest) term := by
  cases name with
  | nil => exact identifier.elim
  | cons first name =>
      obtain ⟨starts, all⟩ := identifier
      have inName : NameChar first := starts.imp_left fun letter => isAlphanum_iff.2 (.inl letter)
      have noQuote : first ≠ '\'' := by
        rintro rfl
        rcases starts with letter | same
        · cases letter
        · cases same
      have read : (⟨frames, .start⟩ : Reader).step first = .ok ⟨frames, .name [first]⟩ := by
        simp only [Reader.step, inName.not_blank, noQuote, startsName_iff.2 starts, if_true,
          if_false, Bool.false_eq_true]
      refine takes_cons read (takes_letters all ?_)
      rwa [List.reverse_cons] at accepted

theorem takes_quoted {name : List Char} (identifier : Identifier name)
    (accepted : (⟨frames, .quotedName name.reverse⟩ : Reader).Takes rest term) :
    (⟨frames, .start⟩ : Reader).Takes ('\'' :: name ++ rest) term := by
  cases name with
  | nil => exact identifier.elim
  | cons first name =>
      obtain ⟨starts, all⟩ := identifier
      have quote : (⟨frames, .start⟩ : Reader).step '\'' = .ok ⟨frames, .quote⟩ := rfl
      have read : (⟨frames, .quote⟩ : Reader).step first = .ok ⟨frames, .quotedName [first]⟩ := by
        simp only [Reader.step, startsName_iff.2 starts, if_true]
      refine takes_cons quote (takes_cons read (takes_quotedLetters all ?_))
      rwa [List.reverse_cons] at accepted

theorem takes_bracket {name gap : List Char} (constructor : ConstructorName name)
    (blanks : Blanks gap)
    (accepted : (⟨⟨String.ofList name, []⟩ :: frames, .start⟩ : Reader).Takes rest term) :
    (⟨frames, .name name.reverse⟩ : Reader).Takes (gap ++ '<' :: rest) term := by
  have other : namesVariable name = false := (constructorName_iff.1 constructor).2
  have opens : afterName frames name '<' =
      .ok ⟨⟨String.ofList name, []⟩ :: frames, .start⟩ := by
    rw [afterName, if_neg (by decide), if_pos rfl, if_neg (by rw [other]; decide)]
  have named : (⟨frames, .named name⟩ : Reader).Takes (gap ++ '<' :: rest) term := by
    induction gap with
    | nil => exact takes_cons opens accepted
    | cons c gap ih =>
        have first : Text.isBlank c = true := blanks c (.head _)
        refine takes_cons ?_ (ih fun other member => blanks other (.tail _ member))
        simp only [Reader.step, afterName, first, if_true]
  have ends {c : Char} (outside : continuesName c = false) :
      (⟨frames, .name name.reverse⟩ : Reader).step c = (⟨frames, .named name⟩ : Reader).step c := by
    simp only [Reader.step, outside, List.reverse_reverse, Bool.false_eq_true, if_false]
  cases gap with
  | nil =>
      obtain ⟨next, read, after⟩ := takes_cons_iff.1 named
      exact takes_cons ((ends (by decide)).trans read) after
  | cons c gap =>
      obtain ⟨next, read, after⟩ := takes_cons_iff.1 named
      refine takes_cons ((ends ?_).trans read) after
      rw [Bool.eq_false_iff]
      intro continues
      have blank : Text.isBlank c = true := blanks c (.head _)
      rw [(continuesName_iff.1 continues).not_blank] at blank
      cases blank

theorem takes_comma {head : String} {args : List Term}
    (accepted : (⟨⟨head, given :: args⟩ :: frames, .start⟩ : Reader).Takes rest term) :
    (⟨⟨head, args⟩ :: frames, .complete given⟩ : Reader).Takes (',' :: rest) term :=
  takes_cons rfl accepted

theorem takes_close {head : String} {args : List Term}
    (accepted : (⟨frames, .complete (.app head (args.reverse ++ [given]))⟩ : Reader).Takes rest
      term) : (⟨⟨head, args⟩ :: frames, .complete given⟩ : Reader).Takes ('>' :: rest) term := by
  rw [← List.reverse_cons] at accepted
  exact takes_cons rfl accepted

end Reader

open Reader

mutual
/-- The reader gets over a spelling of a term, wherever it stands. -/
theorem Spells.leads {frames : List Frame} {text rest : List Char} {given term : Term} :
    Spells text given → (⟨frames, .complete given⟩ : Reader).Takes rest term →
      (⟨frames, .start⟩ : Reader).Takes (text ++ rest) term
  | .quoted blanks identifier, accepted => by
      rw [List.append_assoc]
      refine takes_blanks blanks (takes_quoted identifier (takes_quotedName ?_))
      rwa [List.reverse_reverse]
  | .variable blanks named, accepted => by
      obtain ⟨identifier, lower⟩ := variableName_iff.1 named
      rw [List.append_assoc]
      refine takes_blanks blanks (takes_identifier identifier (takes_name ?_))
      rwa [List.reverse_reverse, ofName, if_pos lower]
  | .constant blanks named, accepted => by
      obtain ⟨identifier, other⟩ := constructorName_iff.1 named
      rw [List.append_assoc]
      refine takes_blanks blanks (takes_identifier identifier (takes_name ?_))
      rwa [List.reverse_reverse, ofName, other, if_neg Bool.false_ne_true]
  | .application blanks named between spells after, accepted => by
      have inside := SpellsArgs.leads [] spells after accepted
      have opened := takes_bracket named between inside
      have whole := takes_blanks blanks (takes_identifier (constructorName_iff.1 named).1 opened)
      simpa using whole

/-- The reader gets over the arguments of an application and the bracket that closes it. -/
theorem SpellsArgs.leads {head : String} (args : List Term) {frames : List Frame}
    {text last rest : List Char} {terms : List Term} {term : Term} :
    SpellsArgs text terms → Blanks last →
      (⟨frames, .complete (.app head (args.reverse ++ terms))⟩ : Reader).Takes rest term →
      (⟨⟨head, args⟩ :: frames, .start⟩ : Reader).Takes (text ++ last ++ '>' :: rest) term
  | .one spells, blanks, accepted => by
      rw [List.append_assoc]
      exact spells.leads (takes_blanks_after blanks (takes_close accepted))
  | .more spells between others, blanks, accepted => by
      have inside := SpellsArgs.leads (_ :: args) others blanks (by simpa using accepted)
      have whole := spells.leads (takes_blanks_after between (takes_comma inside))
      simpa using whole
end

/-- The reader gives a term for a text if and only if the text spells the term: white space may
stand before each part of it and at its end, and nothing else. -/
theorem parse_ok_iff_sentence (source : String) (term : Term) :
    parse source = .ok term ↔ Sentence source.toList term := by
  constructor
  · intro accepted
    have reads : Reader.initial.Reads [] := ⟨[], [], rfl, .none, Blanks.nil⟩
    exact reads.run accepted
  · rintro ⟨spelling, blank, same, spells, blanks⟩
    have ends : (⟨[], .complete term⟩ : Reader).Takes (blank ++ []) term :=
      takes_blanks_after blanks (takes_nil.2 rfl)
    have accepted := spells.leads ends
    rw [List.append_nil, ← same] at accepted
    exact accepted

end Term
end Synthesis
