import Synthesis.Proofs.Reading

/-!
# Where the reader of terms refuses a text

The reader never gives up too late: from every state that it can be in, some text leads it to a
term, so whatever it has read can still be completed. And it never gives up too early, since a
character that it refuses is refused whatever follows. So the place of a refusal is the end of the
longest part of the text, from its start, that can be completed.

Results:
1. `Reader.exists_takes`: every reader accepts some text.
2. `Reader.takes_append_iff`: what is accepted after some characters is what is accepted from where
   they lead.
3. `Reader.run_error`: a refused text leads the reader to a character that it refuses, or to the end
   of the text.
4. `parse_error_offset`: a text is refused at the end of its longest viable prefix.
-/
namespace Synthesis
namespace Term

namespace Reader

variable {reader next : Reader} {text rest : List Char} {term : Term}

/-! ## 1. Texts that complete what was read -/

/-- After a complete term, the applications that are open can be closed one after the other. -/
theorem exists_takes_closing (frames : List Frame) (given : Term) :
    ∃ rest term, (⟨frames, .complete given⟩ : Reader).Takes rest term := by
  induction frames generalizing given with
  | nil => exact ⟨[], given, takes_nil.2 rfl⟩
  | cons frame frames ih =>
      obtain ⟨rest, term, accepted⟩ := ih (.app frame.head (frame.args.reverse ++ [given]))
      exact ⟨'>' :: rest, term, takes_close accepted⟩

theorem exists_takes (reader : Reader) : ∃ rest term, reader.Takes rest term := by
  obtain ⟨frames, phase⟩ := reader
  have named : Identifier ['a'] := ⟨.inl (by decide), fun _ none => by cases none⟩
  cases phase with
  | start =>
      obtain ⟨rest, term, accepted⟩ := exists_takes_closing frames (ofName ['a'])
      exact ⟨['a'] ++ rest, term, takes_identifier named (takes_name accepted)⟩
  | quote =>
      obtain ⟨rest, term, accepted⟩ := exists_takes_closing frames (.var (String.ofList ['a']))
      exact ⟨'a' :: rest, term, takes_cons rfl (takes_quotedName accepted)⟩
  | quotedName letters =>
      obtain ⟨rest, term, accepted⟩ :=
        exists_takes_closing frames (.var (String.ofList letters.reverse))
      exact ⟨rest, term, takes_quotedName accepted⟩
  | name letters =>
      obtain ⟨rest, term, accepted⟩ := exists_takes_closing frames (ofName letters.reverse)
      exact ⟨rest, term, takes_name accepted⟩
  | named letters =>
      obtain ⟨rest, term, accepted⟩ := exists_takes_closing frames (ofName letters)
      exact ⟨rest, term, takes_named accepted⟩
  | complete given => exact exists_takes_closing frames given

/-! ## 2. Where some characters lead -/

def advance (reader : Reader) (text : List Char) : Except Misreading Reader :=
  text.foldlM step reader

theorem advance_nil (reader : Reader) : reader.advance [] = .ok reader := rfl

theorem advance_cons {c : Char} (read : reader.step c = .ok next) (text : List Char) :
    reader.advance (c :: text) = next.advance text := by
  rw [advance, List.foldlM_cons, read]
  rfl

theorem exists_step_of_advance {c : Char} (reaches : reader.advance (c :: text) = .ok next) :
    ∃ middle, reader.step c = .ok middle ∧ middle.advance text = .ok next := by
  cases read : reader.step c with
  | error misreading =>
      rw [advance, List.foldlM_cons, read] at reaches
      cases reaches
  | ok middle => exact ⟨middle, rfl, (advance_cons read text).symm.trans reaches⟩

/-- Behind some characters, what is accepted is what is accepted from where they lead. -/
theorem takes_append_iff (reaches : reader.advance text = .ok next) :
    reader.Takes (text ++ rest) term ↔ next.Takes rest term := by
  induction text generalizing reader with
  | nil =>
      cases reaches
      exact Iff.rfl
  | cons c text ih =>
      obtain ⟨middle, read, reaches⟩ := exists_step_of_advance reaches
      rw [List.cons_append, takes_cons_iff, ← ih reaches, read]
      simp

/-- A refused text leads to a character that is refused, or to its own end. The offset of the
refusal counts the bytes up to there. -/
theorem run_error {offset : Nat} {error : ParseError}
    (rejected : reader.run offset text = .error error) :
    ∃ before after next, text = before ++ after ∧ reader.advance before = .ok next ∧
      error.offset = offset + (String.ofList before).utf8ByteSize ∧
      ∀ c more, after = c :: more → next.step c = .error error.misreading := by
  induction text generalizing reader offset with
  | nil =>
      refine ⟨[], [], reader, rfl, advance_nil reader, ?_, fun _ _ none => by cases none⟩
      rw [run] at rejected
      cases ends : reader.finish with
      | error misreading =>
          rw [ends] at rejected
          cases rejected
          rfl
      | ok term =>
          rw [ends] at rejected
          cases rejected
  | cons c text ih =>
      rw [run] at rejected
      cases read : reader.step c with
      | error misreading =>
          rw [read] at rejected
          cases rejected
          refine ⟨[], c :: text, reader, rfl, advance_nil reader, rfl, fun other more same => ?_⟩
          cases same
          exact read
      | ok middle =>
          rw [read] at rejected
          obtain ⟨before, after, next, rfl, reaches, place, refused⟩ := ih rejected
          refine ⟨c :: before, after, next, rfl, (advance_cons read before).trans reaches, ?_,
            refused⟩
          rw [place, String.ofList_cons, String.utf8ByteSize_append, String.utf8ByteSize_singleton,
            Nat.add_assoc]

end Reader

open Reader

/-! ## 3. The place of a refusal -/

/-- A text can be extended to one that is read as a term. -/
def Viable (text : String) : Prop :=
  ∃ (more : String) (term : Term), parse (text ++ more) = .ok term

theorem viable_iff {text : String} :
    Viable text ↔ ∃ rest term, Reader.initial.Takes (text.toList ++ rest) term := by
  have read (more : String) (term : Term) : parse (text ++ more) = .ok term ↔
      Reader.initial.Takes (text.toList ++ more.toList) term := by
    rw [parse, String.toList_append]
    exact Iff.rfl
  constructor
  · rintro ⟨more, term, accepted⟩
    exact ⟨more.toList, term, (read more term).1 accepted⟩
  · rintro ⟨rest, term, accepted⟩
    exact ⟨String.ofList rest, term, (read _ term).2 (by rwa [String.toList_ofList])⟩

/-- Characters that the reader gets over can be extended to a term. -/
theorem viable_of_advance {text : List Char} {next : Reader}
    (reaches : Reader.initial.advance text = .ok next) : Viable (String.ofList text) := by
  obtain ⟨rest, term, accepted⟩ := next.exists_takes
  rw [viable_iff, String.toList_ofList]
  exact ⟨rest, term, (takes_append_iff reaches).2 accepted⟩

/-- Characters that are followed by a refused one cannot be extended to a term with it. -/
theorem not_viable_of_refused {text more : List Char} {next : Reader} {c : Char}
    {misreading : Misreading} (reaches : Reader.initial.advance text = .ok next)
    (refused : next.step c = .error misreading) : ¬ Viable (String.ofList (text ++ c :: more)) := by
  rw [viable_iff, String.toList_ofList]
  rintro ⟨rest, term, accepted⟩
  rw [List.append_assoc, takes_append_iff reaches, List.cons_append, takes_cons_iff] at accepted
  obtain ⟨_, read, -⟩ := accepted
  rw [refused] at read
  cases read

/-- A text is refused at the end of its longest prefix that can be extended to a term. The offset
lies within the text and between two of its characters. -/
theorem parse_error_offset {source : String} {error : ParseError}
    (rejected : parse source = .error error) :
    error.offset ≤ source.utf8ByteSize ∧ (String.Pos.Raw.mk error.offset).IsValid source ∧
      ∃ viable rest, source = viable ++ rest ∧ viable.utf8ByteSize = error.offset ∧
        Viable viable ∧ ∀ longer after, source = longer ++ after → Viable longer →
          longer.utf8ByteSize ≤ error.offset := by
  obtain ⟨before, after, next, split, reaches, place, refused⟩ := run_error rejected
  rw [Nat.zero_add] at place
  have parts : source = String.ofList before ++ String.ofList after := by
    rw [← String.ofList_append, ← split, String.ofList_toList]
  have boundary : (String.Pos.Raw.mk error.offset).IsValid source :=
    String.Pos.Raw.isValid_iff_exists_append.2 ⟨_, _, parts, by rw [place]; rfl⟩
  refine ⟨boundary.le_rawEndPos, boundary, _, _, parts, place.symm, viable_of_advance reaches, ?_⟩
  intro longer further whole viable
  rw [place]
  have one : before <+: source.toList := ⟨after, split.symm⟩
  have two : longer.toList <+: source.toList := ⟨further.toList, by rw [whole]; simp⟩
  rcases List.prefix_or_prefix_of_prefix two one with ⟨more, same⟩ | ⟨more, same⟩
  · rw [← same, String.ofList_append, String.ofList_toList, String.utf8ByteSize_append]
    exact Nat.le_add_right _ _
  · cases more with
    | nil =>
        rw [List.append_nil] at same
        exact Nat.le_of_eq (by rw [same, String.ofList_toList])
    | cons c more =>
        rw [← String.ofList_toList (s := longer), ← same] at viable
        rw [whole, String.toList_append, ← same, List.append_assoc] at split
        have follows := (List.append_cancel_left split).symm
        exact absurd viable (not_viable_of_refused reaches (refused c _ follows))

/-- A space that takes two bytes stands before the argument, and a second name after it. -/
theorem parse_error_offset_spaced :
    parse "Pair<\u00a0a b>" = .error ⟨9, .closeExpected (some 'b')⟩ ∧
      9 ≤ "Pair<\u00a0a b>".utf8ByteSize ∧
      (String.Pos.Raw.mk 9).IsValid "Pair<\u00a0a b>" ∧
      ∃ viable rest, "Pair<\u00a0a b>" = viable ++ rest ∧ viable.utf8ByteSize = 9 ∧
        Viable viable ∧ ∀ longer after, "Pair<\u00a0a b>" = longer ++ after → Viable longer →
          longer.utf8ByteSize ≤ 9 := by
  have rejected : parse "Pair<\u00a0a b>" = .error ⟨9, .closeExpected (some 'b')⟩ := rfl
  exact ⟨rejected, parse_error_offset rejected⟩

end Term
end Synthesis
