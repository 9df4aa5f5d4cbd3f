import Mathlib.Data.List.Forall2
import Synthesis.Registry

/-!
# The content of values

Two values have the same content if they differ in nothing but identities: where one of them refers
to a cell, so does the other one, and the two cells are both empty or hold values of the same
content. Cells may lead back to themselves, so the cells that correspond are given by a relation
under which this holds for all of them at once.

Results:
1. `SameContent.mono`: values keep the same content when the heaps are extended.
2. `SameContent.record`: the content of a record is made of its tag and the contents of its fields.
3. `Offer.Pure`: what it means that a body looks at contents only.
-/
namespace Synthesis

/-! ## 1. Values that are alike -/

mutual
/-- Two values differ in nothing but identities, if some cells correspond to each other. -/
inductive Value.Alike (cells : Nat → Nat → Prop) : Value → Value → Prop
  | mk {id id' : Nat} {datum datum' : Datum} : Datum.Alike cells datum datum' →
      Value.Alike cells (.mk id datum) (.mk id' datum')

inductive Datum.Alike (cells : Nat → Nat → Prop) : Datum → Datum → Prop
  | int {number : Int} : Datum.Alike cells (.int number) (.int number)
  | text {content : String} : Datum.Alike cells (.text content) (.text content)
  | flag {content : Bool} : Datum.Alike cells (.flag content) (.flag content)
  | unit : Datum.Alike cells .unit .unit
  | record {tag : String} {fields fields' : List Value} : AllAlike cells fields fields' →
      Datum.Alike cells (.record tag fields) (.record tag fields')
  | provider {slot : Nat} {label : String} :
      Datum.Alike cells (.provider slot label none) (.provider slot label none)
  | derived {slot : Nat} {label : String} {base base' : Value} : Value.Alike cells base base' →
      Datum.Alike cells (.provider slot label (some base)) (.provider slot label (some base'))
  | deferred {cell cell' : Nat} : cells cell cell' →
      Datum.Alike cells (.deferred cell) (.deferred cell')
  | knot {of : Kind} {cell cell' : Nat} : cells cell cell' →
      Datum.Alike cells (.knot of cell) (.knot of cell')

inductive AllAlike (cells : Nat → Nat → Prop) : List Value → List Value → Prop
  | nil : AllAlike cells [] []
  | cons {value value' : Value} {values values' : List Value} : Value.Alike cells value value' →
      AllAlike cells values values' → AllAlike cells (value :: values) (value' :: values')
end

mutual
theorem Value.Alike.mono {cells more : Nat → Nat → Prop}
    (within : ∀ cell cell', cells cell cell' → more cell cell') {value value' : Value} :
    value.Alike cells value' → value.Alike more value'
  | .mk datum => .mk (datum.mono within)

theorem Datum.Alike.mono {cells more : Nat → Nat → Prop}
    (within : ∀ cell cell', cells cell cell' → more cell cell') {datum datum' : Datum} :
    datum.Alike cells datum' → datum.Alike more datum'
  | .int => .int
  | .text => .text
  | .flag => .flag
  | .unit => .unit
  | .record fields => .record (fields.mono within)
  | .provider => .provider
  | .derived base => .derived (base.mono within)
  | .deferred related => .deferred (within _ _ related)
  | .knot related => .knot (within _ _ related)

theorem AllAlike.mono {cells more : Nat → Nat → Prop}
    (within : ∀ cell cell', cells cell cell' → more cell cell') {values values' : List Value} :
    AllAlike cells values values' → AllAlike more values values'
  | .nil => .nil
  | .cons first rest => .cons (first.mono within) (rest.mono within)
end

theorem Value.Alike.kind_eq {cells : Nat → Nat → Prop} {value value' : Value}
    (alike : value.Alike cells value') : value'.kind = value.kind := by
  obtain ⟨datum⟩ := alike
  cases datum <;> rfl

/-! ## 2. Cells that correspond -/

namespace Heap

/-- Cells of two heaps correspond if they are empty together or hold values that are alike. -/
def SameCells (first second : Heap) (cells : Nat → Nat → Prop) : Prop :=
  ∀ cell cell', cells cell cell' →
    first.cells[cell]? = some none ∧ second.cells[cell']? = some none ∨
      ∃ value value', first.cells[cell]? = some (some value) ∧
        second.cells[cell']? = some (some value') ∧ value.Alike cells value'

theorem Extends.getElem?_eq {old new : Heap} (extended : old.Extends new) {cell : Nat}
    {content : Option Value} (there : old.cells[cell]? = some content) :
    new.cells[cell]? = some content := by
  obtain ⟨later, same⟩ := extended.cells_prefix
  rw [← same, List.getElem?_append_left (List.getElem?_eq_some_iff.1 there).1, there]

theorem SameCells.mono {first second first' second' : Heap} {cells : Nat → Nat → Prop}
    (same : first.SameCells second cells) (one : first.Extends first')
    (two : second.Extends second') : first'.SameCells second' cells := by
  intro cell cell' related
  rcases same cell cell' related with ⟨empty, empty'⟩ | ⟨value, value', held, held', alike⟩
  · exact .inl ⟨one.getElem?_eq empty, two.getElem?_eq empty'⟩
  · exact .inr ⟨value, value', one.getElem?_eq held, two.getElem?_eq held', alike⟩

theorem SameCells.or {first second : Heap} {cells more : Nat → Nat → Prop}
    (same : first.SameCells second cells) (also : first.SameCells second more) :
    first.SameCells second fun cell cell' => cells cell cell' ∨ more cell cell' := by
  rintro cell cell' (related | related)
  · refine (same cell cell' related).imp_right ?_
    rintro ⟨value, value', held, held', alike⟩
    exact ⟨value, value', held, held', alike.mono fun _ _ => .inl⟩
  · refine (also cell cell' related).imp_right ?_
    rintro ⟨value, value', held, held', alike⟩
    exact ⟨value, value', held, held', alike.mono fun _ _ => .inr⟩

end Heap

/-- Two values, each with its heap, have the same content. -/
def SameContent (first second : Heap) (value value' : Value) : Prop :=
  ∃ cells, first.SameCells second cells ∧ value.Alike cells value'

namespace SameContent

variable {first second first' second' : Heap} {value value' : Value}

theorem mono (same : SameContent first second value value') (one : first.Extends first')
    (two : second.Extends second') : SameContent first' second' value value' := by
  obtain ⟨cells, corresponding, alike⟩ := same
  exact ⟨cells, corresponding.mono one two, alike⟩

theorem kind_eq (same : SameContent first second value value') : value'.kind = value.kind := by
  obtain ⟨cells, -, alike⟩ := same
  exact alike.kind_eq

theorem record {tag : String} {fields fields' : List Value} {id id' : Nat}
    (same : List.Forall₂ (SameContent first second) fields fields') :
    SameContent first second (.mk id (.record tag fields)) (.mk id' (.record tag fields')) := by
  suffices ∃ cells, first.SameCells second cells ∧ AllAlike cells fields fields' by
    obtain ⟨cells, corresponding, alike⟩ := this
    exact ⟨cells, corresponding, .mk (.record alike)⟩
  induction same with
  | nil => exact ⟨fun _ _ => False, fun _ _ none => none.elim, .nil⟩
  | cons same _ ih =>
      obtain ⟨cells, corresponding, alike⟩ := same
      obtain ⟨more, others, rest⟩ := ih
      exact ⟨_, corresponding.or others, .cons (alike.mono fun _ _ => .inl)
        (rest.mono fun _ _ => .inr)⟩

end SameContent

/-! ## 3. Bodies that look at contents only -/

/-- Two runs of a body decide the same: they produce values of the same content, they both decline,
or they fail for the same reason. -/
inductive SameOutcome : Except Failure Verdict × Heap → Except Failure Verdict × Heap → Prop
  | produced {value value' : Value} {heap heap' : Heap} : SameContent heap heap' value value' →
      SameOutcome (.ok (.produced value), heap) (.ok (.produced value'), heap')
  | declined {heap heap' : Heap} : SameOutcome (.ok .declined, heap) (.ok .declined, heap')
  | failed {failure : Failure} {heap heap' : Heap} :
      SameOutcome (.error failure, heap) (.error failure, heap')

namespace SameOutcome

variable {heap : Heap} {other : Except Failure Verdict × Heap}

theorem of_produced {value : Value} (same : SameOutcome (.ok (.produced value), heap) other) :
    ∃ value' after, other = (.ok (.produced value'), after) ∧
      SameContent heap after value value' := by
  cases same with
  | produced content => exact ⟨_, _, rfl, content⟩

theorem of_declined (same : SameOutcome (.ok .declined, heap) other) :
    ∃ after, other = (.ok .declined, after) := by
  cases same with
  | declined => exact ⟨_, rfl⟩

theorem of_failed {failure : Failure} (same : SameOutcome (.error failure, heap) other) :
    ∃ after, other = (.error failure, after) := by
  cases same with
  | failed => exact ⟨_, rfl⟩

end SameOutcome

/-- What the body of an offered rule decides depends on its provider, its types and the contents of
its arguments only, in all heaps that extend a first one. -/
def Offer.Pure (base : Heap) (offer : Offer) : Prop :=
  ∀ provider types args args' first second, offer.view = .ok provider →
    base.Extends first → base.Extends second →
    List.Forall₂ (SameContent first second) args args' →
    SameOutcome (offer.rule.recipe.run ⟨offer.rule.toSignature, provider, types, args⟩ first).val
      (offer.rule.recipe.run ⟨offer.rule.toSignature, provider, types, args'⟩ second).val

end Synthesis
