import Synthesis.Proofs.Additions
import Synthesis.Proofs.Placeholders

/-!
# The shapes above a kind

A declaration is accepted only if the shape that it extends has a kind that is registered already.
So the way from a kind up to the shapes above it cannot come back to a shape, although it has no
bound of its own: each step leads to a shape that was registered earlier. The views that are
gathered on this way lead from a value to what belongs to each of the shapes, those on the way that
bear no rules included.

Results:
1. `Registry.Built.registerAll`: whatever is declared, what comes out was built by the declarations
   that were accepted, and one that is refused might as well have been left out.
2. `Registry.Built.climbs`, `Registry.Climbs.unique`: the shapes from a registered kind upwards are
   those on the way from base to base, which ends at a shape without a base.
3. `registered_lineages_end`: this for all registries, and all their offers view their providers.
-/
namespace Synthesis

/-! ## 1. Registrations -/

theorem ShapeDecl.base_toShape {declared : ShapeDecl} (based : declared.base = none) :
    declared.toShape.base = none := by
  rw [toShape, based]
  rfl

/-- The shape of a declaration extends the kind that the declaration names. -/
theorem ShapeDecl.exists_base_toShape {declared : ShapeDecl} {base : Base}
    (based : declared.base = some base) :
    ∃ view, declared.toShape.base = some (base.kind, view) := by
  rw [toShape, based]
  exact ⟨_, rfl⟩

namespace Registry

section

variable {registry extended : Registry} {declared : ShapeDecl} {kind : Kind} {shape : Shape}

/-- A declaration is accepted if and only if its kind has no shape yet and its base has one. The
shape that it makes is put in front. -/
theorem register_ok_iff : registry.register declared = .ok extended ↔
    extended = ⟨declared.toShape :: registry.shapes⟩ ∧ registry.shape? declared.kind = none ∧
      ∀ base, declared.base = some base → ∃ shape, registry.shape? base.kind = some shape := by
  unfold register
  cases registered : registry.shape? declared.kind with
  | some shape => simp
  | none =>
      cases based : declared.base with
      | none => simp [eq_comm]
      | some base =>
          cases above : registry.shape? base.kind with
          | none => simp [above]
          | some shape => simp [above, eq_comm]

theorem shape?_cons (shapes : List Shape) (kind : Kind) :
    shape? ⟨shape :: shapes⟩ kind =
      if shape.kind = kind then some shape else shape? ⟨shapes⟩ kind := by
  simp only [shape?, List.find?_cons]
  split <;> simp_all

theorem shape?_of_register (accepted : registry.register declared = .ok extended)
    (found : registry.shape? kind = some shape) : extended.shape? kind = some shape := by
  obtain ⟨rfl, new, -⟩ := register_ok_iff.1 accepted
  rw [shape?_cons, if_neg, found]
  intro (same : declared.kind = kind)
  rw [same, found] at new
  cases new

/-- The kind of a declaration that was accepted has the shape that the declaration makes. -/
theorem shape?_declared (accepted : registry.register declared = .ok extended) :
    extended.shape? declared.kind = some declared.toShape := by
  obtain ⟨rfl, -⟩ := register_ok_iff.1 accepted
  exact (shape?_cons _ _).trans (if_pos rfl)

end

/-- A registry is built by declarations, of which the latest stands first. -/
inductive Built : List ShapeDecl → Registry → Prop
  | empty : Built [] .empty
  | add {declared : ShapeDecl} {earlier : List ShapeDecl} {registry extended : Registry} :
      Built earlier registry → registry.register declared = .ok extended →
      Built (declared :: earlier) extended

/-- Whatever is declared, the declarations that are accepted build the registry. -/
theorem Built.registerAll {earlier : List ShapeDecl} {registry : Registry}
    (built : Built earlier registry) (declarations : List ShapeDecl) :
    ∃ accepted : List ShapeDecl, accepted.Sublist declarations ∧
      Built (accepted.reverse ++ earlier) (registry.registerAll declarations) := by
  induction declarations generalizing earlier registry with
  | nil => exact ⟨[], .slnil, built⟩
  | cons declared rest ih =>
      rw [Registry.registerAll]
      cases result : registry.register declared with
      | error refused =>
          obtain ⟨accepted, sublist, whole⟩ := ih built
          exact ⟨accepted, sublist.cons declared, whole⟩
      | ok extended =>
          obtain ⟨accepted, sublist, whole⟩ := ih (built.add result)
          refine ⟨declared :: accepted, sublist.cons_cons declared, ?_⟩
          simpa using whole

/-- A declaration that is refused changes nothing: it might as well be left out. -/
theorem registerAll_of_refused {registry : Registry} {before after : List ShapeDecl}
    {declared : ShapeDecl} {refused : RegistrationError}
    (refuses : (registry.registerAll before).register declared = .error refused) :
    registry.registerAll (before ++ declared :: after) =
      registry.registerAll (before ++ after) := by
  rw [registerAll_append, registerAll_append, registerAll, refuses]

/-- What is registered stays registered, whatever is declared after it. -/
theorem shape?_of_registerAll {registry : Registry} {kind : Kind} {shape : Shape}
    (found : registry.shape? kind = some shape) (declarations : List ShapeDecl) :
    (registry.registerAll declarations).shape? kind = some shape := by
  induction declarations generalizing registry with
  | nil => exact found
  | cons declared rest ih =>
      rw [registerAll]
      split
      · next accepted => exact ih (shape?_of_register accepted found)
      · exact ih found

theorem Built.shapes {accepted : List ShapeDecl} {registry : Registry}
    (built : Built accepted registry) : registry.shapes = accepted.map (·.toShape) := by
  induction built with
  | empty => rfl
  | add _ accepts ih =>
      obtain ⟨rfl, -⟩ := register_ok_iff.1 accepts
      rw [List.map_cons, ih]

/-- A kind whose declaration was accepted has the shape that the declaration makes. -/
theorem Built.shape?_eq {accepted : List ShapeDecl} {registry : Registry}
    (built : Built accepted registry) {declared : ShapeDecl} (member : declared ∈ accepted) :
    registry.shape? declared.kind = some declared.toShape := by
  induction built with
  | empty => cases member
  | add _ accepts ih =>
      rcases List.mem_cons.1 member with rfl | before
      · exact shape?_declared accepts
      · exact shape?_of_register accepts (ih before)

theorem Built.eq_of_kind {accepted : List ShapeDecl} {registry : Registry}
    (built : Built accepted registry) {one other : ShapeDecl} (first : one ∈ accepted)
    (second : other ∈ accepted) (same : one.kind = other.kind) : one = other := by
  induction built with
  | empty => cases first
  | add before accepts ih =>
      obtain ⟨-, new, -⟩ := register_ok_iff.1 accepts
      rcases List.mem_cons.1 first with latest | one <;>
        rcases List.mem_cons.1 second with latest' | two
      · rw [latest, latest']
      · rw [← latest, same, before.shape?_eq two] at new
        cases new
      · rw [← latest', ← same, before.shape?_eq one] at new
        cases new
      · exact ih one two

/-- Each registered shape was made by a declaration. -/
theorem Built.declared {accepted : List ShapeDecl} {registry : Registry}
    (built : Built accepted registry) {shape : Shape} (member : shape ∈ registry.shapes) :
    ∃ declared : ShapeDecl, shape = declared.toShape := by
  rw [built.shapes] at member
  obtain ⟨declared, -, same⟩ := List.mem_map.1 member
  exact ⟨declared, same.symm⟩

theorem Built.base {accepted : List ShapeDecl} {registry : Registry}
    (built : Built accepted registry) {shape : Shape} (member : shape ∈ registry.shapes)
    {parent : Kind} {view : View} (based : shape.base = some (parent, view)) :
    ∃ above, registry.shape? parent = some above := by
  induction built with
  | empty => cases member
  | add _ accepts ih =>
      obtain ⟨rfl, -, known⟩ := register_ok_iff.1 accepts
      rcases List.mem_cons.1 member with rfl | before
      · obtain ⟨base, own, same⟩ := Option.map_eq_some_iff.1 based
        cases same
        exact (known base own).imp fun _ => shape?_of_register accepts
      · exact (ih before).imp fun _ => shape?_of_register accepts

/-! ## 2. The way up -/

/-- The way from a kind to the shapes above it, on which each base is looked up in the whole
registry, comes to a shape without a base. `views` lead to the kind. -/
inductive Climbs (registry : Registry) : List View → Kind → List Ancestor → Prop
  | root {views : List View} {kind : Kind} {shape : Shape} :
      registry.shape? kind = some shape → shape.base = none →
      Climbs registry views kind [⟨shape, views⟩]
  | up {views : List View} {kind parent : Kind} {shape : Shape} {view : View}
      {above : List Ancestor} :
      registry.shape? kind = some shape → shape.base = some (parent, view) →
      Climbs registry (views ++ [view]) parent above →
      Climbs registry views kind (⟨shape, views⟩ :: above)

namespace Climbs

variable {registry extended : Registry} {views : List View} {kind : Kind}
  {ancestors others : List Ancestor}

/-- There is only one way up. -/
theorem unique (climbs : registry.Climbs views kind ancestors)
    (also : registry.Climbs views kind others) : ancestors = others := by
  induction climbs generalizing others with
  | root found last =>
      cases also with
      | root again => rw [Option.some.inj (found.symm.trans again)]
      | up again based =>
          rw [← Option.some.inj (found.symm.trans again), last] at based
          cases based
  | up found based _ ih =>
      cases also with
      | root again last =>
          rw [← Option.some.inj (found.symm.trans again), based] at last
          cases last
      | up again next higher =>
          obtain rfl := Option.some.inj (found.symm.trans again)
          obtain ⟨rfl, rfl⟩ := Prod.mk.inj (Option.some.inj (based.symm.trans next))
          rw [ih higher]

theorem register {declared : ShapeDecl} (climbs : registry.Climbs views kind ancestors)
    (accepted : registry.register declared = .ok extended) :
    extended.Climbs views kind ancestors := by
  induction climbs with
  | root found last => exact .root (shape?_of_register accepted found) last
  | up found based _ ih => exact .up (shape?_of_register accepted found) based ih

theorem starts (climbs : registry.Climbs views kind ancestors) {shape : Shape}
    (found : registry.shape? kind = some shape) : ∃ above, ancestors = ⟨shape, views⟩ :: above := by
  cases climbs with
  | root own | up own =>
      obtain rfl := Option.some.inj (own.symm.trans found)
      exact ⟨_, rfl⟩

theorem ends (climbs : registry.Climbs views kind ancestors) :
    ∃ below root, ancestors = below ++ [root] ∧ root.shape.base = none := by
  induction climbs with
  | root _ last => exact ⟨[], _, rfl, last⟩
  | up _ _ _ ih =>
      obtain ⟨below, root, rfl, last⟩ := ih
      exact ⟨_ :: below, root, rfl, last⟩

end Climbs

/-- The shapes from a registered kind upwards are those on the way up. -/
theorem Built.climbs {accepted : List ShapeDecl} {registry : Registry}
    (built : Built accepted registry) {kind : Kind} {shape : Shape}
    (found : registry.shape? kind = some shape) (views : List View) :
    registry.Climbs views kind (lineageAmong views kind registry.shapes) := by
  induction built generalizing kind shape views with
  | empty => cases found
  | @add declared _ _ _ _ accepts ih =>
      obtain ⟨rfl, -, known⟩ := register_ok_iff.1 accepts
      have own := shape?_declared accepts
      rw [lineageAmong]
      split
      · next here =>
          obtain rfl : declared.kind = kind := here
          cases based : declared.base with
          | none =>
              have last := ShapeDecl.base_toShape based
              rw [last]
              exact .root own last
          | some base =>
              obtain ⟨parent, above⟩ := known base based
              obtain ⟨view, next⟩ := ShapeDecl.exists_base_toShape based
              rw [next]
              exact .up own next ((ih above _).register accepts)
      · next other =>
          rw [shape?_cons, if_neg other] at found
          exact (ih found views).register accepts

theorem Built.nodup {accepted : List ShapeDecl} {registry : Registry}
    (built : Built accepted registry) (views : List View) (kind : Kind) :
    ((lineageAmong views kind registry.shapes).map (·.shape.kind)).Nodup := by
  induction built generalizing views kind with
  | empty => exact .nil
  | @add declared _ before _ _ accepts ih =>
      obtain ⟨rfl, new, -⟩ := register_ok_iff.1 accepts
      -- what is above was registered earlier, when the kind had no shape yet
      have apart {views : List View} {parent : Kind} {ancestor : Ancestor}
          (above : ancestor ∈ lineageAmong views parent before.shapes) :
          ancestor.shape.kind ≠ declared.kind := by
        have absent := List.find?_eq_none.1 new _ (mem_of_mem_lineageAmong above)
        simpa using absent
      rw [lineageAmong]
      split
      · rw [List.map_cons]
        split
        · exact List.pairwise_singleton _ _
        · refine List.nodup_cons.2 ⟨fun again => ?_, ih _ _⟩
          obtain ⟨ancestor, above, same⟩ := List.mem_map.1 again
          exact apart above same
      · exact ih views kind

/-! ## 3. Offers -/

/-- In a registry that was built by declarations, every offer views its provider as what belongs to
the shape that declares the rule. -/
theorem Built.view_of_mem_offers {accepted : List ShapeDecl} {registry : Registry}
    (built : Built accepted registry) {value : Value} {offer : Offer}
    (member : offer ∈ registry.offers value) :
    ∃ ancestor ∈ registry.lineage value.kind, ancestor.shape.bearing = true ∧
      offer.rule ∈ ancestor.shape.rules ∧ offer = ⟨offer.rule, value, ancestor.views⟩ ∧
      ∃ datum, offer.view = .ok datum ∧ datum.kind = ancestor.shape.kind := by
  obtain ⟨ancestor, above, offered⟩ := List.mem_flatMap.1 member
  split at offered
  · next bearing =>
      obtain ⟨rule, inShape, rfl⟩ := List.mem_map.1 offered
      have start : LeadTo value [] value.kind := fun _ => ⟨value.datum, rfl, rfl⟩
      have leads : LeadTo value ancestor.views ancestor.shape.kind :=
        leadTo_of_mem_lineageAmong (fun _ => built.declared) start above
      exact ⟨ancestor, above, bearing, inShape, rfl, leads rule⟩
  · cases offered

/-- From every registered shape the way up ends, and what is offered on it carries the views that
lead to the shape of the rule, and can be viewed. -/
structure Rooted (registry : Registry) : Prop where
  base : ∀ shape ∈ registry.shapes, ∀ parent view, shape.base = some (parent, view) →
    ∃ above, registry.shape? parent = some above
  climbs : ∀ kind shape, registry.shape? kind = some shape →
    registry.Climbs [] kind (registry.lineage kind)
  unique : ∀ kind ancestors, registry.Climbs [] kind ancestors → ancestors = registry.lineage kind
  nodup : ∀ kind, ((registry.lineage kind).map (·.shape.kind)).Nodup
  ends : ∀ kind shape, registry.shape? kind = some shape →
    ∃ below root, registry.lineage kind = below ++ [root] ∧ root.shape.base = none
  views : ∀ value, ∀ offer ∈ registry.offers value,
    ∃ ancestor ∈ registry.lineage value.kind, ancestor.shape.bearing = true ∧
      offer.rule ∈ ancestor.shape.rules ∧ offer = ⟨offer.rule, value, ancestor.views⟩ ∧
      ∃ datum, offer.view = .ok datum ∧ datum.kind = ancestor.shape.kind ∧
        ∀ types args, Solver.inputs offer types args =
          .ok ⟨offer.rule.toSignature, datum, types, args⟩

theorem Built.rooted {accepted : List ShapeDecl} {registry : Registry}
    (built : Built accepted registry) : registry.Rooted where
  base _ member _ _ := built.base member
  climbs _ _ found := built.climbs found []
  unique kind ancestors climbs := by
    have found : ∃ shape, registry.shape? kind = some shape := by
      cases climbs with
      | root found | up found => exact ⟨_, found⟩
    obtain ⟨shape, found⟩ := found
    exact climbs.unique (built.climbs found [])
  nodup := built.nodup []
  ends _ _ found := (built.climbs found []).ends
  views value offer member := by
    obtain ⟨ancestor, above, bearing, inShape, own, datum, seen, same⟩ :=
      built.view_of_mem_offers member
    refine ⟨ancestor, above, bearing, inShape, own, datum, seen, same, fun types args => ?_⟩
    rw [Solver.inputs, seen]
    rfl

end Registry

/-- However shapes are declared one after the other, a declaration is accepted if its kind is new
and its base is registered, and its shape is registered then; one that is refused changes nothing.
The base of each registered shape is registered, and the way up from each of them ends without
coming to a shape twice. What a value offers can be viewed: each rule carries the views to the shape
that declares it and is given what belongs to this shape, so it is never refused its provider. -/
theorem registered_lineages_end (declarations : List ShapeDecl) :
    (∀ before declared after, declarations = before ++ declared :: after →
      ((∃ extended, (Registry.empty.registerAll before).register declared = .ok extended) ↔
        (Registry.empty.registerAll before).shape? declared.kind = none ∧
          ∀ base, declared.base = some base →
            ∃ shape, (Registry.empty.registerAll before).shape? base.kind = some shape) ∧
      (∀ extended, (Registry.empty.registerAll before).register declared = .ok extended →
        (Registry.empty.registerAll declarations).shape? declared.kind = some declared.toShape) ∧
      ∀ refused, (Registry.empty.registerAll before).register declared = .error refused →
        Registry.empty.registerAll declarations = Registry.empty.registerAll (before ++ after)) ∧
    (Registry.empty.registerAll declarations).Rooted := by
  constructor
  · rintro before declared after rfl
    refine ⟨?_, fun extended accepted => ?_, fun refused => Registry.registerAll_of_refused⟩
    · simp only [Registry.register_ok_iff, exists_eq_left]
    · rw [Registry.registerAll_append, Registry.registerAll, accepted]
      exact Registry.shape?_of_registerAll (Registry.shape?_declared accepted) after
  · obtain ⟨accepted, -, built⟩ := Registry.Built.empty.registerAll declarations
    exact built.rooted

end Synthesis
