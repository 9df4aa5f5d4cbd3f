import Mathlib.Data.List.Forall2
import Synthesis.Registry

/-!
# Shapes with one more rule

A rule that is put into the declaration of a shape is offered wherever the shape is, and the order
of all other rules stays as it is.

Results:
1. `orderRules_adds`: a rule more, at any place of a list, is a rule more in the ordered list.
2. `Registry.Adds.registerAll`: shapes that are declared with one rule more for one of them give a
   registry that differs in this rule only.
3. `Registry.Adds.offers`: a value offers the same in both registries, but for offers of this rule.
   They have a view of their provider, as all offers of a registry that was built from declarations
   (`Registry.view_ok`).
-/
namespace Synthesis

/-! ## 1. Lists with more elements -/

/-- A list with more elements of some kind, which stand anywhere between the others. -/
inductive Adds {α : Type} (more : α → Prop) : List α → List α → Prop where
  | nil : Adds more [] []
  | keep (x : α) {xs ys : List α} : Adds more xs ys → Adds more (x :: xs) (x :: ys)
  | add {x : α} {xs ys : List α} : more x → Adds more xs ys → Adds more xs (x :: ys)

namespace Adds

variable {α β : Type} {more : α → Prop} {xs ys us vs : List α}

theorem refl : (xs : List α) → Adds more xs xs
  | [] => .nil
  | x :: xs => .keep x (refl xs)

theorem eq_of_none (adds : Adds more xs ys) (none : ∀ x, ¬ more x) : ys = xs := by
  induction adds with
  | nil => rfl
  | keep x _ ih => rw [ih]
  | add new => exact (none _ new).elim

theorem append (first : Adds more xs ys) (second : Adds more us vs) :
    Adds more (xs ++ us) (ys ++ vs) := by
  induction first with
  | nil => exact second
  | keep x _ ih => exact .keep x ih
  | add new _ ih => exact .add new ih

theorem map {other : β → Prop} (f : α → β) (related : ∀ x, more x → other (f x))
    (adds : Adds more xs ys) : Adds other (xs.map f) (ys.map f) := by
  induction adds with
  | nil => exact .nil
  | keep x _ ih => exact .keep (f x) ih
  | add new _ ih => exact .add (related _ new) ih

theorem subset (adds : Adds more xs ys) : xs ⊆ ys := by
  induction adds with
  | nil => exact List.Subset.refl _
  | keep x _ ih => exact List.cons_subset_cons x ih
  | add _ _ ih => exact List.subset_cons_of_subset _ ih

theorem of_forall {also : α → Prop} (adds : Adds more xs ys) (all : ∀ y ∈ ys, also y) :
    Adds (fun y => more y ∧ also y) xs ys := by
  induction adds with
  | nil => exact .nil
  | keep x _ ih => exact .keep x (ih fun y member => all y (.tail _ member))
  | add new _ ih =>
      exact .add ⟨new, all _ (.head _)⟩ (ih fun y member => all y (.tail _ member))

end Adds

/-! ## 2. The order of rules -/

theorem Signature.notAfter_iff {one other : Signature} :
    one.notAfter other = true ↔
      one.specificity.1 < other.specificity.1 ∨
        one.specificity.1 = other.specificity.1 ∧ other.specificity.2 ≤ one.specificity.2 := by
  show (one.specificity.1 < other.specificity.1 || one.specificity.1 == other.specificity.1 &&
    other.specificity.2 ≤ one.specificity.2) = true ↔ _
  rw [Bool.or_eq_true, Bool.and_eq_true, decide_eq_true_eq, decide_eq_true_eq, beq_iff_eq]

theorem Signature.notAfter_trans {one two three : Signature} (first : one.notAfter two = true)
    (second : two.notAfter three = true) : one.notAfter three = true := by
  rw [notAfter_iff] at first second ⊢
  omega

theorem Signature.notAfter_total {one two : Signature} (not : ¬ one.notAfter two = true) :
    two.notAfter one = true := by
  rw [notAfter_iff] at not ⊢
  omega

/-- No rule may be tried before one that stands before it, unless both are equally specific. -/
def Ordered (rules : List Rule) : Prop :=
  rules.Pairwise fun one other => one.toSignature.notAfter other.toSignature = true

theorem Ordered.insertRule {rules : List Rule} (ordered : Ordered rules) (rule : Rule) :
    Ordered (insertRule rule rules) := by
  induction rules with
  | nil => exact List.pairwise_singleton _ _
  | cons other rest ih =>
      obtain ⟨first, later⟩ := List.pairwise_cons.1 ordered
      rw [Synthesis.insertRule]
      split
      · next before =>
          refine List.pairwise_cons.2 ⟨fun third member => ?_, ordered⟩
          rcases List.mem_cons.1 member with rfl | behind
          · exact before
          · exact Signature.notAfter_trans before (first third behind)
      · next behind =>
          refine List.pairwise_cons.2 ⟨fun third member => ?_, ih later⟩
          rcases List.mem_cons.1 ((insertRule_perm rule rest).mem_iff.1 member) with rfl | rest
          · exact Signature.notAfter_total behind
          · exact first third rest

theorem ordered_orderRules (rules : List Rule) : Ordered (orderRules rules) := by
  induction rules with
  | nil => exact .nil
  | cons rule rules ih => exact Ordered.insertRule ih rule

theorem insertRule_of_first {rule : Rule} {rules : List Rule}
    (first : ∀ other ∈ rules, rule.toSignature.notAfter other.toSignature = true) :
    insertRule rule rules = rule :: rules := by
  cases rules with
  | nil => rfl
  | cons other rest => rw [insertRule, if_pos (first other (.head _))]

section

variable {extra : Rule} {xs ys : List Rule}

theorem adds_insertRule (extra : Rule) (rules : List Rule) :
    Adds (· = extra) rules (insertRule extra rules) := by
  induction rules with
  | nil => exact .add rfl .nil
  | cons other rest ih =>
      rw [insertRule]
      split
      · exact .add rfl (.refl _)
      · exact .keep other ih

/-- A rule is put between the same others, whether or not there is one rule more. -/
theorem Adds.insertRule (adds : Adds (· = extra) xs ys) (ordered : Ordered ys) (rule : Rule) :
    Adds (· = extra) (insertRule rule xs) (Synthesis.insertRule rule ys) := by
  induction adds with
  | nil => exact .refl _
  | keep other rest ih =>
      rw [Synthesis.insertRule, Synthesis.insertRule]
      split
      · exact .keep rule (.keep other rest)
      · exact .keep other (ih (List.pairwise_cons.1 ordered).2)
  | add new rest ih =>
      obtain ⟨first, later⟩ := List.pairwise_cons.1 ordered
      rw [Synthesis.insertRule]
      split
      · next before =>
          -- what comes after the additional rule comes after this one as well
          rw [insertRule_of_first fun other member =>
            Signature.notAfter_trans before (first other (rest.subset member))]
          exact .keep rule (.add new rest)
      · exact .add new (ih later)

/-- A rule more in a list is a rule more in the ordered list, and the others keep their order. -/
theorem orderRules_adds (front back : List Rule) (extra : Rule) :
    Adds (· = extra) (orderRules (front ++ back)) (orderRules (front ++ extra :: back)) := by
  induction front with
  | nil => exact adds_insertRule extra (orderRules back)
  | cons rule front ih => exact Adds.insertRule ih (ordered_orderRules _) rule

end

/-! ## 3. Registries -/

/-- A shape with one rule more. -/
structure Shape.Adds (extra : Rule) (one two : Shape) : Prop where
  kind : two.kind = one.kind
  bearing : two.bearing = one.bearing
  base : two.base = one.base
  rules : Synthesis.Adds (· = extra) one.rules two.rules

theorem Shape.Adds.refl (extra : Rule) (shape : Shape) : shape.Adds extra shape :=
  ⟨rfl, rfl, rfl, .refl _⟩

namespace Registry

/-- The registry after shapes were declared one after the other. A declaration that is refused
leaves it as it was. -/
def registerAll (registry : Registry) : List ShapeDecl → Registry
  | [] => registry
  | declared :: rest =>
      match registry.register declared with
      | .ok extended => extended.registerAll rest
      | .error _ => registry.registerAll rest

theorem registerAll_append (registry : Registry) (first second : List ShapeDecl) :
    registry.registerAll (first ++ second) = (registry.registerAll first).registerAll second := by
  induction first generalizing registry with
  | nil => rfl
  | cons declared rest ih =>
      rw [List.cons_append, registerAll, registerAll]
      cases registry.register declared with
      | error refused => exact ih registry
      | ok extended => exact ih extended

/-- Two registries have the same shapes but for one rule, and those of the second one were made by
declarations. -/
structure Adds (extra : Rule) (one two : Registry) : Prop where
  shapes : List.Forall₂ (Shape.Adds extra) one.shapes two.shapes
  declared : ∀ shape ∈ two.shapes, ∃ declared : ShapeDecl, shape = declared.toShape

namespace Adds

variable {extra : Rule} {one two : Registry}

theorem empty (extra : Rule) : Adds extra Registry.empty Registry.empty :=
  ⟨.nil, fun _ none => by cases none⟩

theorem shape? (adds : Adds extra one two) (kind : Kind) :
    Option.Rel (Shape.Adds extra) (one.shape? kind) (two.shape? kind) := by
  have among {shapes shapes' : List Shape} (same : List.Forall₂ (Shape.Adds extra) shapes shapes') :
      Option.Rel (Shape.Adds extra) (shapes.find? fun shape => shape.kind = kind)
        (shapes'.find? fun shape => shape.kind = kind) := by
    induction same with
    | nil => exact .none
    | @cons shape shape' _ _ same _ ih =>
        rw [List.find?_cons, List.find?_cons, same.kind]
        split
        · exact .some same
        · exact ih
  exact among adds.shapes

theorem isSome_shape? (adds : Adds extra one two) (kind : Kind) :
    (two.shape? kind).isSome = (one.shape? kind).isSome := by
  have same := adds.shape? kind
  generalize one.shape? kind = shape at same ⊢
  generalize two.shape? kind = shape' at same ⊢
  cases same <;> rfl

theorem bearsRules (adds : Adds extra one two) (value : Value) :
    two.bearsRules value = one.bearsRules value := by
  have same := adds.shape? value.kind
  rw [Registry.bearsRules, Registry.bearsRules]
  generalize one.shape? value.kind = shape at same ⊢
  generalize two.shape? value.kind = shape' at same ⊢
  cases same with
  | none => rfl
  | some same => exact same.bearing

/-- A declaration with one rule more for its shape is accepted if it is so without the rule. -/
theorem register (adds : Adds extra one two) {declared : ShapeDecl} {rules : List RuleDecl}
    (more : declared.toShape.Adds extra { declared with rules }.toShape) :
    (∃ refused, one.register declared = .error refused ∧
        two.register { declared with rules } = .error refused) ∨
      ∃ extended extended', one.register declared = .ok extended ∧
        two.register { declared with rules } = .ok extended' ∧ Adds extra extended extended' := by
  have extended : Adds extra ⟨declared.toShape :: one.shapes⟩
      ⟨{ declared with rules }.toShape :: two.shapes⟩ := by
    refine ⟨.cons more adds.shapes, fun shape member => ?_⟩
    rcases List.mem_cons.1 member with rfl | before
    · exact ⟨_, rfl⟩
    · exact adds.declared shape before
  unfold Registry.register
  simp only [adds.isSome_shape?]
  split
  · exact .inl ⟨_, rfl, rfl⟩
  · split
    · exact .inr ⟨_, _, rfl, rfl, extended⟩
    · split
      · exact .inr ⟨_, _, rfl, rfl, extended⟩
      · exact .inl ⟨_, rfl, rfl⟩

/-- The same declarations keep two registries the same but for the rule. -/
theorem registerAll (adds : Adds extra one two) (shapes : List ShapeDecl) :
    Adds extra (one.registerAll shapes) (two.registerAll shapes) := by
  induction shapes generalizing one two with
  | nil => exact adds
  | cons declared rest ih =>
      rw [Registry.registerAll, Registry.registerAll]
      rcases adds.register (.refl extra declared.toShape) with
        ⟨refused, first, second⟩ | ⟨extended, extended', first, second, more⟩
      · rw [first, second]
        exact ih adds
      · rw [first, second]
        exact ih more

end Adds

/-- Declarations with one rule more, at any place among the rules of a shape, give a registry with
this rule more in the shape and no other difference. -/
theorem adds_of_rule (before after : List ShapeDecl) (declared : ShapeDecl)
    (front back : List RuleDecl) (rule : RuleDecl) :
    Adds (rule.onShape declared.name)
      (Registry.empty.registerAll
        (before ++ { declared with rules := front ++ back } :: after))
      (Registry.empty.registerAll
        (before ++ { declared with rules := front ++ rule :: back } :: after)) := by
  have first := (Adds.empty (rule.onShape declared.name)).registerAll before
  have more : { declared with rules := front ++ back }.toShape.Adds (rule.onShape declared.name)
      { declared with rules := front ++ rule :: back }.toShape := by
    refine ⟨rfl, rfl, rfl, ?_⟩
    show Synthesis.Adds _ (orderRules ((front ++ back).map (·.onShape declared.name)))
      (orderRules ((front ++ rule :: back).map (·.onShape declared.name)))
    rw [List.map_append, List.map_append, List.map_cons]
    exact orderRules_adds _ _ _
  rw [registerAll_append, registerAll_append, registerAll, registerAll]
  rcases first.register more with
    ⟨refused, one, two⟩ | ⟨extended, extended', one, two, added⟩
  · rw [one, two]
    exact first.registerAll after
  · rw [one, two]
    exact added.registerAll after

end Registry

/-! ## 4. Offers -/

namespace Offer

/-- The offer of a rule whose provider can be viewed as the rule's shape. -/
def Views (rule : Rule) (offer : Offer) : Prop :=
  offer.rule = rule ∧ ∃ datum, offer.view = .ok datum

/-- A view that comes last is taken of what the others lead to. -/
theorem view_snoc {rule : Rule} {provider : Value} {views : List View} {view : View}
    {datum last : Datum} (seen : Offer.view ⟨rule, provider, views⟩ = .ok datum)
    (next : view datum = some last) :
    Offer.view ⟨rule, provider, views ++ [view]⟩ = .ok last := by
  rw [Offer.view] at seen ⊢
  rw [List.foldlM_append, seen]
  simp only [List.foldlM_cons, List.foldlM_nil, bind, Except.bind, next]
  rfl

end Offer

namespace Registry

/-- Views lead from a value to what belongs to a shape of a kind. -/
def LeadTo (provider : Value) (views : List View) (kind : Kind) : Prop :=
  ∀ rule, ∃ datum, Offer.view ⟨rule, provider, views⟩ = .ok datum ∧ datum.kind = kind

/-- The views to the shapes above a kind lead there, if they lead to the kind. -/
theorem leadTo_of_mem_lineageAmong {provider : Value} {views : List View} {kind : Kind}
    {shapes : List Shape} (declared : ∀ shape ∈ shapes, ∃ declared : ShapeDecl,
      shape = declared.toShape)
    (leads : LeadTo provider views kind) {ancestor : Ancestor}
    (above : ancestor ∈ lineageAmong views kind shapes) :
    LeadTo provider ancestor.views ancestor.shape.kind := by
  induction shapes generalizing views kind with
  | nil => cases above
  | cons shape earlier ih =>
      have rest := fun shape member => declared shape (.tail _ member)
      rw [lineageAmong] at above
      split at above
      · next here =>
          rcases List.mem_cons.1 above with rfl | above
          · exact here ▸ leads
          obtain ⟨own, rfl⟩ := declared shape (.head _)
          rcases based : own.base with _ | base
          · simp [ShapeDecl.toShape, based] at above
          · simp only [ShapeDecl.toShape, based, Option.map_some] at above
            refine ih rest (fun rule => ?_) above
            obtain ⟨datum, seen, same⟩ := leads rule
            have viewed : datum.kind = own.kind := same.trans here.symm
            exact ⟨base.project datum, Offer.view_snoc seen (if_pos viewed),
              base.kind_project datum⟩
      · exact ih rest leads above

/-- In a registry of declared shapes, every offer has a view of its provider. -/
theorem view_ok {registry : Registry}
    (declared : ∀ shape ∈ registry.shapes, ∃ declared : ShapeDecl, shape = declared.toShape)
    {value : Value} {offer : Offer} (member : offer ∈ registry.offers value) :
    ∃ datum, offer.view = .ok datum := by
  obtain ⟨ancestor, above, offered⟩ := List.mem_flatMap.1 member
  split at offered
  · obtain ⟨rule, inShape, rfl⟩ := List.mem_map.1 offered
    have start : LeadTo value [] value.kind := fun _ => ⟨value.datum, rfl, rfl⟩
    obtain ⟨datum, seen, -⟩ := leadTo_of_mem_lineageAmong declared start above rule
    exact ⟨datum, seen⟩
  · cases offered

variable {extra : Rule} {one two : Registry}

theorem Adds.lineageAmong {shapes shapes' : List Shape}
    (same : List.Forall₂ (Shape.Adds extra) shapes shapes') (views : List View) (kind : Kind) :
    List.Forall₂ (fun ancestor ancestor' => ancestor.shape.Adds extra ancestor'.shape ∧
      ancestor'.views = ancestor.views) (Registry.lineageAmong views kind shapes)
        (Registry.lineageAmong views kind shapes') := by
  induction same generalizing views kind with
  | nil => exact .nil
  | cons same _ ih =>
      rw [Registry.lineageAmong, Registry.lineageAmong, same.kind, same.base]
      split
      · refine .cons ⟨same, rfl⟩ ?_
        split
        · exact .nil
        · exact ih _ _
      · exact ih _ _

theorem Adds.offers (adds : Adds extra one two) (value : Value) :
    Synthesis.Adds (Offer.Views extra) (one.offers value) (two.offers value) := by
  refine Synthesis.Adds.of_forall ?_ fun offer member => view_ok adds.declared member
  rw [Registry.offers, Registry.offers]
  have above := Adds.lineageAmong adds.shapes [] value.kind
  rw [← lineage, ← lineage] at above
  generalize one.lineage value.kind = ancestors at above ⊢
  generalize two.lineage value.kind = ancestors' at above ⊢
  induction above with
  | nil => exact .nil
  | cons same _ ih =>
      obtain ⟨shape, views⟩ := same
      rw [List.flatMap_cons, List.flatMap_cons, shape.bearing, views]
      refine .append ?_ ih
      split
      · exact shape.rules.map _ fun rule same => same
      · exact .nil

end Registry

/-- Providers with the same members that offer the same, but for some offers more. -/
structure Providers.Adds (idle : Offer → Prop) (one two : Providers) : Prop where
  members : two.members = one.members
  offers : Synthesis.Adds idle one.offers two.offers

namespace Providers.Adds

variable {idle : Offer → Prop} {registry registry' : Registry} {one two : Providers} {value : Value}

theorem refl (providers : Providers) : providers.Adds idle providers := ⟨rfl, .refl _⟩

theorem eq_of_none (adds : one.Adds idle two) (none : ∀ offer, ¬ idle offer) : two = one := by
  obtain ⟨members, offers⟩ := adds
  obtain ⟨_, _⟩ := two
  obtain rfl := members
  obtain rfl := offers.eq_of_none none
  rfl

theorem accepts_eq (adds : one.Adds idle two)
    (bears : registry'.bearsRules value = registry.bearsRules value) :
    two.accepts registry' value = one.accepts registry value := by
  rw [accepts, accepts, contains, contains, adds.members, bears]

theorem enroll (adds : one.Adds idle two)
    (bears : registry'.bearsRules value = registry.bearsRules value)
    (more : Synthesis.Adds idle (registry.offers value) (registry'.offers value)) :
    (one.enroll registry value).Adds idle (two.enroll registry' value) := by
  rw [Providers.enroll, Providers.enroll, adds.accepts_eq bears]
  split
  · exact ⟨by rw [adds.members], adds.offers.append more⟩
  · exact adds

end Providers.Adds

end Synthesis
