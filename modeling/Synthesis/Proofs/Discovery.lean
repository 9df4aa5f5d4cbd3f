import Mathlib.Data.Finset.Card
import Mathlib.Data.Prod.Lex
import Synthesis.Proofs.Lineages

/-!
# The order in which rules are discovered

The rules of a shape are ordered when the shape is registered, and the shapes from a kind upwards
when a value is taken in. Together this puts the rules that a value offers in lexicographic order:
how far up their shape is counts first, then how many variables their return patterns have, then how
much structure, and last the order of their declaration.

Results:
1. `Term.length_vars`: a variable that occurs more than once is counted once.
2. `orderRules_numbered`: the rules of a shape in order are those that were declared, each once, and
   equally specific rules stay in the order of their declaration.
3. `offers_in_order`: this for all rules that a value offers.
-/
namespace Synthesis

/-! ## 1. Variables -/

namespace Term

theorem mem_occurrencesAmong {name : String} {terms : List Term} :
    name ∈ occurrencesAmong terms ↔ ∃ term ∈ terms, name ∈ term.occurrences := by
  induction terms with
  | nil => simp [occurrencesAmong]
  | cons term terms ih => simp [occurrencesAmong, ih]

theorem mem_occurrences {name : String} {term : Term} :
    name ∈ term.occurrences ↔ term.mentions name = true := by
  induction term with
  | var other =>
      rw [occurrences, List.mem_singleton, mentions_var, beq_iff_eq]
      exact eq_comm
  | app head args ih =>
      rw [occurrences, mem_occurrencesAmong, mentions_app, List.any_eq_true]
      exact exists_congr fun arg => and_congr_right fun member => ih arg member

theorem nodup_vars (term : Term) : term.vars.Nodup := nodup_addVars .nil term

def countVars (term : Term) : Nat := term.occurrences.toFinset.card

theorem length_vars (term : Term) : term.vars.length = term.countVars := by
  have same : term.occurrences.toFinset = term.vars.toFinset := by
    ext name
    rw [List.mem_toFinset, List.mem_toFinset, mem_occurrences, mem_vars]
  rw [countVars, same, List.toFinset_card_of_nodup term.nodup_vars]

end Term

/-! ## 2. The rules of a shape -/

/-- What decides when a rule of a shape is tried: the number of different variables in its return
pattern, the number of constructors, of which more come first, and its place in the declaration. -/
def RuleDecl.rank (rule : RuleDecl) (position : Nat) : ℕ ×ₗ ℕᵒᵈ ×ₗ ℕ :=
  toLex (rule.returns.countVars, toLex (OrderDual.toDual rule.returns.size, position))

theorem RuleDecl.rank_lt_iff {one other : RuleDecl} {first second : Nat} :
    one.rank first < other.rank second ↔
      one.returns.vars.length < other.returns.vars.length ∨
        one.returns.vars.length = other.returns.vars.length ∧
          (other.returns.size < one.returns.size ∨
            one.returns.size = other.returns.size ∧ first < second) := by
  rw [rank, rank, Prod.Lex.toLex_lt_toLex, Prod.Lex.toLex_lt_toLex, Term.length_vars,
    Term.length_vars]
  rfl

/-- A rule is inserted between those that it may not be tried before and the others. -/
theorem insertRule_splits {rules : List Rule} (ordered : Ordered rules) (rule : Rule) :
    ∃ front back, rules = front ++ back ∧ insertRule rule rules = front ++ rule :: back ∧
      (∀ other ∈ front, ¬ rule.toSignature.notAfter other.toSignature = true) ∧
      ∀ other ∈ back, rule.toSignature.notAfter other.toSignature = true := by
  induction rules with
  | nil => exact ⟨[], [], rfl, rfl, nofun, nofun⟩
  | cons first rest ih =>
      obtain ⟨least, later⟩ := List.pairwise_cons.1 ordered
      rw [insertRule]
      split
      · next before =>
          refine ⟨[], first :: rest, rfl, rfl, nofun, List.forall_mem_cons.2 ⟨before, ?_⟩⟩
          exact fun other member => Signature.notAfter_trans before (least other member)
      · next behind =>
          obtain ⟨front, back, rfl, inserted, before, after⟩ := ih later
          refine ⟨first :: front, back, rfl, by rw [inserted]; rfl, ?_, after⟩
          exact List.forall_mem_cons.2 ⟨behind, before⟩

/-- The rules of a shape in order are those that were declared, with their places: each is there
once, and each is smaller than those after it. -/
theorem orderRules_numbered (shape : String) (rules : List RuleDecl) (start : Nat) :
    ∃ order : List (RuleDecl × Nat), order.Perm (rules.zipIdx start) ∧
      orderRules (rules.map (·.onShape shape)) = order.map (·.1.onShape shape) ∧
      order.Pairwise fun one other => one.1.rank one.2 < other.1.rank other.2 := by
  induction rules generalizing start with
  | nil => exact ⟨[], .nil, rfl, .nil⟩
  | cons rule rules ih =>
      obtain ⟨order, perm, same, sorted⟩ := ih (start + 1)
      obtain ⟨front, back, whole, inserted, before, after⟩ := insertRule_splits
        (ordered_orderRules (rules.map (·.onShape shape))) (rule.onShape shape)
      rw [same] at whole
      obtain ⟨front, back, rfl, rfl, rfl⟩ := List.map_eq_append_iff.1 whole
      obtain ⟨inFront, inBack, between⟩ := List.pairwise_append.1 sorted
      refine ⟨front ++ (rule, start) :: back, ?_, ?_, List.pairwise_append.2 ⟨inFront, ?_, ?_⟩⟩
      · exact List.perm_middle.trans (perm.cons _)
      · rw [List.map_append]
        exact inserted
      · refine List.pairwise_cons.2 ⟨fun other member => ?_, inBack⟩
        have may := Signature.notAfter_iff.1 (after _ (List.mem_map_of_mem member))
        have later : start < other.2 := by
          have listed := perm.mem_iff.1 (List.mem_append_right _ member)
          exact Nat.lt_of_succ_le (List.le_snd_of_mem_zipIdx listed)
        rw [RuleDecl.rank_lt_iff]
        rcases may with fewer | ⟨equal, more⟩
        · exact .inl fewer
        · exact .inr ⟨equal, (Nat.lt_or_eq_of_le more).imp_right fun even => ⟨even.symm, later⟩⟩
      · intro one member other behind
        rcases List.mem_cons.1 behind with rfl | behind
        · have not := mt Signature.notAfter_iff.2 (before _ (List.mem_map_of_mem member))
          simp only [Signature.specificity, RuleDecl.onShape] at not
          rw [RuleDecl.rank_lt_iff]
          dsimp only
          omega
        · exact between one member other behind

/-! ## 3. The rules of all shapes -/

/-- A declared shape on the way up from a kind, and the views that lead to it. -/
structure Link where
  declared : ShapeDecl
  views : List View

namespace Link

def ancestor (link : Link) : Registry.Ancestor := ⟨link.declared.toShape, link.views⟩

def offers (value : Value) (link : Link) : List Offer :=
  if link.declared.bearing then
    link.declared.toShape.rules.map fun rule => ⟨rule, value, link.views⟩
  else []

end Link

/-- A rule that a value offers: the place of its shape on the way up, the shape, its place in the
declaration of the shape, and the rule. -/
structure Discovered where
  place : Nat
  link : Link
  position : Nat
  rule : RuleDecl

namespace Discovered

/-- The rule is declared in its place by the shape in its place, which bears rules. -/
structure On (chain : List Link) (found : Discovered) : Prop where
  shape : chain[found.place]? = some found.link
  bearing : found.link.declared.bearing = true
  rule : found.link.declared.rules[found.position]? = some found.rule

/-- What decides when a rule is tried: first the place of its shape. -/
def rank (found : Discovered) : ℕ ×ₗ ℕ ×ₗ ℕᵒᵈ ×ₗ ℕ :=
  toLex (found.place, found.rule.rank found.position)

def offer (value : Value) (found : Discovered) : Offer :=
  ⟨found.rule.onShape found.link.declared.name, value, found.link.views⟩

theorem of_link (link : Link) (place : Nat) (value : Value) :
    ∃ entries : List Discovered, link.offers value = entries.map (offer value) ∧
      (∀ found, found ∈ entries ↔ found.place = place ∧ found.link = link ∧
        found.link.declared.bearing = true ∧
        found.link.declared.rules[found.position]? = some found.rule) ∧
      entries.Pairwise fun one other => one.rank < other.rank := by
  unfold Link.offers
  split
  · next bearing =>
      obtain ⟨order, perm, same, sorted⟩ := orderRules_numbered link.declared.name
        link.declared.rules 0
      refine ⟨order.map fun rule => ⟨place, link, rule.2, rule.1⟩, ?_, fun found => ?_, ?_⟩
      · show (orderRules _).map _ = _
        rw [same, List.map_map, List.map_map]
        rfl
      · rw [List.mem_map]
        constructor
        · rintro ⟨rule, listed, rfl⟩
          exact ⟨rfl, rfl, bearing, List.mem_zipIdx_iff_getElem?.1 (perm.mem_iff.1 listed)⟩
        · rintro ⟨rfl, rfl, -, declared⟩
          exact ⟨(found.rule, found.position),
            perm.mem_iff.2 (List.mem_zipIdx_iff_getElem?.2 declared), rfl⟩
      · refine List.pairwise_map.2 (sorted.imp fun less => ?_)
        exact Prod.Lex.toLex_lt_toLex.2 (.inr ⟨rfl, less⟩)
  · next bearing =>
      refine ⟨[], rfl, fun found => ⟨nofun, ?_⟩, .nil⟩
      rintro ⟨-, rfl, borne, -⟩
      exact absurd borne bearing

theorem of_chain (chain : List Link) (start : Nat) (value : Value) :
    ∃ entries : List Discovered, chain.flatMap (·.offers value) = entries.map (offer value) ∧
      (∀ found, found ∈ entries ↔ (found.link, found.place) ∈ chain.zipIdx start ∧
        found.link.declared.bearing = true ∧
        found.link.declared.rules[found.position]? = some found.rule) ∧
      entries.Pairwise fun one other => one.rank < other.rank := by
  induction chain generalizing start with
  | nil => exact ⟨[], rfl, by simp, .nil⟩
  | cons link chain ih =>
      obtain ⟨own, sameOwn, inOwn, sortedOwn⟩ := of_link link start value
      obtain ⟨above, sameAbove, inAbove, sortedAbove⟩ := ih (start + 1)
      refine ⟨own ++ above, ?_, fun found => ?_, List.pairwise_append.2
        ⟨sortedOwn, sortedAbove, fun one first other second => ?_⟩⟩
      · rw [List.flatMap_cons, List.map_append, sameOwn, sameAbove]
      · rw [List.mem_append, inOwn, inAbove, List.zipIdx_cons, List.mem_cons, Prod.mk.injEq]
        tauto
      · have higher := List.le_snd_of_mem_zipIdx ((inAbove other).1 second).1
        refine Prod.Lex.toLex_lt_toLex.2 (.inl ?_)
        rw [((inOwn one).1 first).1]
        exact higher

theorem place_le_of_rank_lt {one other : Discovered} (less : one.rank < other.rank) :
    one.place ≤ other.place :=
  (Prod.Lex.toLex_lt_toLex.1 less).elim Nat.le_of_lt fun same => Nat.le_of_eq same.1

end Discovered

/-- The shapes on the way up were made by declarations that were accepted. -/
theorem Registry.Built.exists_chain {accepted : List ShapeDecl} {registry : Registry}
    (built : Built accepted registry) (kind : Kind) :
    ∃ chain : List Link, registry.lineage kind = chain.map (·.ancestor) ∧
      ∀ link ∈ chain, link.declared ∈ accepted := by
  have declared : ∀ ancestor ∈ registry.lineage kind,
      ∃ declared ∈ accepted, ancestor.shape = declared.toShape := by
    intro ancestor above
    have member := mem_of_mem_lineageAmong above
    rw [built.shapes] at member
    obtain ⟨declared, listed, same⟩ := List.mem_map.1 member
    exact ⟨declared, listed, same.symm⟩
  generalize registry.lineage kind = ancestors at declared ⊢
  induction ancestors with
  | nil => exact ⟨[], rfl, nofun⟩
  | cons ancestor above ih =>
      obtain ⟨own, listed, same⟩ := declared ancestor (.head _)
      obtain ⟨chain, rfl, all⟩ := ih fun other member => declared other (.tail _ member)
      refine ⟨⟨own, ancestor.views⟩ :: chain, ?_, List.forall_mem_cons.2 ⟨listed, all⟩⟩
      rw [List.map_cons, Link.ancestor, ← same]

/-- The way up from a kind whose declaration was accepted begins with this declaration. -/
theorem Registry.Built.chain_starts {accepted : List ShapeDecl} {registry : Registry}
    (built : Built accepted registry) {chain : List Link} {declared : ShapeDecl}
    (lineage : registry.lineage declared.kind = chain.map (·.ancestor))
    (all : ∀ link ∈ chain, link.declared ∈ accepted) (member : declared ∈ accepted) :
    ∃ above, chain = ⟨declared, []⟩ :: above := by
  have found := built.shape?_eq member
  obtain ⟨above, first⟩ := (built.climbs found []).starts found
  obtain ⟨⟨own, views⟩, rest, rfl, same, -⟩ := List.map_eq_cons_iff.1 (lineage.symm.trans first)
  obtain ⟨shapes, rfl⟩ := Ancestor.mk.inj same
  have kinds : own.kind = declared.kind := congrArg Shape.kind shapes
  obtain rfl := built.eq_of_kind (all _ (.head _)) member kinds
  exact ⟨rest, rfl⟩

/-- However shapes are declared one after the other, a value offers each rule of each rule-bearing
shape on the way up from its kind once and nothing else. If a declaration for the kind was accepted,
the way up begins with it. The rules come in lexicographic order: by the
place of the shape, by the number of different variables in the return pattern, by the number of its
constructors, of which more come first, and by the place in the declaration. So no rule comes before
one of a shape that is further down. -/
theorem offers_in_order (declarations : List ShapeDecl) :
    ∃ accepted : List ShapeDecl, accepted.Sublist declarations ∧
      Registry.Built accepted.reverse (Registry.empty.registerAll declarations) ∧
      ∀ value : Value, ∃ (chain : List Link) (entries : List Discovered),
        (Registry.empty.registerAll declarations).lineage value.kind = chain.map (·.ancestor) ∧
        (∀ link ∈ chain, link.declared ∈ accepted) ∧
        (∀ declared ∈ accepted, declared.kind = value.kind →
          ∃ above, chain = ⟨declared, []⟩ :: above) ∧
        (∀ shape, (Registry.empty.registerAll declarations).shape? value.kind = some shape →
          (Registry.empty.registerAll declarations).Climbs [] value.kind
            (chain.map (·.ancestor))) ∧
        (Registry.empty.registerAll declarations).offers value = entries.map (·.offer value) ∧
        (∀ found, found ∈ entries ↔ found.On chain) ∧
        (entries.Pairwise fun one other => one.rank < other.rank) ∧
        entries.Pairwise fun one other => one.place ≤ other.place := by
  obtain ⟨accepted, sublist, built⟩ := Registry.Built.empty.registerAll declarations
  rw [List.append_nil] at built
  refine ⟨accepted, sublist, built, fun value => ?_⟩
  obtain ⟨chain, lineage, all⟩ := built.exists_chain value.kind
  obtain ⟨entries, same, members, sorted⟩ := Discovered.of_chain chain 0 value
  have starts : ∀ declared ∈ accepted, declared.kind = value.kind →
      ∃ above, chain = ⟨declared, []⟩ :: above := fun declared member own =>
    built.chain_starts (own ▸ lineage) all (List.mem_reverse.2 member)
  refine ⟨chain, entries, lineage, fun link member => List.mem_reverse.1 (all link member), starts,
    fun shape found => lineage ▸ built.climbs found [], ?_, fun found => ?_, sorted,
    sorted.imp Discovered.place_le_of_rank_lt⟩
  · rw [← same, Registry.offers, lineage, List.flatMap_map]
    rfl
  · rw [members, List.mem_zipIdx_iff_getElem?]
    constructor
    · rintro ⟨shape, bearing, rule⟩
      exact ⟨shape, bearing, rule⟩
    · exact fun on => ⟨on.shape, on.bearing, on.rule⟩

end Synthesis
