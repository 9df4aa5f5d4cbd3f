import Mathlib.Order.Monotone.Basic
import Synthesis.Proofs.Cells
import Synthesis.Proofs.Restamping

/-!
# Rules that always decline

A search with a rule more that needs no parameters and always declines goes side by side with the
search without it. It falls behind whenever it tries this rule, which costs it a stamp and perhaps a
call, and then it goes on as if nothing had happened.

Results:
1. `Rule.Inert.tryOffer`: to try the additional rule comes to nothing.
2. `Abreast.idled`, `Abreast.coupling`: two searches stay side by side, also if the second one tries
   the additional rule.
3. `declining_rule_inert`: a rule more that always declines changes no outcome of a whole search.
-/
namespace Synthesis

open Search

/-! ## 1. To try a rule that declines -/

/-- A rule without parameters whose body always declines and does nothing else. -/
structure Rule.Inert (rule : Rule) : Prop where
  bare : rule.params = []
  declines : ∀ given heap, (rule.recipe.run given heap).val = (.ok .declined, heap)

/-- Nothing has happened between two arenas but that some stamps were used and perhaps a rule was
called. -/
structure Arena.Idled (extra : Rule) (stamps : Nat) (arena reached : Arena) : Prop where
  heap : reached.heap = arena.heap
  stamp : reached.stamp = arena.stamp + stamps
  calls : reached.calls = arena.calls ∨
    ∃ call : Call, call.rule = extra ∧ reached.calls = call :: arena.calls

/-- A part of a search finds nothing, from whatever arena, and nothing else comes of it. -/
def Idles (extra : Rule) (stamps : Nat) {α : Type} (part : Search (Option α)) : Prop :=
  ∀ arena, ∃ reached, part.runFrom arena = (.ok none, reached) ∧
    arena.Idled extra stamps reached

section

variable {extra : Rule} {stamps : Nat} {arena reached : Arena}

theorem Arena.Idled.noted (idled : arena.Idled extra stamps reached) (solver : Solver)
    (event : Event) : arena.Idled extra stamps (solver.noted event reached) where
  heap := by rw [Solver.heap_noted, idled.heap]
  stamp := by rw [Solver.stamp_noted, idled.stamp]
  calls := by rw [Solver.calls_noted]; exact idled.calls

theorem Arena.Idled.of_tried (rule : Signature) (goal : Term) (subst : Substitution) :
    arena.Idled extra 1 (arena.tried rule goal subst) :=
  ⟨rfl, rfl, .inl rfl⟩

namespace Rule.Inert

variable {offer : Offer}

/-- The body declines whatever it is given. -/
theorem invoke (inert : extra.Inert) (views : offer.Views extra) (solver : Solver)
    (renamed : Renamed) (goal : Term) (cell : Option Nat) (branch : Branch) (depth : Nat) :
    Idles extra 0 (solver.invoke offer renamed goal cell [] branch depth) := by
  intro arena
  obtain ⟨rfl, datum, view⟩ := views
  have still : arena.Idled offer.rule 0 arena := ⟨rfl, rfl, .inl rfl⟩
  rw [Solver.invoke]
  cases Solver.slotTypes branch.subst renamed.slots with
  | error slot =>
      simp only [runFrom_bind, Solver.runFrom_report, runFrom_pure]
      exact ⟨_, rfl, still.noted solver _⟩
  | ok types =>
      have given : Solver.inputs offer types [] =
          .ok ⟨offer.rule.toSignature, datum, types, []⟩ := by
        rw [Solver.inputs, view]
        rfl
      simp only [given, runFrom_bind, runFrom_ofExcept, Runs.runFrom_runRecipe, inert.declines,
        Solver.runFrom_report, runFrom_pure]
      have called (call : Call) (own : call.rule = offer.rule) :
          arena.Idled offer.rule 0 ((arena.note (.called call)).onHeap arena.heap) :=
        ⟨rfl, rfl, .inr ⟨call, own, rfl⟩⟩
      exact ⟨_, rfl, (called _ rfl).noted solver _⟩

/-- To try a rule that always declines comes to nothing, whether or not it matches the goal. -/
theorem tryOffer (inert : extra.Inert) (views : offer.Views extra) (solver : Solver)
    (inner : Finder) (goal : Term) (branch : Branch) (depth : Nat) :
    Idles extra 1 (solver.tryOffer inner offer goal branch depth) := by
  intro arena
  cases matched : branch.subst.matching (offer.rule.rename (arena.stamp + 1)).returns goal with
  | error clash =>
      refine ⟨_, ?_, (Arena.Idled.of_tried offer.rule.toSignature goal branch.subst).noted solver
        (.skippedMismatch depth offer.rule.toSignature clash)⟩
      simp only [Solver.tryOffer, runFrom_bind, runFrom_freshStamp, runFrom_log, matched,
        Solver.runFrom_report, runFrom_pure]
      rfl
  | ok subst =>
      cases ground : (subst.apply goal).isGround with
      | false =>
          refine ⟨_, ?_, (Arena.Idled.of_tried offer.rule.toSignature goal branch.subst).noted
            solver (.skippedOpen depth offer.rule.toSignature (subst.apply goal))⟩
          simp only [Solver.tryOffer, runFrom_bind, runFrom_freshStamp, runFrom_log, matched,
            ground, Solver.runFrom_report, runFrom_pure, Bool.false_eq_true, if_false]
          rfl
      | true =>
          have bare : (offer.rule.rename (arena.stamp + 1)).params = [] := by
            rw [Signature.rename, views.1, inert.bare, List.map_nil]
          rw [Runs.runFrom_tryOffer_of_ground solver inner depth matched ground]
          simp only [Solver.build, bare, List.isEmpty_nil, Bool.true_or, if_true, Solver.complete,
            Solver.findParams, pure_bind]
          obtain ⟨reached, ran, idled⟩ := inert.invoke views solver
            (offer.rule.rename (arena.stamp + 1)) (subst.apply goal) none { branch with subst }
            depth (solver.noted (.trying depth offer.rule.toSignature (subst.apply goal))
              ((arena.tried offer.rule.toSignature goal branch.subst).note
                (.matched goal (subst.apply goal))))
          have calls := idled.calls
          rw [Solver.calls_noted] at calls
          exact ⟨reached, ran, by simp [idled.heap], by simp [idled.stamp], calls⟩

end Rule.Inert

end

/-! ## 2. Searches whose stamps drift apart -/

/-- Counterparts of stamps if those of all stamps after the last one are moved on. -/
def delay (later : Nat → Nat) (last stamp : Nat) : Nat :=
  if stamp ≤ last then later stamp else later stamp + 1

theorem strictMono_delay {later : Nat → Nat} (increasing : StrictMono later) (last : Nat) :
    StrictMono (delay later last) := by
  intro stamp other less
  have before := increasing less
  unfold delay
  split <;> split <;> omega

def Naming.delayed (naming : Naming) (increasing : StrictMono naming.later) (last : Nat) :
    Naming where
  later := delay naming.later last
  injective := (strictMono_delay increasing last).injective
  Known := naming.Known

/-- The stamps to come go on side by side, and the second search has only made calls of one rule
more. -/
structure Abreast (extra : Rule) (old other : List Call) (naming : Naming) (one two : Arena) :
    Prop where
  increasing : StrictMono naming.later
  known : ∀ name, naming.Known name → Signature.StampedIn 0 one.stamp name
  ahead : ∀ distance, naming.later (one.stamp + 1 + distance) = two.stamp + 1 + distance
  side : Alongside (·.rule = extra) old other one two

/-- Two searches that differ in one rule of their registries. -/
structure Solver.Adds (extra : Rule) (one two : Solver) : Prop where
  registry : one.registry.Adds extra two.registry
  settings : two.settings = one.settings
  depths : two.depths = one.depths

namespace Abreast

variable {extra : Rule} {old other : List Call} {naming : Naming} {one two reached : Arena}

theorem noted (abreast : Abreast extra old other naming one two) (solver solver' : Solver)
    (event event' : Event) :
    Abreast extra old other naming (solver.noted event one) (solver'.noted event' two) where
  increasing := abreast.increasing
  known := by rw [Solver.stamp_noted]; exact abreast.known
  ahead := by rw [Solver.stamp_noted, Solver.stamp_noted]; exact abreast.ahead
  side := abreast.side.noted solver solver' event event'

theorem next (abreast : Abreast extra old other naming one two) :
    Abreast extra old other (naming.learn (one.stamp + 1)) { one with stamp := one.stamp + 1 }
      { two with stamp := two.stamp + 1 } where
  increasing := abreast.increasing
  known := by
    rintro name (known | ⟨slot, rfl⟩)
    · exact (abreast.known name known).mono (Nat.le_succ _)
    · exact ⟨_, slot, Nat.succ_pos _, Nat.le_refl _, rfl⟩
  ahead distance := by
    have further := abreast.ahead (distance + 1)
    show naming.later (one.stamp + 1 + 1 + distance) = two.stamp + 1 + 1 + distance
    rw [show one.stamp + 1 + 1 + distance = one.stamp + 1 + (distance + 1) by omega, further]
    omega
  side := ⟨abreast.side.heap, abreast.side.calls⟩

/-- The second search has fallen behind by a stamp. -/
theorem idled (abreast : Abreast extra old other naming one two)
    (idled : two.Idled extra 1 reached) :
    Abreast extra old other (naming.delayed abreast.increasing one.stamp) one reached where
  increasing := strictMono_delay abreast.increasing one.stamp
  known := abreast.known
  ahead distance := by
    have before := abreast.ahead distance
    show delay naming.later one.stamp (one.stamp + 1 + distance) = _
    rw [delay, if_neg (by omega), before, idled.stamp]
    omega
  side := by
    refine ⟨by rw [idled.heap, abreast.side.heap], ?_⟩
    obtain ⟨new, more, first, second, adds⟩ := abreast.side.calls
    rcases idled.calls with same | ⟨call, own, calls⟩
    · exact ⟨new, more, first, same.trans second, adds⟩
    · exact ⟨new, call :: more, first, by rw [calls, second]; rfl, .add own adds⟩

/-- Variables that have come up keep their names. -/
theorem leads_delayed (abreast : Abreast extra old other naming one two) :
    naming.Leads (naming.delayed abreast.increasing one.stamp) where
  known := id
  same known := by
    obtain ⟨stamp, slot, -, le, rfl⟩ := abreast.known _ known
    rw [Naming.rename, Naming.rename, restampBy_stamped, restampBy_stamped]
    exact congrArg (Signature.stamped · slot) (if_pos le)

def coupling {solver solver' : Solver} (inert : extra.Inert) (solvers : solver.Adds extra solver')
    (old other : List Call) : Coupling solver solver' where
  arenas := Abreast extra old other
  idle := Offer.Views extra
  placeholder := congrArg _ solvers.settings
  maxDepth := congrArg _ solvers.settings
  depths := solvers.depths
  bearsRules := solvers.registry.bearsRules
  offers := solvers.registry.offers
  heap abreast := abreast.side.heap
  note abreast alike := { abreast with side := abreast.side.note alike.call? }
  onHeap abreast heap := { abreast with side := abreast.side.onHeap heap }
  progress abreast _ _ := abreast.noted solver solver' _ _
  admitting abreast _ := abreast.noted solver solver' _ _
  next abreast := ⟨abreast.ahead 0, abreast.next⟩
  idles := by
    intro naming one two offer views abreast inner goal branch depth
    obtain ⟨reached, ran, idled⟩ := inert.tryOffer views solver' inner goal branch depth two
    exact ⟨_, reached, abreast.leads_delayed, ran, abreast.idled idled⟩

end Abreast

/-! ## 3. The outcome of whole searches -/

/-- Of two searches from one arena, the second one has the outcome of the first one. It leaves the
same heap. It makes the calls of the first one in their order, with what they are given, and besides
only calls of one rule. It ends with the same value or for the same reason, only that the variables
in the goal at which a depth limit was exceeded may have other stamps. -/
structure Undisturbed (extra : Rule) (arena : Arena) (one two : Except Halt Value × Arena) :
    Prop where
  heap : two.2.heap = one.2.heap
  calls : ∃ new more, one.2.calls = new ++ arena.calls ∧ two.2.calls = more ++ arena.calls ∧
    Adds (·.rule = extra) new more
  answer : ∃ later, StrictMono later ∧ EndsAlike (restampBy later) Eq one.1 two.1

theorem Undisturbed.value {extra : Rule} {arena : Arena} {one two : Except Halt Value × Arena}
    (same : Undisturbed extra arena one two) {value : Value} (found : one.1 = .ok value) :
    two.1 = .ok value := by
  obtain ⟨later, -, ends⟩ := same.answer
  rw [found] at ends
  generalize two.1 = result at ends ⊢
  cases ends with
  | ok holds => rw [holds]

/-- A rule that always declines is inert. If it needs no parameters, it may stand at any place among
the rules of a shape and return whatever pattern: it changes no outcome of a search. -/
theorem declining_rule_inert {rule : RuleDecl} (bare : rule.params = [])
    (declines : ∀ given heap, (rule.recipe.run given heap).val = (.ok .declined, heap))
    (before after : List ShapeDecl) (declared : ShapeDecl) (front back : List RuleDecl)
    (settings : Settings) (depths : DepthCount) (fuel : Nat) (goal : Term) (values : List Value)
    (arena : Arena) :
    Undisturbed (rule.onShape declared.name) arena
      ((Solver.solve
        ⟨Registry.empty.registerAll
          (before ++ { declared with rules := front ++ back } :: after), settings, depths⟩
        fuel goal values).runFrom arena)
      ((Solver.solve
        ⟨Registry.empty.registerAll
          (before ++ { declared with rules := front ++ rule :: back } :: after), settings, depths⟩
        fuel goal values).runFrom arena) := by
  have inert : (rule.onShape declared.name).Inert := ⟨bare, declines⟩
  have solvers : Solver.Adds (rule.onShape declared.name)
      ⟨Registry.empty.registerAll
        (before ++ { declared with rules := front ++ back } :: after), settings, depths⟩
      ⟨Registry.empty.registerAll
        (before ++ { declared with rules := front ++ rule :: back } :: after), settings, depths⟩ :=
    ⟨Registry.adds_of_rule before after declared front back rule, rfl, rfl⟩
  have side := (Abreast.coupling inert solvers arena.calls arena.calls).solve (.ahead 0) fuel goal
    values
  have abreast : Abreast (rule.onShape declared.name) arena.calls arena.calls (.ahead 0) arena
      arena :=
    ⟨strictMono_id, fun _ none => none.elim, fun _ => rfl, rfl, [], [], rfl, rfl, .nil⟩
  obtain ⟨further, -, ends, reached⟩ := side arena arena abreast
  exact ⟨reached.side.heap, reached.side.calls, further.later, reached.increasing, ends⟩

/-! ## 4. A rule that matches every goal -/

def RuleDecl.idle : RuleDecl := ⟨"idle", .var "any", [], .body fun _ => pure .declined⟩

def knottingSolverOf (rules : List RuleDecl) : Solver :=
  ⟨Registry.empty.registerAll [{ knotting with rules }], .silent, .word⟩

/-- A rule that matches every goal, those of a placeholder too, leaves a search as it is that first
fails to build what it needs and then ties a knot. -/
theorem declining_rule_inert_idle :
    RuleDecl.idle.params = [] ∧
    (∀ given heap, (RuleDecl.idle.recipe.run given heap).val = (.ok .declined, heap)) ∧
    ∃ one two value,
      ((knottingSolverOf (knotting.rules.take 2 ++ knotting.rules.drop 2)).solve 8
        (.constant "Pair") [knottingHost]).runFrom ⟨⟨1, []⟩, 0, []⟩ = one ∧
      ((knottingSolverOf (knotting.rules.take 2 ++ .idle :: knotting.rules.drop 2)).solve 8
        (.constant "Pair") [knottingHost]).runFrom ⟨⟨1, []⟩, 0, []⟩ = two ∧
      Undisturbed (RuleDecl.idle.onShape "Host") ⟨⟨1, []⟩, 0, []⟩ one two ∧
      one.1 = .ok value ∧ two.1 = .ok value := by
  have declines (given : Inputs) (heap : Heap) :
      (RuleDecl.idle.recipe.run given heap).val = (.ok .declined, heap) := rfl
  have passed : ((knottingSolverOf (knotting.rules.take 2 ++ knotting.rules.drop 2)).solve 8
      (.constant "Pair") [knottingHost]).passes ⟨⟨1, []⟩, 0, []⟩ (fun _ _ => true) = true := by
    decide +kernel
  obtain ⟨value, reached, found, -⟩ := Search.exists_of_passes passed
  have same := declining_rule_inert rfl declines [] [] knotting (knotting.rules.take 2)
    (knotting.rules.drop 2) .silent .word 8 (.constant "Pair") [knottingHost] ⟨⟨1, []⟩, 0, []⟩
  refine ⟨rfl, declines, _, _, value, rfl, rfl, same, congrArg Prod.fst found, ?_⟩
  exact same.value (congrArg Prod.fst found)

end Synthesis
