import Synthesis.Proofs.Additions
import Synthesis.Proofs.Naming
import Synthesis.Proofs.Runs.Total

/-!
# Two searches side by side

Two searches that have the same settings and providers that offer the same do the same, step by
step. They may report different things and give rules different stamps, and the second one may try
more offers as long as nothing comes of them. What relates their arenas is a parameter: a `Coupling`
says that it stays when the two searches do the same.

Results:
1. `Coupling.Accompanied.bind`, `Coupling.Still.bind`: computations that go side by side may be put
   one after the other.
2. `Coupling.find`: the two searches find the same for goals and branches that correspond.
3. `Coupling.start`, `Coupling.solve`, `Coupling.solveAs`: this for whole searches.
-/
namespace Synthesis

open Search

/-- Two parts of searches end alike: with results that are related or for the same reason, only that
in the second one the goal at which a depth limit was exceeded has its variables renamed. -/
inductive EndsAlike {α β : Type} (f : String → String) (related : α → β → Prop) :
    Except Halt α → Except Halt β → Prop
  | ok {result : α} {again : β} : related result again →
      EndsAlike f related (.ok result) (.ok again)
  | halted (halt : Halt) : EndsAlike f related (.error halt) (.error halt)
  | tooDeep (goal : Term) (limit : Nat) :
      EndsAlike f related (.error (.failed (.depthLimit goal limit)))
        (.error (.failed (.depthLimit (goal.rename f) limit)))

theorem EndsAlike.imp {α β : Type} {f : String → String} {related more : α → β → Prop}
    {one : Except Halt α} {two : Except Halt β} (ends : EndsAlike f related one two)
    (le : ∀ result again, related result again → more result again) :
    EndsAlike f more one two := by
  cases ends with
  | ok holds => exact .ok (le _ _ holds)
  | halted halt => exact .halted halt
  | tooDeep goal limit => exact .tooDeep goal limit

theorem EndsAlike.eq {α : Type} {f : String → String} {related : α → α → Prop}
    {one two : Except Halt α} (ends : EndsAlike f related one two) (same : f = id)
    (eq : ∀ result again, related result again → again = result) : two = one := by
  cases ends with
  | ok holds => rw [eq _ _ holds]
  | halted halt => rfl
  | tooDeep goal limit => rw [same, goal.rename_id]

/-! ## 1. Couplings -/

/-- What relates the arenas of two searches. It stays when the same is written down in both arenas,
when both go on with the same heap, whatever progress is reported, and when both searches use their
next stamps. An offer that only the second search has is idle: to try it comes to nothing and
changes nothing in what the variables of the first search are named. -/
structure Coupling (solver solver' : Solver) where
  arenas : Naming → Arena → Arena → Prop
  idle : Offer → Prop
  placeholder : solver'.settings.placeholder = solver.settings.placeholder
  maxDepth : solver'.settings.maxDepth = solver.settings.maxDepth
  depths : solver'.depths = solver.depths
  bearsRules : ∀ value, solver'.registry.bearsRules value = solver.registry.bearsRules value
  offers : ∀ value, Adds idle (solver.registry.offers value) (solver'.registry.offers value)
  heap : ∀ {naming one two}, arenas naming one two → two.heap = one.heap
  note : ∀ {naming one two entry again}, arenas naming one two → LogEntry.Alike naming entry again →
    arenas naming (one.note entry) (two.note again)
  onHeap : ∀ {naming one two}, arenas naming one two → ∀ heap,
    arenas naming (one.onHeap heap) (two.onHeap heap)
  progress : ∀ {naming one two event event'}, arenas naming one two → event.isProgress = true →
    event'.isProgress = true → arenas naming (solver.noted event one) (solver'.noted event' two)
  admitting : ∀ {naming one two}, arenas naming one two → ∀ value,
    arenas naming
      (solver.noted (.admitting value.kind (solver.registry.offers value).length) one)
      (solver'.noted (.admitting value.kind (solver'.registry.offers value).length) two)
  next : ∀ {naming one two}, arenas naming one two →
    naming.later (one.stamp + 1) = two.stamp + 1 ∧
      arenas (naming.learn (one.stamp + 1)) { one with stamp := one.stamp + 1 }
        { two with stamp := two.stamp + 1 }
  idles : ∀ {naming one two offer}, idle offer → arenas naming one two →
    ∀ inner goal branch depth, ∃ further reached, naming.Leads further ∧
      (solver'.tryOffer inner offer goal branch depth).runFrom two = (.ok none, reached) ∧
      arenas further one reached

namespace Coupling

variable {solver solver' : Solver}

/-- A computation of the first search is accompanied by one of the second search: from related
arenas, both end alike and in related arenas. -/
def Accompanied (coupling : Coupling solver solver') (naming : Naming) {α β : Type}
    (related : Naming → α → β → Prop) (part : Search α) (again : Search β) : Prop :=
  ∀ one two, coupling.arenas naming one two → ∃ further, naming.Leads further ∧
    EndsAlike further.rename (related further) (part.runFrom one).1 (again.runFrom two).1 ∧
    coupling.arenas further (part.runFrom one).2 (again.runFrom two).2

/-- A computation of the first search is accompanied by one of the second search, and no variables
come up in them. -/
def Still (coupling : Coupling solver solver') (naming : Naming) {α β : Type}
    (related : α → β → Prop) (part : Search α) (again : Search β) : Prop :=
  ∀ one two, coupling.arenas naming one two →
    EndsAlike naming.rename related (part.runFrom one).1 (again.runFrom two).1 ∧
    coupling.arenas naming (part.runFrom one).2 (again.runFrom two).2

section

variable {coupling : Coupling solver solver'} {naming : Naming} {α β γ δ : Type}

namespace Accompanied

variable {related : Naming → α → β → Prop}

theorem of_still {part : Search α} {again : Search β}
    (still : coupling.Still naming (related naming) part again) :
    coupling.Accompanied naming related part again := by
  intro one two arenas
  obtain ⟨ends, after⟩ := still one two arenas
  exact ⟨naming, .refl naming, ends, after⟩

theorem pure {result : α} {again : β} (holds : related naming result again) :
    coupling.Accompanied naming related (Pure.pure result) (Pure.pure again) :=
  of_still fun _ _ arenas => ⟨.ok holds, arenas⟩

theorem bind {later : Naming → γ → δ → Prop} {part : Search α} {again : Search β}
    {next : α → Search γ} {next' : β → Search δ}
    (first : coupling.Accompanied naming related part again)
    (second : ∀ further, naming.Leads further → ∀ result result', related further result result' →
      coupling.Accompanied further later (next result) (next' result')) :
    coupling.Accompanied naming later (part >>= next) (again >>= next') := by
  intro one two arenas
  obtain ⟨further, leads, ends, after⟩ := first one two arenas
  rw [runFrom_bind, runFrom_bind]
  generalize part.runFrom one = ended at ends after ⊢
  generalize again.runFrom two = ended' at ends after ⊢
  obtain ⟨_, reached⟩ := ended
  obtain ⟨_, reached'⟩ := ended'
  cases ends with
  | ok holds =>
      obtain ⟨last, more, ends, after⟩ := second further leads _ _ holds reached reached' after
      exact ⟨last, leads.trans more, ends, after⟩
  | halted halt => exact ⟨further, leads, .halted halt, after⟩
  | tooDeep goal limit => exact ⟨further, leads, .tooDeep goal limit, after⟩

/-- The next stamp of the second search is the counterpart of the one of the first search. -/
theorem freshStamp :
    coupling.Accompanied naming
      (fun further stamp again => again = further.later stamp ∧
        ∀ slot, further.Known (Signature.stamped stamp slot))
      Search.freshStamp Search.freshStamp := by
  intro one two arenas
  obtain ⟨counterpart, after⟩ := coupling.next arenas
  exact ⟨_, naming.leads_learn _, .ok ⟨counterpart.symm, fun slot => .inr ⟨slot, rfl⟩⟩, after⟩

/-- A computation is accompanied by one that first tries an idle offer. -/
theorem after_idle {part : Search α} {inner : Finder} {offer : Offer} {goal : Term}
    {branch : Branch} {depth : Nat} {next : Option Found → Search β} (idle : coupling.idle offer)
    (rest : ∀ further, naming.Leads further → coupling.Accompanied further related part
      (next none)) :
    coupling.Accompanied naming related part
      (solver'.tryOffer inner offer goal branch depth >>= next) := by
  intro one two arenas
  obtain ⟨further, reached, leads, ran, arenas⟩ :=
    coupling.idles idle arenas inner goal branch depth
  obtain ⟨last, more, ends, after⟩ := rest further leads one reached arenas
  rw [runFrom_bind, ran]
  exact ⟨last, leads.trans more, ends, after⟩

end Accompanied

namespace Still

variable {related : α → β → Prop}

theorem accompanied {part : Search α} {again : Search β}
    (still : coupling.Still naming related part again) :
    coupling.Accompanied naming
      (fun further result result' => further = naming ∧ related result result') part again := by
  intro one two arenas
  obtain ⟨ends, after⟩ := still one two arenas
  exact ⟨naming, .refl naming, ends.imp fun _ _ holds => ⟨rfl, holds⟩, after⟩

theorem bind {later : Naming → γ → δ → Prop} {part : Search α} {again : Search β}
    {next : α → Search γ} {next' : β → Search δ}
    (first : coupling.Still naming related part again)
    (second : ∀ result result', related result result' →
      coupling.Accompanied naming later (next result) (next' result')) :
    coupling.Accompanied naming later (part >>= next) (again >>= next') := by
  refine .bind first.accompanied ?_
  rintro _ _ result result' ⟨rfl, holds⟩
  exact second result result' holds

theorem log {entry again : LogEntry} (alike : entry.Alike naming again) :
    coupling.Still naming (fun _ _ => True) (Search.log entry) (Search.log again) :=
  fun _ _ arenas => ⟨.ok trivial, coupling.note arenas alike⟩

theorem fail (failure : Failure) :
    coupling.Still naming related (Search.fail failure) (Search.fail failure) :=
  fun _ _ arenas => ⟨.halted _, coupling.note arenas (.same rfl)⟩

theorem ofExcept (result : Except Failure α) :
    coupling.Still naming Eq (Search.ofExcept result) (Search.ofExcept result) := by
  cases result with
  | ok result => exact fun _ _ arenas => ⟨.ok rfl, arenas⟩
  | error failure => exact fail failure

theorem onHeap (run : Heap → Except Failure α × Heap) :
    coupling.Still naming Eq (Search.onHeap run) (Search.onHeap run) := by
  intro one two arenas
  rw [runFrom_onHeap, runFrom_onHeap, coupling.heap arenas]
  obtain ⟨failure | result, heap⟩ := run one.heap
  · exact ⟨.halted _, coupling.note (coupling.onHeap arenas heap) (.same rfl)⟩
  · exact ⟨.ok rfl, coupling.onHeap arenas heap⟩

theorem runRecipe (rule : Rule) (goal : Term) (given : Inputs) :
    coupling.Still naming Eq (Solver.runRecipe rule goal given)
      (Solver.runRecipe rule goal given) := by
  intro one two arenas
  rw [Runs.runFrom_runRecipe, Runs.runFrom_runRecipe, coupling.heap arenas]
  have called : coupling.arenas naming (one.note (.called ⟨rule, goal, given, one.heap⟩))
    (two.note (.called ⟨rule, goal, given, one.heap⟩)) := coupling.note arenas (.same rfl)
  rcases (rule.recipe.run given one.heap).val with ⟨failure | verdict, heap⟩
  · exact ⟨.halted _, coupling.note (coupling.onHeap called heap) (.same rfl)⟩
  · exact ⟨.ok rfl, coupling.onHeap called heap⟩

theorem tieCell (cell : Option Nat) (goal : Term) (value : Value) :
    coupling.Still naming Eq (Solver.tieCell cell goal value)
      (Solver.tieCell cell goal value) := by
  cases cell with
  | none => exact fun _ _ arenas => ⟨.ok rfl, arenas⟩
  | some cell =>
      rw [Solver.tieCell]
      exact onHeap _

theorem report {event event' : Event} (progress : event.isProgress = true := by rfl)
    (progress' : event'.isProgress = true := by rfl) :
    coupling.Still naming (fun _ _ => True) (solver.report event) (solver'.report event') := by
  intro one two arenas
  rw [Solver.runFrom_report, Solver.runFrom_report]
  exact ⟨.ok trivial, coupling.progress arenas progress progress'⟩

theorem enroll {members members' : Providers} (adds : members.Adds coupling.idle members')
    (value : Value) :
    coupling.Still naming (Providers.Adds coupling.idle) (solver.enroll value members)
      (solver'.enroll value members') := by
  intro one two arenas
  rw [Solver.runFrom_enroll, Solver.runFrom_enroll]
  refine ⟨.ok (adds.enroll (coupling.bearsRules value) (coupling.offers value)), ?_⟩
  dsimp only [Solver.enrolled]
  rw [adds.accepts_eq (coupling.bearsRules value)]
  split
  · exact coupling.admitting arenas value
  · exact arenas

theorem checkDepth {goal again : Term} (follows : goal.Follows naming again) (depth : Nat) :
    coupling.Still naming (fun _ _ => True) (solver.checkDepth goal depth)
      (solver'.checkDepth again depth) := by
  rw [Solver.checkDepth, Solver.checkDepth, coupling.maxDepth]
  split
  · next limit _ =>
      split
      · intro one two arenas
        refine ⟨?_, coupling.note arenas (.tooDeep follows)⟩
        rw [runFrom_fail, runFrom_fail, follows.same]
        exact .tooDeep goal limit
      · exact fun _ _ arenas => ⟨.ok trivial, arenas⟩
  · exact fun _ _ arenas => ⟨.ok trivial, arenas⟩

end Still

end

end Coupling

/-! ## 2. One level of the search -/

/-- A branch of the first search and that of the second one. -/
structure Branch.Follows {solver solver' : Solver} (coupling : Coupling solver solver')
    (naming : Naming) (branch again : Branch) : Prop where
  providers : branch.providers.Adds coupling.idle again.providers
  memo : again.memo = branch.memo
  subst : branch.subst.Follows naming again.subst
  history : again.history = branch.history

structure Found.Follows {solver solver' : Solver} (coupling : Coupling solver solver')
    (naming : Naming) (found again : Found) : Prop where
  value : again.value = found.value
  branch : found.branch.Follows coupling naming again.branch

namespace Coupling

variable {solver solver' : Solver}

structure Settles (coupling : Coupling solver solver') (naming : Naming)
    (settled again : List Value × Branch) : Prop where
  values : again.1 = settled.1
  branch : settled.2.Follows coupling naming again.2

structure Enters (coupling : Coupling solver solver') (naming : Naming)
    (entered again : Option Nat × Branch) : Prop where
  cell : again.1 = entered.1
  branch : entered.2.Follows coupling naming again.2

/-- A computation of the first search is accompanied by one of the second search that finds the same
value, or nothing if the first one does. -/
def Finds (coupling : Coupling solver solver') (naming : Naming)
    (part again : Search (Option Found)) : Prop :=
  coupling.Accompanied naming (fun further => Option.Rel (Found.Follows coupling further)) part
    again

def Finders (coupling : Coupling solver solver') (inner inner' : Finder) : Prop :=
  ∀ (naming : Naming) {goal again : Term} {branch branch' : Branch} (depth : Nat),
    goal.Follows naming again → branch.Follows coupling naming branch' →
      coupling.Finds naming (inner goal branch depth) (inner' again branch' depth)

end Coupling

section

variable {solver solver' : Solver} {coupling : Coupling solver solver'} {naming further : Naming}
  {branch branch' : Branch}

theorem Branch.Follows.mono (follows : branch.Follows coupling naming branch')
    (leads : naming.Leads further) : branch.Follows coupling further branch' :=
  { follows with subst := follows.subst.mono leads }

theorem Branch.Follows.insert (follows : branch.Follows coupling naming branch') (goal : Term)
    (entry : Memo.Entry) :
    Branch.Follows coupling naming { branch with memo := branch.memo.insert goal entry }
      { branch' with memo := branch'.memo.insert goal entry } :=
  { follows with memo := congrArg (Memo.insert · goal entry) follows.memo }

namespace Coupling

theorem givesUp {α β : Type} {related : Naming → α → β → Prop} {event event' : Event}
    (progress : event.isProgress = true := by rfl)
    (progress' : event'.isProgress = true := by rfl) :
    coupling.Accompanied naming (fun further => Option.Rel (related further))
      (do solver.report event; return none) (do solver'.report event'; return none) :=
  Still.bind (.report progress progress') fun _ _ _ => .pure .none

theorem invoke (offer : Offer) {renamed again : Renamed} (rules : renamed.Follows naming again)
    (goal : Term) (cell : Option Nat) (args : List Value)
    (branches : branch.Follows coupling naming branch') (depth : Nat) :
    coupling.Finds naming (solver.invoke offer renamed goal cell args branch depth)
      (solver'.invoke offer again goal cell args branch' depth) := by
  rw [Solver.invoke, Solver.invoke, rules.slotTypes branches.subst]
  cases Solver.slotTypes branch.subst renamed.slots with
  | error slot => exact givesUp
  | ok types =>
      refine Still.bind (.ofExcept _) ?_
      rintro given _ rfl
      refine Still.bind (.runRecipe _ _ _) ?_
      rintro (value | _) _ rfl
      · refine Still.bind (.log (.same rfl)) fun _ _ _ => ?_
        refine Still.bind (.tieCell _ _ _) fun _ _ _ => ?_
        refine Still.bind .report fun _ _ _ => .pure (.some ⟨rfl, ?_⟩)
        exact { branches.insert goal (.ready value) with
          history := congrArg (.built goal given cell value :: ·) branches.history }
      · exact givesUp

variable {inner inner' : Finder} (inners : coupling.Finders inner inner')
include inners

theorem findParams (rule : Signature) (depth index : Nat) {params params' : List Term}
    (terms : List.Forall₂ (Term.Follows naming) params params')
    (branches : branch.Follows coupling naming branch') :
    coupling.Accompanied naming (fun further => Option.Rel (coupling.Settles further))
      (solver.findParams inner rule depth index params branch)
      (solver'.findParams inner' rule depth index params' branch') := by
  induction params generalizing index params' branch branch' naming with
  | nil =>
      cases terms
      exact .pure (.some ⟨rfl, branches⟩)
  | cons param params ih =>
      obtain ⟨again, params', head, tail, rfl⟩ := List.forall₂_cons_left_iff.1 terms
      rw [Solver.findParams, Solver.findParams, coupling.depths]
      refine .bind (inners naming _ head branches) ?_
      rintro further leads _ _ (found | _)
      · dsimp only
        rw [found.value]
        refine Still.bind (.log (.passed (found.branch.subst.apply (head.mono leads))))
          fun _ _ _ => ?_
        refine Still.bind (.enroll found.branch.providers _) fun members members' taken => ?_
        refine .bind (ih (index + 1) (tail.imp fun _ _ follows => follows.mono leads)
          { found.branch with providers := taken }) ?_
        rintro last more _ _ (settled | _)
        · exact .pure (.some ⟨congrArg (_ :: ·) settled.values, settled.branch⟩)
        · exact .pure .none
      · exact givesUp

theorem complete (offer : Offer) {renamed again : Renamed} (rules : renamed.Follows naming again)
    (goal : Term) (cell : Option Nat) (branches : branch.Follows coupling naming branch')
    (depth : Nat) :
    coupling.Finds naming (solver.complete inner offer renamed goal cell branch depth)
      (solver'.complete inner' offer again goal cell branch' depth) := by
  refine .bind (findParams inners _ depth 0 rules.params branches) ?_
  rintro further leads _ _ (settled | _)
  · dsimp only
    rw [settled.values]
    exact invoke offer (rules.mono leads) goal cell _ settled.branch depth
  · exact .pure .none

theorem enterGoal {goal : Term} (ground : goal.isGround = true)
    (branches : branch.Follows coupling naming branch') (depth : Nat) :
    coupling.Accompanied naming coupling.Enters (solver.enterGoal inner goal branch depth)
      (solver'.enterGoal inner' goal branch' depth) := by
  rw [Solver.enterGoal, Solver.enterGoal, coupling.placeholder, coupling.depths]
  have probe : (goal.under solver.settings.placeholder).isGround = true := by simpa using ground
  refine .bind (inners naming _ (.of_ground probe) branches) ?_
  intro further leads found found' finds
  have later := branches.mono leads
  cases finds with
  | none =>
      exact Still.bind (.log (.same rfl)) fun _ _ _ => .pure ⟨rfl, later.insert goal .guarded⟩
  | some found =>
      dsimp only
      rw [found.value]
      split
      · next cell _ =>
          exact Still.bind (.log (.same rfl)) fun _ _ _ =>
            .pure ⟨rfl, later.insert goal (.pending cell)⟩
      · exact .of_still (.fail _)

theorem build (offer : Offer) {renamed again : Renamed} (rules : renamed.Follows naming again)
    {goal : Term} (ground : goal.isGround = true)
    (branches : branch.Follows coupling naming branch') (depth : Nat) :
    coupling.Finds naming (solver.build inner offer renamed goal branch depth)
      (solver'.build inner' offer again goal branch' depth) := by
  have asks : solver'.asksForCell goal = solver.asksForCell goal := by
    rw [Solver.asksForCell, Solver.asksForCell, coupling.placeholder]
  rw [Solver.build, Solver.build, rules.isEmpty_params, asks]
  split
  · exact complete inners offer rules goal none branches depth
  · refine .bind (enterGoal inners ground branches depth) ?_
    intro further leads entered entered' alike
    dsimp only
    rw [alike.cell]
    refine .bind (complete inners offer (rules.mono leads) goal _ alike.branch depth) ?_
    intro last more found found' finds
    exact Still.bind (.log (.same rfl)) fun _ _ _ => .pure finds

theorem tryOffer (offer : Offer) {goal again : Term} (goals : goal.Follows naming again)
    (branches : branch.Follows coupling naming branch') (depth : Nat) :
    coupling.Finds naming (solver.tryOffer inner offer goal branch depth)
      (solver'.tryOffer inner' offer again branch' depth) := by
  refine .bind .freshStamp ?_
  rintro further leads stamp _ ⟨rfl, known⟩
  have asked := goals.mono leads
  have later := branches.mono leads
  have rules := Renamed.Follows.of_stamp offer.rule.toSignature known
  refine Still.bind (.log (.tried asked later.subst)) fun _ _ _ => ?_
  dsimp only
  rcases later.subst.matching rules.returns asked with
    ⟨clash, clash', first, second⟩ | ⟨subst, subst', first, second, found⟩
  · rw [first, second]
    exact givesUp
  · have aims := found.apply asked
    rw [first, second]
    dsimp only
    rw [aims.isGround]
    split
    · next ground =>
        rw [aims.eq_of_ground ground]
        have matched : Branch.Follows coupling further { branch with subst }
            { branch' with subst := subst' } :=
          ⟨later.providers, later.memo, found, later.history⟩
        refine Still.bind (.log (.matched asked)) fun _ _ _ => Still.bind .report fun _ _ _ => ?_
        exact build inners offer rules ground matched depth
    · exact givesUp

/-- Offers are tried in the same order, and those that only the second search has come to nothing.
-/
theorem tryOffers {goal again : Term} (goals : goal.Follows naming again)
    (branches : branch.Follows coupling naming branch') (depth : Nat) {offers offers' : List Offer}
    (adds : Adds coupling.idle offers offers') :
    coupling.Finds naming (solver.tryOffers inner goal branch depth offers)
      (solver'.tryOffers inner' again branch' depth offers') := by
  induction adds generalizing naming with
  | nil => exact .pure .none
  | keep offer _ ih =>
      refine .bind (tryOffer inners offer goals branches depth) ?_
      rintro further leads _ _ (found | _)
      · exact .pure (.some found)
      · exact ih (goals.mono leads) (branches.mono leads)
  | add idle _ ih =>
      refine .after_idle idle fun further leads => ?_
      exact ih (goals.mono leads) (branches.mono leads)

theorem findStep : coupling.Finders (solver.findStep inner) (solver'.findStep inner') := by
  intro naming goal again branch branch' depth goals branches
  have asked := branches.subst.apply goals
  have known : Solver.known? (branch'.subst.apply again) branch'.memo =
      Solver.known? (branch.subst.apply goal) branch.memo := by
    rw [asked.same, known?_rename, branches.memo]
  refine Still.bind (.log (.demanded asked)) fun _ _ _ =>
    Still.bind (.checkDepth asked depth) fun _ _ _ => ?_
  rw [known]
  cases remembered : Solver.known? (branch.subst.apply goal) branch.memo with
  | some entry =>
      dsimp only
      rw [asked.eq_of_ground (isGround_of_known? remembered).1]
      refine Still.bind (.onHeap _) ?_
      rintro value _ rfl
      refine Still.bind (.log (.same rfl)) fun _ _ _ => Still.bind .report fun _ _ _ => ?_
      exact .pure (.some ⟨rfl, branches.providers, branches.memo, branches.subst,
        congrArg (Settled.known _ entry value :: ·) branches.history⟩)
  | none =>
      refine Still.bind .report fun _ _ _ => ?_
      refine .bind (tryOffers inners asked branches depth branches.providers.offers) ?_
      rintro further leads _ _ (found | _)
      · exact .pure (.some found)
      · exact givesUp

omit inners

/-! ## 3. Whole searches -/

theorem find (coupling : Coupling solver solver') (fuel : Nat) :
    coupling.Finders (solver.find fuel) (solver'.find fuel) := by
  induction fuel with
  | zero => exact fun naming _ _ _ _ _ _ _ _ _ arenas => ⟨naming, .refl naming, .halted _, arenas⟩
  | succ fuel ih => exact findStep ih

theorem enrollAll {members members' : Providers} (adds : members.Adds coupling.idle members')
    (values : List Value) :
    coupling.Accompanied naming (fun _ => Providers.Adds coupling.idle)
      (solver.enrollAll members values)
      (solver'.enrollAll members' values) := by
  induction values generalizing members members' with
  | nil => exact .pure adds
  | cons value values ih =>
      rw [Solver.enrollAll, Solver.enrollAll, coupling.bearsRules]
      split
      · exact Still.bind (.enroll adds value) fun _ _ taken => ih taken
      · exact .of_still (.fail _)

/-- A search starts without bindings, and with a memo that is empty. -/
theorem start (coupling : Coupling solver solver') (naming : Naming) (values : List Value) :
    coupling.Accompanied naming (Branch.Follows coupling) (solver.start values)
      (solver'.start values) :=
  .bind (enrollAll (.refl {}) values) fun _ _ _ _ taken =>
    .pure ⟨taken, rfl, ⟨rfl, .empty⟩, rfl⟩

theorem derive (fuel : Nat) (goal : Term) (values : List Value) :
    coupling.Accompanied naming (Found.Follows coupling) (solver.derive fuel goal values)
      (solver'.derive fuel goal values) := by
  rw [Solver.derive, Solver.derive]
  split
  · next ground =>
      refine .bind (coupling.start naming values) fun begun leads branch branch' branches => ?_
      refine Still.bind .report fun _ _ _ => ?_
      refine .bind (coupling.find fuel begun 0 (.of_ground ground) branches) ?_
      rintro further more _ _ (found | _)
      · exact Still.bind .report fun _ _ _ => .pure found
      · exact .of_still (.fail _)
  · exact .of_still (.fail _)

theorem solve (coupling : Coupling solver solver') (naming : Naming) (fuel : Nat) (goal : Term)
    (values : List Value) :
    coupling.Accompanied naming (fun _ => Eq) (solver.solve fuel goal values)
      (solver'.solve fuel goal values) :=
  .bind (derive fuel goal values) fun _ _ _ _ found => .pure found.value.symm

theorem solveAs (coupling : Coupling solver solver') (naming : Naming) (fuel : Nat) (kind : Kind)
    (goal : Term) (values : List Value) :
    coupling.Accompanied naming (fun _ => Eq) (solver.solveAs fuel kind goal values)
      (solver'.solveAs fuel kind goal values) := by
  refine .bind (coupling.solve naming fuel goal values) ?_
  rintro further leads value _ rfl
  cases value.as? kind with
  | none => exact .of_still (.fail _)
  | some value => exact .pure rfl

end Coupling

end

end Synthesis
