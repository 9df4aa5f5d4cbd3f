import Synthesis.Proofs.Cells
import Synthesis.Proofs.Nesting
import Synthesis.Proofs.Quiet

/-!
# The reports of a search are nested

If progress is reported, what a search reports has the shape of the search: every goal that is
looked for and every rule that is tried opens a part of the reports and closes it again, and the
parts of the goals that a rule needs stand between the two.

Results:
1. `Transcript.succeeded_iff`: whether a goal was found is seen from its reports alone.
2. `Runs.transcribed`: the reports of a part of a search that is carried out are nested.
3. `solve_reports_nested`: this for whole searches that find a value or give their goal up.
-/
namespace Synthesis

/-! ## 1. Nested reports -/

/-- The last report of an attempt to build a goal by a rule: that the goal is built, or why it is
not. -/
inductive Event.Closes (depth : Nat) (rule : Signature) (aim : Term) : Bool → Event → Prop where
  | parameter {index : Nat} : Closes depth rule aim false (.abandonedParameter depth rule index)
  | slot {slot : String} : Closes depth rule aim false (.abandonedSlot depth rule slot)
  | declined : Closes depth rule aim false (.declined depth rule)
  | built {value : Value} : Closes depth rule aim true (.built depth rule aim value)

/-- A part of what a search reports at a depth. -/
inductive Passage where
  /-- The search for a goal, which is found or not. -/
  | goal (depth : Nat) (goal : Term) (succeeded : Bool)
  /-- The attempts for a goal, of which the last one builds it or none does. -/
  | attempts (depth : Nat) (built : Bool)
  /-- An attempt for a goal by one rule. -/
  | attempt (depth : Nat) (built : Bool)
  /-- What is left of an attempt by a rule that returns the goal. -/
  | trial (depth : Nat) (rule : Signature) (aim : Term) (built : Bool)

/-- The reports that make up a passage. -/
inductive Transcript (depths : DepthCount) : Passage → List Event → Prop where
  -- a goal is known, or it is attempted
  | known {depth : Nat} {goal : Term} {value : Value} :
      Transcript depths (.goal depth goal true) [.known depth goal value]
  | found {depth : Nat} {goal : Term} {events : List Event} :
      Transcript depths (.attempts depth true) events →
      Transcript depths (.goal depth goal true) (.attempting depth goal :: events)
  | unfound {depth : Nat} {goal : Term} {events : List Event} :
      Transcript depths (.attempts depth false) events →
      Transcript depths (.goal depth goal false)
        (.attempting depth goal :: events ++ [.noRuleApplies depth goal])
  -- an attempt that does not build the goal may be followed by others
  | noAttempts {depth : Nat} : Transcript depths (.attempts depth false) []
  | moveOn {depth : Nat} {built : Bool} {first rest : List Event} :
      Transcript depths (.attempt depth false) first →
      Transcript depths (.attempts depth built) rest →
      Transcript depths (.attempts depth built) (first ++ rest)
  | settle {depth : Nat} {events : List Event} :
      Transcript depths (.attempt depth true) events →
      Transcript depths (.attempts depth true) events
  -- an attempt is skipped, or the rule is tried
  | mismatch {depth : Nat} {rule : Signature} {clash : Clash} :
      Transcript depths (.attempt depth false) [.skippedMismatch depth rule clash]
  | leftOpen {depth : Nat} {rule : Signature} {goal : Term} :
      Transcript depths (.attempt depth false) [.skippedOpen depth rule goal]
  | trying {depth : Nat} {rule : Signature} {aim : Term} {built : Bool} {events : List Event} :
      Transcript depths (.trial depth rule aim built) events →
      Transcript depths (.attempt depth built) (.trying depth rule aim :: events)
  -- goals that the rule needs come before the report that closes the attempt
  | inner {depth : Nat} {rule : Signature} {aim goal : Term} {built succeeded : Bool}
      {first rest : List Event} :
      Transcript depths (.goal (depths.next depth) goal succeeded) first →
      Transcript depths (.trial depth rule aim built) rest →
      Transcript depths (.trial depth rule aim built) (first ++ rest)
  | close {depth : Nat} {rule : Signature} {aim : Term} {built : Bool} {event : Event} :
      event.Closes depth rule aim built →
      Transcript depths (.trial depth rule aim built) [event]

/-- Attempts that build their goal say so at the end. -/
def Passage.EndsBuilt : Passage → List Event → Prop
  | .goal .., _ => True
  | .attempts depth built, events | .attempt depth built, events
  | .trial depth _ _ built, events => built = true →
      ∃ rule aim value, events.getLast? = some (.built depth rule aim value)

namespace Transcript

variable {depths : DepthCount}

theorem endsBuilt {passage : Passage} {events : List Event}
    (transcript : Transcript depths passage events) : passage.EndsBuilt events := by
  induction transcript with
  | known | found | unfound => trivial
  | noAttempts | mismatch | leftOpen => exact fun built => by cases built
  | moveOn _ _ _ ih | inner _ _ _ ih | settle _ ih =>
      intro built
      obtain ⟨rule, aim, value, last⟩ := ih built
      exact ⟨rule, aim, value, by simp [last]⟩
  | trying _ ih =>
      intro built
      obtain ⟨rule, aim, value, last⟩ := ih built
      exact ⟨rule, aim, value, by simp [List.getLast?_cons, last]⟩
  | close closes =>
      intro built
      subst built
      cases closes
      exact ⟨_, _, _, rfl⟩

/-- A goal is found if it is known or if the last report of its passage is that it is built. -/
theorem succeeded_iff {depth : Nat} {goal : Term} {succeeded : Bool} {events : List Event}
    (transcript : Transcript depths (.goal depth goal succeeded) events) :
    succeeded = true ↔ (∃ value, events = [.known depth goal value]) ∨
      ∃ rule aim value, events.getLast? = some (.built depth rule aim value) := by
  cases transcript with
  | known => exact iff_of_true rfl (.inl ⟨_, rfl⟩)
  | found attempts =>
      obtain ⟨rule, aim, value, last⟩ := attempts.endsBuilt rfl
      exact iff_of_true rfl (.inr ⟨rule, aim, value, by simp [List.getLast?_cons, last]⟩)
  | unfound attempts =>
      refine iff_of_false Bool.false_ne_true ?_
      rintro (⟨value, same⟩ | ⟨rule, aim, value, last⟩)
      · cases same
      · rw [List.cons_append, ← List.cons_append, List.getLast?_concat] at last
        cases last

end Transcript

/-! ## 2. What is written down -/

/-- What a search reported of itself in some entries of the log, in the order in which it did. The
log has the latest entry first. -/
def searchReports (entries : List LogEntry) : List Event :=
  (entries.reverse.filterMap LogEntry.event?).filter (·.source = "tyknot::search")

theorem searchReports_append (later earlier : List LogEntry) :
    searchReports (later ++ earlier) = searchReports earlier ++ searchReports later := by
  simp [searchReports]

/-- A search reported some events of itself between two arenas. -/
def Arena.Tells (arena : Arena) (events : List Event) (reached : Arena) : Prop :=
  ∃ entries, reached.log = entries ++ arena.log ∧ searchReports entries = events

namespace Arena.Tells

variable {solver : Solver} {first second third : Arena} {events later : List Event}

theorem refl (arena : Arena) : arena.Tells [] arena := ⟨[], rfl, rfl⟩

theorem trans (tells : first.Tells events second) (further : second.Tells later third) :
    first.Tells (events ++ later) third := by
  obtain ⟨entries, log, rfl⟩ := tells
  obtain ⟨more, second, rfl⟩ := further
  exact ⟨more ++ entries, by rw [second, log, List.append_assoc], searchReports_append more entries⟩

theorem silently (tells : first.Tells events second)
    (silent : second.Proceeds (fun _ entry => searchReports [entry] = []) third) :
    first.Tells events third := by
  refine silent.keeps (motive := fun third => first.Tells events third) ?_ tells
  rintro middle last step ⟨entries, log, rfl⟩
  obtain ⟨entry, further, none, -⟩ := step.exists_entry
  refine ⟨entry :: entries, by rw [further, log, List.cons_append], ?_⟩
  rw [← List.singleton_append, searchReports_append, none, List.append_nil]

theorem noted (tells : first.Tells events second) (traced : solver.settings.trace = true)
    (event : Event) (own : event.source = "tyknot::search" := by rfl) :
    first.Tells (events ++ [event]) (solver.noted event second) := by
  have one : second.Tells [event] (solver.noted event second) := by
    rw [Solver.noted, traced, Bool.not_true, Bool.and_false]
    exact ⟨[.reported event], rfl, by simp [searchReports, LogEntry.event?, own]⟩
  exact tells.trans one

end Arena.Tells

/-! ## 3. Runs -/

/-- What a part of a search reports if it is carried out with an outcome. The reports of the
parameters of a rule are the beginning of what is left of an attempt, and all of it if one of them
was not found. -/
def Task.Transcribed (depths : DepthCount) : {α : Type} → Task α → α → List Event → Prop
  | _, .goal _ sought branch depth, found, events =>
      Transcript depths (.goal depth (branch.subst.apply sought) found.isSome) events
  | _, .offers _ _ _ depth _, found, events =>
      Transcript depths (.attempts depth found.isSome) events
  | _, .build _ offer _ aim _ depth, found, events
  | _, .complete _ offer _ aim _ _ depth, found, events
  | _, .invoke offer _ aim _ _ _ depth, found, events =>
      Transcript depths (.trial depth offer.rule.toSignature aim found.isSome) events
  | _, .params _ rule depth _ _ _, none, events =>
      ∀ aim, Transcript depths (.trial depth rule aim false) events
  | _, .params _ rule depth _ _ _, some _, events => ∀ aim built rest,
      Transcript depths (.trial depth rule aim built) rest →
      Transcript depths (.trial depth rule aim built) (events ++ rest)

/-- The reports of a part of a search that is carried out are nested. -/
theorem Runs.transcribed {solver : Solver} (traced : solver.settings.trace = true) {α : Type}
    {task : Task α} {arena reached : Arena} {result : Except Halt α}
    (run : Runs solver task arena result reached) {outcome : α} (ended : result = .ok outcome) :
    ∃ events, arena.Tells events reached ∧ task.Transcribed solver.depths outcome events := by
  have start (arena : Arena) : arena.Tells [] arena := .refl arena
  induction run with
  | exhausted | tooDeep | cyclic | notDeferred | probeHalts | paramsHalt | paramHalts | noView
  | bodyFails | tiedBefore => cases ended
  | known same _ read =>
      cases ended
      subst same
      exact ⟨_, ((start _).silently (.recalled (.note .refl) read)).noted traced _, .known⟩
  | unfound same _ _ _ ih =>
      cases ended
      subst same
      obtain ⟨events, tells, attempts⟩ := ih rfl
      exact ⟨_, ((((start _).silently (.note .refl)).noted traced _).trans tells).noted traced _,
        .unfound attempts⟩
  | searched same _ _ found _ ih =>
      obtain ⟨events, tells, attempts⟩ := ih ended
      subst same
      obtain _ | value := outcome
      · exact absurd ended found
      · exact ⟨_, (((start _).silently (.note .refl)).noted traced _).trans tells, .found attempts⟩
  | noOffers =>
      cases ended
      exact ⟨_, start _, .noAttempts⟩
  | mismatch _ _ ih =>
      obtain ⟨events, tells, attempts⟩ := ih ended
      exact ⟨_, (((start _).silently (.tried .refl _ _ _)).noted traced _).trans tells,
        .moveOn .mismatch attempts⟩
  | leftOpen _ _ _ ih =>
      obtain ⟨events, tells, attempts⟩ := ih ended
      exact ⟨_, (((start _).silently (.tried .refl _ _ _)).noted traced _).trans tells,
        .moveOn .leftOpen attempts⟩
  | settles _ _ _ _ found ih =>
      obtain ⟨events, tells, trial⟩ := ih ended
      obtain _ | value := outcome
      · exact absurd ended found
      · exact ⟨_, (((start _).silently (.note (.tried .refl _ _ _))).noted traced _).trans tells,
          .settle (.trying trial)⟩
  | moveOn _ _ _ _ _ attempt ih =>
      obtain ⟨first, tells, trial⟩ := attempt rfl
      obtain ⟨rest, further, attempts⟩ := ih ended
      have tried := (((start _).silently (.note (.tried .refl _ _ _))).noted traced _).trans tells
      exact ⟨_, tried.trans further, .moveOn (.trying trial) attempts⟩
  | plain _ _ ih => exact ih ended
  | withCell _ _ _ _ probe ih | guarded _ _ _ probe ih =>
      obtain ⟨first, tells, goal⟩ := probe rfl
      obtain ⟨rest, further, trial⟩ := ih ended
      exact ⟨_, ((tells.silently (.note .refl)).trans further).silently (.leave .refl _ _),
        .inner goal trial⟩
  | paramsFail _ ih =>
      cases ended
      obtain ⟨events, tells, trial⟩ := ih rfl
      exact ⟨_, tells, trial _⟩
  | paramsSettled _ _ params ih =>
      obtain ⟨first, tells, before⟩ := params rfl
      obtain ⟨rest, further, trial⟩ := ih ended
      exact ⟨_, tells.trans further, before _ _ _ trial⟩
  | noParams =>
      cases ended
      exact ⟨_, start _, fun _ _ _ trial => trial⟩
  | paramFails _ ih =>
      cases ended
      obtain ⟨events, tells, goal⟩ := ih rfl
      exact ⟨_, tells.noted traced _, fun _ => .inner goal (.close .parameter)⟩
  | @paramFound _ _ _ _ _ _ _ _ _ _ _ result _ _ goal ih =>
      obtain ⟨first, tells, goal⟩ := goal rfl
      obtain halt | _ | settled := result
      · cases ended
      · cases ended
        obtain ⟨rest, further, trial⟩ := ih rfl
        exact ⟨_, (tells.silently .passing).trans further, fun aim => .inner goal (trial aim)⟩
      · cases ended
        obtain ⟨rest, further, before⟩ := ih rfl
        refine ⟨_, (tells.silently .passing).trans further, fun aim built last trial => ?_⟩
        rw [List.append_assoc]
        exact .inner goal (before aim built last trial)
  | slotOpen =>
      cases ended
      exact ⟨_, (start _).noted traced _, .close .slot⟩
  | declines _ _ ran =>
      cases ended
      exact ⟨_, ((start _).silently (.calling ran)).noted traced _, .close .declined⟩
  | built _ _ ran tied =>
      cases ended
      exact ⟨_, ((start _).silently (.settled (.calling ran) tied)).noted traced _, .close .built⟩

/-! ## 4. Whole searches -/

namespace Solver

variable {solver : Solver} {goal : Term} {values : List Value} {arena reached : Arena}

theorem enrollAll_tells {providers taken : Providers}
    (ran : (solver.enrollAll providers values).runFrom arena = (.ok taken, reached)) :
    arena.Tells [] reached := by
  induction values generalizing providers arena with
  | nil =>
      cases ran
      exact .refl _
  | cons value values ih =>
      by_cases bears : solver.registry.bearsRules value = true
      · simp only [enrollAll, bears, if_true, Search.runFrom_bind, runFrom_enroll] at ran
        exact ((Arena.Tells.refl arena).silently (.enrolled .refl _ _ _)).trans (ih ran)
      · simp [enrollAll, bears] at ran

/-- What the search for a goal reports is the passage of this goal. -/
theorem find_transcribed (traced : solver.settings.trace = true) {fuel depth : Nat} {sought : Term}
    {branch : Branch} {found : Option Found}
    (ran : (solver.find fuel sought branch depth).runFrom arena = (.ok found, reached)) :
    ∃ events, arena.Tells events reached ∧
      Transcript solver.depths (.goal depth (branch.subst.apply sought) found.isSome) events :=
  (Runs.of_find ran).transcribed traced rfl

/-- A whole search reports that it begins, and then the passage of its goal. -/
theorem Begins.transcribed {first : Arena} (begins : solver.Begins goal values arena first)
    (traced : solver.settings.trace = true) {fuel : Nat} {found : Option Found}
    (ended : (solver.find fuel goal (solver.startingBranch values) 0).runFrom first =
      (.ok found, reached)) :
    ∃ providers events, arena.Tells (.solving goal providers :: events) reached ∧
      Transcript solver.depths (.goal 0 goal found.isSome) events := by
  obtain ⟨events, tells, transcript⟩ := find_transcribed traced ended
  have top : (solver.startingBranch values).subst.apply goal = goal :=
    Substitution.apply_of_ground _ begins.ground
  rw [top] at transcript
  obtain ⟨-, started, start, rfl⟩ := begins
  rw [Solver.start, Search.runFrom_bind] at start
  split at start
  · next taken _ ran =>
      cases start
      exact ⟨_, events, ((enrollAll_tells ran).noted traced _).trans tells, transcript⟩
  · cases start

/-- A whole search for a goal comes to an end of its own: it gives a value, or the search for the
goal finds none. That there is no derivation is no such end if the body of a rule says so. -/
inductive Concludes (solver : Solver) (fuel : Nat) (goal : Term) (values : List Value)
    (arena : Arena) : Except Halt Value → Prop where
  | value {value : Value} : Concludes solver fuel goal values arena (.ok value)
  | notFound {first last : Arena} : solver.Begins goal values arena first →
      (solver.find fuel goal (solver.startingBranch values) 0).runFrom first = (.ok none, last) →
      Concludes solver fuel goal values arena (.error (.failed (.noDerivation goal)))

end Solver

/-- What a whole search for a goal reports: that it begins, the passage of the goal, and that the
goal is solved if it is found. -/
inductive WholeTranscript (depths : DepthCount) (goal : Term) : Bool → List Event → Prop where
  | solved {providers entries : Nat} {events : List Event} :
      Transcript depths (.goal 0 goal true) events →
      WholeTranscript depths goal true
        (.solving goal providers :: events ++ [.solved goal entries])
  | unsolved {providers : Nat} {events : List Event} :
      Transcript depths (.goal 0 goal false) events →
      WholeTranscript depths goal false (.solving goal providers :: events)

/-- Let progress be reported, and let a whole search give a value or find none for its goal. What
the search reports of itself is that it begins, then the nested passage of its goal, and last that
the goal is solved, exactly if there is a value. What is reported while any goal is looked for, from
any branch and at any depth, is such a passage as well, and the goal was found exactly if the
passage says that it is known or ends with the report that it is built. -/
theorem solve_reports_nested {solver : Solver} (traced : solver.settings.trace = true) {fuel : Nat}
    {goal : Term} {values : List Value} {arena reached : Arena} {result : Except Halt Value}
    (ran : (solver.solve fuel goal values).runFrom arena = (result, reached))
    (concludes : solver.Concludes fuel goal values arena result) :
    (∃ events, arena.Tells events reached ∧
      WholeTranscript solver.depths goal result.isOk events) ∧
    ∀ (inner depth : Nat) (sought : Term) (branch : Branch) (first last : Arena)
      (found : Option Found),
      (solver.find inner sought branch depth).runFrom first = (.ok found, last) →
      ∃ events, first.Tells events last ∧
        Transcript solver.depths (.goal depth (branch.subst.apply sought) found.isSome) events ∧
        (found.isSome = true ↔
          (∃ value, events = [.known depth (branch.subst.apply sought) value]) ∨
            ∃ rule aim value, events.getLast? = some (.built depth rule aim value)) := by
  refine ⟨?_, fun inner depth sought branch first last found ended => ?_⟩
  · cases concludes with
    | notFound begins ended =>
        obtain ⟨providers, events, tells, transcript⟩ := begins.transcribed traced ended
        rw [begins.solve_fails ended] at ran
        cases ran
        exact ⟨_, tells.silently (.note .refl), .unsolved transcript⟩
    | value =>
        rcases solver.begins_or_fails fuel goal values arena with
          ⟨first, begins⟩ | ⟨failure, -, failed⟩
        · rcases ended : (solver.find fuel goal (solver.startingBranch values) 0).runFrom first with
            ⟨halt | _ | found, last⟩
          · rw [begins.solve_halts ended] at ran
            cases ran
          · rw [begins.solve_fails ended] at ran
            cases ran
          · obtain ⟨providers, events, tells, transcript⟩ := begins.transcribed traced ended
            rw [begins.solve_finds ended] at ran
            cases ran
            exact ⟨_, tells.noted traced _, .solved transcript⟩
        · rw [ran] at failed
          cases failed
  · obtain ⟨events, tells, transcript⟩ := Solver.find_transcribed traced ended
    exact ⟨events, tells, transcript, transcript.succeeded_iff⟩

/-- A pair is built by its second rule: the first one needs a part that has no derivation. -/
theorem solve_reports_nested_pair : ∃ value reached,
    (knottingSolver.tracing true).settings.trace = true ∧
    ((knottingSolver.tracing true).solve 8 (.constant "Pair") [knottingHost]).runFrom
      ⟨⟨1, []⟩, 0, []⟩ = (.ok value, reached) ∧
    (knottingSolver.tracing true).Concludes 8 (.constant "Pair") [knottingHost] ⟨⟨1, []⟩, 0, []⟩
      (.ok value) ∧
    (∃ events, Arena.Tells ⟨⟨1, []⟩, 0, []⟩ events reached ∧
      WholeTranscript .word (.constant "Pair") true events) ∧
    ∀ (inner depth : Nat) (sought : Term) (branch : Branch) (first last : Arena)
      (found : Option Found),
      ((knottingSolver.tracing true).find inner sought branch depth).runFrom first =
        (.ok found, last) →
      ∃ events, first.Tells events last ∧
        Transcript .word (.goal depth (branch.subst.apply sought) found.isSome) events ∧
        (found.isSome = true ↔
          (∃ value, events = [.known depth (branch.subst.apply sought) value]) ∨
            ∃ rule aim value, events.getLast? = some (.built depth rule aim value)) := by
  have passed : ((knottingSolver.tracing true).solve 8 (.constant "Pair") [knottingHost]).passes
      ⟨⟨1, []⟩, 0, []⟩ (fun _ _ => true) = true := by decide +kernel
  obtain ⟨value, reached, ran, -⟩ := Search.exists_of_passes passed
  exact ⟨value, reached, rfl, ran, .value, solve_reports_nested rfl ran .value⟩

end Synthesis
