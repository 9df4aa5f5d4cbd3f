import Synthesis.Proofs.Ascent

/-!
# Layers of settings

Settings come from the environment, from one settings file, and from the defaults, and each of them
is asked only for what the ones before it do not give. The file is the nearest one on the way up. If
it cannot be used, loading fails with what is wrong with it, and neither the environment nor the
defaults make up for that.

Results:
1. `Environment.depth?_eq_some_iff`: the texts that write a depth limit.
2. `Environment.override_ok_iff`, `Environment.override_error_iff`: what the environment does to the
   settings of a file.
3. `SettingsFile.readsAs_load`: what a file that is there is read as.
4. `Settings.loadDirectoryAs_eq_iff`: what loading from a directory gives.
-/
namespace Synthesis

/-! ## 1. The environment -/

/-- A text writes a depth limit: a positive number that fits a machine word, in ASCII digits, with
or without a plus sign. -/
def WritesDepth (content : String) (limit : Nat) : Prop :=
  ∃ sign digits, content.toList = sign ++ digits ∧ (sign = [] ∨ sign = ['+']) ∧ digits ≠ [] ∧
    (∀ c ∈ digits, c.isDigit = true) ∧ Nat.ofDigitChars 10 digits 0 = limit ∧
      0 < limit ∧ limit < UInt64.size

/-- Settings in which the environment comes before a section, and that before the defaults. -/
structure Layered (environment : Environment) (given : Section) (settings : Settings) : Prop where
  trace_of_variable : ∀ content, Environment.text? environment.trace = some content →
    settings.trace = Environment.isYes content
  trace_of_file : Environment.text? environment.trace = none →
    settings.trace = given.trace.getD Settings.default.trace
  depth_of_variable : ∀ content, Environment.text? environment.maxDepth = some content →
    ∃ limit, WritesDepth content limit ∧ settings.maxDepth = some limit
  depth_of_file : Environment.text? environment.maxDepth = none →
    settings.maxDepth = (given.maxDepth <|> Settings.default.maxDepth)
  placeholder : settings.placeholder = given.placeholder.getD Settings.default.placeholder

namespace Environment

variable {environment : Environment} {content : String} {limit : Nat}

theorem number?_eq_some_iff : number? content = some limit ↔
    ∃ sign digits, content.toList = sign ++ digits ∧ (sign = [] ∨ sign = ['+']) ∧ digits ≠ [] ∧
      (∀ c ∈ digits, c.isDigit = true) ∧ Nat.ofDigitChars 10 digits 0 = limit := by
  simp only [number?, Option.ite_none_right_eq_some, Bool.and_eq_true, Bool.not_eq_true',
    List.isEmpty_eq_false_iff, List.all_eq_true, Option.some.injEq, and_assoc]
  split
  · next rest same =>
      constructor
      · intro written
        exact ⟨['+'], rest, same, .inr rfl, written⟩
      · rintro ⟨sign, digits, same', rfl | rfl, some, isDigit, value⟩
        · rw [same, List.nil_append] at same'
          cases isDigit '+' (same' ▸ List.mem_cons_self)
        · rw [same] at same'
          cases same'
          exact ⟨some, isDigit, value⟩
  · next unsigned =>
      constructor
      · intro written
        exact ⟨[], content.toList, rfl, .inl rfl, written⟩
      · rintro ⟨sign, digits, same', rfl | rfl, written⟩
        · rwa [same']
        · exact absurd same' (unsigned digits)

theorem depth?_eq_some_iff : depth? content = some limit ↔ WritesDepth content limit := by
  have fits : (decide (0 < limit) && decide (limit ≤ greatestDepth)) = true ↔
      0 < limit ∧ limit < UInt64.size := by
    rw [Bool.and_eq_true, decide_eq_true_eq, decide_eq_true_eq]
    exact and_congr_right fun _ => Nat.le_sub_one_iff_lt (by decide)
  rw [depth?, Option.filter_eq_some_iff, fits, number?_eq_some_iff, WritesDepth]
  simp only [← exists_and_right, and_assoc]

theorem depth?_eq_none_iff : depth? content = none ↔ ∀ limit, ¬ WritesDepth content limit := by
  simp only [Option.eq_none_iff_forall_ne_some, ne_eq, depth?_eq_some_iff]

/-- The environment does not fit any settings if it gives a depth limit that is none. -/
theorem override_error_iff {settings : Settings} {error : LoadError} :
    environment.override settings = .error error ↔
      ∃ content, text? environment.maxDepth = some content ∧
        (∀ limit, ¬ WritesDepth content limit) ∧ error = .invalid (.depthVariable content) := by
  simp only [← depth?_eq_none_iff]
  unfold override given
  cases text? environment.maxDepth with
  | none => simp [pure, Except.pure]
  | some content =>
      cases depth : depth? content with
      | none => simp [depth, eq_comm]
      | some limit => simp [depth, pure, Except.pure]

theorem layered_of_override {given : Section} {settings : Settings}
    (success : environment.override (Settings.default.overlay given) = .ok settings) :
    Layered environment given settings := by
  unfold override Environment.given at success
  cases written : text? environment.maxDepth with
  | none =>
      simp only [written, pure, Except.pure, Except.ok.injEq] at success
      subst success
      constructor <;> simp_all [Settings.overlay]
  | some content =>
      cases depth : depth? content with
      | none => simp [written, depth] at success
      | some limit =>
          simp only [written, depth, pure, Except.pure, Except.ok.injEq] at success
          subst success
          have writes := depth?_eq_some_iff.1 depth
          constructor <;> simp_all [Settings.overlay]

end Environment

/-- The layers say what all settings are. -/
theorem Layered.unique {environment : Environment} {given : Section} {settings others : Settings}
    (layered : Layered environment given settings) (layered' : Layered environment given others) :
    settings = others := by
  have trace : settings.trace = others.trace := by
    cases written : Environment.text? environment.trace with
    | none => rw [layered.trace_of_file written, layered'.trace_of_file written]
    | some content =>
        rw [layered.trace_of_variable content written, layered'.trace_of_variable content written]
  have depth : settings.maxDepth = others.maxDepth := by
    cases written : Environment.text? environment.maxDepth with
    | none => rw [layered.depth_of_file written, layered'.depth_of_file written]
    | some content =>
        obtain ⟨limit, writes, same⟩ := layered.depth_of_variable content written
        obtain ⟨limit', writes', same'⟩ := layered'.depth_of_variable content written
        rw [same, same', ← Environment.depth?_eq_some_iff.2 writes,
          Environment.depth?_eq_some_iff.2 writes']
  have placeholder := layered.placeholder.trans layered'.placeholder.symm
  cases settings
  cases others
  simp_all

/-- The environment comes before the section of a file, and that before the defaults. -/
theorem Environment.override_ok_iff {environment : Environment} {given : Section}
    {settings : Settings} : environment.override (Settings.default.overlay given) = .ok settings ↔
      Layered environment given settings := by
  refine ⟨layered_of_override, fun layered => ?_⟩
  cases loaded : environment.override (Settings.default.overlay given) with
  | error =>
      obtain ⟨content, written, unfit, -⟩ := override_error_iff.1 loaded
      obtain ⟨limit, writes, -⟩ := layered.depth_of_variable content written
      exact absurd writes (unfit limit)
  | ok others => rw [(layered_of_override loaded).unique layered]

/-! ## 2. The file -/

variable {format : String → Option SettingsFile} {files : FileSystem} {environment : Environment}
  {start path : Path}

theorem FileSystem.lookup_of_readText {error : PathError}
    (failure : files.readText path = .error (.path error)) : files.lookup path = .error error := by
  unfold readText at failure
  split at failure
  · next leads =>
      cases failure
      exact leads
  · split at failure
    · cases failure
    · split at failure
      · cases failure
      · split at failure <;> cases failure

theorem FileSystem.readText_ne_missing (present : files.isPresent path = true) :
    files.readText path ≠ .error (.path .missing) := by
  intro missing
  rw [isPresent, lookup_of_readText missing] at present
  cases present

namespace SettingsFile

/-- What the file at a path is read as, if it is there and its text is written in some format. -/
inductive ReadsAs (format : String → Option SettingsFile) (files : FileSystem) (path : Path) :
    Except LoadError SettingsFile → Prop
  | unreadable {error : ReadError} : files.readText path = .error error →
      ReadsAs format files path (.error (.unreadable error))
  | malformed {text : String} : files.readText path = .ok text → format text = none →
      ReadsAs format files path (.error (.malformed path))
  | invalid {text : String} {file : SettingsFile} {setting : InvalidSetting} :
      files.readText path = .ok text → format text = some file → file.check = .error setting →
      ReadsAs format files path (.error (.invalid setting))
  | usable {text : String} {file : SettingsFile} :
      files.readText path = .ok text → format text = some file → file.check = .ok () →
      ReadsAs format files path (.ok file)

theorem readsAs_load (present : files.isPresent path = true) :
    ReadsAs format files path (load format files path) := by
  unfold load parseAs
  split
  · next missing => exact absurd missing (FileSystem.readText_ne_missing present)
  · next unreadable => exact .unreadable unreadable
  · next text read =>
      cases written : format text with
      | none => exact .malformed read written
      | some file =>
          cases checked : file.check with
          | error => simpa only [checked] using .invalid read written checked
          | ok => simpa only [checked] using .usable read written checked

theorem ReadsAs.load_eq {outcome : Except LoadError SettingsFile}
    (readsAs : ReadsAs format files path outcome) (present : files.isPresent path = true) :
    load format files path = outcome := by
  unfold load parseAs
  cases readsAs with
  | unreadable read =>
      rw [read]
      split
      · next missing => exact absurd (read.trans missing) (FileSystem.readText_ne_missing present)
      · next other =>
          cases other
          rfl
      · next none => cases none
  | malformed read written => simp [read, written]
  | invalid read written checked | usable read written checked => simp [read, written, checked]

/-- The settings under a file are what it gives over the defaults. -/
theorem settings_eq (file : SettingsFile) :
    file.settings = Settings.default.overlay (file.engine.getD {}) := by
  unfold settings
  cases file.engine <;> rfl

end SettingsFile

/-! ## 3. Loading -/

namespace Settings

open SettingsFile (Nearest NoneAbove ReadsAs)

/-- What the nearest settings file gives, and the path of it. -/
inductive Given (format : String → Option SettingsFile) (files : FileSystem) (start : Path) :
    Section → Option Path → Prop
  | file {path : Path} {file : SettingsFile} : Nearest files start path →
      ReadsAs format files path (.ok file) →
      Given format files start (file.engine.getD {}) (some path)
  | nothing : NoneAbove files start → Given format files start {} none

/-- What loading settings from a directory gives. -/
inductive Loads (format : String → Option SettingsFile) (files : FileSystem)
    (environment : Environment) (start : Path) : Except LoadError Loaded → Prop
  /-- The nearest file cannot be used. -/
  | fileRefused {path : Path} {error : LoadError} : Nearest files start path →
      ReadsAs format files path (.error error) → Loads format files environment start (.error error)
  /-- The depth limit of the environment cannot be used. -/
  | variableRefused {given : Section} {source : Option Path} {content : String} :
      Given format files start given source →
      Environment.text? environment.maxDepth = some content →
      (∀ limit, ¬ WritesDepth content limit) →
      Loads format files environment start (.error (.invalid (.depthVariable content)))
  | loaded {given : Section} {source : Option Path} {settings : Settings} :
      Given format files start given source → Layered environment given settings →
      Loads format files environment start (.ok ⟨settings, source⟩)

theorem loadDirectoryAs_of_nearest (nearest : Nearest files start path) :
    loadDirectoryAs format files environment start = loadFileAs format files environment path := by
  rw [loadDirectoryAs, SettingsFile.firstPresent_eq_some_iff.2 nearest]

theorem loadDirectoryAs_of_refused {error : LoadError} (nearest : Nearest files start path)
    (refused : ReadsAs format files path (.error error)) :
    loadDirectoryAs format files environment start = .error error := by
  rw [loadDirectoryAs_of_nearest nearest, loadFileAs, refused.load_eq nearest.isPresent]
  rfl

/-- A file that can be used leaves only the environment to look at. -/
theorem Given.loadDirectoryAs_eq {given : Section} {source : Option Path}
    (found : Given format files start given source) :
    loadDirectoryAs format files environment start =
      (environment.override (Settings.default.overlay given)).map (⟨·, source⟩) := by
  cases found with
  | file nearest readsAs =>
      rw [loadDirectoryAs_of_nearest nearest, loadFileAs, readsAs.load_eq nearest.isPresent,
        ← SettingsFile.settings_eq]
      rfl
  | nothing none =>
      rw [loadDirectoryAs, SettingsFile.firstPresent_eq_none_iff.2 none]
      rfl

theorem Given.loads {given : Section} {source : Option Path}
    (found : Given format files start given source) :
    Loads format files environment start (loadDirectoryAs format files environment start) := by
  rw [found.loadDirectoryAs_eq]
  cases loaded : environment.override (Settings.default.overlay given) with
  | error =>
      obtain ⟨content, written, unfit, rfl⟩ := Environment.override_error_iff.1 loaded
      exact .variableRefused found written unfit
  | ok settings => exact .loaded found (Environment.override_ok_iff.1 loaded)

theorem loads_loadDirectoryAs (format : String → Option SettingsFile) (files : FileSystem)
    (environment : Environment) (start : Path) :
    Loads format files environment start (loadDirectoryAs format files environment start) := by
  cases first : SettingsFile.firstPresent files start.ancestors with
  | none => exact (Given.nothing (SettingsFile.firstPresent_eq_none_iff.1 first)).loads
  | some path =>
      have nearest := SettingsFile.firstPresent_eq_some_iff.1 first
      have readsAs : ReadsAs format files path _ := SettingsFile.readsAs_load nearest.isPresent
      cases load : SettingsFile.load format files path with
      | error =>
          rw [load] at readsAs
          rw [loadDirectoryAs_of_refused nearest readsAs]
          exact .fileRefused nearest readsAs
      | ok file =>
          rw [load] at readsAs
          exact (Given.file nearest readsAs).loads

theorem Loads.loadDirectoryAs_eq {outcome : Except LoadError Loaded}
    (loads : Loads format files environment start outcome) :
    loadDirectoryAs format files environment start = outcome := by
  cases loads with
  | fileRefused nearest refused => exact loadDirectoryAs_of_refused nearest refused
  | variableRefused found written unfit =>
      rw [found.loadDirectoryAs_eq, Environment.override_error_iff.2 ⟨_, written, unfit, rfl⟩]
      rfl
  | loaded found layered =>
      rw [found.loadDirectoryAs_eq, Environment.override_ok_iff.2 layered]
      rfl

/-- Loading from a directory gives just what the layers say: the nearest settings file on the way up
is used, or its fault is reported, and the environment comes before it. A depth limit of the
environment that is none makes loading fail, whatever the file is. The way up goes over all paths
that have the parts of the start without the last ones. -/
theorem loadDirectoryAs_eq_iff (format : String → Option SettingsFile) (files : FileSystem)
    (environment : Environment) (start : Path) :
    (∀ outcome, loadDirectoryAs format files environment start = outcome ↔
      Loads format files environment start outcome) ∧
    (∀ content, Environment.text? environment.maxDepth = some content →
      (∀ limit, ¬ WritesDepth content limit) →
      ∃ error, loadDirectoryAs format files environment start = .error error) ∧
    (∀ level, start.climb level = none ↔ start.parts.length < level) ∧
    ∀ level directory, start.climb level = some directory → start.Above level directory := by
  have loads := loads_loadDirectoryAs format files environment start
  refine ⟨fun outcome => ⟨fun same => same ▸ loads, Loads.loadDirectoryAs_eq⟩, ?_,
    start.climb_eq_none_iff, fun _ _ => Path.climb_above⟩
  intro content written unfit
  generalize loadDirectoryAs format files environment start = outcome at loads
  cases loads with
  | fileRefused | variableRefused => exact ⟨_, rfl⟩
  | loaded _ layered =>
      obtain ⟨limit, writes, -⟩ := layered.depth_of_variable content written
      exact absurd writes (unfit limit)

/-- Two directories, of which the outer one has a settings file that cannot be used and the inner
one has another. -/
def nested : FileSystem where
  lookup path :=
    if path = ⟨.root, ["home", "tyknot.toml"]⟩ then
      .ok (.file "[engine]\nmax_depth = 32\nplaceholder = \"Later\"\n".toUTF8)
    else if path = ⟨.root, ["tyknot.toml"]⟩ then .ok (.file "[engine]\nmax_depth = 0\n".toUTF8)
    else .error .missing

/-- The inner file is used below the inner directory, and reports are switched off. -/
theorem loads_nested :
    Loads SettingsFile.ofToml? nested { trace := some "no".toUTF8 } ⟨.root, ["home", "work"]⟩
      (.ok ⟨⟨false, some 32, "Later"⟩, some ⟨.root, ["home", "tyknot.toml"]⟩⟩) := by
  have nearest : Nearest nested ⟨.root, ["home", "work"]⟩ ⟨.root, ["home", "tyknot.toml"]⟩ := by
    refine ⟨1, ⟨.root, ["home"]⟩, by decide, by decide, by decide, ?_⟩
    decide
  have usable : ReadsAs SettingsFile.ofToml? nested ⟨.root, ["home", "tyknot.toml"]⟩
      (.ok ⟨some { maxDepth := some 32, placeholder := some "Later" }⟩) := by
    have text : nested.readText ⟨.root, ["home", "tyknot.toml"]⟩ =
        .ok "[engine]\nmax_depth = 32\nplaceholder = \"Later\"\n" := rfl
    exact .usable text (by decide +kernel) rfl
  have written : Environment.text? (some "no".toUTF8) = some "no" := rfl
  refine .loaded (.file nearest usable)
    ⟨fun content written' => ?_, fun none => ?_, (fun _ none => by cases none), fun _ => rfl, rfl⟩
  · cases written.symm.trans written'
    decide +kernel
  · cases written.symm.trans none

theorem loadDirectoryAs_eq_iff_nested :
    loadDirectory nested { trace := some "no".toUTF8 } ⟨.root, ["home", "work"]⟩ =
      .ok ⟨⟨false, some 32, "Later"⟩, some ⟨.root, ["home", "tyknot.toml"]⟩⟩ ∧
    Environment.text? (some "-1".toUTF8) = some "-1" ∧ (∀ limit, ¬ WritesDepth "-1" limit) ∧
    ∃ error, loadDirectory nested { maxDepth := some "-1".toUTF8 } ⟨.root, ["home", "work"]⟩ =
      .error error := by
  have written : Environment.text? (some "-1".toUTF8) = some "-1" := rfl
  have unfit := Environment.depth?_eq_none_iff.1 (show Environment.depth? "-1" = none by decide)
  exact ⟨((loadDirectoryAs_eq_iff _ _ _ _).1 _).2 loads_nested, written, unfit,
    (loadDirectoryAs_eq_iff _ _ { maxDepth := some "-1".toUTF8 } _).2.1 "-1" written unfit⟩

end Settings
end Synthesis
