import Synthesis.Proofs.Layers
import Synthesis.Proofs.Rendering

/-!
# Usable settings

Settings are usable if a limit leaves room for at least one rule and if the placeholder is what
terms can be put under without spoiling their text. The default settings are usable, and so are they
under every section that a settings file or the environment may give. What a settings file may give
is checked before terms are read; the check accepts no name that terms would read in another way.

Results:
1. `isConstructorName_iff`: the names that the check accepts.
2. `Settings.Usable.of_layered`: what the environment and the defaults leave usable.
3. `Settings.usable_of_load`: all settings that are loaded are usable.
-/
namespace Synthesis

/-! ## 1. Usable settings and sections -/

/-- A limit leaves room for at least one rule. The placeholder is read as itself, and it may be put
around every term whose text is read as the term. -/
structure Settings.Usable (settings : Settings) : Prop where
  depth : ∀ limit, settings.maxDepth = some limit → 1 ≤ limit
  placeholder : Term.parse settings.placeholder = .ok (.constant settings.placeholder)
  goal : ∀ term : Term, Term.parse term.render = .ok term →
    Term.parse (term.under settings.placeholder).render = .ok (term.under settings.placeholder) ∧
      (term.under settings.placeholder).head? = some settings.placeholder

/-- What is given may come into usable settings. -/
structure Section.Usable (given : Section) : Prop where
  depth : ∀ limit, given.maxDepth = some limit → 1 ≤ limit
  placeholder : ∀ name, given.placeholder = some name → Term.ConstructorName name.toList

/-- The check of a placeholder accepts the names that start with an uppercase letter. -/
theorem isConstructorName_iff {name : String} : isConstructorName name = true ↔
    Term.NameFrom (fun c => c.isUpper = true) name.toList := by
  unfold isConstructorName
  cases name.toList with
  | nil => simp [Term.NameFrom]
  | cons first rest =>
      simp only [Bool.and_eq_true, List.all_eq_true, Bool.or_eq_true, beq_iff_eq, Term.NameFrom,
        Term.NameChar]

theorem Term.NameFrom.mono {start other : Char → Prop} (weaker : ∀ c, start c → other c)
    {name : List Char} (named : NameFrom start name) : NameFrom other name := by
  cases name with
  | nil => exact named
  | cons first rest => exact ⟨weaker first named.1, named.2⟩

theorem constructorName_of_check {name : String} (checked : isConstructorName name = true) :
    Term.ConstructorName name.toList :=
  (isConstructorName_iff.1 checked).mono fun _ => .inl

theorem Section.usable_empty : ({} : Section).Usable where
  depth _ none := by cases none
  placeholder _ none := by cases none

namespace SettingsFile

variable {format : String → Option SettingsFile} {file : SettingsFile}

/-- What a usable file gives may come into usable settings. -/
theorem usable_of_check (checked : file.check = .ok ()) :
    (file.engine.getD {}).Usable := by
  unfold check at checked
  cases engine : file.engine with
  | none => exact Section.usable_empty
  | some given =>
      simp only [engine] at checked
      split at checked
      · cases checked
      · next positive =>
          refine ⟨fun limit depth => ?_, fun name placeholder => ?_⟩
          · rw [Option.getD_some] at depth
            exact Nat.one_le_iff_ne_zero.2 fun zero => positive (zero ▸ depth)
          · rw [Option.getD_some] at placeholder
            simp only [placeholder] at checked
            split at checked
            · next accepted => exact constructorName_of_check accepted
            · cases checked

theorem check_of_parseAs {source : String} (accepted : parseAs format source = .ok file) :
    file.check = .ok () := by
  unfold parseAs at accepted
  split at accepted
  · cases accepted
  · next written =>
      split at accepted
      · next checked =>
          cases accepted
          exact checked
      · cases accepted

theorem check_of_load {files : FileSystem} {path : Path}
    (success : load format files path = .ok file) : file.check = .ok () := by
  unfold load at success
  split at success
  · cases success
  · cases success
  · next text _ =>
      cases parsed : parseAs format text with
      | error error =>
          rw [parsed] at success
          cases error <;> cases success
      | ok file' =>
          rw [parsed] at success
          cases success
          exact check_of_parseAs parsed

end SettingsFile

namespace Settings

theorem Usable.of_constructorName {settings : Settings}
    (depth : ∀ limit, settings.maxDepth = some limit → 1 ≤ limit)
    (named : Term.ConstructorName settings.placeholder.toList) : settings.Usable where
  depth := depth
  placeholder := by
    have spells := Term.Spells.constant Term.Blanks.nil named
    rw [String.ofList_toList] at spells
    exact Term.parse_of_sentence ⟨_, [], (List.append_nil _).symm, spells, Term.Blanks.nil⟩
  goal _ read := ⟨Term.parse_render_under read named, rfl⟩

/-! ## 2. Loaded settings -/

/-- The environment and the defaults leave usable what a usable section gives. -/
theorem Usable.of_layered {environment : Environment} {given : Section} {settings : Settings}
    (layered : Layered environment given settings) (usable : given.Usable) : settings.Usable := by
  refine .of_constructorName (fun limit depth => ?_) ?_
  · cases written : Environment.text? environment.maxDepth with
    | none =>
        have same : settings.maxDepth = given.maxDepth :=
          (layered.depth_of_file written).trans (by cases given.maxDepth <;> rfl)
        exact usable.depth limit (same.symm.trans depth)
    | some content =>
        obtain ⟨limit', ⟨-, -, -, -, -, -, -, positive, -⟩, same⟩ :=
          layered.depth_of_variable content written
        cases same.symm.trans depth
        exact positive
  · rw [layered.placeholder]
    cases named : given.placeholder with
    | none => exact constructorName_of_check (by decide)
    | some name => exact usable.placeholder name named

variable {format : String → Option SettingsFile} {files : FileSystem} {environment : Environment}

theorem usable_of_given {start : Path} {given : Section} {source : Option Path}
    (found : Given format files start given source) : given.Usable := by
  cases found with
  | file _ readsAs =>
      cases readsAs with
      | usable _ _ checked => exact SettingsFile.usable_of_check checked
  | nothing => exact Section.usable_empty

/-- What is loaded from one file is what a usable file gives under the environment. -/
theorem layered_of_loadFileAs {path : Path} {loaded : Loaded}
    (success : loadFileAs format files environment path = .ok loaded) :
    ∃ file : SettingsFile, file.check = .ok () ∧
      Layered environment (file.engine.getD {}) loaded.settings := by
  unfold loadFileAs at success
  cases load : SettingsFile.load format files path with
  | error =>
      rw [load] at success
      cases success
  | ok file =>
      refine ⟨file, SettingsFile.check_of_load load, ?_⟩
      cases overridden : environment.override file.settings with
      | error => simp [load, overridden, bind, Except.bind] at success
      | ok settings =>
          simp only [load, overridden, bind, Except.bind, pure, Except.pure,
            Except.ok.injEq] at success
          subst success
          rw [SettingsFile.settings_eq] at overridden
          exact Environment.override_ok_iff.1 overridden

/-- All settings that are loaded are usable, and so are those under every file that is accepted. -/
theorem usable_of_load (format : String → Option SettingsFile) (files : FileSystem)
    (environment : Environment) :
    (∀ start loaded, loadDirectoryAs format files environment start = .ok loaded →
      loaded.settings.Usable) ∧
    (∀ path loaded, loadFileAs format files environment path = .ok loaded →
      loaded.settings.Usable) ∧
    ∀ source file, SettingsFile.parseAs format source = .ok file → file.settings.Usable := by
  refine ⟨fun start loaded success => ?_, fun path loaded success => ?_,
    fun source file accepted => ?_⟩
  · have loads := loads_loadDirectoryAs format files environment start
    rw [success] at loads
    cases loads with
    | loaded found layered => exact .of_layered layered (usable_of_given found)
  · obtain ⟨file, checked, layered⟩ := layered_of_loadFileAs success
    exact .of_layered layered (SettingsFile.usable_of_check checked)
  · have layered : Layered {} (file.engine.getD {}) file.settings := by
      rw [SettingsFile.settings_eq]
      exact Environment.layered_of_override rfl
    exact .of_layered layered
      (SettingsFile.usable_of_check (SettingsFile.check_of_parseAs accepted))

theorem usable_of_load_nested :
    (loadDirectory nested { trace := some "no".toUTF8 } ⟨.root, ["home", "work"]⟩ =
        .ok ⟨⟨false, some 32, "Later"⟩, some ⟨.root, ["home", "tyknot.toml"]⟩⟩ ∧
      (⟨false, some 32, "Later"⟩ : Settings).Usable) ∧
    (∃ loaded, loadFile nested { maxDepth := some "7".toUTF8 } ⟨.root, ["home", "tyknot.toml"]⟩ =
        .ok loaded ∧ loaded.settings.Usable) ∧
    SettingsFile.parse "[engine]\nplaceholder = \"Later\"\n" =
        .ok ⟨some { placeholder := some "Later" }⟩ ∧
      (⟨true, none, "Later"⟩ : Settings).Usable := by
  have directory := loads_nested.loadDirectoryAs_eq
  have file : loadFile nested { maxDepth := some "7".toUTF8 } ⟨.root, ["home", "tyknot.toml"]⟩ =
      .ok ⟨⟨true, some 7, "Later"⟩, some ⟨.root, ["home", "tyknot.toml"]⟩⟩ := rfl
  have text : SettingsFile.parse "[engine]\nplaceholder = \"Later\"\n" =
      .ok ⟨some { placeholder := some "Later" }⟩ := rfl
  exact ⟨⟨directory, (usable_of_load _ _ _).1 _ _ directory⟩,
    ⟨_, file, (usable_of_load _ _ _).2.1 _ _ file⟩, text,
    (usable_of_load _ nested {}).2.2 _ _ text⟩

end Settings
end Synthesis
