import DeclGen.Command
import DeclGen.Proofs.Emission.InTurn
import DeclGen.Proofs.Model.Translation
import DeclGen.Proofs.Settings.Valid

/-!
# DeclGen.Proofs.Command.Stages

What a generation goes through before its output, and what is said where it ends.

1. There are four stages (`Stage`): the settings, the model's file, the targets of
   its overrides and the types of its elements.
2. A stage that is at fault in a world complains of it, in the same words around
   what is wrong (`Stage.Complains`).  The first complaint ends the generation
   (`FirstComplaint`).
3. The complaints are the descriptions of the errors that the stages end with
   (`Stage.complains_iff`).
-/

namespace DeclGen

variable {σ : Type}

/-! ## words -/

/-- The words for what is wrong with a file. -/
inductive FileError.Words : FileError → String → Prop
  | notFound : Words notFound "No such file or directory (os error 2)"
  | alreadyExists : Words alreadyExists "File exists (os error 17)"
  | notDirectory : Words notDirectory "Not a directory (os error 20)"
  | isDirectory : Words isDirectory "Is a directory (os error 21)"
  | nameTooLong : Words nameTooLong "File name too long (os error 36)"
  | zeroInName : Words zeroInName "file name contained an unexpected NUL byte"
  | notText : Words notText "stream did not contain valid UTF-8"
  | other (text : String) : Words (other text) text

/-- The words for what is wrong with settings. -/
inductive SettingsFlaw.Words : SettingsFlaw → String → Prop
  | emptySource : Words emptySource "substitution with empty source"
  | blankInSource (source : String) :
      Words (blankInSource source) ("substitution source `" ++ source ++ "` contains whitespace")
  | emptyTarget (source : String) :
      Words (emptyTarget source) ("substitution for `" ++ source ++ "` has empty target")
  | indentOutOfRange (indent : Nat) :
      Words (indentOutOfRange indent) ("indent must be between 1 and 8, got " ++ toString indent)

/-- The words for what is wrong with the text of a type. -/
inductive Native.Fault.Cause.Words : Native.Fault.Cause → String → Prop
  | nestingTooDeep : Words nestingTooDeep "type nesting too deep"
  | unexpectedCharacter (c : Char) :
      Words (unexpectedCharacter c) ("unexpected character `" ++ c.toString ++ "`")
  | unexpectedEnd : Words unexpectedEnd "unexpected end of input"
  | expected (token : List Char) :
      Words (expected token) ("expected `" ++ String.ofList token ++ "`")
  | expectedItemEnd : Words expectedItemEnd "expected `,` or `)` in tuple"
  | expectedLength : Words expectedLength "expected array length"
  | expectedIdentifier : Words expectedIdentifier "expected identifier"
  | expectedLifetime : Words expectedLifetime "expected lifetime name"
  | trailingInput : Words trailingInput "unexpected trailing input"

theorem FileError.Words.message_eq {cause : FileError} {words : String} (h : cause.Words words) :
    cause.message = words := by
  cases h <;> rfl

theorem SettingsFlaw.Words.message_eq {flaw : SettingsFlaw} {words : String}
    (h : flaw.Words words) : flaw.message = "Invalid configuration: " ++ words := by
  cases h <;> rfl

theorem Native.Fault.Cause.Words.message_eq {cause : Native.Fault.Cause} {words : String}
    (h : cause.Words words) : cause.message = words := by
  cases h <;> rfl

theorem FileError.exists_words (cause : FileError) : ∃ words, cause.Words words := by
  cases cause <;> exact ⟨_, by constructor⟩

theorem SettingsFlaw.exists_words (flaw : SettingsFlaw) : ∃ words, flaw.Words words := by
  cases flaw <;> exact ⟨_, by constructor⟩

theorem Native.Fault.Cause.exists_words (cause : Native.Fault.Cause) :
    ∃ words, cause.Words words := by
  cases cause <;> exact ⟨_, by constructor⟩

/-! ## files -/

/-- What reading a file gives in a world. -/
def FileSystem.readIn (fs : FileSystem (StateM σ)) (path : Path) (w : σ) :
    Except FileError String := (runIn (fs.read path) w).1

/-- A file has a model, in the format that its path says. -/
def FileSystem.HasModel (fs : FileSystem (StateM σ)) (path : Path) (w : σ) (model : Model) : Prop :=
  ∃ text, fs.readIn path w = .ok text ∧ (ModelFormat.ofPath path).parse? text = some model

variable {fs : FileSystem (StateM σ)} {path : Path} {w : σ}

/-- Settings are loaded from what is read. -/
theorem Settings.load_eq : (runIn (load fs path) w).1 = match fs.readIn path w with
    | .ok document => (parse document).mapError .settings
    | .error cause => .error (.file cause) := by
  unfold FileSystem.readIn load
  rcases hread : runIn (fs.read path) w with ⟨cause | document, w₁⟩
  · rw [runIn_bind_of_error (runIn_adapt_eq_error.mpr ⟨cause, hread, rfl⟩)]
  · rw [runIn_bind_of_ok (runIn_adapt_eq_ok.mpr hread)]
    cases hparse : parse document <;> simp only [hparse] <;> rfl

/-- A model is loaded from what is read. -/
theorem Model.load_eq : (runIn (load fs path) w).1 = match fs.readIn path w with
    | .ok text => match (ModelFormat.ofPath path).parse? text with
      | some model => .ok model
      | none => .error (.format path (.ofPath path))
    | .error cause => .error (.file path cause) := by
  unfold FileSystem.readIn load
  rcases hread : runIn (fs.read path) w with ⟨cause | text, w₁⟩
  · rw [runIn_bind_of_error (runIn_adapt_eq_error.mpr ⟨cause, hread, rfl⟩)]
  · rw [runIn_bind_of_ok (runIn_adapt_eq_ok.mpr hread)]
    cases hparse : (ModelFormat.ofPath path).parse? text <;> simp only [hparse] <;> rfl

theorem Model.load_eq_ok {model : Model} :
    (runIn (load fs path) w).1 = .ok model ↔ fs.HasModel path w model := by
  rw [load_eq, FileSystem.HasModel]
  cases fs.readIn path w with
  | error cause => simp
  | ok text => cases hparse : (ModelFormat.ofPath path).parse? text <;> simp [hparse]

/-- Settings that are loaded have passed. -/
theorem Settings.validate_of_load {s : Settings} (h : (runIn (load fs path) w).1 = .ok s) :
    s.validate = .ok () := by
  rw [load_eq] at h
  split at h
  · next document hread =>
      cases hparse : parse document with
      | ok settings =>
          rw [hparse] at h
          obtain rfl := Except.ok.inj h
          exact validate_of_parse hparse
      | error cause =>
          rw [hparse] at h
          contradiction
  · contradiction

/-- A generator is loaded if settings are, or if none are given. -/
theorem Generator.failure?_load {config : Option Path} :
    failure? (runIn (load fs config) w).1 = config.bind fun path =>
      (failure? (runIn (Settings.load fs path) w).1).map (.settingsFile path) := by
  cases config with
  | none => rfl
  | some path =>
      rw [load, Option.bind_some]
      rcases hload : runIn (Settings.load fs path) w with ⟨cause | s, w₁⟩
      · rw [runIn_bind_of_error (runIn_adapt_eq_error.mpr ⟨cause, hload, rfl⟩)]
        rfl
      · have hvalid : s.validate = .ok () := Settings.validate_of_load (by rw [hload])
        have hmake : ofSettings s = .ok ⟨.ofSettings s.resolver, s.emit⟩ := by
          rw [ofSettings, hvalid]
        rw [runIn_bind_of_ok (runIn_adapt_eq_ok.mpr hload)]
        simp only [hmake]
        rfl

namespace Command

/-! ## stages -/

/-- What a generation goes through before its output. -/
inductive Stage where
  /-- The settings are loaded and validated. -/
  | settings
  /-- The model is read and parsed. -/
  | modelFile
  /-- The targets of the overrides are compiled. -/
  | targets
  /-- The types of the elements are parsed. -/
  | types
  deriving DecidableEq, Repr

/-- The stages in their order. -/
def stages : List Stage := [.settings, .modelFile, .targets, .types]

/-- What a stage complains of in a world.  Targets and types are those of the model
that the file has. -/
inductive Stage.Complains (fs : FileSystem (StateM σ)) (a : Arguments) (w : σ) :
    Stage → String → Prop
  | settingsFile {path : Path} {cause : FileError} {words : String} (option : a.config = some path)
      (read : fs.readIn path w = .error cause) (wording : cause.Words words) :
      Complains fs a w settings
        ("Failed to load " ++ path.text ++ ": I/O error: " ++ words ++ ": " ++ words)
  | settingsDocument {path : Path} {document : String} (option : a.config = some path)
      (read : fs.readIn path w = .ok document)
      (fault : Settings.parse document = .error .syntaxOrShape) :
      Complains fs a w settings ("Failed to load " ++ path.text ++ ": TOML parse error")
  | settingsFlaw {path : Path} {document words : String} {flaw : SettingsFlaw}
      (option : a.config = some path) (read : fs.readIn path w = .ok document)
      (fault : Settings.parse document = .error (.flaw flaw)) (wording : flaw.Words words) :
      Complains fs a w settings
        ("Failed to load " ++ path.text ++ ": Invalid configuration: " ++ words)
  | modelFile {cause : FileError} {words : String} (read : fs.readIn a.model w = .error cause)
      (wording : cause.Words words) :
      Complains fs a w modelFile ("Failed to read model " ++ a.model.text ++ ": " ++ words)
  | json {text : String} (read : fs.readIn a.model w = .ok text)
      (format : a.model.hasExtension "json" = true) (fault : Model.parseJson? text = none) :
      Complains fs a w modelFile ("Failed to parse JSON model " ++ a.model.text ++ ": not a model")
  | yaml {text : String} (read : fs.readIn a.model w = .ok text)
      (format : a.model.hasExtension "json" = false) (fault : Model.parseYaml? text = none) :
      Complains fs a w modelFile ("Failed to parse YAML model " ++ a.model.text ++ ": not a model")
  | target {model : Model} {before after : List Override} {o : Override}
      (holds : fs.HasModel a.model w model) (split : model.overrides = before ++ o :: after)
      (compile : ∀ p ∈ before, p.Compiles) (fault : ¬ o.Compiles) :
      Complains fs a w targets ("Invalid override target `" ++ o.target ++ "`: not a pattern")
  | type {model : Model} {before after : List ElementDecl} {d : ElementDecl}
      {cause : Native.ParseError} {words : String} (holds : fs.HasModel a.model w model)
      (split : model.elementDecls = before ++ d :: after) (parse : ∀ c ∈ before, c.Parses)
      (fault : Native.parse d.type = .error cause) (wording : cause.cause.Words words) :
      Complains fs a w types ("Invalid type `" ++ d.type ++ "` for " ++ d.path ++
        ": invalid type at offset " ++ toString cause.position ++ ": " ++ words)

/-- The complaint of the first stage that has one. -/
def FirstComplaint (fs : FileSystem (StateM σ)) (a : Arguments) (w : σ) (text : String) : Prop :=
  ∃ before stage after, stages = before ++ stage :: after ∧
    (∀ earlier ∈ before, ∀ t, ¬ earlier.Complains fs a w t) ∧ stage.Complains fs a w text

/-! ## faults -/

/-- The fault of a stage in a world, with which it ends. -/
def Stage.fault? (fs : FileSystem (StateM σ)) (a : Arguments) (w : σ) :
    Stage → Option GenerationError
  | settings => failure? (runIn (Generator.load fs a.config) w).1
  | modelFile => (failure? (runIn (Model.load fs a.model) w).1).map .modelFile
  | targets => do
    let model ← (runIn (Model.load fs a.model) w).1.toOption
    (model.overrides.findSome? Override.fault?).map .model
  | types => do
    let model ← (runIn (Model.load fs a.model) w).1.toOption
    (model.elementDecls.findSome? ElementDecl.fault?).map .model

/-- The fault of the first stage that has one. -/
def firstFault? (fs : FileSystem (StateM σ)) (a : Arguments) (w : σ) : Option GenerationError :=
  stages.findSome? (Stage.fault? fs a w)

variable {a : Arguments} {error : GenerationError} {text : String}

theorem firstFault?_eq : firstFault? fs a w =
    (Stage.fault? fs a w .settings).or ((Stage.fault? fs a w .modelFile).or
      ((Stage.fault? fs a w .targets).or (Stage.fault? fs a w .types))) := by
  have hstages : stages = [.settings] ++ ([.modelFile] ++ ([.targets] ++ [.types])) := rfl
  simp only [firstFault?, hstages, List.findSome?_append, List.findSome?_singleton]

theorem firstFault?_of_settings
    (h : (runIn (Generator.load fs a.config) w).1 = .error error) :
    firstFault? fs a w = some error := by
  rw [firstFault?_eq, Stage.fault?, h]
  rfl

theorem firstFault?_of_modelFile {g : Generator} {cause : ModelFileError}
    (hload : (runIn (Generator.load fs a.config) w).1 = .ok g)
    (h : (runIn (Model.load fs a.model) w).1 = .error cause) :
    firstFault? fs a w = some (.modelFile cause) := by
  rw [firstFault?_eq, Stage.fault?, Stage.fault?, hload, h]
  rfl

/-- The faults of a model that is loaded are those of its targets and then those
of its types. -/
theorem firstFault?_of_model {g : Generator} {model : Model}
    (hload : (runIn (Generator.load fs a.config) w).1 = .ok g)
    (h : (runIn (Model.load fs a.model) w).1 = .ok model) :
    firstFault? fs a w = (failure? (model.toInterfaces :
      Except ModelError (List (Interface (StateM σ))))).map .model := by
  rw [failure?_toInterfaces, Option.map_or, firstFault?_eq]
  simp only [Stage.fault?, hload, h]
  rfl

theorem Stage.fault?_settings : fault? fs a w settings = some error ↔ ∃ path, a.config = some path ∧
    ((∃ cause, fs.readIn path w = .error cause ∧ error = .settingsFile path (.file cause)) ∨
      ∃ document cause, fs.readIn path w = .ok document ∧ Settings.parse document = .error cause ∧
        error = .settingsFile path (.settings cause)) := by
  rw [fault?, Generator.failure?_load]
  cases a.config with
  | none => simp
  | some path =>
      simp only [Settings.load_eq, Option.bind_some, Option.some.injEq, exists_eq_left']
      cases fs.readIn path w with
      | error cause => simp [failure?, eq_comm (a := error)]
      | ok document =>
          cases hparse : Settings.parse document <;>
            simp [failure?, hparse, Except.mapError, eq_comm (a := error)]

theorem Stage.fault?_modelFile : fault? fs a w modelFile = some error ↔
    (∃ cause, fs.readIn a.model w = .error cause ∧ error = .modelFile (.file a.model cause)) ∨
      ∃ text, fs.readIn a.model w = .ok text ∧ (ModelFormat.ofPath a.model).parse? text = none ∧
        error = .modelFile (.format a.model (.ofPath a.model)) := by
  rw [fault?, Model.load_eq]
  cases fs.readIn a.model w with
  | error cause => simp [failure?, eq_comm]
  | ok text =>
      cases hparse : (ModelFormat.ofPath a.model).parse? text <;> simp [failure?, hparse, eq_comm]

/-- Where a model is loaded, the file has it. -/
theorem toOption_load_eq_some {model : Model} :
    (runIn (Model.load fs a.model) w).1.toOption = some model ↔ fs.HasModel a.model w model := by
  rw [← Model.load_eq_ok]
  cases (runIn (Model.load fs a.model) w).1 <;> simp [Except.toOption]

/-- Where the items of a loaded model are checked, the first fault of an item is
the fault. -/
theorem fault?_items {ι : Type} {items : Model → List ι} {itemFault? : ι → Option ModelError} :
    (do let model ← (runIn (Model.load fs a.model) w).1.toOption
        ((items model).findSome? itemFault?).map GenerationError.model) = some error ↔
      ∃ model, fs.HasModel a.model w model ∧ ∃ before item after,
        items model = before ++ item :: after ∧
          (∀ earlier ∈ before, itemFault? earlier = none) ∧
            ∃ cause, itemFault? item = some cause ∧ error = .model cause := by
  simp only [Option.bind_eq_bind, Option.bind_eq_some_iff, toOption_load_eq_some,
    Option.map_eq_some_iff, List.findSome?_eq_some_iff]
  constructor
  · rintro ⟨model, holds, cause, ⟨before, item, after, split, fault, quiet⟩, rfl⟩
    exact ⟨model, holds, before, item, after, split, quiet, cause, fault, rfl⟩
  · rintro ⟨model, holds, before, item, after, split, quiet, cause, fault, rfl⟩
    exact ⟨model, holds, cause, ⟨before, item, after, split, fault, quiet⟩, rfl⟩

theorem Stage.fault?_targets : fault? fs a w targets = some error ↔ ∃ model,
    fs.HasModel a.model w model ∧ ∃ before o after, model.overrides = before ++ o :: after ∧
      (∀ p ∈ before, p.Compiles) ∧ ¬ o.Compiles ∧ error = .model (.target o.target) := by
  have hcause : ∀ o : Override, (∃ cause, o.fault? = some cause ∧ error = .model cause) ↔
      ¬ o.Compiles ∧ error = .model (.target o.target) := by
    simp [Override.fault?_eq_some, and_assoc]
  simp only [fault?, fault?_items, hcause, Override.fault?_eq_none]

theorem Stage.fault?_types : fault? fs a w types = some error ↔ ∃ model,
    fs.HasModel a.model w model ∧ ∃ before d after, model.elementDecls = before ++ d :: after ∧
      (∀ c ∈ before, c.Parses) ∧ ∃ cause, Native.parse d.type = .error cause ∧
        error = .model (.type d.type d.path cause) := by
  have hcause : ∀ d : ElementDecl, (∃ cause, d.fault? = some cause ∧ error = .model cause) ↔
      ∃ cause, Native.parse d.type = .error cause ∧
        error = .model (.type d.type d.path cause) := by
    simp [ElementDecl.fault?_eq_some]
  simp only [fault?, fault?_items, hcause, ElementDecl.fault?_eq_none]

/-! ## descriptions -/

section Describe

open GenerationError

variable {words : String}

theorem describe_settingsFile {cause : FileError} (h : cause.Words words) (path : Path) :
    (settingsFile path (.file cause)).describe =
      "Failed to load " ++ path.text ++ ": I/O error: " ++ words ++ ": " ++ words := by
  simp [describe, messages, SettingsFileError.messages, h.message_eq, String.ext_iff]

theorem describe_settingsDocument (path : Path) :
    (settingsFile path (.settings .syntaxOrShape)).describe =
      "Failed to load " ++ path.text ++ ": TOML parse error" := by
  simp [describe, messages, SettingsFileError.messages, String.ext_iff]

theorem describe_settingsFlaw {flaw : SettingsFlaw} (h : flaw.Words words) (path : Path) :
    (settingsFile path (.settings (.flaw flaw))).describe =
      "Failed to load " ++ path.text ++ ": Invalid configuration: " ++ words := by
  simp [describe, messages, SettingsFileError.messages, h.message_eq, String.ext_iff]

theorem describe_modelFile {cause : FileError} (h : cause.Words words) (path : Path) :
    (modelFile (.file path cause)).describe =
      "Failed to read model " ++ path.text ++ ": " ++ words := by
  simp [describe, messages, ModelFileError.messages, h.message_eq]

theorem describe_format (path : Path) (format : ModelFormat) :
    (modelFile (.format path format)).describe =
      "Failed to parse " ++ format.name ++ " model " ++ path.text ++ ": not a model" := by
  simp [describe, messages, ModelFileError.messages, String.ext_iff]

theorem describe_target (target : String) :
    (model (.target target)).describe =
      "Invalid override target `" ++ target ++ "`: not a pattern" := by
  simp [describe, messages, ModelError.messages, String.ext_iff]

theorem describe_type {cause : Native.ParseError} (h : cause.cause.Words words)
    (source path : String) : (model (.type source path cause)).describe =
      "Invalid type `" ++ source ++ "` for " ++ path ++ ": invalid type at offset " ++
        toString cause.position ++ ": " ++ words := by
  have hmessage : cause.message =
      "invalid type at offset " ++ toString cause.position ++ ": " ++ words := by
    obtain rfl := h.message_eq
    rfl
  -- the number is a text like any other
  generalize toString cause.position = position at hmessage ⊢
  simp [describe, messages, ModelError.messages, hmessage, String.ext_iff]

end Describe

/-! ## complaints -/

/-- A complaint of a stage is the description of its fault. -/
theorem Stage.Complains.exists_fault {stage : Stage} (h : stage.Complains fs a w text) :
    ∃ error, stage.fault? fs a w = some error ∧ error.describe = text := by
  cases h with
  | settingsFile option read wording =>
      exact ⟨_, fault?_settings.mpr ⟨_, option, .inl ⟨_, read, rfl⟩⟩,
        describe_settingsFile wording _⟩
  | settingsDocument option read fault =>
      exact ⟨_, fault?_settings.mpr ⟨_, option, .inr ⟨_, _, read, fault, rfl⟩⟩,
        describe_settingsDocument _⟩
  | settingsFlaw option read fault wording =>
      exact ⟨_, fault?_settings.mpr ⟨_, option, .inr ⟨_, _, read, fault, rfl⟩⟩,
        describe_settingsFlaw wording _⟩
  | modelFile read wording =>
      exact ⟨_, fault?_modelFile.mpr (.inl ⟨_, read, rfl⟩), describe_modelFile wording _⟩
  | json read format fault =>
      have hformat : ModelFormat.ofPath a.model = .json := if_pos format
      refine ⟨_, fault?_modelFile.mpr (.inr ⟨_, read, by rwa [hformat], rfl⟩), ?_⟩
      rw [hformat, describe_format]
      rfl
  | yaml read format fault =>
      have hformat : ModelFormat.ofPath a.model = .yaml := if_neg (by simp [format])
      refine ⟨_, fault?_modelFile.mpr (.inr ⟨_, read, by rwa [hformat], rfl⟩), ?_⟩
      rw [hformat, describe_format]
      rfl
  | target holds split compile fault =>
      exact ⟨_, fault?_targets.mpr ⟨_, holds, _, _, _, split, compile, fault, rfl⟩,
        describe_target _⟩
  | type holds split parse fault wording =>
      exact ⟨_, fault?_types.mpr ⟨_, holds, _, _, _, split, parse, _, fault, rfl⟩,
        describe_type wording _ _⟩

/-- A stage complains of its fault. -/
theorem Stage.complains_of_fault? {stage : Stage} (h : stage.fault? fs a w = some error) :
    stage.Complains fs a w error.describe := by
  cases stage with
  | settings =>
      obtain ⟨path, option, ⟨cause, read, rfl⟩ | ⟨document, cause, read, fault, rfl⟩⟩ :=
        fault?_settings.mp h
      · obtain ⟨words, wording⟩ := cause.exists_words
        rw [describe_settingsFile wording]
        exact .settingsFile option read wording
      · cases cause with
        | syntaxOrShape =>
            rw [describe_settingsDocument]
            exact .settingsDocument option read fault
        | flaw flaw =>
            obtain ⟨words, wording⟩ := flaw.exists_words
            rw [describe_settingsFlaw wording]
            exact .settingsFlaw option read fault wording
  | modelFile =>
      obtain ⟨cause, read, rfl⟩ | ⟨text, read, fault, rfl⟩ := fault?_modelFile.mp h
      · obtain ⟨words, wording⟩ := cause.exists_words
        rw [describe_modelFile wording]
        exact .modelFile read wording
      · rw [describe_format]
        cases format : a.model.hasExtension "json" with
        | true =>
            have hformat : ModelFormat.ofPath a.model = .json := if_pos format
            rw [hformat] at fault ⊢
            exact .json read format fault
        | false =>
            have hformat : ModelFormat.ofPath a.model = .yaml := if_neg (by simp [format])
            rw [hformat] at fault ⊢
            exact .yaml read format fault
  | targets =>
      obtain ⟨model, holds, before, o, after, split, compile, fault, rfl⟩ :=
        fault?_targets.mp h
      rw [describe_target]
      exact .target holds split compile fault
  | types =>
      obtain ⟨model, holds, before, d, after, split, parse, cause, fault, rfl⟩ :=
        fault?_types.mp h
      obtain ⟨words, wording⟩ := cause.cause.exists_words
      rw [describe_type wording]
      exact .type holds split parse fault wording

/-- The complaints of a stage are the descriptions of its faults. -/
theorem Stage.complains_iff {stage : Stage} : stage.Complains fs a w text ↔
    ∃ error, stage.fault? fs a w = some error ∧ error.describe = text := by
  constructor
  · exact fun h => h.exists_fault
  · rintro ⟨error, hfault, rfl⟩
    exact complains_of_fault? hfault

/-- The first complaint is the description of the first fault. -/
theorem firstComplaint_of_firstFault? (h : firstFault? fs a w = some error) :
    FirstComplaint fs a w error.describe := by
  obtain ⟨before, stage, after, hstages, hfault, hbefore⟩ := List.findSome?_eq_some_iff.mp h
  refine ⟨before, stage, after, hstages, fun earlier hearlier t ht => ?_,
    Stage.complains_iff.mpr ⟨error, hfault, rfl⟩⟩
  obtain ⟨error', herror', -⟩ := Stage.complains_iff.mp ht
  rw [hbefore earlier hearlier] at herror'
  contradiction

/-- Without a fault no stage has a complaint. -/
theorem not_complains_of_firstFault? (h : firstFault? fs a w = none) (stage : Stage)
    (text : String) : ¬ stage.Complains fs a w text := by
  intro hcomplains
  obtain ⟨error, herror, -⟩ := Stage.complains_iff.mp hcomplains
  have hmem : stage ∈ stages := by cases stage <;> simp [stages]
  rw [List.findSome?_eq_none_iff.mp h stage hmem] at herror
  contradiction

end Command

end DeclGen
