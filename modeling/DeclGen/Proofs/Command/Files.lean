import DeclGen.Command
import DeclGen.Proofs.FileTree.Frame
import DeclGen.Proofs.Generation.Append

/-!
# DeclGen.Proofs.Command.Files

What a run of the program does to the files.

1. Settings and models are loaded, and declarations are generated from them,
   by reading alone (`Generator.keepsWorld_generateFrom`).
2. Directories are made and a file is written after all of this has succeeded,
   so that an error from before finds the files as they were
   (`Generator.isOutput_of_generateFile`).
3. The command prints what its generation gives, or nothing
   (`Command.run_generate`).
-/

namespace DeclGen

variable {σ ε α β : Type}

/-! ## actions that leave the world alone -/

/-- An action leaves the world as it was, whether it answers or fails. -/
def KeepsWorld (x : ExceptT ε (StateM σ) α) : Prop := ∀ w, (runIn x w).2 = w

theorem KeepsWorld.eq {x : ExceptT ε (StateM σ) α} (h : KeepsWorld x) {w w' : σ}
    {result : Except ε α} (hrun : runIn x w = (result, w')) : w' = w := by
  have hw := h w
  rwa [hrun] at hw

theorem keepsWorld_pure (a : α) : KeepsWorld (pure a : ExceptT ε (StateM σ) α) := fun _ => rfl

theorem keepsWorld_throw (error : ε) : KeepsWorld (throw error : ExceptT ε (StateM σ) α) :=
  fun _ => rfl

/-- A result that is known leaves the world alone. -/
theorem keepsWorld_lift (result : Except ε α) :
    KeepsWorld (liftM result : ExceptT ε (StateM σ) α) := fun _ => rfl

theorem KeepsWorld.adapt {ε' : Type} {x : ExceptT ε (StateM σ) α} (h : KeepsWorld x)
    (f : ε → ε') : KeepsWorld (x.adapt f) := fun w => by
  rw [runIn_adapt]
  exact h w

theorem KeepsWorld.bind {x : ExceptT ε (StateM σ) α} {f : α → ExceptT ε (StateM σ) β}
    (hx : KeepsWorld x) (hf : ∀ a, KeepsWorld (f a)) : KeepsWorld (x >>= f) := by
  intro w
  rcases hrun : runIn x w with ⟨error | a, w₁⟩
  · rw [runIn_bind_of_error hrun]
    exact hx.eq hrun
  · rw [runIn_bind_of_ok hrun, hf a w₁]
    exact hx.eq hrun

section Reading

variable {fs : FileSystem (StateM σ)} (hread : ∀ path, KeepsWorld (fs.read path))
include hread

theorem Settings.keepsWorld_load (path : Path) : KeepsWorld (load fs path) := by
  refine ((hread path).adapt _).bind fun document => ?_
  cases parse document with
  | ok settings => exact keepsWorld_pure settings
  | error cause => exact keepsWorld_throw _

theorem Model.keepsWorld_load (path : Path) : KeepsWorld (load fs path) := by
  refine ((hread path).adapt _).bind fun text => ?_
  cases (ModelFormat.ofPath path).parse? text with
  | some model => exact keepsWorld_pure model
  | none => exact keepsWorld_throw _

namespace Generator

theorem keepsWorld_load (path : Option Path) : KeepsWorld (load fs path) := by
  cases path with
  | some path =>
      exact ((Settings.keepsWorld_load hread path).adapt _).bind fun s => keepsWorld_lift _
  | none => exact (keepsWorld_pure _).bind fun s => keepsWorld_lift _

omit hread in
theorem keepsWorld_generate (g : Generator) (model : Model) (source time : String) :
    KeepsWorld (g.generate model source time : ExceptT GenerationError (StateM σ) Generated) := by
  intro w
  obtain ⟨result, hrun⟩ := g.exists_gives w model source time
  exact congrArg Prod.snd hrun

/-- Generating from a file only reads. -/
theorem keepsWorld_generateFrom (g : Generator) (model : Path) (time : String) :
    KeepsWorld (g.generateFrom fs model time) :=
  ((Model.keepsWorld_load hread model).adapt _).bind fun m =>
    g.keepsWorld_generate m model.text time

end Generator

end Reading

/-! ## the output -/

/-- An error is one of the output: its directory cannot be made, or it cannot be
written. -/
def GenerationError.isOutput (out : Path) : GenerationError → Bool
  | .directory path _ => out.parent? = some path
  | .output path _ => path = out
  | _ => false

namespace Generator

variable {fs : FileSystem (StateM σ)}

theorem isOutput_of_makeRoom {out : Path} {w w' : σ} {error : GenerationError}
    (h : runIn (makeRoom fs out) w = (.error error, w')) : error.isOutput out := by
  unfold makeRoom at h
  split at h
  · next parent hparent =>
      split at h
      · simp at h
      · obtain ⟨cause, -, rfl⟩ := runIn_adapt_eq_error.mp h
        simp [GenerationError.isOutput, hparent]
  · simp at h

theorem isOutput_of_write {out : Path} {text : String} {w w' : σ} {error : GenerationError}
    (h : runIn ((fs.write out text).adapt (.output out)) w = (.error error, w')) :
    error.isOutput out := by
  obtain ⟨cause, -, rfl⟩ := runIn_adapt_eq_error.mp h
  simp [GenerationError.isOutput]

/-- An error of a generation to a file is one of the output, or leaves the world
alone. -/
theorem isOutput_of_generateFile (hread : ∀ path, KeepsWorld (fs.read path)) {g : Generator}
    {model out : Path} {time : String} {w w' : σ} {error : GenerationError}
    (h : runIn (g.generateFile fs model out time) w = (.error error, w')) :
    w' = w ∨ error.isOutput out := by
  rcases runIn_bind_eq_error.mp h with hgenerate | ⟨generated, w₁, -, h⟩
  · exact .inl ((g.keepsWorld_generateFrom hread model time).eq hgenerate)
  · rcases runIn_bind_eq_error.mp h with hroom | ⟨⟨⟩, w₂, -, h⟩
    · exact .inr (isOutput_of_makeRoom hroom)
    · rcases runIn_bind_eq_error.mp h with hwrite | ⟨⟨⟩, w₃, -, h⟩
      · exact .inr (isOutput_of_write hwrite)
      · simp at h

/-- A generation to a file that succeeds generates, makes room and writes. -/
theorem generateFile_eq_ok {g : Generator} {model out : Path} {time : String} {w w' : σ}
    {report : Report} (h : runIn (g.generateFile fs model out time) w = (.ok report, w')) :
    ∃ generated w₁ w₂, runIn (g.generateFrom fs model time) w = (.ok generated, w₁) ∧
      runIn (makeRoom fs out) w₁ = (.ok (), w₂) ∧
      runIn (fs.write out generated.content) w₂ = (.ok (), w') ∧ report = generated.report := by
  obtain ⟨generated, w₁, hgenerate, h⟩ := runIn_bind_eq_ok.mp h
  obtain ⟨⟨⟩, w₂, hroom, h⟩ := runIn_bind_eq_ok.mp h
  obtain ⟨⟨⟩, w₃, hwrite, h⟩ := runIn_bind_eq_ok.mp h
  obtain ⟨⟨⟩, ⟨⟩⟩ := Prod.mk.inj h
  exact ⟨generated, w₁, w₂, hgenerate, hroom, runIn_adapt_eq_ok.mp hwrite, rfl⟩

end Generator

/-! ## files in a tree -/

namespace FileTree

variable {t t' : FileTree}

theorem keepsWorld_read (path : Path) : KeepsWorld (fileSystem.read path) := fun t => by
  rw [runIn_read]

/-- Directories are made on the way of a file's parent. -/
theorem grows_makeRoom {out : Path} {result : Except GenerationError Unit}
    (h : runIn (Generator.makeRoom fileSystem out) t = (result, t')) :
    Grows (fun other => ∃ parent, out.parent? = some parent ∧ t.OnWay parent other) t t' := by
  unfold Generator.makeRoom at h
  split at h
  · next parent hparent =>
      split at h
      · obtain ⟨-, rfl⟩ := Prod.mk.inj h
        exact .refl t
      · have hgrows : Grows (t.OnWay parent) t t' := by
          rw [runIn_adapt] at h
          obtain ⟨-, rfl⟩ := Prod.mk.inj h
          exact grows_createDirectories rfl
        exact hgrows.mono fun other hother => ⟨parent, hparent, hother⟩
  · obtain ⟨-, rfl⟩ := Prod.mk.inj h
    exact .refl t

/-- A generation to a file leaves the tree with this file, which holds what is
generated from the tree before. -/
theorem written_of_generateFile {g : Generator} {model out : Path} {time : String}
    {report : Report} (h : runIn (g.generateFile fileSystem model out time) t = (.ok report, t')) :
    ∃ generated, runIn (g.generateFrom fileSystem model time) t = (.ok generated, t) ∧
      report = generated.report ∧ t.Written out generated.content t' := by
  obtain ⟨generated, t₁, t₂, hgenerate, hroom, hwrite, hreport⟩ := Generator.generateFile_eq_ok h
  obtain rfl := (g.keepsWorld_generateFrom keepsWorld_read model time).eq hgenerate
  exact ⟨generated, hgenerate, hreport, written_of_grows (grows_makeRoom hroom) hwrite⟩

end FileTree

/-! ## the command -/

namespace Command

variable {fs : FileSystem (StateM σ)} {time : String} {config : Option Path} {args : List String}

@[simp] theorem ofArgs_generate (args : List String) :
    Request.ofArgs ("generate" :: args) = .generate args := by simp [Request.ofArgs]

/-- Arguments that are refused end the run. -/
theorem run_of_refused {error : ArgumentError} (h : Arguments.parse config args = .error error)
    (w : σ) : (run fs time config ("generate" :: args)).run w = (.ofError error.message, w) := by
  rw [run, ofArgs_generate]
  simp only [h]
  rfl

/-- The command prints what its generation gives, or the error that it ends with. -/
theorem run_generate {a : Arguments} (h : Arguments.parse config args = .ok a) (w : σ) :
    (run fs time config ("generate" :: args)).run w =
      match runIn (generate fs time a) w with
      | (.ok text, w') => (⟨text, "", 0⟩, w')
      | (.error error, w') => (.ofError error.describe, w') := by
  rw [run, ofArgs_generate]
  simp only [h, StateT.run_bind]
  unfold runIn
  rcases (generate fs time a).run.run w with ⟨error | text, w'⟩ <;> rfl

/-- The run of a command ends as its generation does, or with refused arguments. -/
theorem run_cases {w w' : σ} {outcome : Outcome}
    (h : (run fs time config ("generate" :: args)).run w = (outcome, w')) :
    (∃ error : ArgumentError, Arguments.parse config args = .error error ∧
        outcome = .ofError error.message ∧ w' = w) ∨
    ∃ a, Arguments.parse config args = .ok a ∧
      ((∃ error, runIn (generate fs time a) w = (.error error, w') ∧
          outcome = .ofError error.describe) ∨
        ∃ text, runIn (generate fs time a) w = (.ok text, w') ∧ outcome = ⟨text, "", 0⟩) := by
  cases hparse : Arguments.parse config args with
  | error error =>
      rw [run_of_refused hparse] at h
      obtain ⟨rfl, rfl⟩ := Prod.mk.inj h
      exact .inl ⟨error, rfl, rfl, rfl⟩
  | ok a =>
      rw [run_generate hparse] at h
      refine .inr ⟨a, rfl, ?_⟩
      rcases hrun : runIn (generate fs time a) w with ⟨error | text, w₁⟩
      · rw [hrun] at h
        obtain ⟨rfl, rfl⟩ := Prod.mk.inj h
        exact .inl ⟨error, rfl, rfl⟩
      · rw [hrun] at h
        obtain ⟨rfl, rfl⟩ := Prod.mk.inj h
        exact .inr ⟨text, rfl, rfl⟩

/-- An error of a command is one of its output, or leaves the world alone. -/
theorem isOutput_of_generate (hread : ∀ path, KeepsWorld (fs.read path)) {a : Arguments}
    {w w' : σ} {error : GenerationError}
    (h : runIn (generate fs time a) w = (.error error, w')) :
    w' = w ∨ ∃ out, a.out = some out ∧ error.isOutput out := by
  have hload : KeepsWorld (Generator.load fs a.config) := Generator.keepsWorld_load hread a.config
  rcases runIn_bind_eq_error.mp h with hfail | ⟨g, w₁, hok, houtput⟩
  · exact .inl (hload.eq hfail)
  · obtain rfl := hload.eq hok
    cases hout : a.out with
    | none =>
        rw [hout] at houtput
        rcases runIn_bind_eq_error.mp houtput with hfail | ⟨generated, w₂, -, hpure⟩
        · exact .inl ((g.keepsWorld_generateFrom hread a.model time).eq hfail)
        · simp at hpure
    | some out =>
        rw [hout] at houtput
        rcases runIn_bind_eq_error.mp houtput with hfail | ⟨report, w₂, -, hpure⟩
        · exact (Generator.isOutput_of_generateFile hread hfail).imp_right fun herror =>
            ⟨out, rfl, herror⟩
        · simp at hpure

open FileTree in
/-- A command that succeeds leaves its output in the tree, or prints it. -/
theorem written_of_generate {a : Arguments} {t t' : FileTree} {text : String}
    (h : runIn (generate fileSystem time a) t = (.ok text, t')) :
    ∃ g generated, runIn (Generator.load fileSystem a.config) t = (.ok g, t) ∧
      runIn (g.generateFrom fileSystem a.model time) t = (.ok generated, t) ∧
      match a.out with
      | some out => text = generated.report.summary ∧ t.Written out generated.content t'
      | none => text = generated.content ∧ t' = t := by
  obtain ⟨g, t₁, hload, houtput⟩ := runIn_bind_eq_ok.mp h
  obtain rfl := (Generator.keepsWorld_load keepsWorld_read a.config).eq hload
  cases hout : a.out with
  | none =>
      rw [hout] at houtput
      obtain ⟨generated, t₂, hgenerate, hpure⟩ := runIn_bind_eq_ok.mp houtput
      obtain rfl := (g.keepsWorld_generateFrom keepsWorld_read a.model time).eq hgenerate
      obtain ⟨⟨⟩, ⟨⟩⟩ := Prod.mk.inj hpure
      exact ⟨g, generated, hload, hgenerate, rfl, rfl⟩
  | some out =>
      rw [hout] at houtput
      obtain ⟨report, t₂, hfile, hpure⟩ := runIn_bind_eq_ok.mp houtput
      obtain ⟨⟨⟩, ⟨⟩⟩ := Prod.mk.inj hpure
      obtain ⟨generated, hgenerate, rfl, hwritten⟩ := written_of_generateFile hfile
      exact ⟨g, generated, hload, hgenerate, rfl, hwritten⟩

open FileTree in
/-- **A run that fails leaves the files alone, and one that succeeds changes only
its output.**  Reading from the file system changes nothing.

1. A generation to a file that fails leaves everything as it was, unless the
   error is one of the output itself.
2. So does the command, which then prints nothing to the standard output and
   exits with 1.
3. It exits with 0 if and only if the arguments are read and the generation
   succeeds.
4. In a tree of files, a generation to a file that succeeds writes this file, and
   changes nothing else but directories that were missing on the way to it.
5. So does the command, and nothing at all if no output is given. -/
theorem files_of_run (fs : FileSystem (StateM σ)) (hread : ∀ path, KeepsWorld (fs.read path))
    (time : String) (config : Option Path) :
    (∀ (g : Generator) model out w error w',
      runIn (g.generateFile fs model out time) w = (.error error, w') →
        w' = w ∨ error.isOutput out) ∧
    (∀ args w outcome w', (run fs time config ("generate" :: args)).run w = (outcome, w') →
      outcome.exitCode ≠ 0 → outcome.exitCode = 1 ∧ outcome.stdout = "" ∧
        (w' = w ∨ ∃ a out error, Arguments.parse config args = .ok a ∧ a.out = some out ∧
          runIn (generate fs time a) w = (.error error, w') ∧ error.isOutput out)) ∧
    (∀ args w outcome w', (run fs time config ("generate" :: args)).run w = (outcome, w') →
      (outcome.exitCode = 0 ↔ ∃ a text, Arguments.parse config args = .ok a ∧
        runIn (generate fs time a) w = (.ok text, w'))) ∧
    (∀ (g : Generator) model out t report t',
      runIn (g.generateFile fileSystem model out time) t = (.ok report, t') →
        ∃ generated, runIn (g.generateFrom fileSystem model time) t = (.ok generated, t) ∧
          report = generated.report ∧ t.Written out generated.content t') ∧
    (∀ args t outcome t', (run fileSystem time config ("generate" :: args)).run t = (outcome, t') →
      outcome.exitCode = 0 → ∃ a g generated, Arguments.parse config args = .ok a ∧
        runIn (Generator.load fileSystem a.config) t = (.ok g, t) ∧
        runIn (g.generateFrom fileSystem a.model time) t = (.ok generated, t) ∧
        match a.out with
        | some out => outcome.stdout = generated.report.summary ∧ t.Written out generated.content t'
        | none => outcome.stdout = generated.content ∧ t' = t) := by
  refine ⟨fun g model out w error w' => Generator.isOutput_of_generateFile hread, ?_, ?_,
    fun g model out t report t' => written_of_generateFile, ?_⟩
  · intro args w outcome w' h hfail
    rcases run_cases h with ⟨error, -, rfl, hw⟩ | ⟨a, hparse, ⟨error, hrun, rfl⟩ | ⟨text, -, rfl⟩⟩
    · exact ⟨rfl, rfl, .inl hw⟩
    · refine ⟨rfl, rfl, (isOutput_of_generate hread hrun).imp_right ?_⟩
      rintro ⟨out, hout, herror⟩
      exact ⟨a, out, error, hparse, hout, hrun, herror⟩
    · exact absurd rfl hfail
  · intro args w outcome w' h
    rcases run_cases h with
      ⟨error, hparse, rfl, -⟩ | ⟨a, hparse, ⟨error, hrun, rfl⟩ | ⟨text, hrun, rfl⟩⟩
    · simp [Outcome.ofError, hparse]
    · simp [Outcome.ofError, hparse, hrun]
    · simp [hparse, hrun]
  · intro args t outcome t' h hzero
    rcases run_cases h with ⟨error, -, rfl, -⟩ | ⟨a, hparse, ⟨error, -, rfl⟩ | ⟨text, hrun, rfl⟩⟩
    · simp [Outcome.ofError] at hzero
    · simp [Outcome.ofError] at hzero
    · obtain ⟨g, generated, hload, hgenerate, hwritten⟩ := written_of_generate hrun
      exact ⟨a, g, generated, hparse, hload, hgenerate, hwritten⟩

/-- A tree with a model in which a type is none. -/
def brokenModel : FileTree where
  entries := [(["orders.json"], .file ("\x7b\"interfaces\": [\x7b\"name\": \"Order\", " ++
    "\"members\": [\x7b\"name\": \"id\", \"type\": \"?\"\x7d]\x7d]\x7d").toUTF8)]

open FileTree in
/-- The model is kept, although the output is to be put in its place. -/
theorem files_of_run_brokenModel :
    ∃ outcome, (run fileSystem "today" none
        ["generate", "orders.json", "--out", "orders.json"]).run brokenModel =
          (outcome, brokenModel) ∧ outcome.exitCode = 1 ∧ outcome.stdout = "" := by
  let a : Arguments := ⟨⟨"orders.json"⟩, none, some ⟨"orders.json"⟩⟩
  have hparse : Arguments.parse none ["orders.json", "--out", "orders.json"] = .ok a := rfl
  have hcode : ((run fileSystem "today" none
      ["generate", "orders.json", "--out", "orders.json"]).run brokenModel).1.exitCode ≠ 0 := by
    decide +kernel
  have hinput : (match (runIn (generate fileSystem "today" a) brokenModel).1 with
      | .error error => !error.isOutput ⟨"orders.json"⟩
      | .ok _ => false) = true := by decide +kernel
  rcases hrun : (run fileSystem "today" none
    ["generate", "orders.json", "--out", "orders.json"]).run brokenModel with ⟨outcome, t'⟩
  rw [hrun] at hcode
  obtain ⟨-, hfail, -⟩ := files_of_run fileSystem keepsWorld_read "today" none
  obtain ⟨hexit, hstdout, rfl | ⟨a', out, error, hparse', hout, hrun', herror⟩⟩ :=
    hfail _ _ _ _ hrun hcode
  · exact ⟨outcome, rfl, hexit, hstdout⟩
  · obtain rfl := Except.ok.inj (hparse.symm.trans hparse')
    obtain rfl := Option.some.inj hout
    simp [hrun', herror] at hinput

end Command

end DeclGen
