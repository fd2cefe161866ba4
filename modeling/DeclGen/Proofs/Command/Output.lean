import DeclGen.Proofs.Command.Arguments
import DeclGen.Proofs.Command.Files
import DeclGen.Proofs.Command.Stages

/-!
# DeclGen.Proofs.Command.Output

A generation that prints its declarations, and the same one with a file to write
them to.

1. Both go through the same stages before their output, and end with the same
   complaint, or have the same declarations behind a header with the time
   (`runIn_produce`).
2. One prints them and the other stores them, wherever the file is
   (`run_with_output`).
-/

namespace DeclGen

variable {σ : Type}

/-! ## the output -/

/-- The directory of a file is made, if its path names one. -/
def MakesRoom (fs : FileSystem (StateM σ)) (out : Path) (w w' : σ) : Prop :=
  match out.parent? with
  | some parent =>
    if parent.text = "" then w' = w else runIn (fs.createDirectories parent) w = (.ok (), w')
  | none => w' = w

theorem makesRoom_iff {fs : FileSystem (StateM σ)} {out : Path} {w w' : σ} :
    MakesRoom fs out w w' ↔ runIn (Generator.makeRoom fs out) w = (.ok (), w') := by
  unfold MakesRoom Generator.makeRoom
  cases out.parent? with
  | none => simp [eq_comm (a := w)]
  | some parent =>
      by_cases hempty : parent.text = ""
      · simp [hempty, eq_comm (a := w)]
      · simp [hempty, runIn_adapt_eq_ok]

/-- A text is put into a file, for which the directory is made before. -/
def Stores (fs : FileSystem (StateM σ)) (out : Path) (text : String) (w w' : σ) : Prop :=
  ∃ w₁, MakesRoom fs out w w₁ ∧ runIn (fs.write out text) w₁ = (.ok (), w')

/-- Any text can be put into a file. -/
def Writable (fs : FileSystem (StateM σ)) (out : Path) (w : σ) : Prop :=
  ∀ text, ∃ w', Stores fs out text w w'

/-- What is stored in a tree of files is read back, and nothing else has changed. -/
theorem FileTree.read_of_stores {t t' : FileTree} {out : Path} {text : String}
    (h : Stores fileSystem out text t t') : t'.readText out = .ok text ∧ t.Written out text t' := by
  obtain ⟨t₁, hroom, hwrite⟩ := h
  exact ⟨readText_of_write hwrite,
    written_of_grows (grows_makeRoom (makesRoom_iff.mp hroom)) hwrite⟩

namespace Command

variable {fs : FileSystem (StateM σ)} {a : Arguments} {w : σ} {config : Option Path}
  {args : List String}

/-! ## declarations -/

/-- The declarations of a command, before their output. -/
def produce (fs : FileSystem (StateM σ)) (time : String) (a : Arguments) :
    ExceptT GenerationError (StateM σ) Generated := do
  let g ← Generator.load fs a.config
  g.generateFrom fs a.model time

/-- A text is that of the declarations of a command: those of its model, under its
settings. -/
def Declares (fs : FileSystem (StateM σ)) (a : Arguments) (w : σ) (text : String) : Prop :=
  ∃ g model, runIn (Generator.load fs a.config) w = (.ok g, w) ∧
    runIn (Model.load fs a.model) w = (.ok model, w) ∧ g.Declares w model text

/-- The declarations of a command are there at any time, or the first fault is. -/
theorem runIn_produce (hread : ∀ path, KeepsWorld (fs.read path)) (a : Arguments) (w : σ) :
    (∃ error, firstFault? fs a w = some error ∧
      ∀ time, runIn (produce fs time a) w = (.error error, w)) ∨
    (firstFault? fs a w = none ∧ ∃ text report, Declares fs a w text ∧
      ∀ time, runIn (produce fs time a) w =
        (.ok ⟨header a.model.text time ++ text, report⟩, w)) := by
  rcases hload : runIn (Generator.load fs a.config) w with ⟨error | g, w₁⟩
  · obtain rfl := (Generator.keepsWorld_load hread a.config).eq hload
    exact .inl ⟨error, firstFault?_of_settings (by rw [hload]),
      fun time => runIn_bind_of_error hload⟩
  obtain rfl := (Generator.keepsWorld_load hread a.config).eq hload
  have hgenerate : ∀ time, runIn (produce fs time a) w₁ =
      runIn (g.generateFrom fs a.model time) w₁ := fun time => runIn_bind_of_ok hload
  rcases hmodel : runIn (Model.load fs a.model) w₁ with ⟨cause | model, w₂⟩
  · obtain rfl := (Model.keepsWorld_load hread a.model).eq hmodel
    refine .inl ⟨.modelFile cause,
      firstFault?_of_modelFile (by rw [hload]) (by rw [hmodel]), fun time => ?_⟩
    rw [hgenerate]
    exact runIn_bind_of_error (runIn_adapt_eq_error.mpr ⟨cause, hmodel, rfl⟩)
  obtain rfl := (Model.keepsWorld_load hread a.model).eq hmodel
  have hfault := firstFault?_of_model (a := a) (w := w₂) (by rw [hload]) (by rw [hmodel])
  have hrun : ∀ time, runIn (produce fs time a) w₂ =
      runIn (g.generate model a.model.text time) w₂ := fun time =>
    (hgenerate time).trans (runIn_bind_of_ok (runIn_adapt_eq_ok.mpr hmodel))
  cases his : (model.toInterfaces : Except ModelError (List (Interface (StateM σ)))) with
  | error cause =>
      refine .inl ⟨.model cause, by rw [hfault, his]; rfl, fun time => ?_⟩
      rw [hrun]
      exact (g.gives_of_error w₂ his a.model.text time _).mpr rfl
  | ok is =>
      obtain ⟨texts, htexts⟩ := exists_forall₂ (Model.answers_emit his g.resolver g.layout)
      refine .inr ⟨by rw [hfault, his]; rfl, body texts, .ofInterfaces is,
        ⟨g, model, hload, hmodel, g.declares_of_ok w₂ his htexts⟩, fun time => ?_⟩
      rw [hrun]
      exact (g.gives_of_ok w₂ his htexts a.model.text time _).mpr rfl

/-- A command without a file prints its declarations. -/
theorem generate_of_out_none (hout : a.out = none) (time : String) :
    generate fs time a = (do pure (← produce fs time a).content) := by
  simp only [generate, produce, hout, bind_assoc]

/-- A command with a file makes room for it, writes it and prints the account. -/
theorem generate_of_out_some {out : Path} (hout : a.out = some out) (time : String) :
    generate fs time a = (do
      let generated ← produce fs time a
      Generator.makeRoom fs out
      (fs.write out generated.content).adapt (.output out)
      pure generated.report.summary) := by
  simp only [generate, produce, Generator.generateFile, hout, bind_assoc, pure_bind]

/-! ## arguments -/

/-- An option for the file is read behind arguments that are read without it. -/
theorem parse_append_out (h : Arguments.parse config args = .ok a) (o : String) :
    Arguments.parse config (args ++ ["--out", o]) = .ok { a with out := some ⟨o⟩ } := by
  obtain ⟨d, hread, hfinish⟩ := Native.bind_eq_ok.mp h
  have hout : d.read ["--out", o] = .ok (d.set .out o) := rfl
  refine Native.bind_eq_ok.mpr ⟨d.set .out o, (Draft.read_append hread _).trans hout, ?_⟩
  unfold Draft.finish at hfinish
  split at hfinish
  · next model hmodel =>
      obtain rfl := Except.ok.inj hfinish
      simp [Draft.finish, Draft.set, hmodel]
  · contradiction

/-! ## both ways -/

/-- A generation that prints and one that stores end alike: either both fail with
the first complaint and nothing has changed, or no stage has a complaint, and one
prints the declarations and the other stores them, each behind a header with its
own time. -/
inductive Alike (fs : FileSystem (StateM σ)) (a : Arguments) (time time' : String) (out : Path)
    (w : σ) : Outcome → Outcome → σ → Prop
  | fails {text : String} (complaint : FirstComplaint fs a w text) :
      Alike fs a time time' out w ⟨"", "[ERROR] " ++ text ++ "\n", 1⟩
        ⟨"", "[ERROR] " ++ text ++ "\n", 1⟩ w
  | succeeds {text account : String} {w' : σ}
      (quiet : ∀ (stage : Stage) text, ¬ stage.Complains fs a w text)
      (declares : Declares fs a w text)
      (stores : Stores fs out (header a.model.text time' ++ text) w w') :
      Alike fs a time time' out w ⟨header a.model.text time ++ text, "", 0⟩ ⟨account, "", 0⟩ w'

/-- **A generation prints what it would store.**  Arguments without a file are
read, and the same arguments with a file behind them, to which any text can be
written.  Reading from the file system changes nothing.

1. Both runs fail with the complaint of the first stage that has one, or both
   succeed, and the declarations that one prints are those that the other stores,
   but for the time in their headers.
2. In a tree of files, what is stored is what is read from the file afterwards,
   also if the file is the one that the model or the settings were read from. -/
theorem run_with_output (fs : FileSystem (StateM σ)) (hread : ∀ path, KeepsWorld (fs.read path))
    (config : Option Path) (time time' : String) :
    (∀ args a o w, Arguments.parse config args = .ok a → a.out = none → Writable fs ⟨o⟩ w →
      ∃ outcome outcome' w',
        (run fs time config ("generate" :: args)).run w = (outcome, w) ∧
        (run fs time' config ("generate" :: (args ++ ["--out", o]))).run w = (outcome', w') ∧
        Alike fs a time time' ⟨o⟩ w outcome outcome' w') ∧
    (∀ (out : Path) text t t', Stores FileTree.fileSystem out text t t' →
      t'.readText out = .ok text ∧ t.Written out text t') := by
  refine ⟨fun args a o w hparse hout hwritable => ?_, fun out text t t' => FileTree.read_of_stores⟩
  have hparse' := parse_append_out hparse o
  have hprint : (run fs time config ("generate" :: args)).run w = _ := run_generate hparse w
  have hstore : (run fs time' config ("generate" :: (args ++ ["--out", o]))).run w = _ :=
    run_generate hparse' w
  rw [generate_of_out_none hout] at hprint
  rw [generate_of_out_some rfl] at hstore
  -- the file is no part of what is produced
  have hsame : produce fs time' { a with out := some ⟨o⟩ } = produce fs time' a := rfl
  rw [hsame] at hstore
  rcases runIn_produce hread a w with
    ⟨error, hfault, hrun⟩ | ⟨hfault, text, report, hdeclares, hrun⟩
  · rw [runIn_bind_of_error (hrun time)] at hprint
    rw [runIn_bind_of_error (hrun time')] at hstore
    exact ⟨_, _, w, hprint, hstore, .fails (firstComplaint_of_firstFault? hfault)⟩
  · obtain ⟨w', hstores⟩ := hwritable (header a.model.text time' ++ text)
    obtain ⟨w₁, hroom, hwrite⟩ := hstores
    rw [runIn_bind_of_ok (hrun time), runIn_pure] at hprint
    rw [runIn_bind_of_ok (hrun time'), runIn_bind_of_ok (makesRoom_iff.mp hroom),
      runIn_bind_of_ok (runIn_adapt_eq_ok.mpr hwrite), runIn_pure] at hstore
    exact ⟨_, _, w', hprint, hstore,
      .succeeds (not_complains_of_firstFault? hfault) hdeclares ⟨w₁, hroom, hwrite⟩⟩

/-- The text of a model of one interface with one member. -/
def modelText (type : String) : String :=
  "\x7b\"interfaces\": [\x7b\"name\": \"Order\", " ++
    "\"members\": [\x7b\"name\": \"id\", \"type\": \"" ++ type ++ "\"\x7d]\x7d]\x7d"

/-- A tree with two models in the working directory, of which one has a type that
is none. -/
def orderModel : FileTree where
  entries := [(["orders.json", "api"], .file (modelText "u64").toUTF8),
    (["broken.json", "api"], .file (modelText "?").toUTF8), (["api"], .directory)]
  workingDirectory := ["api"]

/-- What is said of the broken model. -/
def brokenOutcome : Outcome where
  stdout := ""
  stderr := "[ERROR] Invalid type `?` for Order.id: invalid type at offset 0: " ++
    "unexpected character `?`\n"
  exitCode := 1

open FileTree in
/-- The declarations of the model are printed on Monday, and are put in the place of
the model on Tuesday.  The other model is left alone. -/
theorem run_with_output_orderModel :
    Arguments.parse none ["orders.json"] = .ok ⟨⟨"orders.json"⟩, none, none⟩ ∧
    Arguments.parse none ["broken.json"] = .ok ⟨⟨"broken.json"⟩, none, none⟩ ∧
    Writable fileSystem ⟨"/api/orders.json"⟩ orderModel ∧
    (∃ text account t',
      (run fileSystem "Monday" none ["generate", "orders.json"]).run orderModel =
        (⟨header "orders.json" "Monday" ++ text, "", 0⟩, orderModel) ∧
      (run fileSystem "Tuesday" none ["generate", "orders.json", "--out", "/api/orders.json"]).run
        orderModel = (⟨account, "", 0⟩, t') ∧
      t'.readText ⟨"/api/orders.json"⟩ = .ok (header "orders.json" "Tuesday" ++ text)) ∧
    (run fileSystem "Monday" none ["generate", "broken.json"]).run orderModel =
      (brokenOutcome, orderModel) ∧
    (run fileSystem "Tuesday" none ["generate", "broken.json", "--out", "/api/orders.json"]).run
      orderModel = (brokenOutcome, orderModel) := by
  have hparse : Arguments.parse none ["orders.json"] = .ok ⟨⟨"orders.json"⟩, none, none⟩ := rfl
  have hbroken : Arguments.parse none ["broken.json"] = .ok ⟨⟨"broken.json"⟩, none, none⟩ := rfl
  have hwritable : Writable fileSystem ⟨"/api/orders.json"⟩ orderModel := by
    have hparent : Path.parent? ⟨"/api/orders.json"⟩ = some ⟨"/api"⟩ := by decide +kernel
    have hroom : MakesRoom fileSystem ⟨"/api/orders.json"⟩ orderModel orderModel := by
      rw [MakesRoom, hparent]
      rfl
    have hlocate : orderModel.locate ⟨"/api/orders.json"⟩ = .ok ["orders.json", "api"] := by
      decide +kernel
    have hplace : orderModel.lookup? ["orders.json", "api"] ≠ some .directory := nofun
    intro text
    refine ⟨orderModel.insert ["orders.json", "api"] (.file text.toUTF8), orderModel, hroom, ?_⟩
    rw [runIn_write, writeBytes_eq_ok.mpr ⟨by decide, _, hlocate, hplace, rfl⟩]
  have hzero : ((run fileSystem "Monday" none ["generate", "orders.json"]).run
      orderModel).1.exitCode = 0 := by decide +kernel
  have hcomplaint : ((run fileSystem "Monday" none ["generate", "broken.json"]).run
      orderModel).1 = brokenOutcome := by decide +kernel
  obtain ⟨hruns, hstored⟩ := run_with_output fileSystem keepsWorld_read none "Monday" "Tuesday"
  refine ⟨hparse, hbroken, hwritable, ?_, ?_⟩
  · obtain ⟨outcome, outcome', t', hprint, hstore, halike⟩ := hruns _ _ _ _ hparse rfl hwritable
    rw [hprint] at hzero
    cases halike with
    | fails complaint => simp at hzero
    | @succeeds text account _ quiet declares stores =>
        exact ⟨text, account, t', hprint, hstore, (hstored _ _ _ _ stores).1⟩
  · obtain ⟨outcome, outcome', t', hprint, hstore, halike⟩ := hruns _ _ _ _ hbroken rfl hwritable
    rw [hprint] at hcomplaint
    cases halike with
    | fails complaint =>
        rw [← hcomplaint]
        exact ⟨hprint, hstore⟩
    | succeeds => simp [brokenOutcome] at hcomplaint

end Command

end DeclGen
