import WireSchema.Proofs.CommandLines
import WireSchema.Proofs.Runs
import WireSchema.Proofs.Settings

/-! # Runs of the command

A command line that asks for a run carries out the generation of its models, with the settings that
its options, its document and the defaults make up.  Before that, settings that cannot be read end
it.

* `FileProgram.reads` — the files that a program reads.
* `run_program_of_error` and `run_program_of_ok` — the two ways a run goes.
* `exists_modules_of_finished` — a finished run has written a file for every declaration.
* `execute_refines` — what a command line leaves behind, in terms of the generation.
-/

namespace WireSchema

open FileProgram CommandLine

/-! ## Files that are read -/

namespace FileProgram

variable {ε α β : Type}

/-- The files that a program reads on a tree, in the order of reading. -/
def reads : FileProgram ε α → FileTree → List String
  | .done _, _ => []
  | .report _ next, tree => reads next tree
  | .readFile path next, tree => path :: reads (next (tree.readFile path)) tree
  | .makeDirectories path next, tree =>
    reads (next (tree.makeDirectories path).2) (tree.makeDirectories path).1
  | .writeFile path contents next, tree =>
    match tree.writeFile path contents with
    | .ok written => reads (next (.ok ())) written
    | .error fault => reads (next (.error fault)) tree

theorem reads_bind (x : FileProgram ε α) (f : α → FileProgram ε β) (tree : FileTree) :
    (x >>= f).reads tree = x.reads tree ++
      match (x.run tree).outcome with
      | .ok a => (f a).reads (x.run tree).tree
      | .error _ => [] := by
  change (x.andThen f).reads tree = _
  induction x generalizing tree with
  | done outcome => cases outcome <;> rfl
  | report event next inductionHypothesis => exact inductionHypothesis tree
  | readFile path next inductionHypothesis =>
    simp only [andThen, reads, inductionHypothesis, List.cons_append]
    rfl
  | makeDirectories path next inductionHypothesis => exact inductionHypothesis _ _
  | writeFile path contents next inductionHypothesis =>
    simp only [andThen, reads, run]
    cases tree.writeFile path contents <;> exact inductionHypothesis _ _

theorem reads_bind_of_error {x : FileProgram ε α} {f : α → FileProgram ε β} {tree : FileTree}
    {e : ε} (fails : (x.run tree).outcome = .error e) : (x >>= f).reads tree = x.reads tree := by
  simp [reads_bind, fails]

end FileProgram

theorem reads_readText {ε : Type} (wrap : FileFault → ε) (path : String) (tree : FileTree) :
    (readText wrap path).reads tree = [path] := by
  have contents : (read wrap path).reads tree = [path] := rfl
  unfold readText
  rw [reads_bind, contents]
  split
  · split <;> rfl
  · rfl

theorem reads_readConfig (path : String) (tree : FileTree) :
    (readConfig path).reads tree = [path] := by
  unfold readConfig
  rw [reads_bind, reads_readText]
  cases ((readText (RunError.configUnreadable path) path).run tree).outcome <;> rfl

/-! ## The two ways of a run -/

variable {invocation : Invocation} {tree : FileTree} {config : Config} {e : RunError}
  {path : String}

theorem run_program_of_error (refused : invocation.base tree = .error e) :
    invocation.program.run tree = ⟨tree, [], .error e⟩ := by
  have reading := run_settings invocation tree
  rw [refused] at reading
  exact run_bind_of_error reading

theorem reads_program_of_error (named : invocation.config = some path)
    (refused : invocation.base tree = .error e) : invocation.program.reads tree = [path] := by
  have settings : invocation.settings.reads tree = [path] := by
    rw [settings_eq, reads_bind_of_error (by rw [run_readBase]; exact refused)]
    unfold Invocation.readBase
    rw [named]
    exact reads_readConfig path tree
  rw [← settings]
  refine reads_bind_of_error (e := e) ?_
  rw [run_settings, refused]
  rfl

theorem run_program_of_ok (based : invocation.base tree = .ok config) :
    let settled := invocation.settle config
    let run := (generateFromFiles invocation.models settled).run tree
    invocation.program.run tree =
      ⟨run.tree, .configured settled :: (run.events ++
        match run.outcome with
        | .ok paths => [.finished paths.length]
        | .error _ => []), run.outcome.mapError (.generation settled.outDir)⟩ := by
  intro settled run
  have reading := run_settings invocation tree
  rw [based] at reading
  have generating : ((generateFromFiles invocation.models settled).mapError
      (.generation settled.outDir)).run tree =
      ⟨run.tree, run.events, run.outcome.mapError (RunError.generation settled.outDir)⟩ :=
    run_mapError _ _ tree
  unfold Invocation.program
  rw [run_bind_of_ok reading]
  -- the settings are reported first, in front of all that follows
  change (((generateFromFiles invocation.models settled).mapError _ >>= fun paths =>
    log (.finished paths.length) >>= fun _ => pure paths).run tree).reporting _ = _
  cases outcome : run.outcome with
  | ok paths =>
    rw [outcome] at generating
    rw [run_bind_of_ok generating]
    rfl
  | error cause =>
    rw [outcome] at generating
    rw [run_bind_of_error generating]
    simp [Run.reporting, Except.mapError, settled]

/-! ## Counting -/

theorem WritesAll.length_eq {modules : List Module} {types : List Declared}
    {files : List WrittenFile} {before after : FileTree}
    (writes : WritesAll modules config types files before after) : files.length = types.length :=
  writes.rendered.length_eq.symm

theorem Module.length_declarations (module : Module) :
    module.declarations.length = module.structs.length + module.enums.length := by
  simp [declarations]

theorem Declared.length_all (modules : List Module) : (Declared.all modules).length =
    (modules.flatMap Module.structs).length + (modules.flatMap Module.enums).length := by
  unfold Declared.all
  induction modules with
  | nil => rfl
  | cons module modules inductionHypothesis =>
    simp only [List.flatMap_cons, List.length_append, List.length_map, inductionHypothesis,
      Module.length_declarations]
    omega

theorem length_report {modules : List Module} {paths : Report}
    (finished : ((generate modules config).run tree).outcome = .ok paths) :
    paths.length =
      (modules.flatMap Module.structs).length + (modules.flatMap Module.enums).length := by
  have ends := ends_generate modules config tree
  generalize (generate modules config).run tree = run at ends finished
  cases ends with
  | finished writes _ =>
    cases finished
    rw [List.length_map, writes.length_eq, Declared.length_all]
  | stopped => cases finished

theorem exists_modules_of_finished {models : List String} {paths : Report}
    (finished : ((generateFromFiles models config).run tree).outcome = .ok paths) :
    ∃ modules, tree.Holds models modules ∧ paths.length =
      (modules.flatMap Module.structs).length + (modules.flatMap Module.enums).length := by
  obtain ⟨modules, holds⟩ | ⟨position, e, refuses⟩ := holds_or_refusesAt tree models
  · rw [run_generateFromFiles_of_holds config holds] at finished
    exact ⟨modules, holds, length_report finished⟩
  · rw [run_generateFromFiles_of_refusesAt config refuses] at finished
    cases finished

/-! ## The command and the library -/

namespace CommandLine

/-- What is left behind where modules are generated from files.  The last line that may be shown
    counts the declarations of the modules. -/
structure Generates (tree : FileTree) (models : List String) (config : Config) (filter : LogFilter)
    (result : Result) : Prop where
  left : result.tree = ((generateFromFiles models config).run tree).tree
  exitCode : result.exitCode =
    match ((generateFromFiles models config).run tree).outcome with
    | .ok _ => 0
    | .error _ => 1
  count : ∀ paths, ((generateFromFiles models config).run tree).outcome = .ok paths →
    ∃ modules, tree.Holds models modules ∧
      let declared :=
        (modules.flatMap Module.structs).length + (modules.flatMap Module.enums).length
      filter.shows (.finished declared) → ∃ before,
        result.stdout = before ++ "INFO sprotogen wrote " ++ toString declared ++ " file(s)\n"

theorem logText_append (filter : LogFilter) (events more : List Event) :
    logText filter (events ++ more) = logText filter events ++ logText filter more := by
  simp [logText, String.join_append]

theorem line_finished (count : Nat) : (Event.finished count).line ++ "\n" =
    "INFO sprotogen wrote " ++ toString count ++ " file(s)\n" := by
  have opening : "INFO sprotogen wrote " = "INFO" ++ " " ++ "sprotogen wrote " := by
    decide +kernel
  have closing : " file(s)\n" = " file(s)" ++ "\n" := by decide +kernel
  change "INFO" ++ " " ++ ("sprotogen wrote " ++ toString count ++ " file(s)") ++ "\n" = _
  simp only [opening, closing, String.append_assoc]

theorem logText_finished {filter : LogFilter} {count : Nat}
    (shown : filter.shows (.finished count)) : logText filter [.finished count] =
      "INFO sprotogen wrote " ++ toString count ++ " file(s)\n" := by
  simp only [logText, List.filter_cons_of_pos shown, List.filter_nil, List.map_cons, List.map_nil,
    String.join_cons, String.join_nil, String.append_empty, line_finished]

theorem execute_of_parsed {arguments : List String}
    (parsed : Command.ofArguments arguments = .ok (.generate invocation)) (tree : FileTree) :
    execute arguments tree =
      let run := invocation.program.run tree
      ⟨(verdict run.outcome).1, logText invocation.filter run.events, (verdict run.outcome).2,
        run.tree⟩ := by
  unfold execute
  rw [parsed]

theorem generates_of_base {arguments : List String}
    (parsed : Command.ofArguments arguments = .ok (.generate invocation))
    (based : invocation.base tree = .ok config) :
    Generates tree invocation.models (invocation.settle config) invocation.filter
      (execute arguments tree) := by
  rw [execute_of_parsed parsed, run_program_of_ok based]
  refine ⟨rfl, ?_, fun paths finished => ?_⟩
  · dsimp only
    generalize ((generateFromFiles invocation.models (invocation.settle config)).run tree).outcome =
      outcome
    cases outcome <;> rfl
  · obtain ⟨modules, holds, counted⟩ := exists_modules_of_finished finished
    refine ⟨modules, holds, ?_⟩
    intro declared shown
    simp only [finished, counted]
    -- the count is the last event, behind all that the generation reports
    rw [← List.cons_append, logText_append, logText_finished shown, ← String.append_assoc,
      ← String.append_assoc]
    exact ⟨_, rfl⟩

theorem execute_of_refused {arguments : List String}
    (parsed : Command.ofArguments arguments = .ok (.generate invocation))
    (refused : invocation.base tree = .error e) :
    execute arguments tree = ⟨1, "", e.report, tree⟩ := by
  rw [execute_of_parsed parsed, run_program_of_error refused]
  rfl

end CommandLine

/-- A command line that is read as a run asks for models and gives options, each of them once.  If
    it names a document that settings cannot be read from, nothing else is read, and nothing is
    changed.  Otherwise each part of the settings is that of its option, else that of the document,
    else the default, and with these settings the models are generated in their order. -/
theorem execute_refines {arguments : List String} {invocation : Invocation}
    (parsed : Command.ofArguments arguments = .ok (.generate invocation)) (tree : FileTree) :
    (∃ given, AsksFor arguments invocation.models given ∧ (given.map Prod.fst).Nodup ∧
      ∀ setting, invocation.value? setting = given.lookup setting) ∧
    (∀ path e, invocation.value? .config = some path → tree.configAt path = .error e →
      execute arguments tree = ⟨1, "", e.report, tree⟩ ∧
        invocation.program.reads tree = [path]) ∧
    ((∀ path, invocation.value? .config = some path → ∃ config, tree.configAt path = .ok config) →
      ∃ config : Config,
        (∀ part : Config.Part, Config.Chosen (part.option?.bind invocation.value?)
          (((invocation.value? .config).bind tree.documentAt).bind
            (·.member? Config.format.names part.key))
          (part.get .default) (part.get config)) ∧
        Generates tree invocation.models config
          (.ofText ((invocation.value? .logLevel).getD "info")) (execute arguments tree)) := by
  refine ⟨?_, ?_, ?_⟩
  · obtain ⟨models, given, asks, collects⟩ := exists_asksFor parsed
    obtain rfl : invocation.models = models := collects.models
    refine ⟨given, asks, collects.once, fun setting => ?_⟩
    rw [collects.value]
    cases setting <;> rfl
  · intro path e named unreadable
    have refused : invocation.base tree = .error e := by
      unfold Invocation.base
      rw [show invocation.config = some path from named]
      exact unreadable
    exact ⟨execute_of_refused parsed refused, reads_program_of_error named refused⟩
  · intro readable
    obtain ⟨base, based⟩ : ∃ base, invocation.base tree = .ok base := by
      unfold Invocation.base
      cases named : invocation.config with
      | none => exact ⟨.default, rfl⟩
      | some path => exact readable path named
    exact ⟨invocation.settle base, chosen_of_base based, generates_of_base parsed based⟩

namespace Sample

/-- A tree with a document of settings and a module. -/
def configured : FileTree where
  entries :=
    [(["sprotogen.json"], .file ("\x7b \"out_dir\": \"gen\", \"extension\": \".java\", " ++
        "\"namespace_tag\": \"pkg\" \x7d").toUTF8),
      (["depot.json"], .file "[\"depot.sp\", \"depot\", [], [[\"Crate\", [\"Small\"]]]]".toUTF8)]
  workingDirectory := []

theorem configAt_configured : configured.configAt "sprotogen.json" =
    .ok ⟨"gen", ".java", "pkg", Config.default.banner⟩ := by decide +kernel

theorem configAt_missing : configured.configAt "missing.json" =
    .error (.configUnreadable "missing.json" .notFound) := by decide +kernel

end Sample

open Sample in
/-- The file is written to the directory of the document, with the extension of the option.  With
    a document that is missing, nothing happens. -/
theorem execute_refines_override :
    let arguments := ["--config", "sprotogen.json", "--extension=.j", "depot.json"]
    let invocation : Invocation := ⟨["depot.json"], none, some ".j", some "sprotogen.json", none⟩
    let missing := ["depot.json", "--config=missing.json"]
    Command.ofArguments arguments = .ok (.generate invocation) ∧
    (∃ given, AsksFor arguments ["depot.json"] given) ∧
    (∃ config, Generates configured ["depot.json"] config (.ofText "info")
      (execute arguments configured)) ∧
    (execute arguments configured).exitCode = 0 ∧
    ((execute arguments configured).tree.readFile "gen/depot/Crate.j").isOk ∧
    Command.ofArguments missing =
      .ok (.generate ⟨["depot.json"], none, none, some "missing.json", none⟩) ∧
    execute missing configured =
      ⟨1, "", (RunError.configUnreadable "missing.json" .notFound).report, configured⟩ := by
  intro arguments invocation missing
  have parsed : Command.ofArguments arguments = .ok (.generate invocation) := by decide +kernel
  have parsed' : Command.ofArguments missing =
      .ok (.generate ⟨["depot.json"], none, none, some "missing.json", none⟩) := by decide +kernel
  have readable : ∀ path, invocation.value? .config = some path →
      ∃ config, configured.configAt path = .ok config := by
    intro path named
    obtain rfl : "sprotogen.json" = path := Option.some.inj named
    exact ⟨_, configAt_configured⟩
  obtain ⟨⟨given, asks, _⟩, _, settled⟩ := execute_refines parsed configured
  obtain ⟨config, _, generates⟩ := settled readable
  have refused := (execute_refines parsed' configured).2.1 "missing.json" _ rfl configAt_missing
  exact ⟨parsed, ⟨given, asks⟩, ⟨config, generates⟩, by decide +kernel, by decide +kernel, parsed',
    refused.1⟩

end WireSchema
