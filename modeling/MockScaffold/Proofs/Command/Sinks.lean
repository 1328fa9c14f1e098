import MockScaffold.Command.Run
import MockScaffold.Proofs.Command.Invocation

namespace MockScaffold.Command

theorem Failure.code_ne_zero (failure : Failure) : failure.code ≠ 0 := by
  cases failure <;> exact nofun

theorem code_ne_one_of_mapError {α ε : Type} {x : Except ε α} {f : ε → Failure}
    {failure : Failure} (hf : ∀ fault, (f fault).code = 2) (h : x.mapError f = .error failure) :
    failure.code ≠ 1 := by
  cases x with
  | ok => cases h
  | error fault =>
    cases h
    rw [hf fault]
    exact nofun

theorem map_eq_error_iff {α β ε : Type} {f : α → β} {x : Except ε α} {fault : ε} :
    f <$> x = .error fault ↔ x = .error fault := by
  cases x with
  | error => exact ⟨fun h => by cases h; rfl, fun h => by cases h; rfl⟩
  | ok => exact iff_of_false nofun nofun

section Emit

variable {ws : Workspace} {output : Option String} {made : Except Failure String} {path : String}

/-- The whole text is printed or written, or none of it is. -/
theorem emit_cases (ws : Workspace) (output : Option String) (text : String) :
    output = none ∧ emit ws output text = .ok { stdout := text } ∨
      ∃ path, output = some path ∧
        (emit ws output text = .ok { written := some (path, text) } ∨
          emit ws output text = .error (.output path)) := by
  cases output with
  | none => exact .inl ⟨rfl, rfl⟩
  | some path =>
    refine .inr ⟨path, rfl, ?_⟩
    unfold emit
    dsimp only
    split
    · exact .inl rfl
    · exact .inr rfl

theorem ok_bind_emit (ws : Workspace) (output : Option String) (text : String) :
    Except.ok text >>= emit ws output = emit ws output text :=
  rfl

theorem ofResult_of_failed (h : (Outcome.ofResult (made >>= emit ws output)).code ≠ 0) :
    (Outcome.ofResult (made >>= emit ws output)).stdout = "" ∧
      (Outcome.ofResult (made >>= emit ws output)).written = none := by
  cases made with
  | error failure => exact ⟨rfl, rfl⟩
  | ok text =>
    rw [ok_bind_emit] at h ⊢
    obtain ⟨-, hprinted⟩ | ⟨path, -, hwritten | hfailed⟩ := emit_cases ws output text
    · rw [hprinted] at h
      exact absurd rfl h
    · rw [hwritten] at h
      exact absurd rfl h
    · rw [hfailed]
      exact ⟨rfl, rfl⟩

/-- Emitting is no reason for the code 1. -/
theorem ofResult_code_eq_one_iff :
    (Outcome.ofResult (made >>= emit ws output)).code = 1 ↔
      ∃ failure, made = .error failure ∧ failure.code = 1 := by
  cases made with
  | error failure =>
    refine ⟨fun h => ⟨failure, rfl, h⟩, ?_⟩
    rintro ⟨_, heq, h⟩
    cases heq
    exact h
  | ok text =>
    refine iff_of_false (fun h => ?_) nofun
    rw [ok_bind_emit] at h
    obtain ⟨-, hprinted⟩ | ⟨path, -, hwritten | hfailed⟩ := emit_cases ws output text
    · rw [hprinted] at h
      cases h
    · rw [hwritten] at h
      cases h
    · rw [hfailed] at h
      cases h

/-- The outcome of writing to a path what would be printed. -/
def Outcome.redirected (printed : Outcome) (path : String) : Outcome :=
  { printed with stdout := "", written := some (path, printed.stdout) }

theorem ofResult_of_written (h : (Outcome.ofResult (made >>= emit ws (some path))).code = 0) :
    Outcome.ofResult (made >>= emit ws (some path)) =
      (Outcome.ofResult (made >>= emit ws none)).redirected path := by
  cases made with
  | error failure => exact absurd h failure.code_ne_zero
  | ok text =>
    rw [ok_bind_emit] at h
    rw [ok_bind_emit, ok_bind_emit]
    obtain ⟨hnone, -⟩ | ⟨_, heq, hwritten | hfailed⟩ := emit_cases ws (some path) text
    · cases hnone
    · cases heq
      rw [hwritten]
      rfl
    · rw [hfailed] at h
      cases h

end Emit

/-- The test file is not meant to be generated: its name lacks the ending, and nothing forces it. -/
def IsRefused (ws : Workspace) (settings : Settings) (args : GenerateArgs) : Prop :=
  args.force = false ∧ ∃ file, loadTestFile ws args.file = .ok file ∧
    ¬settings.fileSuffix.toList <:+ file.name.toList

section Text

variable (ws : Workspace) (settings : Settings) (freshSeed : UInt64)

/-- The text that an action makes. -/
def textOf : Action → Except Failure String
  | .generate args => (·.text args.json) <$> loadGeneration ws settings freshSeed args
  | .render file _ => Layout.render {} <$> loadTestFile ws file
  | .schema => .ok Settings.schemaText

theorem perform_eq (action : Action) :
    perform ws settings freshSeed action =
      textOf ws settings freshSeed action >>= emit ws action.output? := by
  cases action with
  | generate args =>
    simp only [perform, generate, textOf]
    cases loadGeneration ws settings freshSeed args <;> rfl
  | render file output =>
    simp only [perform, render, textOf]
    cases loadTestFile ws file <;> rfl
  | schema => rfl

theorem textOf_withoutOutput (action : Action) :
    textOf ws settings freshSeed action.withoutOutput = textOf ws settings freshSeed action := by
  cases action <;> rfl

theorem events_withoutOutput (action : Action) :
    events ws settings freshSeed action.withoutOutput = events ws settings freshSeed action := by
  cases action <;> rfl

variable {args : GenerateArgs} {file : SourceFile}

theorem loadGeneration_of_loaded (hfile : loadTestFile ws args.file = .ok file) :
    loadGeneration ws settings freshSeed args =
      if !args.force && !Scaffold.isOffered file.name settings.fileSuffix then
        .error (.refused file.name settings.fileSuffix)
      else
        (fun project =>
          ⟨project, settings.lombok, (args.seed.or settings.seed).getD freshSeed, file⟩) <$>
            loadProject ws args.project := by
  unfold loadGeneration
  rw [hfile]
  split
  · rename_i hrefused
    exact if_pos hrefused
  · rename_i hmeant
    refine (if_neg hmeant).trans ?_
    cases loadProject ws args.project <;> rfl

theorem isRefused_iff (hfile : loadTestFile ws args.file = .ok file) :
    IsRefused ws settings args ↔
      (!args.force && !Scaffold.isOffered file.name settings.fileSuffix) = true := by
  have hending : Scaffold.isOffered file.name settings.fileSuffix = false ↔
      ¬settings.fileSuffix.toList <:+ file.name.toList := by
    rw [← Bool.not_eq_true]
    exact not_congr List.isSuffixOf_iff_suffix
  simp only [Bool.and_eq_true, Bool.not_eq_true', hending]
  constructor
  · rintro ⟨hforce, other, hother, hname⟩
    cases hfile.symm.trans hother
    exact ⟨hforce, hname⟩
  · rintro ⟨hforce, hname⟩
    exact ⟨hforce, file, hfile, hname⟩

variable (args)

/-- The name of the test file is looked at when only that file has been loaded. -/
theorem loadGeneration_code_eq_one_iff :
    (∃ failure, loadGeneration ws settings freshSeed args = .error failure ∧ failure.code = 1) ↔
      IsRefused ws settings args := by
  cases hfile : loadTestFile ws args.file with
  | error failure =>
    have hload : loadGeneration ws settings freshSeed args = .error failure := by
      unfold loadGeneration
      rw [hfile]
      rfl
    rw [hload]
    refine iff_of_false ?_ ?_
    · rintro ⟨_, heq, hcode⟩
      cases heq
      exact code_ne_one_of_mapError (fun _ => rfl) hfile hcode
    · rintro ⟨-, file, hok, -⟩
      rw [hfile] at hok
      cases hok
  | ok file =>
    rw [loadGeneration_of_loaded ws settings freshSeed hfile, isRefused_iff ws settings hfile]
    split
    · rename_i hrefused
      exact iff_of_true ⟨_, rfl, rfl⟩ hrefused
    · rename_i hmeant
      refine iff_of_false ?_ hmeant
      rintro ⟨failure, hfailed, hcode⟩
      exact code_ne_one_of_mapError (fun _ => rfl) (map_eq_error_iff.mp hfailed) hcode

variable (action : Action)

theorem textOf_code_eq_one_iff :
    (∃ failure, textOf ws settings freshSeed action = .error failure ∧ failure.code = 1) ↔
      ∃ args, action = .generate args ∧ IsRefused ws settings args := by
  cases action with
  | generate args =>
    simp only [textOf, map_eq_error_iff, loadGeneration_code_eq_one_iff, Action.generate.injEq,
      exists_eq_left']
  | render file output =>
    refine iff_of_false ?_ nofun
    rintro ⟨failure, hfailed, hcode⟩
    simp only [textOf, map_eq_error_iff] at hfailed
    exact code_ne_one_of_mapError (fun _ => rfl) hfailed hcode
  | schema => exact iff_of_false nofun nofun

end Text

section Run

variable (ws : Workspace) (environment : Environment) (freshSeed : UInt64)
  (config : Option String) (action : Action)

/-- What an action makes under the settings that hold for it, before any of it goes anywhere. -/
def attempt : Except Failure String :=
  loadSettings ws environment.settingsPath config >>= fun settings =>
    textOf ws settings freshSeed action

def logOf : List LogEvent :=
  match loadSettings ws environment.settingsPath config with
  | .ok settings =>
    settings.log.shown environment.logDirectives (events ws settings freshSeed action)
  | .error _ => []

theorem runAction_eq :
    runAction ws environment freshSeed config action =
      { Outcome.ofResult (attempt ws environment freshSeed config action >>=
          emit ws action.output?) with
        log := logOf ws environment freshSeed config action } := by
  unfold runAction attempt logOf
  cases loadSettings ws environment.settingsPath config with
  | error failure => rfl
  | ok settings =>
    dsimp only
    rw [perform_eq]
    rfl

theorem attempt_withoutOutput :
    attempt ws environment freshSeed config action.withoutOutput =
      attempt ws environment freshSeed config action := by
  simp only [attempt, textOf_withoutOutput]

theorem logOf_withoutOutput :
    logOf ws environment freshSeed config action.withoutOutput =
      logOf ws environment freshSeed config action := by
  simp only [logOf, events_withoutOutput]

theorem output?_withoutOutput : action.withoutOutput.output? = none := by
  cases action <;> rfl

variable {ws environment freshSeed config action}

theorem loadSettings_code_ne_one {fromEnvironment : Option String} {failure : Failure}
    (h : loadSettings ws fromEnvironment config = .error failure) : failure.code ≠ 1 := by
  unfold loadSettings at h
  cases config with
  | some path => exact code_ne_one_of_mapError (fun _ => rfl) h
  | none =>
    dsimp only at h
    split at h
    · cases h
    · cases h
      exact nofun

theorem attempt_code_eq_one_iff :
    (∃ failure, attempt ws environment freshSeed config action = .error failure ∧
      failure.code = 1) ↔
      ∃ args settings, action = .generate args ∧
        loadSettings ws environment.settingsPath config = .ok settings ∧
          IsRefused ws settings args := by
  unfold attempt
  cases hsettings : loadSettings ws environment.settingsPath config with
  | error failure =>
    refine iff_of_false ?_ ?_
    · rintro ⟨_, heq, hcode⟩
      cases heq
      exact loadSettings_code_ne_one hsettings hcode
    · rintro ⟨args, settings, -, hok, -⟩
      cases hok
  | ok settings =>
    refine (textOf_code_eq_one_iff ws settings freshSeed action).trans ?_
    simp only [Except.ok.injEq, exists_eq_left', exists_and_left]

theorem runAction_of_failed (h : (runAction ws environment freshSeed config action).code ≠ 0) :
    (runAction ws environment freshSeed config action).stdout = "" ∧
      (runAction ws environment freshSeed config action).written = none := by
  rw [runAction_eq] at h ⊢
  exact ofResult_of_failed h

theorem runAction_of_written {path : String} (houtput : action.output? = some path)
    (h : (runAction ws environment freshSeed config action).code = 0) :
    runAction ws environment freshSeed config action =
      (runAction ws environment freshSeed config action.withoutOutput).redirected path := by
  rw [runAction_eq, houtput] at h
  -- both runs attempt and log the same, and differ only in where the text goes
  rw [runAction_eq, runAction_eq, attempt_withoutOutput, logOf_withoutOutput,
    output?_withoutOutput, houtput, ofResult_of_written h]
  rfl

variable {args : List String}

theorem run_of_action (h : Invocation.ofArgs args = .run config action) :
    run ws environment freshSeed args = runAction ws environment freshSeed config action := by
  rw [run, h]

theorem run_of_failed (h : (run ws environment freshSeed args).code ≠ 0) :
    (run ws environment freshSeed args).stdout = "" ∧
      (run ws environment freshSeed args).written = none := by
  unfold run at h ⊢
  cases hargs : Invocation.ofArgs args with
  | version | help =>
    rw [hargs] at h
    exact absurd rfl h
  | unknown => exact ⟨rfl, rfl⟩
  | run config action =>
    rw [hargs] at h
    exact runAction_of_failed h

theorem run_code_eq_one_iff : (run ws environment freshSeed args).code = 1 ↔
    ∃ config request settings,
      Invocation.ofArgs args = .run config (.generate request) ∧
        loadSettings ws environment.settingsPath config = .ok settings ∧
          IsRefused ws settings request := by
  unfold run
  cases Invocation.ofArgs args with
  | version | help | unknown =>
    refine iff_of_false nofun ?_
    rintro ⟨config, request, settings, hargs, -⟩
    cases hargs
  | run config action =>
    dsimp only
    rw [runAction_eq]
    refine ofResult_code_eq_one_iff.trans (attempt_code_eq_one_iff.trans ?_)
    simp only [Invocation.run.injEq]
    constructor
    · rintro ⟨request, settings, rfl, h⟩
      exact ⟨config, request, settings, ⟨rfl, rfl⟩, h⟩
    · rintro ⟨_, request, settings, ⟨rfl, rfl⟩, h⟩
      exact ⟨request, settings, rfl, h⟩

end Run

/-- A run that fails prints nothing and writes no file; the exit code 1 stands for a test file that
is refused, whatever the project is; and a run that writes a file writes what is printed without
the option for it. -/
theorem run_sinks (ws : Workspace) (environment : Environment) (freshSeed : UInt64)
    (args : List String) :
    let outcome := run ws environment freshSeed args
    (outcome.code ≠ 0 → outcome.stdout = "" ∧ outcome.written = none) ∧
    (outcome.code = 1 ↔ ∃ config request settings,
      Invocation.ofArgs args = .run config (.generate request) ∧
        loadSettings ws environment.settingsPath config = .ok settings ∧
          IsRefused ws settings request) ∧
    ∀ config action path, Invocation.ofArgs args = .run config action →
      action.output? = some path → outcome.code = 0 →
      (∃ args', args'.Sublist args ∧
        Invocation.ofArgs args' = .run config action.withoutOutput) ∧
      ∀ args', Invocation.ofArgs args' = .run config action.withoutOutput →
        outcome = (run ws environment freshSeed args').redirected path := by
  refine ⟨run_of_failed, run_code_eq_one_iff, fun config action path hargs houtput hcode => ?_⟩
  rw [run_of_action hargs] at hcode ⊢
  refine ⟨exists_readFrom_without hargs, fun args' hargs' => ?_⟩
  rw [run_of_action hargs']
  exact runAction_of_written houtput hcode

/-- One file to read, whose name is not that of a test, and one place to write to. -/
def cartWorkspace : Workspace where
  root := "/shop"
  node? path :=
    if path == "cart.json" then some (.file (some "\x7b\"name\": \"Cart.java\"\x7d")) else none
  canonical? := some
  accepts path := path == "Cart.java"

/-- There is no project, which is not looked at. -/
example :
    (run cartWorkspace {} 0 ["generate", "--project", "shop.json", "cart.json"]).code = 1 := by
  decide +kernel

example :
    (run cartWorkspace {} 0 ["render", "-oCart.java", "cart.json"]).code = 0 ∧
      (run cartWorkspace {} 0 ["render", "-oCart.java", "cart.json"]).written =
        some ("Cart.java", "\n") := by
  decide +kernel

end MockScaffold.Command
