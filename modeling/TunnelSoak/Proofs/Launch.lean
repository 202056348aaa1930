import TunnelSoak.Program
import TunnelSoak.Proofs.Console
import TunnelSoak.Proofs.Soak.Accounts
import TunnelSoak.Proofs.Soak.Ending
import TunnelSoak.Proofs.Soak.Samples

/-! What the run command writes and returns. A controller configuration that is missing
skips the run, one that cannot be used stops the program, and otherwise the output is a
start line, the samples that the observer saw and one last line, whose first word and exit
code follow from the result of the soak. Log lines may stand between these lines. -/
namespace TunnelSoak

open History

namespace Launch

def lastLine (coloured : Bool) : Except Failure Report → String
  | .ok report =>
    Style.green.paint coloured "✓ PASS:" ++ " " ++ toString report.tunnelsEstablished ++
      " tunnels, " ++ toString report.reconnects ++ " reconnects, " ++ toString report.restarts ++
      " restarts, peak sys memory " ++ ByteCount.text report.peakSystemMemory
  | .error (.ceilingExceeded sampled limit) =>
    Style.red.paint coloured "✗ FAIL:" ++ " " ++ ("sys memory exceeds limit: " ++
      toString sampled ++ " bytes (limit " ++ toString limit ++ " bytes)")
  | .error (.stalled previous current) =>
    Style.red.paint coloured "✗ FAIL:" ++ " " ++ ("expected established tunnels: count " ++
      toString current ++ " did not advance past " ++ toString previous)
  | .error failure => Style.red.paint coloured "✗ ERROR:" ++ " " ++ failure.message

def headline : Except Failure Report → Headline
  | .ok _ => .pass
  | .error failure => if failure.isCheck then .fail else .error

/-- What is written of a run that has come to `result`, and its exit code. -/
structure Written (console : Console) (setup : Setup) (s : Soak) (result : Except Failure Report)
    (lines : List String) (exit : Nat) : Prop where
  lines : ∃ body, console.Shows setup.config.mode (statuses s.rig.trace) body ∧
    lines = (Style.cyan.paint console.coloured "Starting soak run:" ++ " " ++
      Style.bold.paint console.coloured setup.config.mode.name ++ " (" ++
      toString setup.config.durationSecs ++ "s, sample every " ++
      toString setup.config.sampleIntervalSecs ++ "s, ceiling " ++
      ByteCount.text setup.config.maxSysMemory ++ ")") :: body ++
        [lastLine console.coloured result]
  drawn : readings s.rig.trace =
    (List.range (readings s.rig.trace).length).map setup.readings
  /-- The observer was shown the samples within the ceiling, in order. -/
  within : (statuses s.rig.trace).map (·.reading) =
    (readings s.rig.trace).filter fun reading => reading.system ≤ setup.config.maxSysMemory
  rising : ((statuses s.rig.trace).map (·.tunnels)).Pairwise (· ≤ ·)
  /-- All of them, but for the one that ends a run above the ceiling. -/
  exceeded : (∃ sampled limit, result = .error (.ceilingExceeded sampled limit)) →
    (readings s.rig.trace).length = (statuses s.rig.trace).length + 1
  shown : (¬ ∃ sampled limit, result = .error (.ceilingExceeded sampled limit)) →
    (readings s.rig.trace).length = (statuses s.rig.trace).length
  passed : Headline.pass.Heads console.coloured (lastLine console.coloured result) ↔
    ∃ report, result = .ok report
  failed : Headline.fail.Heads console.coloured (lastLine console.coloured result) ↔
    (∃ sampled limit, result = .error (.ceilingExceeded sampled limit)) ∨
      ∃ previous current, result = .error (.stalled previous current)
  errored : Headline.error.Heads console.coloured (lastLine console.coloured result) ↔
    ∃ failure, result = .error failure ∧
      (∀ sampled limit, failure ≠ .ceilingExceeded sampled limit) ∧
      ∀ previous current, failure ≠ .stalled previous current
  succeeded : (∃ report, result = .ok report) ↔ exit = 0
  unsuccessful : (∃ failure, result = .error failure) ↔ exit = 1

section headline
variable (result : Except Failure Report)

theorem headline_pass : headline result = .pass ↔ ∃ report, result = .ok report := by
  cases result with
  | ok report => exact iff_of_true rfl ⟨report, rfl⟩
  | error failure => cases failure <;> simp [headline, Failure.isCheck]

theorem headline_fail : headline result = .fail ↔
    (∃ sampled limit, result = .error (.ceilingExceeded sampled limit)) ∨
      ∃ previous current, result = .error (.stalled previous current) := by
  cases result with
  | ok => simp [headline]
  | error failure => cases failure <;> simp [headline, Failure.isCheck]

theorem headline_error : headline result = .error ↔
    ∃ failure, result = .error failure ∧
      (∀ sampled limit, failure ≠ .ceilingExceeded sampled limit) ∧
      ∀ previous current, failure ≠ .stalled previous current := by
  cases result with
  | ok => simp [headline]
  | error failure => cases failure <;> simp [headline, Failure.isCheck]

end headline

theorem lastLine_error (coloured : Bool) (failure : Failure) :
    lastLine coloured (.error failure) =
      Style.red.paint coloured (if failure.isCheck then "✗ FAIL:" else "✗ ERROR:") ++ " " ++
        failure.message := by
  cases check : failure.isCheck with
  | true =>
    rw [if_pos rfl]
    cases failure with
    | ceilingExceeded | stalled =>
      unfold lastLine Failure.message
      with_reducible rfl
    | _ => cases check
  | false =>
    rw [if_neg Bool.false_ne_true]
    cases failure with
    | ceilingExceeded | stalled => cases check
    | _ =>
      unfold lastLine
      with_reducible rfl

theorem lastLine_heads (coloured : Bool) (result : Except Failure Report) :
    (headline result).Heads coloured (lastLine coloured result) := by
  cases result with
  | ok report =>
    simp only [lastLine, String.append_assoc]
    exact ⟨_, rfl⟩
  | error failure =>
    rw [lastLine_error, String.append_assoc]
    refine ⟨" " ++ failure.message, congrArg (· ++ _) ?_⟩
    cases check : failure.isCheck <;> simp [headline, check, Headline.painted] <;> rfl

theorem exists_verdict {s : Soak} {result : Except Failure Report} (coloured : Bool)
    (ended : s.stage = .over result) :
    ∃ verdict, Verdict.ofSoak? s = some verdict ∧
      verdict.line? coloured = some (lastLine coloured result) ∧
      ((∃ report, result = .ok report) ↔ verdict.exitCode = 0) ∧
      ((∃ failure, result = .error failure) ↔ verdict.exitCode = 1) := by
  unfold Verdict.ofSoak?
  rw [ended]
  cases result with
  | ok report =>
    exact ⟨.passed report, rfl, by rw [Verdict.line?, lastLine], by simp [Verdict.exitCode],
      by simp [Verdict.exitCode]⟩
  | error failure =>
    exact ⟨.failed failure, rfl, by rw [lastLine_error, Verdict.line?],
      by simp [Verdict.exitCode], by simp [Verdict.exitCode]⟩

theorem unceiled_of_simulated {setup : Setup} {sim : Simulation}
    (simulated : setup.plan = sim.plan) : Soak.Unceiled setup := by
  intro attempt failure refusal
  rw [simulated] at refusal
  obtain ⟨-, made⟩ := Option.ite_none_right_eq_some.mp refusal
  cases made
  rfl

theorem written (console : Console) {setup : Setup} {s : Soak} {result : Except Failure Report}
    (unceiled : Soak.Unceiled setup) (reach : Soak.Reachable setup s)
    (ended : s.stage = .over result) :
    ∃ verdict, Verdict.ofSoak? s = some verdict ∧
      Written console setup s result (soakOutput console setup.config s verdict)
        verdict.exitCode := by
  obtain ⟨verdict, judged, line, succeeded, unsuccessful⟩ :=
    exists_verdict console.coloured ended
  obtain ⟨ledger, -⟩ := reach.ledger
  have mode : s.rig.dispatcher.mode = setup.config.mode := reach.accounts.2.2.mode
  have sighted := reach.sighted unceiled
  have pairs := observations_eq_statuses s.rig.trace
  have count : (observations s.rig.trace).length = (statuses s.rig.trace).length := by
    simpa using congrArg List.length pairs
  have heads (word : Headline) :
      word.Heads console.coloured (lastLine console.coloured result) ↔ headline result = word :=
    ⟨(lastLine_heads console.coloured result).unique,
      fun same => same ▸ lastLine_heads console.coloured result⟩
  have missed := sighted.missed
  rw [ended, count] at missed
  refine ⟨verdict, judged, ?_⟩
  refine
    { lines := ⟨_, mode ▸ console.shows_soakLines s, by rw [soakOutput, line]; rfl⟩, drawn := ?_
      within := ?_, rising := ?_, exceeded := ?_, shown := ?_, succeeded, unsuccessful
      passed := (heads _).trans (headline_pass result)
      failed := (heads _).trans (headline_fail result)
      errored := (heads _).trans (headline_error result) }
  · rw [← ledger.samples]
    exact ledger.drawn
  · have second := congrArg (List.map Prod.snd) pairs
    rw [List.map_map, List.map_map] at second
    exact second.symm.trans sighted.within
  · have first := congrArg (List.map Prod.fst) pairs
    rw [List.map_map, List.map_map] at first
    have same : (statuses s.rig.trace).map (·.tunnels) = snapshots s.rig.trace := first.symm
    rw [same]
    exact (snapshots_rise ledger.orderly).1
  · rintro ⟨sampled, limit, rfl⟩
    exact missed
  · intro other
    cases result with
    | ok => exact missed
    | error failure =>
      cases failure with
      | ceilingExceeded sampled limit => exact absurd ⟨sampled, limit, rfl⟩ other
      | _ => exact missed

inductive Provided (find : String → Found) : Option String → Controller.Params → Prop
  | nothing : Provided find none {}
  | document {path : String} {bytes : List UInt8} {members : Json.Members}
    (content : find path = .content bytes)
    (object : Json.document Json.value bytes = .ok (.object members)) :
    Provided find (some path) { config := members }

section controllerParams
variable {find : String → Found} {path : String}

theorem controllerParams_absent (absent : find path = .missing ∨ find path = .hidden) :
    controllerParams find (some path) = .ok none := by
  rcases absent with missing | hidden
  · simp only [controllerParams, missing]
  · simp only [controllerParams, hidden]

theorem run_absent {around : Surroundings} {directory : Directory} {settings : Settings}
    {path : String} (named : settings.controllerConfig = some path)
    (absent : directory.find path = .missing ∨ directory.find path = .hidden) (fuel : Nat) :
    run around fuel directory settings =
      some { lines := [Style.yellow.paint around.console.coloured "⚠ SKIP:" ++
               " controller config not found: " ++ path]
             directory, result := .ok (.skipped path) } := by
  rw [run, named, controllerParams_absent absent]
  rfl

theorem controllerParams_unreadable (unreadable : find path = .unreadable) :
    controllerParams find (some path) = .error (.controllerUnreadable path) := by
  simp only [controllerParams, unreadable]

theorem controllerParams_unusable {bytes : List UInt8} (content : find path = .content bytes)
    (other : ∀ members, Json.document Json.value bytes ≠ .ok (.object members)) :
    ∃ failure, controllerParams find (some path) = .error (.controllerUnusable path failure) := by
  have failed : ∃ failure, Controller.Params.ofDocument bytes = .error failure := by
    unfold Controller.Params.ofDocument
    split
    · exact ⟨_, rfl⟩
    · exact absurd ‹_› (other _)
    · exact ⟨_, rfl⟩
  obtain ⟨failure, failed⟩ := failed
  exact ⟨failure, by simp only [controllerParams, content, failed]⟩

theorem Provided.controllerParams {asked : Option String} {params : Controller.Params}
    (provided : Provided find asked params) : controllerParams find asked = .ok (some params) := by
  cases provided with
  | nothing => rfl
  | document content object =>
    simp only [Launch.controllerParams, content, Controller.Params.ofDocument, object]

end controllerParams

theorem ofSoak?_isSome {s : Soak} (ended : s.isOver = true) :
    (Verdict.ofSoak? s).isSome = true := by
  unfold Verdict.ofSoak?
  rcases Soak.isOver_cases ended with ⟨result, finished⟩ | ⟨message, broken⟩
  · rw [finished]
    cases result <;> rfl
  · rw [broken]
    rfl

theorem run_soak {around : Surroundings} {directory scratch : Directory} {settings : Settings}
    {params : Controller.Params}
    (usable : controllerParams directory.find settings.controllerConfig = .ok (some params))
    (created : directory.create settings.scratchDir = (true, scratch)) (fuel : Nat) :
    run around fuel directory settings =
      (Soak.run (setup around settings params) fuel).bind fun s =>
        (Verdict.ofSoak? s).map fun verdict =>
          { lines := soakOutput around.console (setup around settings params).config s verdict
            directory := scratch
            result := .ok verdict } := by
  unfold run
  simp only [usable, created]
  cases Soak.run (setup around settings params) fuel with
  | none => rfl
  | some s => cases ended : Verdict.ofSoak? s <;> simp [ended]

end Launch

namespace Program

def console (e : Environment) (around : Launch.Surroundings) (json : Bool) : Console :=
  { around.console with
    coloured := e.wantsColour false
    log := some (logFormat e json).1 }

/-- What becomes of a run with these settings. -/
structure Answers (e : Environment) (around : Launch.Surroundings) (directory : Directory)
    (words : List String) (json : Bool) (settings : Settings) : Prop where
  /-- A controller configuration that is missing, for all that can be learnt: one line and
  nothing else, whatever the settings. -/
  skipped : ∀ path fuel, settings.controllerConfig = some path →
    directory.find path = .missing ∨ directory.find path = .hidden →
    ∃ stderr, run e around fuel directory words = some
      { exit := 0
        stdout := [Style.yellow.paint (e.wantsColour false) "⚠ SKIP:" ++
          " controller config not found: " ++ path]
        stderr, directory }
  /-- One that cannot be read or is no object: nothing is started. -/
  unreadable : ∀ path fuel, settings.controllerConfig = some path →
    directory.find path = .unreadable →
    ∃ complaints, run e around fuel directory words = some
      { exit := 1
        stderr := complaints ++ ["Error: " ++ ("Failed to read controller config " ++ path)]
        directory }
  unusable : ∀ path bytes fuel, settings.controllerConfig = some path →
    directory.find path = .content bytes →
    (∀ members, Json.document Json.value bytes ≠ .ok (.object members)) →
    ∃ complaints, run e around fuel directory words = some
      { exit := 1
        stderr := complaints ++ ["Error: " ++ ("Failed to process controller config " ++ path)]
        directory }
  /-- Otherwise there is a soak, and its result decides. Where establishing takes any time it
  comes to an end, if it is given the moves. -/
  soaked : ∀ params scratch,
    Launch.Provided directory.find settings.controllerConfig params →
    directory.create settings.scratchDir = (true, scratch) →
    let setup : Setup :=
      { config :=
          { settings.run with
            controller := params.withSoakOverrides (around.dataDir settings.scratchDir) }
        plan := settings.simulation.plan
        coin := around.coin
        readings := around.readings
        clock := around.clock }
    let console := console e around json
    (∀ s result, Soak.Reachable setup s → s.stage = .over result →
      ∃ verdict, Verdict.ofSoak? s = some verdict ∧
        Launch.Written console setup s result (Launch.soakOutput console setup.config s verdict)
          verdict.exitCode) ∧
    (∀ fuel ending, run e around fuel directory words = some ending →
      ∃ s, Soak.run setup fuel = some s ∧ Soak.Reachable setup s ∧
        ((∃ message, s.stage = .panicked message) ∨
          ∃ result, s.stage = .over result ∧ ending.directory = scratch ∧
            Launch.Written console setup s result ending.stdout ending.exit)) ∧
    (∀ fuel, (run e around fuel directory words).isSome = (Soak.run setup fuel).isSome) ∧
    (0 < settings.simulation.establishMs + settings.run.settleDelayMs →
      ∃ enough, ∀ fuel, enough ≤ fuel → (run e around fuel directory words).isSome = true)

section run
variable {e : Environment} {around : Launch.Surroundings} {directory : Directory}
  {words : List String} {line : CommandLine} {args : RunArgs} {settings : Settings}
  (asked : CommandLine.read e.controllerConfig words = .ok line)
  (command : line.command = .run args)
  (configured : Launch.settings e directory.find e.configPath = .ok settings)
include asked command configured

theorem run_eq (fuel : Nat) : ∃ complaints, run e around fuel directory words =
    (Launch.run { around with console := console e around line.json } fuel directory
      (settings.override args)).map fun outcome =>
        match outcome.result with
        | .ok verdict => { exit := verdict.exitCode, stdout := outcome.lines, stderr := complaints
                           directory := outcome.directory }
        | .error trouble => { exit := 1, stdout := outcome.lines
                              stderr := complaints ++ [errorLine trouble]
                              directory := outcome.directory } := by
  refine ⟨(logFormat e line.json).2, ?_⟩
  unfold run
  simp only [asked, configured, command, perform]
  rw [← console]
  cases Launch.run _ fuel directory (settings.override args) with
  | none => rfl
  | some outcome =>
    obtain ⟨lines, directory, result⟩ := outcome
    cases result <;> rfl

theorem run_answers : Answers e around directory words line.json (settings.override args) := by
  refine { skipped := ?_, unreadable := ?_, unusable := ?_, soaked := ?_ }
  · intro path fuel named absent
    obtain ⟨complaints, run_eq⟩ := run_eq asked command configured fuel
    rw [run_eq, Launch.run_absent named absent]
    exact ⟨complaints, rfl⟩
  · intro path fuel named unreadable
    obtain ⟨complaints, run_eq⟩ := run_eq asked command configured fuel
    rw [run_eq, Launch.run, named, Launch.controllerParams_unreadable unreadable]
    exact ⟨complaints, rfl⟩
  · intro path bytes fuel named content other
    obtain ⟨complaints, run_eq⟩ := run_eq asked command configured fuel
    obtain ⟨failure, refused⟩ := Launch.controllerParams_unusable content other
    rw [run_eq, Launch.run, named, refused]
    exact ⟨complaints, rfl⟩
  · intro params scratch provided created setup console
    have unceiled : Soak.Unceiled setup := Launch.unceiled_of_simulated rfl
    have runs := @Launch.run_soak { around with console } directory scratch _ params
      provided.controllerParams created
    have lasts (fuel : Nat) : (run e around fuel directory words).isSome =
        (Soak.run setup fuel).isSome := by
      obtain ⟨complaints, run_eq⟩ := run_eq asked command configured fuel
      rw [run_eq, Option.isSome_map, runs]
      change Option.isSome ((Soak.run setup fuel).bind _) = _
      cases ended : Soak.run setup fuel with
      | none => rfl
      | some s =>
        obtain ⟨-, stopped⟩ := Soak.Reachable.begin.runFrom ended
        rw [Option.bind_some, Option.isSome_map]
        exact Launch.ofSoak?_isSome stopped
    refine ⟨fun s result => Launch.written console unceiled, fun fuel ending ran => ?_, lasts,
      fun slow => ?_⟩
    · obtain ⟨complaints, run_eq⟩ := run_eq asked command configured fuel
      rw [run_eq, runs] at ran
      obtain ⟨outcome, made, rfl⟩ := Option.map_eq_some_iff.mp ran
      obtain ⟨s, ended, judged⟩ := Option.bind_eq_some_iff.mp made
      obtain ⟨verdict, ofSoak, rfl⟩ := Option.map_eq_some_iff.mp judged
      obtain ⟨reach, stopped⟩ := Soak.Reachable.begin.runFrom ended
      refine ⟨s, ended, reach, ?_⟩
      rcases Soak.isOver_cases stopped with ⟨result, finished⟩ | panicked
      · obtain ⟨same, judged, written⟩ := Launch.written console unceiled reach finished
        obtain rfl : verdict = same := Option.some.inj (ofSoak.symm.trans judged)
        exact .inr ⟨result, finished, rfl, written⟩
      · exact .inl panicked
    · have unhurried : Soak.Unhurried setup := fun _ => Simulation.script_unhurried _ slow
      obtain ⟨enough, ends⟩ := Soak.unhurried_run_ends unhurried
      exact ⟨enough, fun fuel more => (lasts fuel).trans (ends fuel more)⟩

end run

def bare : Environment where
  lookup name := if name = "MEMSOAK_CONFIG" then some "" else none

/-- Every reading is 7 bytes, and no time of day is known. -/
def plainly : Launch.Surroundings where
  console := { coloured := false, log := none, runId := "", clock := fun _ => ⟨0, 0⟩ }
  coin _ := false
  readings _ := ⟨7, 9⟩
  dataDir scratchDir := Json.utf8 (Path.join scratchDir "memsoak-0")

def tight : List String :=
  ["run", "--interval-secs=1", "--max-sys-memory=5", "--establish-ms=2000"]

def tightArgs : RunArgs where
  intervalSecs := some 1
  maxSysMemory := some 5
  establishMs := some 2000

theorem tight_run_answers :
    Answers bare plainly {} tight false (({ scratchDir := "/tmp" } : Settings).override tightArgs) ∧
      (run bare plainly 20 {} tight).map Ending.exit = some 1 := by
  have asked : CommandLine.read bare.controllerConfig tight =
      .ok { json := false, command := .run tightArgs } := rfl
  exact ⟨run_answers asked rfl rfl, rfl⟩

def furnished : Directory := { entries := [(["c"], .file (Json.utf8 "{}"))] }

def letters : Nat → List Char
  | 0 => ['c']
  | n + 1 => '.' :: '/' :: letters n

/-- A way to it that stays `n` times where it is. -/
def detour (n : Nat) : String := String.ofList (letters n)

theorem names_detour (n : Nat) : Path.names (detour n) = List.replicate n "." ++ ["c"] := by
  rw [Path.names, detour, String.toList_ofList]
  induction n with
  | zero => decide
  | succ n ih =>
    have step : (letters (n + 1)).splitOn '/' = ['.'] :: (letters n).splitOn '/' := by
      simp [letters, List.splitOn, List.splitOnP_cons_eq_if_modifyHead]
    rw [step, List.map_cons, ih]
    rfl

theorem follow_stay (d : Directory) (n : Nat) (path : List String) :
    d.follow (List.replicate n "." ++ path) [] = d.follow path [] := by
  induction n with
  | zero => rfl
  | succ n ih => exact ih

theorem utf8ByteSize_detour (n : Nat) : (detour n).utf8ByteSize = 2 * n + 1 := by
  rw [detour]
  induction n with
  | zero => rfl
  | succ n ih =>
    have step : letters (n + 1) = ['.', '/'] ++ letters n := rfl
    rw [step, String.ofList_append, String.utf8ByteSize_append, ih]
    have dot : (String.ofList ['.', '/']).utf8ByteSize = 2 := rfl
    omega

theorem letters_head (n : Nat) : ∃ c rest, letters n = c :: rest ∧ c ≠ '/' ∧ c ≠ '-' := by
  cases n with
  | zero => exact ⟨_, _, rfl, by decide, by decide⟩
  | succ n => exact ⟨_, _, rfl, by decide, by decide⟩

theorem detour_isEmpty (n : Nat) : (detour n).isEmpty = false := by
  obtain ⟨c, rest, spelled, -⟩ := letters_head n
  rw [detour, spelled]
  simp

theorem stored_detour (n : Nat) : furnished.stored (detour n) = .content (Json.utf8 "{}") := by
  have relative : Path.isAbsolute (detour n) = false := by
    obtain ⟨c, rest, spelled, other, -⟩ := letters_head n
    rw [Path.isAbsolute, detour, String.toList_ofList, spelled]
    simpa using other
  rw [Directory.stored, detour_isEmpty, relative, names_detour, follow_stay]
  rfl

theorem optionWord?_detour (n : Nat) (p : CommandLine.Draft) : p.optionWord? (detour n) = none := by
  obtain ⟨c, rest, spelled, -, other⟩ := letters_head n
  unfold CommandLine.Draft.optionWord?
  rw [detour, String.toList_ofList, spelled]
  split
  · rfl
  · split <;> simp_all

theorem read_detour (n : Nat) : CommandLine.read bare.controllerConfig
    ["run", "--controller-config", detour n] =
      .ok { json := false, command := .run { controllerConfig := some (detour n) } } := by
  let p : CommandLine.Draft := { flags := Flag.all, program := "memsoak-run" }
  have flag : p.word "--controller-config" =
      .ok { p with pending := some (.controllerConfig, none) } := rfl
  have value : ({ p with pending := some (.controllerConfig, none) } : CommandLine.Draft).word
      (detour n) = .ok { p with pending := some (.controllerConfig, some (detour n)) } := by
    rw [CommandLine.Draft.word, optionWord?_detour]
  have settled : ({ p with pending := some (.controllerConfig, some (detour n)) } :
      CommandLine.Draft).settle = .ok { p with args.controllerConfig := some (detour n) } := by
    simp [CommandLine.Draft.settle, CommandLine.Draft.store, CommandLine.Draft.isGiven,
      CommandLine.Draft.assign, detour_isEmpty, Except.map, p]
  have words : CommandLine.readWords Flag.all "run" ["--controller-config", detour n] =
      .ok { p with args.controllerConfig := some (detour n) } := by
    change ((p.word "--controller-config" >>= fun p => p.word (detour n) >>= .ok) >>= _) = _
    rw [flag]
    change (CommandLine.Draft.word _ (detour n) >>= .ok) >>= _ = _
    rw [value]
    exact settled
  change (CommandLine.readWords Flag.all "run" ["--controller-config", detour n] >>= _) = _
  rw [words]
  rfl

theorem detour_is_skipped {n : Nat} (long : Path.maxLength ≤ 2 * n + 1) :
    (run bare plainly 1 furnished ["run", "--controller-config", detour n]).map
        (fun ending => (ending.exit, ending.stdout)) =
      some (0, ["⚠ SKIP: controller config not found: " ++ detour n]) := by
  have hidden : furnished.find (detour n) = .hidden := by
    have overlong : Path.isOverlong (detour n) = true := by
      rw [Path.isOverlong, utf8ByteSize_detour]
      exact decide_eq_true long
    rw [Directory.find, stored_detour, overlong]
    rfl
  have configured : Launch.settings bare furnished.find bare.configPath =
      .ok { scratchDir := "/tmp" } := rfl
  obtain ⟨complaints, ran⟩ : ∃ complaints, run bare plainly 1 furnished _ = _ :=
    run_eq (read_detour n) rfl configured 1
  rw [ran, Launch.run_absent rfl (.inr hidden)]
  rfl

/-- The file is there and nothing can be read of it, yet the run is skipped and not in error. -/
theorem unread_config_is_skipped :
    furnished.stored (detour 2048) = .content (Json.utf8 "{}") ∧
      (run bare plainly 1 furnished ["run", "--controller-config", detour 2048]).map
          (fun ending => (ending.exit, ending.stdout)) =
        some (0, ["⚠ SKIP: controller config not found: " ++ detour 2048]) :=
  ⟨stored_detour 2048, detour_is_skipped (by decide)⟩

end Program

end TunnelSoak
