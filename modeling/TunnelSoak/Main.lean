import TunnelSoak.Program

/-! The program itself, in real time: it reads the environment and the files, lets
time pass where a run waits, and prints what happens as it happens. -/
namespace TunnelSoak.Main

def variableNames : List String :=
  ["HOME", "XDG_DATA_HOME", "TMPDIR", "MEMSOAK_CONFIG", "MEMSOAK_CONTROLLER_CONFIG", "RUST_LOG",
    "NO_COLOR", "CLICOLOR", "CLICOLOR_FORCE"]

def environment : IO Environment := do
  let values ← variableNames.mapM fun name => do return (name, ← IO.getEnv name)
  return { lookup := fun name => (values.find? fun entry => entry.1 = name).bind Prod.snd }

def find (path : String) : IO Found := do
  try
    discard <| IO.FS.realPath path
  catch
    | .noFileOrDirectory .. => return .missing
    | .inappropriateType .. => return .missing
    | _ => return .hidden
  try
    let bytes ← IO.FS.readBinFile path
    return .content bytes.data.toList
  catch _ => return .unreadable

def numberAfter (words : Nat) (text : String) : Nat :=
  let parts := (text.splitOn " ").filter fun part => !part.isEmpty
  ((parts[words]?.getD "").takeWhile Char.isDigit).toNat?.getD 0

def pageSize : Nat := 4096

/-- The resident memory; what has been allocated so far is not known to this system. -/
def reading : IO MemoryReading := do
  let pages ← (do return numberAfter 1 (← IO.FS.readFile "/proc/self/statm")) <|> pure 0
  return ⟨pages * pageSize, pages * pageSize⟩

def bootSeconds : IO Nat := do
  let text ← IO.FS.readFile "/proc/stat" <|> pure ""
  return match (text.splitOn "\n").find? fun line => line.startsWith "btime" with
    | some line => numberAfter 1 line
    | none => 0

def moment (boot ms : Nat) : Moment := ⟨boot + ms / 1000, ms % 1000 * 1000000⟩

def hex (bytes : List UInt8) : String :=
  String.join (bytes.map fun b =>
    String.ofList [Nat.digitChar (b.toNat / 16), Nat.digitChar (b.toNat % 16)])

def randomId : IO String := do
  match (← IO.getRandomBytes 16).data.toList with
  | [a, b, c, d, e, f, g, h, i, j, k, l, m, n, o, p] =>
    return "-".intercalate [hex [a, b, c, d], hex [e, f], hex [g % 16 + 64, h],
      hex [i % 64 + 128, j], hex [k, l, m, n, o, p]]
  | _ => return ""

def printLines (lines : List String) : IO Unit := do
  for line in lines do
    IO.println line
  (← IO.getStdout).flush

/-- Memory that is kept for every tunnel. -/
abbrev Leaked := IO.Ref (List ByteArray)

def leak (kept : Leaked) (bytes : Nat) : IO Unit :=
  if bytes = 0 then pure () else kept.modify (⟨Array.replicate bytes 0xa5⟩ :: ·)

partial def sleepUntil (start due : Nat) : IO Unit := do
  let elapsed := (← IO.monoMsNow) - start
  if elapsed < due then
    IO.sleep (min (due - elapsed) 60000).toUInt32
    sleepUntil start due

/-- Carry out the moves of a soak, sleeping while nothing can happen. -/
partial def drive (console : Console) (setup : Setup) (kept : Leaked) (leakBytes start : Nat)
    (turn : Soak.Turn) (s : Soak) : IO Soak := do
  if s.isOver then return s
  let sample ← if s.isReady .tick then reading else pure ⟨0, 0⟩
  let flip ← IO.rand 0 1
  let setup := { setup with readings := fun _ => sample, coin := fun _ => flip = 1 }
  match s.proceed setup turn with
  | none =>
    IO.sleep 1000
    drive console setup kept leakBytes start turn s
  | some (turn, next) =>
    sleepUntil start next.rig.now
    if s.rig.counters.established < next.rig.counters.established then leak kept leakBytes
    let fresh := (next.rig.trace.take (next.rig.trace.length - s.rig.trace.length)).reverse
    printLines (fresh.flatMap (console.entryLines setup.config.mode))
    drive console setup kept leakBytes start turn next

def withDataDir (scratchDir : String) (act : String → IO α) : IO (Except Trouble α) := do
  try
    if !scratchDir.isEmpty then IO.FS.createDirAll scratchDir
  catch _ => return .error .scratchRefused
  let dir := Path.join scratchDir ("memsoak-" ++ ((← randomId).take 8).toString)
  try
    IO.FS.createDir dir
  catch _ => return .error .dataRefused
  try
    return .ok (← act dir)
  finally
    try
      IO.FS.removeDirAll dir
    catch e => IO.eprintln ("failed to remove controller data directory: " ++ toString e)

def runSoak (console : Console) (settings : Settings) (params : Controller.Params) (dir : String) :
    IO Verdict := do
  let start ← IO.monoMsNow
  let setup : Setup :=
    { config := Launch.runConfig settings params (Json.utf8 dir)
      plan := settings.simulation.plan
      coin := fun _ => false
      readings := fun _ => ⟨0, 0⟩
      clock := .since start }
  printLines [console.startLine setup.config]
  let boot ← bootSeconds
  let console := { console with clock := fun ms => moment boot (start + ms) }
  let kept ← IO.mkRef []
  let first := Soak.begin setup
  printLines (first.rig.trace.reverse.flatMap (console.entryLines setup.config.mode))
  let simulation := settings.simulation
  let leakBytes := if simulation.Fits then simulation.leakBytesPerTunnel else 0
  let last ← drive console setup kept leakBytes start .loop first
  return (Verdict.ofSoak? last).getD (.panicked "the run did not end")

def run (console : Console) (settings : Settings) : IO (Except Trouble Nat) := do
  let found ← match settings.controllerConfig with
    | some path => find path
    | none => pure .missing
  let report (verdict : Verdict) : IO Nat := do
    printLines (verdict.line? console.coloured).toList
    return verdict.exitCode
  match Launch.controllerParams (fun _ => found) settings.controllerConfig with
  | .error trouble => return .error trouble
  | .ok none => return .ok (← report (.skipped (settings.controllerConfig.getD "")))
  | .ok (some params) =>
    match ← withDataDir settings.scratchDir (runSoak console settings params) with
    | .error trouble => return .error trouble
    | .ok verdict => return .ok (← report verdict)

def perform (console : Console) (settings : Settings) : Command → IO (Except Trouble Nat)
  | .run args => run console (settings.override args)
  | .modes => do
    printLines (Program.modeLines console.coloured)
    return .ok 0
  | .version => do
    printLines [Program.versionLine]
    return .ok 0

def refuse (refusal : CommandLine.Refusal) : IO UInt32 := do
  let ending := Program.refuse refusal {}
  printLines ending.stdout
  for line in ending.stderr do
    IO.eprintln line
  return ending.exit.toUInt32

def launch (words : List String) : IO UInt32 := do
  let e ← environment
  match CommandLine.read e.controllerConfig words with
  | .error refusal => refuse refusal
  | .ok line =>
    let (format, complaints) := Program.logFormat e line.json
    for complaint in complaints do
      IO.eprintln complaint
    let console : Console :=
      { coloured := e.wantsColour (← (← IO.getStdout).isTty), log := some format
        runId := ← randomId, clock := moment 0 }
    let path := e.configPath
    let found ← find path
    match Launch.settings e (fun _ => found) path with
    | .error trouble =>
      IO.eprintln (Program.errorLine trouble)
      return 1
    | .ok settings =>
      match ← perform console settings line.command with
      | .ok exit => return exit.toUInt32
      | .error trouble =>
        IO.eprintln (Program.errorLine trouble)
        return 1

end TunnelSoak.Main

def main (words : List String) : IO UInt32 := TunnelSoak.Main.launch words
