import Std.Time.Format
import Std.Time.Zoned
import ProcessIntegrity.Console.Folder
import ProcessIntegrity.Console.Run
import ProcessIntegrity.Host.Linux
/-!
# The program

Observes the world that one run of the command-line program depends on, makes the run, and writes
what it shows. The settings file and the log file lie next to the executable.
-/

namespace ProcessIntegrity.Console

/-! ## Observing -/

def failureOf : IO.Error → IoFailure
  | .alreadyExists _ code _ | .otherError code _ | .resourceBusy code _ | .resourceVanished code _
  | .unsupportedOperation code _ | .hardwareFault code _ | .unsatisfiedConstraints code _
  | .illegalOperation code _ | .protocolError code _ | .timeExpired code _ | .interrupted _ code _
  | .noFileOrDirectory _ code _ | .invalidArgument _ code _ | .permissionDenied _ code _
  | .resourceExhausted _ code _ | .inappropriateType _ code _ | .noSuchThing _ code _ =>
    .os code.toInt32
  | .unexpectedEof => .other "unexpected end of file"
  | .userError text => .other text

def attempt {α : Type} (operation : IO α) : IO (Except IoFailure α) := do
  try
    return .ok (← operation)
  catch e =>
    return .error (failureOf e)

def readText (path : String) : IO (Except IoFailure String) := do
  let bytes ← attempt (IO.FS.withFile path .read (·.readBinToEnd))
  return bytes.bind IoFailure.decode

def currentEnvironment : IO Settings.Environment := do
  let values ← Settings.Override.all.mapM fun o =>
    return (o.variableName, ← IO.getEnv o.variableName)
  return fun name => (values.lookup name).join

/-- The clock before and after a workload, in nanoseconds since the given time. -/
def timeWorkload (iterations : UInt32) (epoch : Nat) : IO (List Nat) := do
  let result ← IO.mkRef (0 : UInt64)
  let before ← IO.monoNanosNow
  result.set (Timing.workload iterations)
  let after ← IO.monoNanosNow
  return [before - epoch, after - epoch]

def currentProcess : IO String := do
  match ← readText "/proc/self/stat" with
  | .ok text => return String.ofList (text.toList.takeWhile Char.isDigit)
  | .error _ => return "0"

def currentStamp : IO Log.Stamp := do
  let now ← Std.Time.DateTime.now
  return ⟨now.toLeanDateTimeWithZoneString, ← currentProcess, "ThreadId(1)"⟩

/-! ## Running -/

/-- Opens the log file that the settings ask for; `place` says where its path leads. -/
def openLogFile (place : String → String) (s : LogSettings) :
    IO (Except IoFailure (Option IO.FS.Handle)) := do
  match logFile? s with
  | none => return .ok none
  | some path =>
    if path.contains '\x00' then
      return .error .zeroInName
    else
      attempt (some <$> IO.FS.Handle.mk (place path) .append)

def writeReport (report : Report) (logFile : Option IO.FS.Handle) : IO Unit := do
  let stamp ← currentStamp
  let output ← IO.getStdout
  for line in report.logLines stamp do
    for file in output :: (logFile.map IO.FS.Stream.ofHandle).toList do
      file.putStrLn line
      file.flush
  if let some line := report.verdictLine? then
    output.putStrLn line
  match report.halt with
  | some (.refused why) => IO.eprintln (why.line stamp.time)
  | some (.crashed message) => IO.eprintln message
  | none => return ()

/-- One run of the program in the folder of its executable; `place` says where a path from there
leads. -/
def runIn (place : String → String) : IO Report := do
  let epoch ← IO.monoNanosNow
  let path := place Folder.settingsFile
  let content ← readText path
  let env ← currentEnvironment
  let settings := configure {} path content env
  let logFile ← match settings with
    | .ok s => openLogFile place s.logging
    | .error _ => pure (.ok none)
  let iterations := match settings with
    | .ok s => s.probe.iterations
    | .error _ => 0
  let world : World (List Nat) := {
    build := {}
    path
    content
    env
    tryOpen := fun _ => logFile.map fun _ => ()
    host := Linux.host (Linux.recorded (← readText "/proc/self/status")) }
  let report := run world (← timeWorkload iterations epoch)
  writeReport report (logFile.toOption.join)
  return report

end ProcessIntegrity.Console

open ProcessIntegrity.Console in
def main : IO UInt32 := do
  match (← IO.appPath).parent with
  | some folder =>
    let report ← runIn fun path => (folder / path).toString
    return report.status.toUInt32
  | none =>
    let why : Refusal := ⟨"startup", "executable must live in some directory"⟩
    IO.eprintln (why.line (← currentStamp).time)
    return refusedStatus.toUInt32
