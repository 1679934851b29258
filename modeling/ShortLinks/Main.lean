import ShortLinks.Command
import ShortLinks.Random.Congruential

/-!
# The program

Gathers what the command works on, runs it, and prints what it reports. The log file is read before the run
and written back after it; an end of standard input, or a line on it, interrupts the session.
-/

set_option autoImplicit false

namespace ShortLinks.Main

def settingNames : List String := [
  "FILE_STORAGE_PATH", "DATABASE_URL", "DB_HOST", "DB_PORT", "DB_USER", "DB_PASSWORD", "DB_NAME",
  "DB_MAX_CONNECTIONS", "DB_CONNECT_TIMEOUT", "DB_QUERY_TIMEOUT_MS", "DB_PING_TIMEOUT_MS",
  "SHORT_ID_LENGTH", "OWNER_ID_LENGTH", "DELETE_WORKERS", "DELETE_QUEUE_CAPACITY", "RUST_LOG", "LOG_FORMAT"]

def readEnvironment : IO Environment := do
  let mut env : Environment := []
  for name in settingNames do
    if let some value ← IO.getEnv name then
      env := env.set name (Bytes.ofText value)
  return env

def readFile? (path : String) : IO (Option Bytes) := do
  try
    return some (← IO.FS.readBinFile path).data.toList
  catch _ => return none

def isDirectory (path : String) : IO Bool := do
  try
    let _ ← IO.FS.Handle.mk (path ++ "/.") .read
    return true
  catch _ => return false

def storagePath? (processors : Nat) (env : Environment) : Option String :=
  match Settings.load processors env with
  | .ok { storage := .file path, .. } => some path
  | _ => none

/-- A disk with the directories along a path and with the file at its end, as far as they are there. -/
def mount (path : String) : IO Disk := do
  let names := Disk.segments path
  let mut disk := Disk.blank []
  for n in List.range names.length do
    let along := String.intercalate "/" (names.take (n + 1))
    if along != "" && (← isDirectory along) then
      disk := (Disk.makeDirectories along disk).state
  match ← readFile? path with
  | some content => return (Disk.writeFile path content disk).state
  | none => return disk

def processors : IO Nat := do
  match (← readFile? "/proc/cpuinfo").bind Bytes.text? with
  | some text => return max 1 ((text.splitOn "\n").countP (·.startsWith "processor"))
  | none => return 1

def run : IO UInt32 := do
  let cpus ← processors
  let env ← readEnvironment
  let defaults ← readFile? ".env"
  let filled := match defaults with
    | some content => Settings.Defaults.fill env content
    | none => env
  let path? := storagePath? cpus filled
  let disk ← match path? with
    | some path => mount path
    | none => pure (Disk.blank [])
  let seed := (← IO.getRandomBytes 8).toUInt64LE!
  let world : World Database.Scripted := {
    disk
    database := { unreachable := some (.system 101), replies := [], sent := [] }
    random := { fill := Random.Congruential.fill seed, requests := 0, patience := 1000000 } }
  let (report, after) := Command.run cpus filled none world
  for line in report.startLines do
    IO.println line
  if report.exitCode == 0 then
    let _ ← (← IO.getStdin).getLine
  for line in report.stopLines do
    IO.println line
  for line in report.errorLines do
    IO.eprintln line
  match path?.bind fun path => (after.disk.content? path).map fun content => (path, content) with
  | some (path, content) => IO.FS.writeBinFile path ⟨content.toArray⟩
  | none => pure ()
  return UInt32.ofNat report.exitCode

end ShortLinks.Main

def main : IO UInt32 := ShortLinks.Main.run
