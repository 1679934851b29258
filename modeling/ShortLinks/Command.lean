import ShortLinks.Journal.Line
import ShortLinks.Session
import ShortLinks.Settings.Defaults

/-!
# The command

The command reads its settings from the environment and from a file of defaults, runs a session with them,
and writes its log to standard output and a failure to standard error.
-/

set_option autoImplicit false

namespace ShortLinks.Command

structure Report where
  exitCode : Nat
  /-- The log up to the point where the service is ready, and from there on. -/
  startLines : List String
  stopLines : List String
  errorLines : List String
deriving DecidableEq, Repr

def splitLines (text : String) : List String := text.splitOn "\n"

/-- A cause below a failure, with its number if it has one. The lines after its first stand below that. -/
def causeLines (number : Option Nat) (cause : String) : List String :=
  let (first, indent) := match number with
    | none => ("    ", "    ")
    | some n => (String.ofList ("    ".toList.drop ((toString n).length - 1)) ++ toString n ++ ": ", "       ")
  match splitLines cause with
  | [] => []
  | line :: rest => (first ++ line) :: rest.map (indent ++ ·)

def errorLines : List String → List String
  | [] => []
  | failure :: causes =>
    splitLines ("Error: " ++ failure) ++
      if causes = [] then []
      else "" :: "Caused by:" :: causes.zipIdx.flatMap fun (cause, n) =>
        causeLines (if causes.length = 1 then none else some n) cause

def failed (chain : List String) (lines : List String) : Report :=
  { exitCode := 1, startLines := lines, stopLines := [], errorLines := errorLines chain }

def run {δ : Type} [Database δ] (processors : Nat) (env : Environment) (defaults : Option Bytes)
    (world : World δ) : Report × World δ :=
  let env := match defaults with
    | some content => Settings.Defaults.fill env content
    | none => env
  match Settings.load processors env with
  | .error e => (failed e.chain [], world)
  | .ok settings =>
    let r := Session.run settings world
    let lines (events : List Event) : List String :=
      (Journal.lines (.ofSetting settings.logLevel) (.ofSetting settings.logFormat) events).flatMap splitLines
    let events := Session.announce settings ++ r.events
    match r.outcome with
    | .error e => (failed e.chain (lines events), r.state)
    | .ok () =>
      ({ exitCode := 0
         startLines := lines (events.takeWhile (· != .shuttingDown))
         stopLines := lines (events.dropWhile (· != .shuttingDown))
         errorLines := [] }, r.state)

end ShortLinks.Command
