import ShortLinks.Action
import ShortLinks.Bytes

/-!
# Disks

Directories and files under paths. A file that is open is known by its number and not by its name, so it
stays what it is when its name is removed or given to another file. Writes may be torn: the disk says in
advance how far each of the next ones gets.
-/

set_option autoImplicit false

namespace ShortLinks

inductive Node where
  | directory
  | file (number : Nat)
deriving DecidableEq, Repr

/-- A place below the root, as the names that lead there, the last one first. -/
abbrev Place := List String

structure Tear where
  written : Nat
  cause : IoError
deriving DecidableEq, Repr

structure Disk where
  nodes : Place → Option Node
  contents : Nat → Bytes
  next : Nat
  start : Place
  /-- How the next writes end; where the list says nothing they succeed. -/
  tears : List (Option Tear)

namespace Disk

def blank (start : Place) : Disk where
  nodes place := if place = [] ∨ place <:+ start then some .directory else none
  contents _ := []
  next := 0
  start
  tears := []

def follow (d : Disk) (place : Place) (name : String) : Except IoError Place :=
  match d.nodes place with
  | none => .error .notFound
  | some (.file _) => .error .notDirectory
  | some .directory =>
    if name = "" ∨ name = "." then .ok place
    else if name = ".." then .ok place.tail
    else if 255 < name.utf8ByteSize then .error .nameTooLong
    else .ok (name :: place)

structure Path where
  absolute : Bool
  names : List String
deriving DecidableEq, Repr

def segments (path : String) : List String := (path.toList.splitOn '/').map String.ofList

def readPath (path : String) : Except IoError Path :=
  if path.toList.contains '\x00' then .error .nulInPath
  else if path = "" then .error .notFound
  else if 4096 ≤ path.utf8ByteSize then .error .nameTooLong
  else .ok ⟨path.toList.head? = some '/', segments path⟩

def walk (d : Disk) (path : Path) : Except IoError Place :=
  path.names.foldlM d.follow (if path.absolute then [] else d.start)

def locate (d : Disk) (path : String) : Except IoError Place := readPath path >>= d.walk

/-- The place of a file that may have to be made. A path that ends in a slash or a dot names a directory. -/
def locateFile (d : Disk) (path : String) : Except IoError Place := do
  let parsed ← readPath path
  let names := (parsed.names.reverse.dropWhile (· == "")).reverse
  match names.getLast? with
  | none => .error .isDirectory
  | some last =>
    let parent ← d.walk { parsed with names := names.dropLast }
    let place ← d.follow parent (if names.length < parsed.names.length && last != ".." then "" else last)
    if names.length < parsed.names.length then .error .isDirectory else .ok place

def setNode (d : Disk) (place : Place) (node : Option Node) : Disk :=
  { d with nodes := fun p => if p = place then node else d.nodes p }

def setContents (d : Disk) (number : Nat) (content : Bytes) : Disk :=
  { d with contents := fun n => if n = number then content else d.contents n }

def create (d : Disk) (place : Place) : Disk :=
  { (d.setNode place (some (.file d.next))).setContents d.next [] with next := d.next + 1 }

def openFile (path : String) : Action IoError Disk Nat := fun d =>
  match d.locateFile path with
  | .error e => ⟨.error e, d, []⟩
  | .ok place => match d.nodes place with
    | some (.file number) => ⟨.ok number, d, []⟩
    | some .directory => ⟨.error .isDirectory, d, []⟩
    | none => ⟨.ok d.next, d.create place, []⟩

/-- Puts bytes at the end of an open file. A torn write leaves a part of them there. -/
def append (number : Nat) (bytes : Bytes) : Action IoError Disk Unit := fun d =>
  if bytes = [] then ⟨.ok (), d, []⟩
  else
    let rest := { d with tears := d.tears.tail }
    match d.tears.head?.join with
    | none => ⟨.ok (), rest.setContents number (d.contents number ++ bytes), []⟩
    | some tear =>
      ⟨.error tear.cause, rest.setContents number (d.contents number ++ bytes.take tear.written), []⟩

def readFile (path : String) : Action IoError Disk Bytes := fun d =>
  match d.locate path with
  | .error e => ⟨.error e, d, []⟩
  | .ok place => match d.nodes place with
    | some (.file number) => ⟨.ok (d.contents number), d, []⟩
    | some .directory => ⟨.error .isDirectory, d, []⟩
    | none => ⟨.error .notFound, d, []⟩

def truncate (number : Nat) : Action IoError Disk Unit := Action.modify (·.setContents number [])

def writeFile (path : String) (bytes : Bytes) : Action IoError Disk Unit := do
  let number ← openFile path
  truncate number
  append number bytes

def rename (old new : String) : Action IoError Disk Unit := fun d =>
  match d.locate old, d.locateFile new with
  | .error e, _ => ⟨.error e, d, []⟩
  | _, .error e => ⟨.error e, d, []⟩
  | .ok source, .ok target => match d.nodes source, d.nodes target with
    | some (.file _), some .directory => ⟨.error .isDirectory, d, []⟩
    | some (.file number), _ => ⟨.ok (), (d.setNode source none).setNode target (some (.file number)), []⟩
    | some .directory, _ => ⟨.error .isDirectory, d, []⟩
    | none, _ => ⟨.error .notFound, d, []⟩

def remove (path : String) : Action IoError Disk Unit := fun d =>
  match d.locate path with
  | .error e => ⟨.error e, d, []⟩
  | .ok place => match d.nodes place with
    | some (.file _) => ⟨.ok (), d.setNode place none, []⟩
    | some .directory => ⟨.error .isDirectory, d, []⟩
    | none => ⟨.error .notFound, d, []⟩

def makeDirectory (path : String) : Action IoError Disk Unit := fun d =>
  match d.locate path with
  | .error e => ⟨.error e, d, []⟩
  | .ok place => match d.nodes place with
    | some _ => ⟨.error .alreadyExists, d, []⟩
    | none => ⟨.ok (), d.setNode place (some .directory), []⟩

def makeDirectories (path : String) : Action IoError Disk Unit := do
  let names := segments path
  for n in List.range names.length do
    let _ : Except IoError Unit ← Action.attempt (makeDirectory (String.intercalate "/" (names.take (n + 1))))
  pure ()

def inspect (path : String) : Action IoError Disk Unit := fun d =>
  match d.locate path with
  | .error e => ⟨.error e, d, []⟩
  | .ok place => match d.nodes place with
    | some _ => ⟨.ok (), d, []⟩
    | none => ⟨.error .notFound, d, []⟩

def content? (d : Disk) (path : String) : Option Bytes := (readFile path d).outcome.toOption

end Disk
end ShortLinks
