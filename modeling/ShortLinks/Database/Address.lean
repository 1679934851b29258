import ShortLinks.Action
import ShortLinks.Address.Path
import ShortLinks.Text.Utf8

/-!
# Database addresses

An address names the host, the user and the database, and may set options after a question mark. It is
refused if it is no URL, if a part of it does not stand for text, or if an option has a value that it
cannot have. Options that are not known are noted and passed over.
-/

set_option autoImplicit false

namespace ShortLinks.Database.Address

variable {ω : Type}

def refuse {α : Type} (reason : String) : Action DatabaseError ω α := Action.fail (.configuration reason)

def decoded (part : List Char) : Bytes := ShortLinks.Address.Percent.decode (Bytes.ofText (String.ofList part))

def checkText (part : List Char) : Action DatabaseError ω Unit :=
  match Text.Utf8.fault? (decoded part) with
  | some fault => refuse fault.message
  | none => pure ()

/-- A host that is a path names a socket and must stand for text; every other host is used as it is. -/
def checkHost : Option ShortLinks.Address.Host → Action DatabaseError ω Unit
  | some (.opaqueText host) => if (decoded host).head? = some 47 then checkText host else pure ()
  | _ => pure ()

def optionText (s : List Char) : String :=
  Text.Utf8.mended (decoded (s.map fun c => if c == '+' then ' ' else c))

def options (query : List Char) : List (String × String) :=
  (ShortLinks.Address.Path.cut (· == '&') query).filterMap fun piece =>
    if piece = [] then none
    else some (optionText (piece.takeWhile (· != '=')), optionText (piece.dropWhile (· != '=')).tail)

/-- Why a row of digits spells no number below `bound`, if `value` has been read of it. The first digit that
is none, or that makes the number too large, counts. -/
def digitsFault? (bound value : Nat) : List Char → Option String
  | [] => none
  | c :: rest =>
    if !c.isDigit then some "invalid digit found in string"
    else
      let value := 10 * value + (c.toNat - 48)
      if bound ≤ value then some "number too large to fit in target type" else digitsFault? bound value rest

def numberFault? (bound : Nat) (s : String) : Option String :=
  match s.toList with
  | [] => some "cannot parse integer from empty string"
  | '+' :: c :: rest => digitsFault? bound 0 (c :: rest)
  | cs => digitsFault? bound 0 cs

def checkNumber (bound : Nat) (value : String) : Action DatabaseError ω Unit :=
  match numberFault? bound value with
  | some reason => refuse reason
  | none => pure ()

def isNetworkAddress (s : List Char) : Bool :=
  (ShortLinks.Address.Ipv6.dotted? s).isSome || (ShortLinks.Address.Ipv6.parse? s).isSome

def sslModes : List String := ["disable", "allow", "prefer", "require", "verify-ca", "verify-full"]

def freeOptions : List String := [
  "sslrootcert", "ssl-root-cert", "ssl-ca", "sslcert", "ssl-cert", "sslkey", "ssl-key", "host", "dbname", "user",
  "password", "application_name", "options"]

def checkOption (name value : String) : Action DatabaseError ω Unit :=
  if name = "sslmode" ∨ name = "ssl-mode" then
    if sslModes.contains (String.ofList (value.toList.map Char.toLower)) then pure ()
    else Action.fail (.misconfigured (.configuration ("unknown value " ++ Text.Quoted.text value ++ " for `ssl_mode`")))
  else if name = "hostaddr" then
    if isNetworkAddress value.toList then pure () else refuse "invalid IP address syntax"
  else if name = "port" then checkNumber 65536 value
  else if name = "statement-cache-capacity" then checkNumber (Nat.pow 2 64) value
  else if freeOptions.contains name || name.startsWith "options[" then pure ()
  else Action.emit (.unknownOption name value)

def check (text : String) : Action DatabaseError ω Unit := do
  let url ← Action.ofExcept ((ShortLinks.Address.Url.parse text).mapError fun e => .configuration e.message)
  checkHost url.host
  checkText url.username
  checkText url.password
  checkText (url.path.dropWhile (· == '/'))
  (options url.query).forM fun (name, value) => checkOption name value

end ShortLinks.Database.Address
