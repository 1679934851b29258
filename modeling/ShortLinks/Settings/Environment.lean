import ShortLinks.Bytes
import ShortLinks.Text.Quoted

/-!
# Environments

The variables a program is started with. Their values are bytes, and only those that are text can be used.
-/

set_option autoImplicit false

namespace ShortLinks

abbrev Environment := List (String × Bytes)

inductive Unset where
  | missing
  | notText (value : Bytes)
deriving DecidableEq, Repr

def Unset.message : Unset → String
  | .missing => "environment variable not found"
  | .notText value => "environment variable was not valid unicode: " ++ Text.Quoted.bytes value

namespace Environment

def text (env : Environment) (name : String) : Except Unset String :=
  match env.lookup name with
  | none => .error .missing
  | some value => match Bytes.text? value with
    | some text => .ok text
    | none => .error (.notText value)

def text? (env : Environment) (name : String) : Option String := (env.text name).toOption

def nonEmpty? (env : Environment) (name : String) : Option String := (env.text? name).filter (· != "")

def set (env : Environment) (name : String) (value : Bytes) : Environment :=
  (name, value) :: env.filter (·.1 != name)

end Environment
end ShortLinks
