import ShortLinks.Address.Url

/-!
# Targets

A target is checked and never changed: what is stored and compared is exactly the text that the client
sent.
-/

set_option autoImplicit false

namespace ShortLinks

inductive TargetError where
  | invalidFormat (reason : Address.UrlError)
  | unsupportedProtocol
  | missingHost
deriving DecidableEq, Repr

def TargetError.message : TargetError → String
  | .invalidFormat reason => "Invalid URL format: " ++ reason.message
  | .unsupportedProtocol => "Only HTTP and HTTPS protocols are allowed"
  | .missingHost => "URL must have a host"

def checkTarget (target : String) : Except TargetError Unit :=
  match Address.Url.parse target with
  | .error reason => .error (.invalidFormat reason)
  | .ok url =>
    if url.scheme ≠ "http".toList ∧ url.scheme ≠ "https".toList then .error .unsupportedProtocol
    else if url.host.all Address.Host.isEmpty then .error .missingHost
    else .ok ()

end ShortLinks
