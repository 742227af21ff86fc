import HttpScenario.Text.Part
import HttpScenario.Url.Parser

/-! Where a request goes: to its own address, or to one below the base address of the run. -/

namespace HttpScenario.Transport

inductive AddressError
  | invalidBase (base : String) (cause : Url.Error)
  | notJoined (base url : String) (cause : Url.Error)
deriving DecidableEq

def AddressError.message : AddressError → String
  | invalidBase base cause => s!"invalid base url '{base}': {cause.message}"
  | notJoined base url cause =>
    s!"failed to join base url '{base}' with '{url}': {cause.message}"

def isAbsolute (url : String) : Bool := Text.holds url "://"

/-- Joins an address to a base; slashes at its beginning do not lead to the root. -/
def join (base url : String) : Except AddressError String :=
  match Url.parse none base with
  | .error cause => .error (.invalidBase base cause)
  | .ok parsed =>
    if url = "" then .ok parsed.text
    else
      let directory := { parsed with path := parsed.path.withFinalSlash }
      let rest := String.ofList (url.toList.dropWhile (· = '/'))
      match Url.parse (some directory) rest with
      | .error cause => .error (.notJoined base url cause)
      | .ok joined => .ok joined.text

def resolve (base : Option String) (url : String) : Except AddressError String :=
  if isAbsolute url then .ok url
  else base.elim (.ok url) fun base => join base url

end HttpScenario.Transport
