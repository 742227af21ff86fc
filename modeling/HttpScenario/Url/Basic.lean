import HttpScenario.Url.Host

/-! URLs in parts, and their text. -/

namespace HttpScenario

inductive Url.Place
  | segments (parts : List String)
  /-- A text without a root, to which nothing can be relative. -/
  | rootless (text : String)
deriving DecidableEq

structure Url where
  scheme : String
  username : String
  password : String
  host : Option Url.Host
  /-- The port, unless it is the default one of the scheme. -/
  port : Option Nat
  path : Url.Place
  query : Option String
  fragment : Option String
deriving DecidableEq

namespace Url

def knownSchemes : List (String × Option Nat) :=
  [("http", some 80), ("https", some 443), ("ws", some 80), ("wss", some 443), ("ftp", some 21),
   ("file", none)]

def isSpecial (scheme : String) : Bool := (knownSchemes.lookup scheme).isSome

def defaultPort? (scheme : String) : Option Nat := (knownSchemes.lookup scheme).join

def Place.text : Place → String
  | segments parts => String.join (parts.map ("/" ++ ·))
  | rootless text => text

def Place.withFinalSlash : Place → Place
  | segments parts => if parts.getLast? = some "" then segments parts else segments (parts ++ [""])
  | rootless text => rootless (if text.endsWith "/" then text else text ++ "/")

def marked {α : Type} (mark : String) (text : α → String) (part : Option α) : String :=
  part.elim "" fun value => mark ++ text value

def credentials (url : Url) : String :=
  if url.username = "" ∧ url.password = "" then ""
  else url.username ++ (if url.password = "" then "" else ":" ++ url.password) ++ "@"

def authority (url : Url) : String :=
  marked "" Host.text url.host ++ marked ":" toString url.port

/-- A path whose first text is empty is not taken for a host. -/
def guard (url : Url) : String :=
  match url.host, url.path with
  | none, .segments ("" :: _ :: _) => "/."
  | _, _ => ""

def text (url : Url) : String :=
  url.scheme ++ ":" ++ (if url.host.isSome then "//" ++ url.credentials ++ url.authority else "") ++
    url.guard ++ url.path.text ++ marked "?" id url.query ++ marked "#" id url.fragment

def forServer (url : Url) : Url := { url with username := "", password := "", fragment := none }

end Url

end HttpScenario
