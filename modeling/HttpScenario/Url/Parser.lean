import HttpScenario.Url.Basic

/-! Reading URLs, also relative to another one. Blanks around the text and line breaks within it
count for nothing; for known schemes a backslash counts as a slash. -/

namespace HttpScenario.Url

def trimmed (cs : List Char) : List Char :=
  let edge (c : Char) : Bool := c.toNat ≤ 0x20
  let inner := ((cs.dropWhile edge).reverse.dropWhile edge).reverse
  inner.filter fun c => c ≠ '\t' ∧ c ≠ '\n' ∧ c ≠ '\r'

def splitScheme? (cs : List Char) : Option (String × List Char) :=
  let inScheme (c : Char) : Bool := c.isAlphanum ∨ c = '+' ∨ c = '-' ∨ c = '.'
  match cs.takeWhile inScheme, cs.dropWhile inScheme with
  | first :: more, ':' :: rest =>
    if first.isAlpha then some (String.ofList ((first :: more).map Char.toLower), rest) else none
  | _, _ => none

def isSlash (special : Bool) (c : Char) : Bool := c = '/' ∨ (special ∧ c = '\\')

def splitAt? (p : Char → Bool) (cs : List Char) : List Char × Option (List Char) :=
  match cs.dropWhile fun c => !p c with
  | _ :: rest => (cs.takeWhile fun c => !p c, some rest)
  | [] => (cs, none)

def pieces (special : Bool) (cs : List Char) : List (List Char) := cs.splitOnP (isSlash special)

def isDot (piece : List Char) : Bool :=
  piece = ['.'] ∨ piece.map Char.toLower = ['%', '2', 'e']

def isDoubleDot (piece : List Char) : Bool :=
  [['.', '.'], ['.', '%', '2', 'e'], ['%', '2', 'e', '.'],
   ['%', '2', 'e', '%', '2', 'e']].contains (piece.map Char.toLower)

def walk (place : List String) : List (List Char) → List String
  | [] => place
  | piece :: rest =>
    let place :=
      if isDoubleDot piece then place.dropLast
      else if isDot piece then place
      else place ++ [String.ofList (Percent.encode Percent.inPath piece)]
    if rest.isEmpty ∧ (isDot piece ∨ isDoubleDot piece) then place ++ [""] else walk place rest

def finish (url : Url) (place : List String) (path : List Char)
    (query fragment : Option (List Char)) : Url :=
  let escaped := if isSpecial url.scheme then Percent.inSpecialQuery else Percent.inQuery
  let written (set : Char → Bool) (cs : List Char) : String := String.ofList (Percent.encode set cs)
  { url with
    path := .segments (walk place (pieces (isSpecial url.scheme) path))
    query := query.map (written escaped)
    fragment := fragment.map (written Percent.inFragment) }

def splitTail (cs : List Char) : List Char × Option (List Char) × Option (List Char) :=
  let (text, fragment) := splitAt? (· = '#') cs
  let (path, query) := splitAt? (· = '?') text
  (path, query, fragment)

def withTail (url : Url) (cs : List Char) : Url :=
  let (path, query, fragment) := splitTail cs
  match path with
  | [] =>
    if isSpecial url.scheme then finish url [] [] query fragment
    else { finish url [] [] query fragment with path := .segments [] }
  | c :: rest =>
    finish url [] (if isSlash (isSpecial url.scheme) c then rest else path) query fragment

def port? (scheme : String) (ds : List Char) : Except Error (Option Nat) :=
  if ds.isEmpty then .ok none
  else
    match Integer.valueIn? 10 ds with
    | some n =>
      if 65535 < n then .error .invalidPort
      else .ok (if defaultPort? scheme = some n then none else some n)
    | none => .error .invalidPort

/-- The colon before a port is the first one that is not in brackets. -/
def splitPort (inBrackets : Bool) : List Char → List Char × Option (List Char)
  | [] => ([], none)
  | c :: rest =>
    if c = ':' ∧ !inBrackets then ([], some rest)
    else
      let (host, port) := splitPort (c = '[' ∨ (inBrackets ∧ c ≠ ']')) rest
      (c :: host, port)

def splitCredentials (cs : List Char) : String × String × List Char × Bool :=
  match splitAt? (· = '@') cs.reverse with
  | (_, none) => ("", "", cs, false)
  | (host, some before) =>
    let (name, password) := splitAt? (· = ':') before.reverse
    let written (cs : List Char) : String := String.ofList (Percent.encode Percent.inUserinfo cs)
    (written name, written (password.getD []), host.reverse, true)

def empty (scheme : String) : Url :=
  ⟨scheme, "", "", none, none, .segments [], none, none⟩

def withAuthority (scheme : String) (cs : List Char) : Except Error Url := do
  let special := isSpecial scheme
  let stops (c : Char) : Bool := isSlash special c ∨ c = '?' ∨ c = '#'
  let authority := cs.takeWhile fun c => !stops c
  let tail := cs.dropWhile fun c => !stops c
  let (username, password, address, named) := splitCredentials authority
  let (name, port) := splitPort false address
  if name.isEmpty then
    if scheme = "file" ∧ !named ∧ port.isNone then
      return withTail { empty scheme with host := some (.domain "") } tail
    if special ∨ named ∨ port.isSome then throw .emptyHost
    return withTail { empty scheme with host := some (.plain "") } tail
  let host ← Host.ofList special name
  let port ← port? scheme (port.getD [])
  return withTail { empty scheme with
    username := username, password := password, host := some host, port := port } tail

def relativeTo (base : Url) (cs : List Char) : Except Error Url :=
  let special := isSpecial base.scheme
  let parts := match base.path with
    | .segments parts => parts
    | .rootless _ => []
  match cs with
  | [] => .ok { base with fragment := none }
  | c :: rest =>
    if isSlash special c then
      match rest with
      | d :: more =>
        if isSlash special d then
          withAuthority base.scheme (if special then more.dropWhile (isSlash true) else more)
        else .ok (withTail { base with query := none, fragment := none } cs)
      | [] => .ok (withTail { base with query := none, fragment := none } cs)
    else
      let (path, query, fragment) := splitTail cs
      if path.isEmpty then
        let changed := finish base [] [] query fragment
        .ok { changed with path := base.path, query := changed.query.or base.query }
      else .ok (finish base parts.dropLast path query fragment)

def ofScheme (base : Option Url) (scheme : String) (cs : List Char) : Except Error Url :=
  let special := isSpecial scheme
  let slashes := cs.takeWhile (isSlash special)
  let nearby := base.filter fun base => base.scheme == scheme
  if scheme = "file" then
    if 2 ≤ slashes.length then withAuthority scheme (cs.drop 2)
    else relativeTo (nearby.getD { empty scheme with host := some (.domain "") }) cs
  else if special then
    match nearby with
    | some base =>
      if slashes.length < 2 then relativeTo base cs
      else withAuthority scheme (cs.dropWhile (isSlash true))
    | none => withAuthority scheme (cs.dropWhile (isSlash true))
  else if 2 ≤ slashes.length then withAuthority scheme (cs.drop 2)
  else if slashes.length = 1 then .ok (withTail (empty scheme) cs)
  else
    let (path, query, fragment) := splitTail cs
    let rest := finish (empty scheme) [] [] query fragment
    .ok { rest with path := .rootless (String.ofList (Percent.encode Percent.isControl path)) }

def parse (base : Option Url) (text : String) : Except Error Url :=
  let cs := trimmed text.toList
  match splitScheme? cs, base with
  | some (scheme, rest), _ => ofScheme base scheme rest
  | none, none => .error .relativeWithoutBase
  | none, some base =>
    match base.path, cs.head? with
    | .rootless _, some '#' =>
      .ok { base with fragment := (finish base [] [] none (some (cs.drop 1))).fragment }
    | .rootless _, _ => .error .relativeToRootless
    | .segments _, _ => relativeTo base cs

end HttpScenario.Url
