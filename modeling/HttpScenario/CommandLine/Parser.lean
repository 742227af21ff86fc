import HttpScenario.CommandLine.Options
import HttpScenario.Json.Parser
import HttpScenario.Number.Integer

/-! Reading the arguments of the command line. A value stands behind its name, or is joined to it by
an equals sign; names of one letter can also be joined to each other and to a value. -/

namespace HttpScenario.CommandLine

inductive Stop
  | help
  | version
  | unexpected (argument : String)
  | missingValue (name : Name)
  | needlessValue (name : Name) (value : String)
  | invalidValue (name : Name) (value reason : String)
  | repeated (name : Name)
deriving DecidableEq

def Stop.message : Stop → String
  | help | version => ""
  | unexpected argument => s!"unexpected argument '{argument}' found"
  | missingValue name => s!"a value is required for '{name.shown}' but none was supplied"
  | needlessValue name value =>
    s!"unexpected value '{value}' for '{name.shown}' found; no more were accepted"
  | invalidValue name value reason =>
    s!"invalid value '{value}' for '{name.shown}'" ++ (if reason = "" then "" else ": " ++ reason)
  | repeated name => s!"the argument '{name.shown}' cannot be used multiple times"

def readVariable (text : String) : Except String (String × Json) :=
  let cs := text.toList
  let name := String.ofList (cs.takeWhile (· ≠ '='))
  match cs.dropWhile (· ≠ '=') with
  | [] => .error s!"expected KEY=VALUE, got '{text}'"
  | _ :: rest =>
    let value := String.ofList rest
    if name = "" then .error s!"empty variable name in '{text}'"
    else .ok (name, (Json.parse? value).getD (.string value))

def readWord (text : String) : Except String Nat :=
  (Integer.natOfList? text.toList).elim (.error "invalid digit found in string") .ok

def readSmallWord (text : String) : Except String Nat :=
  match Integer.intOfList? text.toList with
  | none => .error "invalid digit found in string"
  | some n =>
    if 0 ≤ n ∧ n < Nat.pow 2 32 then .ok n.toNat else .error s!"{n} is not in 0..=4294967295"

def readFormat (text : String) : Except String ReportFormat :=
  (ReportFormat.ofName? text).elim (.error "") .ok

def Options.put (options : Options) (name : Name) (value : String) : Except String Options :=
  match name with
  | .path => .ok { options with path := some value }
  | .filter => .ok { options with filter := some value }
  | .var => (readVariable value).map fun var => { options with vars := options.vars ++ [var] }
  | .baseUrl => .ok { options with baseUrl := some value }
  | .timeout => (readWord value).map fun n => { options with timeout := some n }
  | .delay => (readWord value).map fun n => { options with delay := some n }
  | .retries => (readSmallWord value).map fun n => { options with retries := some n }
  | .reportDirectory => .ok { options with reportDirectory := some value }
  | .reportFormat => (readFormat value).map fun format => { options with reportFormat := format }
  | .dryRun => .ok { options with dryRun := true }
  | .verbose => .ok { options with verbose := true }
  | .help | .version => .ok options

structure Reading where
  options : Options
  given : List Name
  /-- A name whose value comes next, or has come and is not yet read. -/
  pending : Option (Name × Option String)

namespace Reading

def store (reading : Reading) (name : Name) (value : String) : Except Stop Reading := do
  if reading.given.contains name ∧ ¬ name.repeats then throw (.repeated name)
  if name = .reportDirectory ∧ value = "" then throw (.missingValue name)
  let options ← (reading.options.put name value).mapError (.invalidValue name value)
  return ⟨options, reading.given ++ [name], none⟩

def settle (reading : Reading) : Except Stop Reading :=
  match reading.pending with
  | none => .ok reading
  | some (name, none) => .error (.missingValue name)
  | some (name, some value) => { reading with pending := none }.store name value

def take (reading : Reading) (name : Name) (value : Option String) : Except Stop Reading :=
  match name.placeholder?, value with
  | none, some value => .error (.needlessValue name value)
  | some _, some value => do (← reading.settle).store name value
  | some _, none => do
    let settled ← reading.settle
    return { settled with pending := some (name, none) }
  | none, none => do
    let settled ← reading.settle
    match name with
    | .help => throw .help
    | .version => throw .version
    | name => settled.store name ""

def takeLetters (reading : Reading) : List Char → Except Stop Reading
  | [] => .ok reading
  | c :: rest =>
    match Name.all.find? fun name => name.short? = some c with
    | none => .error (.unexpected ("-" ++ String.singleton c))
    | some name =>
      if name.placeholder?.isNone then do takeLetters (← reading.take name none) rest
      else
        match rest with
        | [] => reading.take name none
        | '=' :: value | value => reading.take name (some (String.ofList value))

def takeLong (reading : Reading) (cs : List Char) : Except Stop Reading :=
  let long := String.ofList (cs.takeWhile (· ≠ '='))
  let value := match cs.dropWhile (· ≠ '=') with
    | [] => none
    | _ :: rest => some (String.ofList rest)
  match Name.all.find? fun name => name.long = long with
  | none => .error (.unexpected ("--" ++ long))
  | some name => reading.take name value

def takePlain (reading : Reading) (argument : String) : Except Stop Reading :=
  match reading.pending with
  | some (name, none) => .ok { reading with pending := some (name, some argument) }
  | _ => .error (.unexpected argument)

def takeAll (reading : Reading) : List String → Except Stop Reading
  | [] => reading.settle
  | argument :: rest =>
    match argument.toList with
    | ['-', '-'] =>
      match rest with
      | [] => reading.settle
      | extra :: _ => .error (.unexpected extra)
    | '-' :: '-' :: cs => do takeAll (← reading.takeLong cs) rest
    | '-' :: c :: cs => do takeAll (← reading.takeLetters (c :: cs)) rest
    | _ => do takeAll (← reading.takePlain argument) rest

def fill (environment : String → Option String) (reading : Reading) : List Name →
    Except Stop Reading
  | [] => .ok reading
  | name :: rest =>
    match name.fallback?.bind environment with
    | some value => do
      let filled ← if reading.given.contains name then .ok reading else reading.store name value
      fill environment filled rest
    | none => fill environment reading rest

end Reading

def parse (environment : String → Option String) (arguments : List String) :
    Except Stop Options := do
  let reading ← Reading.takeAll ⟨.default, [], none⟩ arguments
  return (← reading.fill environment Name.all).options

end HttpScenario.CommandLine
