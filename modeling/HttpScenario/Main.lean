import HttpScenario.CommandLine
import HttpScenario.Transport.Message
import Std.Async.DNS
import Std.Async.TCP
import Std.Time.DateTime.Timestamp

/-! The program: the command line with the files, the clock, the random numbers and the network of
the system. Connections are not encrypted, so requests to `https` addresses come to nothing. -/

namespace HttpScenario.Main

def fileError (error : IO.Error) : FileError :=
  match error with
  | .noFileOrDirectory _ _ _ => .notFound
  | other => .other (toString other)

def attempt {α : Type} (action : IO α) : IO (Except FileError α) := do
  try
    return .ok (← action)
  catch error => return .error (fileError error)

def kind? (path : String) : IO (Option FileKind) := do
  try
    let place ← IO.FS.realPath path
    return some (if ← place.isDir then .directory else .file)
  catch _ => return none

def read (path : String) : IO (Except FileError String) := do
  if (← kind? path) = some .directory then return .error .isDirectory
  return (← attempt (IO.FS.readBinFile path)).bind fun bytes =>
    (String.fromUTF8? bytes).elim (.error .notText) .ok

def list (path : String) : IO (Except FileError (List String)) := do
  if (← kind? path) = some .file then return .error .notDirectory
  attempt do
    let place ← IO.FS.realPath path
    return (← place.readDir).toList.map fun entry => entry.fileName

def files : Files IO :=
  { kind? := kind?
    read := read
    list := list
    makeDirectory := fun path => attempt (IO.FS.createDirAll path)
    write := fun path text => attempt (IO.FS.writeFile path text) }

def now : IO Nat := return (← Std.Time.Timestamp.now).toMillisecondsSinceUnixEpoch.toInt.toNat

def draw (bound : Nat) : IO Nat := do
  let bytes ← IO.getRandomBytes 32
  return bytes.foldl (fun n byte => 256 * n + byte.toNat) 0 % max 1 bound

def log (verbose : Bool) (line : LogLine) : IO Unit := do
  if verbose ∨ line.level ≠ .debug then
    IO.println s!"{Generator.instantText (← now)} {line.text}"

def addresses (host : Url.Host) : Std.Async.Async (List Std.Net.IPAddr) := do
  match host with
  | .ipv4 address =>
    let byte (i : Nat) : UInt8 := (address / Nat.pow 256 (3 - i)).toUInt8
    return [.v4 ⟨#v[byte 0, byte 1, byte 2, byte 3]⟩]
  | .ipv6 pieces =>
    return [.v6 ⟨Vector.ofFn fun i : Fin 8 => (pieces.getD i 0).toUInt16⟩]
  | .domain name | .plain name => return (← Std.Async.DNS.getAddrInfo name "").toList

def socketAddress (address : Std.Net.IPAddr) (port : UInt16) : Std.Net.SocketAddress :=
  match address with
  | .v4 address => .v4 ⟨address, port⟩
  | .v6 address => .v6 ⟨address, port⟩

partial def receive (client : Std.Async.TCP.Socket.Client) (received : ByteArray) :
    Std.Async.Async ByteArray := do
  match ← client.recv? 65536 with
  | some more => receive client (received ++ more)
  | none => return received

def converse (outgoing : Transport.Outgoing) : Std.Async.Async (Option Transport.Answer) := do
  match outgoing.url.host with
  | none => return none
  | some host =>
    match ← addresses host with
    | [] => return none
    | address :: _ =>
      let client ← Std.Async.TCP.Socket.Client.mk
      client.connect (socketAddress address (outgoing.url.port.getD 80).toUInt16)
      client.send outgoing.bytes
      let received ← receive client ByteArray.empty
      return Transport.Answer.ofBytes? received.toList

def exchange (outgoing : Transport.Outgoing) : IO (Except String Transport.Answer) := do
  let refused := Except.error "error sending request"
  if outgoing.secured?.isSome then return refused
  try
    return (← (converse outgoing).block).elim refused .ok
  catch _ => return refused

def surroundings (options : CommandLine.Options) : CommandLine.Surroundings IO :=
  { link :=
      { exchange := exchange
        wait := fun millis => IO.sleep millis.toUInt32
        log := log options.verbose }
    files := files
    draw := draw
    now := now }

def environment : IO (Fields String) := do
  let found ← (CommandLine.Name.all.filterMap CommandLine.Name.fallback?).mapM fun name => do
    return (← IO.getEnv name).map fun value => (name, value)
  return found.filterMap id

end HttpScenario.Main

open HttpScenario in
def main (arguments : List String) : IO UInt32 := do
  let environment ← Main.environment
  let ending ← CommandLine.run Main.surroundings environment.get? arguments
  IO.print ending.output
  IO.eprint ending.errors
  return ending.exitCode.toUInt32
