import HttpScenario.Number.Integer
import HttpScenario.Text.Blank
import HttpScenario.Transport.Answer

/-! Requests and answers as the bytes of a connection: a first line, a line for each header, an
empty line, and the body. The connection ends with the answer. -/

namespace HttpScenario.Transport

def lineEnd : List UInt8 := [13, 10]

def splitAtMark? (mark : List UInt8) : List UInt8 → Option (List UInt8 × List UInt8)
  | [] => none
  | b :: rest =>
    if mark.isPrefixOf (b :: rest) then some ([], (b :: rest).drop mark.length)
    else (splitAtMark? mark rest).map fun (before, behind) => (b :: before, behind)

theorem splitAtMark?_length {mark bs before behind : List UInt8} (hmark : 0 < mark.length)
    (h : splitAtMark? mark bs = some (before, behind)) : behind.length < bs.length := by
  induction bs generalizing before behind with
  | nil => exact absurd h (by simp [splitAtMark?])
  | cons b rest ih =>
    rw [splitAtMark?] at h
    split at h
    · simp only [Option.some.injEq, Prod.mk.injEq] at h
      rw [← h.2, List.length_drop, List.length_cons]
      omega
    · obtain ⟨⟨a, c⟩, hac, he⟩ := Option.map_eq_some_iff.mp h
      simp only [Prod.mk.injEq] at he
      have hlength := ih hac
      rw [he.2] at hlength
      exact Nat.lt_succ_of_lt hlength

/-- The text of bytes. Each byte that belongs to no character becomes a replacement character. -/
def textOf (bs : List UInt8) : String :=
  match String.fromUTF8? bs.toByteArray with
  | some text => text
  | none => String.ofList (bs.map fun b => if b < 128 then Char.ofNat b.toNat else '\uFFFD')

namespace Outgoing

def target (url : Url) : String :=
  (if url.path.text = "" then "/" else url.path.text) ++ Url.marked "?" id url.query

def allHeaders (outgoing : Outgoing) : List (String × String) :=
  let usual := [("host", outgoing.url.authority), ("accept", "*/*"), ("connection", "close")] ++
    (outgoing.body.map fun body => ("content-length", toString body.utf8ByteSize)).toList
  usual.filter (fun entry => !named outgoing.headers entry.1) ++ outgoing.headers

def bytes (outgoing : Outgoing) : ByteArray :=
  let first := s!"{outgoing.method.name} {target outgoing.url} HTTP/1.1"
  let lines := first :: outgoing.allHeaders.map fun (name, value) => s!"{name}: {value}"
  (String.join (lines.map (· ++ "\r\n")) ++ "\r\n" ++ outgoing.body.getD "").toUTF8

end Outgoing

namespace Answer

def status? (line : String) : Option Nat :=
  match line.splitOn " " with
  | version :: code :: _ =>
    if version.startsWith "HTTP/1." ∧ code.length = 3 then Integer.valueIn? 10 code.toList else none
  | _ => none

def header? (line : String) : Option (String × String) :=
  let cs := line.toList
  match cs.dropWhile (· ≠ ':') with
  | [] => none
  | _ :: value => some (String.ofList (cs.takeWhile (· ≠ ':')), Text.trim (String.ofList value))

def valueOf? (headers : List (String × String)) (name : String) : Option String :=
  (headers.reverse.find? fun entry => Text.sameName entry.1 name).map Prod.snd

/-- A body in pieces, each behind a line with its size, and how many bytes are missing. A piece
without bytes is the last one. -/
def pieces (bs : List UInt8) : List UInt8 × Nat :=
  match _h : splitAtMark? lineEnd bs with
  | none => ([], 1)
  | some (line, rest) =>
    let digits := (textOf line).toList.takeWhile fun c => c ≠ ';' ∧ c ≠ ' '
    match Integer.valueIn? 16 digits with
    | none => ([], 1)
    | some 0 => ([], 0)
    | some size =>
      if rest.length < size then (rest, size - rest.length)
      else
        let (others, missing) := pieces (rest.drop (size + 2))
        (rest.take size ++ others, missing)
termination_by bs.length
decreasing_by
  have := splitAtMark?_length (by decide) _h
  rw [List.length_drop]
  omega

/-- The body in what follows the headers: in pieces, of a size, or all there is. -/
def bodyOf (headers : List (String × String)) (bs : List UInt8) : List UInt8 × Nat :=
  if (valueOf? headers "transfer-encoding").any fun coding => Text.sameName coding "chunked" then
    pieces bs
  else
    match (valueOf? headers "content-length").bind fun size => Integer.valueIn? 10 size.toList with
    | some size => (bs.take size, size - bs.length)
    | none => (bs, 0)

def ofBytes? (bs : List UInt8) : Option Answer := do
  let (head, rest) ← splitAtMark? (lineEnd ++ lineEnd) bs
  match (textOf head).splitOn "\r\n" with
  | [] => none
  | first :: lines =>
    let status ← status? first
    let headers ← lines.mapM header?
    let (body, missing) := bodyOf headers rest
    return ⟨status, headers, textOf body, missing⟩

end Answer

end HttpScenario.Transport
