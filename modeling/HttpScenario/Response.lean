import HttpScenario.Document
import HttpScenario.Status
import HttpScenario.Text.Case

/-! Responses as validation and extraction see them. -/

namespace HttpScenario

structure Response where
  status : Nat
  statusText : String
  headers : Fields String
  data : Json

namespace Response

def ofStatus (status : Nat) : Response := ⟨status, Status.reason status, [], .null⟩

def withHeader (response : Response) (name value : String) : Response :=
  { response with headers := response.headers.insert (Text.asciiLower name) value }

def header? (response : Response) (name : String) : Option String :=
  (response.headers.get? (Text.asciiLower name)).or
    ((response.headers.find? fun entry => Text.sameName entry.1 name).map Prod.snd)

def withData (response : Response) (data : Json) : Response := { response with data := data }

/-- Headers have no order of their own and are written by name. -/
def sortedHeaders (headers : Fields String) : Fields String :=
  headers.mergeSort fun a b => a.1 ≤ b.1

def headersJson (headers : Fields String) : Json :=
  .object ((sortedHeaders headers).map fun entry => (entry.1, .string entry.2))

def toJson (response : Response) : Json :=
  .object
    [("status", .nat response.status), ("statusText", .string response.statusText),
     ("headers", headersJson response.headers), ("data", response.data)]

def ofDocument? (doc : Document) : Option Response := do
  let fields ← doc.record? ["status", "statusText", "headers", "data"] []
  let status ← Document.need fields "status" (Document.nat? (Nat.pow 2 16))
  let statusText ← Document.need fields "statusText" Document.text?
  let headers ← Document.withDefault fields "headers" [] Document.textFields?
  let data ← Document.withDefault fields "data" .null Document.toJson?
  return ⟨status, statusText, headers, data⟩

end Response

end HttpScenario
