import HttpScenario.Validation.Evaluation

/-! The specifications that every scenario can name, and short names for building others. -/

namespace HttpScenario.Validation

namespace Spec

def status (code : Nat) : Spec := .check (.status code)

def statusIn (codes : List Nat) : Spec := .check (.statusIn codes)

def statusRange (low high : Nat) : Spec := .check (.statusRange low high)

def success : Spec := statusRange 200 299

def clientError : Spec := statusRange 400 499

def serverError : Spec := statusRange 500 599

def contentType (expected : String) : Spec := .check (.contentType expected)

def isJson : Spec := contentType "application/json"

def hasData : Spec := .predicate (.immediate fun response => .ok (.bool !response.data.isNull))

end Spec

def builtin : Table :=
  [("success", .success), ("ok", .status 200), ("created", .status 201),
   ("noContent", .status 204), ("badRequest", .status 400), ("unauthorized", .status 401),
   ("forbidden", .status 403), ("notFound", .status 404), ("clientError", .clientError),
   ("serverError", .serverError), ("json", .isJson), ("hasData", .hasData)]

end HttpScenario.Validation
