import HttpScenario.Extraction.Evaluation

/-! The extractors that every scenario can name. -/

namespace HttpScenario.Extraction

def presentAt (path : String) (response : Response) : Option Json :=
  (Path.resolve? path response).filter fun v => !v.isNull

def headerValue (name : String) (response : Response) : Option Json :=
  (response.header? name).map .string

def count (response : Response) : Option Json :=
  match response.data with
  | .array items => some (.nat items.length)
  | data =>
    match (data.field? "items").or (data.field? "data") with
    | some (.array items) => some (.nat items.length)
    | _ => none

def ids (response : Response) : Json :=
  match response.data with
  | .array items => .array (items.filterMap fun item => item.field? "id")
  | _ => .array []

def builtin : Table :=
  [("id", .lookup (presentAt "id")),
   ("token", .lookup fun r =>
     ["token", "access_token", "accessToken", "auth.token"].findSome? fun path => presentAt path r),
   ("location", .lookup (headerValue "location")),
   ("status", .lookup fun r => some (.nat r.status)),
   ("statusText", .lookup fun r => some (.string r.statusText)),
   ("contentType", .lookup (headerValue "content-type")),
   ("headers", .lookup fun r => some (Response.headersJson r.headers)),
   ("body", .lookup fun r => some r.data),
   ("count", .lookup count),
   ("ids", .lookup fun r => some (ids r)),
   ("firstId", .lookup (presentAt "[0].id"))]

end HttpScenario.Extraction
