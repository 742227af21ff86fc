/-! Methods of HTTP requests. -/

namespace HttpScenario

inductive Method
  | get
  | post
  | put
  | patch
  | delete
  | head
  | options
deriving DecidableEq

namespace Method

def all : List Method := [get, post, put, patch, delete, head, options]

def name : Method → String
  | get => "GET"
  | post => "POST"
  | put => "PUT"
  | patch => "PATCH"
  | delete => "DELETE"
  | head => "HEAD"
  | options => "OPTIONS"

def ofName? (text : String) : Option Method := all.find? fun method => method.name == text

theorem ofName?_name (method : Method) : ofName? method.name = some method := by
  cases method <;> decide

end Method

end HttpScenario
