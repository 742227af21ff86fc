/-! Points of a run at which middleware is called. -/

namespace HttpScenario

inductive HookPoint
  | beforeScenario
  | beforeStep
  | afterStep
  | afterScenario
deriving DecidableEq

namespace HookPoint

def all : List HookPoint := [beforeScenario, beforeStep, afterStep, afterScenario]

def name : HookPoint → String
  | beforeScenario => "beforeScenario"
  | beforeStep => "beforeStep"
  | afterStep => "afterStep"
  | afterScenario => "afterScenario"

def dividedName : HookPoint → String
  | beforeScenario => "before_scenario"
  | beforeStep => "before_step"
  | afterStep => "after_step"
  | afterScenario => "after_scenario"

def ofName? (text : String) : Option HookPoint :=
  all.find? fun point => point.name == text || point.dividedName == text

theorem ofName?_name (point : HookPoint) : ofName? point.name = some point := by
  cases point <;> decide

theorem ofName?_dividedName (point : HookPoint) : ofName? point.dividedName = some point := by
  cases point <;> decide

def unknownMessage (text : String) : String :=
  s!"unknown hook '{text}' (expected beforeScenario, beforeStep, afterStep or afterScenario)"

end HookPoint

end HttpScenario
