/-! Failures with the causes behind them. -/

namespace HttpScenario

structure Failure where
  message : String
  /-- What lies behind the failure, the nearest cause first. -/
  causes : List String
deriving DecidableEq

namespace Failure

def ofText (message : String) : Failure := ⟨message, []⟩

def within (failure : Failure) (message : String) : Failure :=
  ⟨message, failure.message :: failure.causes⟩

def fullText (failure : Failure) : String :=
  String.intercalate ": " (failure.message :: failure.causes)

end Failure

end HttpScenario
