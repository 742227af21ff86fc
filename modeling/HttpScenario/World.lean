import HttpScenario.Diagnostic
import HttpScenario.Request
import HttpScenario.Response

/-! What a run needs from outside, in the monad in which it takes place. -/

namespace HttpScenario

structure World (m : Type → Type) where
  send : Request → m (Except TransportError Response)
  wait : Nat → m Unit
  draw : Nat → m Nat
  /-- Milliseconds since the beginning of 1970. -/
  now : m Nat
  log : LogLine → m Unit

namespace World

variable {m : Type → Type}

def warn (world : World m) (message : String) : m Unit := world.log ⟨.warn, message⟩

def error (world : World m) (message : String) : m Unit := world.log ⟨.error, message⟩

def info (world : World m) (message : String) : m Unit := world.log ⟨.info, message⟩

def logAll [Monad m] (world : World m) : List LogLine → m Unit
  | [] => return ()
  | line :: rest => do
    world.log line
    logAll world rest

end World

end HttpScenario
