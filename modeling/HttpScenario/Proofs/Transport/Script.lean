import HttpScenario.Transport

/-! Sending along a script of replies. Which attempt is the last one depends on the script and on how
many attempts there may be, but not on whether error statuses count as failures. -/

namespace HttpScenario.Transport

abbrev Reply := Except String Answer

/-- The replies to the attempts in order. Where a script is over, no reply comes any more. -/
abbrev Script := Nat → Option Reply

structure Tape where
  sent : List Outgoing
  waited : List Nat

namespace Tape

def blank : Tape := ⟨[], []⟩

def send (tape : Tape) (outgoing : Outgoing) : Tape :=
  { tape with sent := tape.sent ++ [outgoing] }

def wait (tape : Tape) (millis : Nat) : Tape := { tape with waited := tape.waited ++ [millis] }

end Tape

/-- Nothing is left of a run that waits for a reply in vain. -/
abbrev Play := StateT Tape Option

namespace Script

def link (script : Script) : Link Play where
  exchange outgoing tape := (script tape.sent.length).map fun reply => (reply, tape.send outgoing)
  wait millis tape := some ((), tape.wait millis)
  log _ tape := some ((), tape)

def drop (script : Script) (n : Nat) : Script := fun j => script (n + j)

end Script

def received (method : Method) (reply : Reply) : Reply := reply.bind (Answer.read method)

def judged (strict : Bool) : Reply → Outcome
  | .error message => .error (.network message)
  | .ok answer => answer.outcome strict

def IsTransient : Reply → Prop
  | .error _ => True
  | .ok answer => 500 ≤ answer.status

def Continues (method : Method) (script : Script) (k : Nat) : Prop :=
  ∀ j < k, ∃ reply, script j = some reply ∧ IsTransient (received method reply)

/-- Of the first attempt and so many further ones number `k`, counted from 0, is the last. -/
structure EndsAt (method : Method) (script : Script) (retries k : Nat) (reply : Reply) : Prop where
  le : k ≤ retries
  continues : Continues method script k
  comes : script k = some reply
  final : k = retries ∨ ¬IsTransient (received method reply)

structure BreaksOffAt (method : Method) (script : Script) (retries k : Nat) : Prop where
  le : k ≤ retries
  continues : Continues method script k
  ends : script k = none

/-- The tape after attempt `k`, if the first one has the number `number`. -/
def Tape.after (tape : Tape) (config : Config) (outgoing : Outgoing) (number k : Nat) : Tape :=
  ⟨tape.sent ++ List.replicate (k + 1) outgoing,
    tape.waited ++ (List.range' number k).map config.retryDelayBefore⟩

variable {config : Config} {method : Method} {script : Script} {request : Request}
  {outgoing : Outgoing} {address : String} {reply : Reply} {strict : Bool}
  {retries number k : Nat} {tape : Tape} {once : Play Outcome}

theorem isRetryable_judged : isRetryable (judged strict reply) = true ↔ IsTransient reply := by
  cases reply with
  | error message => simp [judged, isRetryable, IsTransient]
  | ok answer =>
    simp only [judged, Answer.outcome, IsTransient]
    split <;> simp [isRetryable, Answer.toResponse]

theorem run_attempt (hbuild : Outgoing.build address request = .ok outgoing) (strict : Bool)
    (tape : Tape) :
    (attempt script.link strict address request).run tape =
      (script tape.sent.length).map fun reply =>
        (judged strict (received request.method reply), tape.send outgoing) := by
  have hrun : (attempt script.link strict address request).run tape =
      ((script tape.sent.length).map fun reply => (reply, tape.send outgoing)).bind fun next =>
        (match received request.method next.1 with
          | .error message => return .error (.network message)
          | .ok answer => return answer.outcome strict : Play Outcome).run next.2 := by
    rw [attempt, hbuild]
    rfl
  rw [hrun]
  cases script tape.sent.length with
  | none => rfl
  | some reply =>
    simp only [Option.map_some, Option.bind_some]
    cases received request.method reply with
    | error message => rfl
    | ok answer => rfl

theorem Continues.cons (hreply : script 0 = some reply)
    (htransient : IsTransient (received method reply)) (h : Continues method (script.drop 1) k) :
    Continues method script (k + 1) := by
  intro j hj
  cases j with
  | zero => exact ⟨reply, hreply, htransient⟩
  | succ j =>
    have hrest := h j (Nat.lt_of_succ_lt_succ hj)
    rwa [Script.drop, Nat.add_comm] at hrest

theorem EndsAt.cons {first : Reply} (hfirst : script 0 = some first)
    (htransient : IsTransient (received method first))
    (h : EndsAt method (script.drop 1) retries k reply) :
    EndsAt method script (retries + 1) (k + 1) reply := by
  obtain ⟨hle, hcontinues, hreply, hfinal⟩ := h
  refine ⟨Nat.succ_le_succ hle, hcontinues.cons hfirst htransient, ?_, ?_⟩
  · rwa [Script.drop, Nat.add_comm] at hreply
  · exact hfinal.imp_left (congrArg (· + 1))

theorem BreaksOffAt.cons {first : Reply} (hfirst : script 0 = some first)
    (htransient : IsTransient (received method first))
    (h : BreaksOffAt method (script.drop 1) retries k) :
    BreaksOffAt method script (retries + 1) (k + 1) := by
  obtain ⟨hle, hcontinues, hover⟩ := h
  refine ⟨Nat.succ_le_succ hle, hcontinues.cons hfirst htransient, ?_⟩
  rwa [Script.drop, Nat.add_comm] at hover

theorem run_attempts_of_none (h : once.run tape = none) :
    (attempts script.link config once number retries).run tape = none := by
  cases retries with
  | zero => exact h
  | succ left =>
    rw [attempts, StateT.run_bind, h]
    rfl

theorem run_attempts_of_over (hbuild : Outgoing.build address request = .ok outgoing)
    (hover : script tape.sent.length = none) (strict : Bool) :
    (attempts script.link config (attempt script.link strict address request) number
      retries).run tape = none := by
  refine run_attempts_of_none ?_
  rw [run_attempt hbuild, hover, Option.map_none]

theorem run_attempts_of_final {outcome : Outcome} {next : Tape}
    (h : once.run tape = some (outcome, next)) (hfinal : isRetryable outcome = false) :
    (attempts script.link config once number retries).run tape = some (outcome, next) := by
  cases retries with
  | zero => exact h
  | succ left =>
    rw [attempts, StateT.run_bind, h]
    change (if isRetryable outcome = true then _ else pure outcome : Play Outcome).run next = _
    rw [hfinal]
    rfl

theorem run_attempts_of_retryable {outcome : Outcome} {next : Tape}
    (h : once.run tape = some (outcome, next)) (hretryable : isRetryable outcome = true) :
    (attempts script.link config once number (retries + 1)).run tape =
      (attempts script.link config once (number + 1) retries).run
        (next.wait (config.retryDelayBefore number)) := by
  rw [attempts, StateT.run_bind, h]
  change (if isRetryable outcome = true then _ else pure outcome : Play Outcome).run next = _
  rw [hretryable]
  rfl

theorem Tape.after_zero : tape.after config outgoing number 0 = tape.send outgoing := by
  simp [Tape.after, Tape.send]

theorem Tape.after_succ :
    tape.after config outgoing number (k + 1) =
      ((tape.send outgoing).wait (config.retryDelayBefore number)).after config outgoing
        (number + 1) k := by
  simp [Tape.after, Tape.send, Tape.wait, List.range'_succ, List.replicate_succ]

theorem Script.drop_succ (script : Script) (n : Nat) :
    script.drop (n + 1) = (script.drop n).drop 1 := by
  funext j
  simp only [Script.drop, Nat.add_assoc]

theorem run_attempts (config : Config) (script : Script)
    (hbuild : Outgoing.build address request = .ok outgoing) (retries number : Nat) (tape : Tape) :
    (∃ k reply, EndsAt request.method (script.drop tape.sent.length) retries k reply ∧
      ∀ strict, (attempts script.link config (attempt script.link strict address request) number
        retries).run tape =
          some (judged strict (received request.method reply),
            tape.after config outgoing number k)) ∨
    (∃ k, BreaksOffAt request.method (script.drop tape.sent.length) retries k ∧
      ∀ strict, (attempts script.link config (attempt script.link strict address request) number
        retries).run tape = none) := by
  -- The tape says how much of the script is used up, so it changes along with the attempts left.
  induction retries generalizing number tape with
  | zero =>
    cases hreply : script tape.sent.length with
    | none =>
      exact .inr ⟨0, ⟨Nat.le_refl 0, nofun, hreply⟩, run_attempts_of_over hbuild hreply⟩
    | some reply =>
      refine .inl ⟨0, reply, ⟨Nat.le_refl 0, nofun, hreply, .inl rfl⟩, fun strict => ?_⟩
      rw [attempts, run_attempt hbuild, hreply, Option.map_some, Tape.after_zero]
  | succ retries ih =>
    cases hreply : script tape.sent.length with
    | none =>
      exact .inr ⟨0, ⟨Nat.zero_le _, nofun, hreply⟩, run_attempts_of_over hbuild hreply⟩
    | some reply =>
      have honce : ∀ strict, (attempt script.link strict address request).run tape =
          some (judged strict (received request.method reply), tape.send outgoing) := by
        intro strict
        rw [run_attempt hbuild, hreply, Option.map_some]
      by_cases htransient : IsTransient (received request.method reply)
      · have hretry : ∀ strict, (attempts script.link config
            (attempt script.link strict address request) number (retries + 1)).run tape =
              (attempts script.link config (attempt script.link strict address request)
                (number + 1) retries).run
                  ((tape.send outgoing).wait (config.retryDelayBefore number)) := fun strict =>
          run_attempts_of_retryable (honce strict) (isRetryable_judged.mpr htransient)
        have hlater := ih (number + 1) ((tape.send outgoing).wait (config.retryDelayBefore number))
        have hlength : ((tape.send outgoing).wait (config.retryDelayBefore number)).sent.length =
            tape.sent.length + 1 := by
          simp [Tape.send, Tape.wait]
        rw [hlength, Script.drop_succ] at hlater
        rcases hlater with ⟨k, final, hends, hrun⟩ | ⟨k, hbreaks, hrun⟩
        · refine .inl ⟨k + 1, final, hends.cons hreply htransient, fun strict => ?_⟩
          rw [hretry, hrun, Tape.after_succ]
        · refine .inr ⟨k + 1, hbreaks.cons hreply htransient, fun strict => ?_⟩
          rw [hretry, hrun]
      · refine .inl ⟨0, reply, ⟨Nat.zero_le _, nofun, hreply, .inr htransient⟩, fun strict => ?_⟩
        have hfinal : isRetryable (judged strict (received request.method reply)) = false :=
          Bool.eq_false_iff.mpr (mt isRetryable_judged.mp htransient)
        rw [run_attempts_of_final (honce strict) hfinal, Tape.after_zero]

end HttpScenario.Transport
