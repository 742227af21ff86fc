import HttpScenario.Proofs.Transport.Script

/-! Error statuses as failures and as responses. Whether they count as the one or the other makes no
difference to what is sent and when, and only to what is made of the last answer. -/

namespace HttpScenario.Transport

variable {config : Config} {request : Request} {outgoing : Outgoing} {script : Script}
  {address : String}

def prepared (config : Config) (request : Request) : Except String Outgoing :=
  match resolve config.baseUrl request.url with
  | .error cause => .error cause.message
  | .ok address =>
    match Outgoing.build address request with
    | .error cause => .error cause.message
    | .ok outgoing => .ok outgoing

def played (script : Script) (config : Config) (strict : Bool) (request : Request) :
    Option (Outcome × Tape) :=
  (send script.link { config with failOnErrorStatus := strict } request).run .blank

/-- What is made of the last reply, first under strict rules and then under lenient ones. -/
inductive Agree : Reply → Outcome → Outcome → Prop
  | network (message) :
      Agree (.error message) (.error (.network message)) (.error (.network message))
  | success (answer : Answer) (hlow : 200 ≤ answer.status) (hhigh : answer.status < 300) :
      Agree (.ok answer) (.ok answer.toResponse) (.ok answer.toResponse)
  | failure (answer : Answer) (h : ¬(200 ≤ answer.status ∧ answer.status < 300)) :
      Agree (.ok answer)
        (.error (.status answer.status (Status.reason answer.status) answer.body))
        (.ok answer.toResponse)

theorem agree_judged (reply : Reply) : Agree reply (judged true reply) (judged false reply) := by
  cases reply with
  | error message => exact .network message
  | ok answer =>
    by_cases h : 200 ≤ answer.status ∧ answer.status < 300
    · have hsuccess : Status.isSuccess answer.status = true := decide_eq_true h
      simp only [judged, Answer.outcome, hsuccess]
      exact .success answer h.1 h.2
    · have hfailure : Status.isSuccess answer.status = false := decide_eq_false h
      simp only [judged, Answer.outcome, hfailure]
      exact .failure answer h

theorem attempts_withStrictness {m : Type → Type} [Monad m] (link : Link m) (strict : Bool)
    (once : m Outcome) (number retries : Nat) :
    attempts link { config with failOnErrorStatus := strict } once number retries =
      attempts link config once number retries := by
  induction retries generalizing number with
  | zero => rfl
  | succ retries ih =>
    rw [attempts, attempts]
    simp only [ih]
    rfl

theorem played_of_resolved (hresolve : resolve config.baseUrl request.url = .ok address)
    (strict : Bool) :
    played script config strict request =
      (attempts script.link config (attempt script.link strict address request) 1
        config.retries).run .blank := by
  rw [← attempts_withStrictness script.link strict]
  simp only [played, send, hresolve]

theorem played_of_not_prepared {message : String} (h : prepared config request = .error message)
    (strict : Bool) : played script config strict request = some (.error (.setup message), .blank) := by
  cases hresolve : resolve config.baseUrl request.url with
  | error cause =>
    simp only [prepared, hresolve, Except.error.injEq] at h
    simp only [played, send, hresolve, ← h]
    rfl
  | ok address =>
    rw [played_of_resolved hresolve]
    cases hbuild : Outgoing.build address request with
    | ok sent => simp [prepared, hresolve, hbuild] at h
    | error cause =>
      simp only [prepared, hresolve, hbuild, Except.error.injEq] at h
      have honce : (attempt script.link strict address request).run .blank =
          some (.error (.setup message), .blank) := by
        rw [attempt, hbuild, ← h]
        rfl
      exact run_attempts_of_final honce rfl

theorem played_of_prepared (script : Script) (h : prepared config request = .ok outgoing) :
    (∃ k reply, EndsAt request.method script config.retries k reply ∧
      ∀ strict, played script config strict request =
        some (judged strict (received request.method reply),
          Tape.blank.after config outgoing 1 k)) ∨
    (∃ k, BreaksOffAt request.method script config.retries k ∧
      ∀ strict, played script config strict request = none) := by
  cases hresolve : resolve config.baseUrl request.url with
  | error cause => simp [prepared, hresolve] at h
  | ok address =>
    cases hbuild : Outgoing.build address request with
    | error cause => simp [prepared, hresolve, hbuild] at h
    | ok sent =>
      simp only [prepared, hresolve, hbuild, Except.ok.injEq] at h
      subst h
      have hscript : script.drop Tape.blank.sent.length = script := by
        funext j
        exact congrArg script (Nat.zero_add j)
      have hrun := run_attempts config script hbuild config.retries 1 .blank
      rw [hscript] at hrun
      simpa only [played_of_resolved hresolve] using hrun

/-- Both under strict rules and under lenient ones the same requests are sent, the same times are
waited for, and the reply to the same attempt is the last one; of that reply both make a response if
its status is one of success, and both a network error if it is none. A request that cannot go out is
a failure in both cases, without any attempt. -/
theorem agreement_of_send (config : Config) (request : Request) (script : Script) :
    match prepared config request with
    | .error message =>
      ∀ strict, played script config strict request = some (.error (.setup message), .blank)
    | .ok outgoing =>
      (∃ k reply tape strictly leniently,
        EndsAt request.method script config.retries k reply ∧
        tape.sent = List.replicate (k + 1) outgoing ∧
        played script config true request = some (strictly, tape) ∧
        played script config false request = some (leniently, tape) ∧
        Agree (received request.method reply) strictly leniently) ∨
      (∃ k, BreaksOffAt request.method script config.retries k ∧
        ∀ strict, played script config strict request = none) := by
  split
  · rename_i message hprepared
    exact played_of_not_prepared hprepared
  · rename_i outgoing hprepared
    obtain ⟨k, reply, hends, hplayed⟩ | hbreaks := played_of_prepared script hprepared
    · exact .inl ⟨k, reply, Tape.blank.after config outgoing 1 k, _, _, hends, rfl, hplayed true,
        hplayed false, agree_judged _⟩
    · exact .inr hbreaks

end HttpScenario.Transport
