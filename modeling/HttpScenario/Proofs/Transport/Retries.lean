import HttpScenario.Transport

/-! How often sending is tried. Whatever single attempts come to, there is a further one as long as the
outcome calls for it and one is left; the outcome of the last attempt is that of them all. -/

namespace HttpScenario.Transport

inductive Retryable : Outcome → Prop
  | network (message) : Retryable (.error (.network message))
  | failure {code reason body} (h : 500 ≤ code) : Retryable (.error (.status code reason body))
  | response {response} (h : 500 ≤ response.status) : Retryable (.ok response)

structure LastAt (outcomes : Nat → Outcome) (retries k : Nat) : Prop where
  le : k ≤ retries
  before : ∀ j < k, Retryable (outcomes j)
  final : k = retries ∨ ¬Retryable (outcomes k)

section Definitions

variable {m : Type → Type} [Monad m] {σ : Type}

def pause (link : Link m) (config : Config) (number : Nat) (outcome : Outcome) : m Unit := do
  let wait := config.retryDelayBefore number
  link.log (.warning (retryMessage outcome wait))
  link.wait wait

/-- Sending, where an attempt at an address may be anything. -/
def sendBy (link : Link m) (config : Config) (once : String → Request → m Outcome)
    (request : Request) : m Outcome :=
  match resolve config.baseUrl request.url with
  | .error cause => return .error (.setup cause.message)
  | .ok address => attempts link config (once address request) 1 config.retries

/-- The outcome of attempt `i`, and the state after it, where every attempt is followed by another. -/
def course (link : Link (StateM σ)) (config : Config) (once : StateM σ Outcome) (number : Nat)
    (s : σ) : Nat → Outcome × σ
  | 0 => once.run s
  | i + 1 =>
    let (outcome, after) := once.run s
    course link config once (number + 1) ((pause link config number outcome).run after).2 i

def idle (exchange : Outgoing → StateM σ (Except String Answer)) : Link (StateM σ) where
  exchange := exchange
  wait _ := return ()
  log _ := return ()

/-- Attempts with outcomes in a given order. The state says at which address which request was tried. -/
def scripted (outcomes : Nat → Outcome) (address : String) (request : Request) :
    StateM (List (String × Request)) Outcome :=
  fun made => (outcomes made.length, made ++ [(address, request)])

end Definitions

section Attempts

variable {σ : Type} {link : Link (StateM σ)} {config : Config} {once : StateM σ Outcome}
  {outcomes : Nat → Outcome} {number retries k : Nat} {s : σ}

theorem isRetryable_iff {outcome : Outcome} : isRetryable outcome = true ↔ Retryable outcome := by
  constructor
  · intro h
    match outcome with
    | .ok response => exact .response (of_decide_eq_true h)
    | .error (.network message) => exact .network message
    | .error (.status code reason body) => exact .failure (of_decide_eq_true h)
    | .error (.setup message) => cases h
  · intro h
    cases h with
    | network message => rfl
    | failure h => exact decide_eq_true h
    | response h => exact decide_eq_true h

theorem LastAt.zero_of_not (h : ¬Retryable (outcomes 0)) : LastAt outcomes retries 0 :=
  ⟨Nat.zero_le _, nofun, .inr h⟩

theorem LastAt.succ (hfirst : Retryable (outcomes 0))
    (h : LastAt (fun i => outcomes (i + 1)) retries k) : LastAt outcomes (retries + 1) (k + 1) := by
  refine ⟨Nat.succ_le_succ h.le, ?_, h.final.imp_left (congrArg (· + 1))⟩
  intro j hj
  cases j with
  | zero => exact hfirst
  | succ j => exact h.before j (Nat.lt_of_succ_lt_succ hj)

theorem attempts_eq_course (link : Link (StateM σ)) (config : Config) (once : StateM σ Outcome)
    (number retries : Nat) (s : σ) :
    ∃ k, LastAt (fun i => (course link config once number s i).1) retries k ∧
      (attempts link config once number retries).run s = course link config once number s k := by
  induction retries generalizing number s with
  | zero => exact ⟨0, ⟨Nat.le_refl 0, nofun, .inl rfl⟩, rfl⟩
  | succ retries ih =>
    have hrun : (attempts link config once number (retries + 1)).run s =
        (if isRetryable (once.run s).1 then
          pause link config number (once.run s).1 >>= fun _ =>
            attempts link config once (number + 1) retries
        else pure (once.run s).1).run (once.run s).2 := rfl
    rw [hrun]
    by_cases hretry : isRetryable (once.run s).1 = true
    · obtain ⟨k, hlast, hrest⟩ :=
        ih (number + 1) ((pause link config number (once.run s).1).run (once.run s).2).2
      have hfirst : Retryable (course link config once number s 0).1 := isRetryable_iff.1 hretry
      refine ⟨k + 1, .succ hfirst hlast, ?_⟩
      rw [if_pos hretry]
      exact hrest
    · have hfinal : ¬Retryable (course link config once number s 0).1 :=
        mt isRetryable_iff.2 hretry
      refine ⟨0, .zero_of_not hfinal, ?_⟩
      rw [if_neg hretry]
      rfl

theorem course_scripted
    (exchange : Outgoing → StateM (List (String × Request)) (Except String Answer))
    (outcomes : Nat → Outcome) (address : String) (request : Request) (number i : Nat)
    (made : List (String × Request)) :
    course (idle exchange) config (scripted outcomes address request) number made i =
      (outcomes (made.length + i), made ++ List.replicate (i + 1) (address, request)) := by
  induction i generalizing number made with
  | zero => rfl
  | succ i ih =>
    have hlater : course (idle exchange) config (scripted outcomes address request) number made
        (i + 1) = course (idle exchange) config (scripted outcomes address request) (number + 1)
          (made ++ [(address, request)]) i := rfl
    rw [hlater, ih, List.length_append, List.length_singleton, List.append_assoc,
      List.singleton_append, ← List.replicate_succ, Nat.add_right_comm, Nat.add_assoc]

end Attempts

/-- Sending a request to an address that can be told comes to an end, and with the outcome of the
first attempt that calls for no further one, or of the last that is left; all attempts are the same
at the same address. Without an address there is none. This holds of any attempts, and so of those
that go over a link; with outcomes that are given in advance, the attempts can be counted. -/
theorem retries_of_send (config : Config) (request : Request) :
    (∀ (m : Type → Type) [Monad m] (link : Link m), send link config request =
      sendBy link config (attempt link config.failOnErrorStatus) request) ∧
    match resolve config.baseUrl request.url with
    | .error cause => ∀ (m : Type → Type) [Monad m] (link : Link m) once,
      sendBy link config once request = pure (.error (.setup cause.message))
    | .ok address =>
      (∀ (σ : Type) (link : Link (StateM σ)) once s, ∃ k,
        LastAt (fun i => (course link config (once address request) 1 s i).1) config.retries k ∧
        (sendBy link config once request).run s =
          course link config (once address request) 1 s k) ∧
      ∀ exchange outcomes, ∃ k, LastAt outcomes config.retries k ∧
        (sendBy (idle exchange) config (scripted outcomes) request).run [] =
          (outcomes k, List.replicate (k + 1) (address, request)) := by
  refine ⟨fun m _ link => rfl, ?_⟩
  cases hresolve : resolve config.baseUrl request.url with
  | error cause =>
    intro m _ link once
    simp only [sendBy, hresolve]
  | ok address =>
    have hsend (σ : Type) (link : Link (StateM σ)) (once : String → Request → StateM σ Outcome)
        (s : σ) : ∃ k,
          LastAt (fun i => (course link config (once address request) 1 s i).1) config.retries k ∧
          (sendBy link config once request).run s =
            course link config (once address request) 1 s k := by
      simp only [sendBy, hresolve]
      exact attempts_eq_course link config (once address request) 1 config.retries s
    refine ⟨hsend, ?_⟩
    intro exchange outcomes
    obtain ⟨k, hlast, hrun⟩ := hsend _ (idle exchange) (scripted outcomes) []
    simp only [course_scripted, List.length_nil, Nat.zero_add, List.nil_append] at hlast hrun
    exact ⟨k, hlast, hrun⟩

end HttpScenario.Transport
