import HttpScenario.Proofs.Fields
import HttpScenario.Proofs.Run.Recording

/-! What performing a step comes to, and the calls that are made for it: a handler is called once, an
http step sends its request at most once, and the response alone decides on the rest. -/

namespace HttpScenario

variable {σ α β : Type}

namespace Yields

theorem of_pure {a b : α} (h : Yields (pure a : StateM σ α) b) : b = a := by
  obtain ⟨s, rfl⟩ := h
  rfl

theorem of_bind {x : StateM σ α} {f : α → StateM σ β} {b : β} (h : Yields (x >>= f) b) :
    ∃ a, Yields x a ∧ Yields (f a) b := by
  obtain ⟨s, rfl⟩ := h
  exact ⟨(x.run s).1, ⟨s, rfl⟩, (x.run s).2, rfl⟩

end Yields

namespace Execution

variable {m : Type → Type}

def verdict (registry : Registry m) (step : Step m) (response : Response) : Validation.Verdict :=
  match step.validate with
  | none => .pass
  | some spec => (Validation.validate registry.validators spec response).value

def extraction (registry : Registry m) (step : Step m) (response : Response) :
    Context × List Diagnostic :=
  match step.extract with
  | none => ([], [])
  | some spec =>
    let extraction := Extraction.extract registry.extractors spec response
    (extraction.value, extraction.notes.map Extraction.Problem.diagnostic)

def judge (registry : Registry m) (step : Step m) (response : Response) :
    Except StepFailure StepOutcome :=
  let verdict := verdict registry step response
  if verdict.passed then
    let (extracted, problems) := extraction registry step response
    .ok ⟨some response, extracted, verdict.diagnostics ++ problems⟩
  else .error ⟨.validation step.name verdict.reason, some response, verdict.diagnostics⟩

def Sendable (step : Step m) : Prop := step.method.isSome = true ∧ step.givenUrl.isSome = true

def IsOverHttp (registry : Registry m) (step : Step m) : Prop :=
  step.isHttp = true ∨ registry.stepTypes.get? step.kind = none

end Execution

open Execution Recording

section Relations

variable (world : World (StateM σ)) (config : Config) (registry : Registry (StateM σ))
  (step : Step (StateM σ)) (context : Context)

inductive Answered (request : Request) :
    List (Call σ) → Except TransportError Response → Prop
  | simulated {response} (hdry : config.dryRun = true)
      (hyields : Yields (simulate world step) response) : Answered request [] (.ok response)
  | sent {answer} (hdry : config.dryRun = false) (hyields : Yields (world.send request) answer) :
      Answered request [.send request answer] answer

inductive HttpPerformed : List (Call σ) → Except StepFailure StepOutcome → Prop
  | malformed {error}
      (hrequest : Yields (request world config registry step context) (.error error)) :
      HttpPerformed [] (.error (.ofError error))
  | undelivered {sent calls cause}
      (hrequest : Yields (request world config registry step context) (.ok sent))
      (hanswer : Answered world config step sent calls (.error cause)) :
      HttpPerformed calls (.error (.ofError (.dispatch step.name cause)))
  | judged {sent calls response}
      (hrequest : Yields (request world config registry step context) (.ok sent))
      (hanswer : Answered world config step sent calls (.ok response)) :
      HttpPerformed calls (judge registry step response)

inductive Performed : List (Call σ) → Except StepFailure StepOutcome → Prop
  | handled {handler answer} (hkind : step.isHttp = false)
      (hhandler : registry.stepTypes.get? step.kind = some handler)
      (hyields : Yields (handler step context) answer) :
      Performed [.handler step context answer]
        (answer.mapError fun cause => .ofError (.handler step.name step.kind cause))
  | http {calls executed} (hkind : IsOverHttp registry step)
      (hhttp : HttpPerformed world config registry step context calls executed) :
      Performed calls executed

end Relations

section Soundness

variable {world : World (StateM σ)} {config : Config} {registry : Registry (StateM σ)}
  {step : Step (StateM σ)} {context : Context}

theorem Yields.request {built : Except StepError Request}
    (h : Yields (request world config registry step context) built) :
    (Sendable step ∧ ∃ sent, built = .ok sent) ∨
      (¬Sendable step ∧ ∃ reason, built = .error (.malformed step.name reason)) := by
  unfold Execution.request at h
  cases hmethod : step.method with
  | none =>
    simp only [hmethod] at h
    exact .inr ⟨fun hsend => by simp [Sendable, hmethod] at hsend, _, h.of_pure⟩
  | some method =>
    cases hurl : step.givenUrl with
    | none =>
      simp only [hmethod, hurl] at h
      exact .inr ⟨fun hsend => by simp [Sendable, hurl] at hsend, _, h.of_pure⟩
    | some url =>
      simp only [hmethod, hurl] at h
      obtain ⟨body, -, h⟩ := h.of_bind
      exact .inl ⟨by simp [Sendable, hmethod, hurl], _, h.of_pure⟩

theorem sendable_of_yields {sent : Request}
    (h : Yields (request world config registry step context) (.ok sent)) : Sendable step := by
  rcases h.request with ⟨hsend, -⟩ | ⟨-, reason, hmalformed⟩
  · exact hsend
  · cases hmalformed

theorem silent_logAll (lines : List LogLine) :
    Silent ((Recording.world world).logAll lines) (world.logAll lines) fun _ => True := by
  induction lines with
  | nil => exact Silent.pure trivial
  | cons line rest ih => exact Records.quiet_bind fun _ => ih

theorem silent_generate (source : Template.Source (StateM σ)) (params : List Json) :
    Silent
      (Template.generate ⟨(Recording.registry registry).generators, (Recording.world world).warn⟩
        (source.hoist quiet) params)
      (Template.generate ⟨registry.generators, world.warn⟩ source params) fun _ => True := by
  cases source with
  | function make => exact Silent.quiet fun _ => trivial
  | named name =>
    simp only [Template.Source.hoist, Template.generate, Recording.registry, Fields.get?_map]
    cases registry.generators.get? name with
    | none => exact Records.quiet_bind fun _ => Silent.pure trivial
    | some make => exact Silent.quiet fun _ => trivial

mutual

theorem silent_render (template : Template (StateM σ)) :
    Silent
      (Template.render ⟨(Recording.registry registry).generators, (Recording.world world).warn⟩
        context (template.hoist quiet))
      (Template.render ⟨registry.generators, world.warn⟩ context template) fun _ => True := by
  cases template with
  | literal value => exact Silent.pure trivial
  | text s => exact Silent.pure trivial
  | array items => exact (silent_renderItems items).bind_silent fun _ _ _ => Silent.pure trivial
  | object fields => exact (silent_renderFields fields).bind_silent fun _ _ _ => Silent.pure trivial
  | generator source params => exact silent_generate source _

theorem silent_renderItems (items : List (Template (StateM σ))) :
    Silent
      (Template.renderItems
        ⟨(Recording.registry registry).generators, (Recording.world world).warn⟩
        context (Template.hoistItems quiet items))
      (Template.renderItems ⟨registry.generators, world.warn⟩ context items) fun _ => True := by
  cases items with
  | nil => exact Silent.pure trivial
  | cons item rest =>
    refine (silent_render item).bind_silent fun _ _ _ => ?_
    exact (silent_renderItems rest).bind_silent fun _ _ _ => Silent.pure trivial

theorem silent_renderFields (fields : List (String × Template (StateM σ))) :
    Silent
      (Template.renderFields
        ⟨(Recording.registry registry).generators, (Recording.world world).warn⟩
        context (Template.hoistFields quiet fields))
      (Template.renderFields ⟨registry.generators, world.warn⟩ context fields) fun _ => True := by
  match fields with
  | [] => exact Silent.pure trivial
  | (name, item) :: rest =>
    refine (silent_render item).bind_silent fun _ _ _ => ?_
    exact (silent_renderFields rest).bind_silent fun _ _ _ => Silent.pure trivial

end

theorem silent_rendered :
    Silent
      (rendered (Recording.world world) (Recording.registry registry) (step.hoist quiet) context)
      (rendered world registry step context) fun _ => True := by
  simp only [rendered, Step.body_hoist]
  cases step.body with
  | none => exact Silent.pure trivial
  | some template => exact (silent_render template).bind_silent fun _ _ _ => Silent.pure trivial

theorem silent_body :
    Silent (body (Recording.world world) (Recording.registry registry) (step.hoist quiet) context)
      (body world registry step context) fun _ => True :=
  silent_rendered.bind_silent fun _ _ _ => Silent.pure trivial

theorem silent_request :
    Silent
      (request (Recording.world world) config (Recording.registry registry) (step.hoist quiet)
        context)
      (request world config registry step context) fun _ => True := by
  simp only [request, Step.method_hoist, Step.givenUrl_hoist]
  cases step.method with
  | none => exact Silent.pure trivial
  | some method =>
    cases step.givenUrl with
    | none => exact Silent.pure trivial
    | some url => exact silent_body.bind_silent fun _ _ _ => Silent.pure trivial

theorem silent_simulate :
    Silent (simulate (Recording.world world) (step.hoist quiet)) (simulate world step)
      fun _ => True := by
  have huuid : Silent (Generator.uuid (Recording.world world).draw []) (Generator.uuid world.draw [])
      fun _ => True :=
    Records.quiet_bind fun _ => Silent.pure trivial
  exact huuid.bind_silent fun _ _ _ => Silent.pure trivial

theorem records_response (request : Request) :
    Records (response (Recording.world world) config (step.hoist quiet) request)
      (response world config step request) (Answered world config step request) := by
  unfold response
  cases hdry : config.dryRun with
  | true =>
    simp only [if_true]
    exact silent_simulate.bind_silent fun _ hyields _ => Records.pure (.simulated hdry hyields)
  | false => exact Records.noting fun _ hyields => .sent hdry hyields

theorem silent_validate (response : Response) :
    Silent
      (validate (Recording.world world) (Recording.registry registry) (step.hoist quiet) response)
      (validate world registry step response) fun found => found = verdict registry step response := by
  simp only [validate, verdict, Step.validate_hoist]
  cases step.validate with
  | none => exact Silent.pure rfl
  | some spec => exact (silent_logAll _).bind_silent fun _ _ _ => Silent.pure rfl

theorem silent_extract (response : Response) :
    Silent
      (extract (Recording.world world) (Recording.registry registry) (step.hoist quiet) response)
      (extract world registry step response)
      fun found => found = extraction registry step response := by
  simp only [extract, extraction, Step.extract_hoist]
  cases step.extract with
  | none => exact Silent.pure rfl
  | some spec => exact (silent_logAll _).bind_silent fun _ _ _ => Silent.pure rfl

theorem silent_assess (response : Response) :
    Silent
      (assess (Recording.world world) (Recording.registry registry) (step.hoist quiet) response)
      (assess world registry step response) fun found => found = judge registry step response := by
  refine (silent_validate response).bind_silent fun found _ hfound => ?_
  subst hfound
  by_cases hpassed : (verdict registry step response).passed = true
  · simp only [judge, hpassed, if_true]
    refine (silent_extract response).bind_silent fun found _ hfound => ?_
    subst hfound
    exact Silent.pure rfl
  · simp only [judge, hpassed, Bool.false_eq_true, if_false]
    exact Silent.pure rfl

theorem records_performHttp :
    Records
      (performHttp (Recording.world world) config (Recording.registry registry) (step.hoist quiet)
        context)
      (performHttp world config registry step context)
      (HttpPerformed world config registry step context) := by
  refine silent_request.bind_silent fun built hrequest _ => ?_
  cases built with
  | error error => exact Records.pure (.malformed hrequest)
  | ok sent =>
    refine (records_response sent).bind fun calls answer _ hanswer => ?_
    cases answer with
    | error cause =>
      exact Records.pure (by rw [List.append_nil]; exact .undelivered hrequest hanswer)
    | ok response =>
      refine (silent_assess response).mono fun later executed h => ?_
      obtain ⟨rfl, rfl⟩ := h
      rw [List.append_nil]
      exact .judged hrequest hanswer

theorem records_handler (given : StepHandler (StateM σ)) :
    Records (handler given (step.hoist quiet) context) (given step context)
      fun calls answer => calls = [.handler step context answer] ∧
        Yields (given step context) answer := by
  have hplain : (step.hoist quiet).hoist forget = step := step.hoist_hoist forget_quiet
  simp only [handler, hplain]
  exact Records.noting fun answer hyields => ⟨rfl, hyields⟩

theorem records_perform :
    Records
      (perform (Recording.world world) config (Recording.registry registry) (step.hoist quiet)
        context)
      (perform world config registry step context)
      (Performed world config registry step context) := by
  by_cases hkind : step.isHttp = true
  · simp only [perform, Step.isHttp_hoist, hkind, if_true]
    exact records_performHttp.mono fun _ _ h => .http (.inl hkind) h
  · have hother : step.isHttp = false := by simpa using hkind
    have hstepTypes : (Recording.registry registry).stepTypes.get? step.kind =
        (registry.stepTypes.get? step.kind).map handler := Fields.get?_map _ _ _
    simp only [perform, Step.isHttp_hoist, hother, Bool.false_eq_true, if_false, Step.kind_hoist,
      hstepTypes]
    cases hhandler : registry.stepTypes.get? step.kind with
    | none =>
      refine Records.quiet_bind fun _ => ?_
      exact records_performHttp.mono fun _ _ h => .http (.inr hhandler) h
    | some given =>
      refine (records_handler given).bind fun calls answer _ h => ?_
      obtain ⟨rfl, hyields⟩ := h
      exact Records.pure (.handled hother hhandler hyields)

def absorb (context : Context) : Except StepFailure StepOutcome → Context
  | .ok outcome => Fields.merge context outcome.extracted
  | .error _ => context

theorem records_execute :
    Records
      (execute (Recording.world world) config (Recording.registry registry) (step.hoist quiet)
        context)
      (execute world config registry step context)
      fun calls r => ∃ executed, Performed world config registry step context calls executed ∧
        r = (executed, absorb context executed) := by
  refine records_perform.bind fun calls executed _ hperformed => ?_
  cases executed with
  | ok outcome => exact Records.pure ⟨.ok outcome, by rwa [List.append_nil], rfl⟩
  | error failure => exact Records.pure ⟨.error failure, by rwa [List.append_nil], rfl⟩

end Soundness

end HttpScenario
