import HttpScenario.Proofs.Run.History
import HttpScenario.Proofs.Validation.Reason

/-! A step changes the variables in full or not at all, and an http step looks for variables only in
a response that passed its validation. -/

namespace HttpScenario

variable {σ α β : Type}

open Execution Recording

/-- Fields are added to others: new names come last, and of several values under one name the last
counts. -/
structure Inserted (context extracted after : Context) : Prop where
  merged : after = Fields.merge context extracted
  names_prefix : Fields.names context <+: Fields.names after
  mem_names : ∀ name, name ∈ Fields.names after ↔
    name ∈ Fields.names context ∨ name ∈ Fields.names extracted
  get? : ∀ name, Fields.get? after name =
    (Fields.get? extracted.reverse name).or (Fields.get? context name)
  kept : ∀ name ∉ Fields.names extracted, Fields.get? after name = Fields.get? context name

theorem inserted_merge (context extracted : Context) :
    Inserted context extracted (Fields.merge context extracted) where
  merged := rfl
  names_prefix := Fields.names_prefix_merge context extracted
  mem_names _ := Fields.mem_names_merge
  get? := Fields.get?_merge context extracted
  kept name hname := by
    have habsent : Fields.get? extracted.reverse name = none := by
      rw [Fields.get?_eq_none_iff, Fields.names, List.map_reverse, List.mem_reverse]
      exact hname
    rw [Fields.get?_merge, habsent, Option.none_or]

/-- The variables after a step: those before if it fails, and else these with what it extracted. -/
def Atomic (context : Context) : Except StepFailure StepOutcome → Context → Prop
  | .error _, after => after = context
  | .ok outcome, after => Inserted context outcome.extracted after

theorem atomic_absorb (context : Context) (executed : Except StepFailure StepOutcome) :
    Atomic context executed (absorb context executed) := by
  cases executed with
  | ok outcome => exact inserted_merge context outcome.extracted
  | error failure => rfl

section Relations

variable (world : World (StateM σ)) (config : Config) (registry : Registry (StateM σ))
  (step : Step (StateM σ))

/-- A response is received for a step with a request, be it that the request was sent or that the
response was made up instead. -/
inductive Received : List (Call σ) → Response → Prop
  | simulated {response} (hsend : Sendable step) (hdry : config.dryRun = true)
      (hyields : Yields (simulate world step) response) : Received [] response
  | sent {request response} (hsend : Sendable step) (hdry : config.dryRun = false)
      (hyields : Yields (world.send request) (.ok response)) :
      Received [.send request (.ok response)] response

/-- What an http step comes to. Only one without a request is malformed, and only one whose request
is sent can get no answer; then there is nothing to tell but the error. A response that is rejected is
told with the verdict on it, and only one that is accepted is looked into. -/
inductive OverHttp : List (Call σ) → Except StepFailure StepOutcome → Prop
  | malformed {reason} (hsend : ¬Sendable step) :
      OverHttp [] (.error ⟨.malformed step.name reason, none, []⟩)
  | undelivered {request cause} (hsend : Sendable step) (hdry : config.dryRun = false)
      (hyields : Yields (world.send request) (.error cause)) :
      OverHttp [.send request (.error cause)] (.error ⟨.dispatch step.name cause, none, []⟩)
  | rejected {calls response final} (hreceived : Received world config step calls response)
      (hverdict : (verdict registry step response).passed = false)
      (hfinal : (verdict registry step response).diagnostics.getLast? = some final) :
      OverHttp calls
        (.error ⟨.validation step.name final.text, some response,
          (verdict registry step response).diagnostics⟩)
  | accepted {calls response} (hreceived : Received world config step calls response)
      (hverdict : (verdict registry step response).passed = true) :
      OverHttp calls
        (.ok ⟨some response, (extraction registry step response).1,
          (verdict registry step response).diagnostics ++ (extraction registry step response).2⟩)

end Relations

section Http

variable {world : World (StateM σ)} {config : Config} {registry : Registry (StateM σ)}
  {step : Step (StateM σ)} {context : Context} {calls : List (Call σ)}

theorem reasoned_verdict (registry : Registry (StateM σ)) (step : Step (StateM σ))
    (response : Response) : (verdict registry step response).Reasoned := by
  unfold verdict
  split
  · exact Validation.Verdict.reasoned_pass
  · exact Validation.reasoned_validate _ _ _

theorem Answered.received {sent : Request} {response : Response} (hsend : Sendable step)
    (h : Answered world config step sent calls (.ok response)) :
    Received world config step calls response := by
  cases h with
  | simulated hdry hyields => exact .simulated hsend hdry hyields
  | sent hdry hyields => exact .sent hsend hdry hyields

theorem overHttp_judge {response : Response}
    (hreceived : Received world config step calls response) :
    OverHttp world config registry step calls (judge registry step response) := by
  cases hverdict : (verdict registry step response).passed with
  | true =>
    simp only [judge, hverdict, if_true]
    exact .accepted hreceived hverdict
  | false =>
    obtain ⟨final, hfinal, hreason⟩ := (reasoned_verdict registry step response).reason_eq hverdict
    simp only [judge, hverdict, hreason, Bool.false_eq_true, if_false]
    exact .rejected hreceived hverdict hfinal

theorem HttpPerformed.overHttp {executed : Except StepFailure StepOutcome}
    (h : HttpPerformed world config registry step context calls executed) :
    OverHttp world config registry step calls executed := by
  cases h with
  | malformed hrequest =>
    rcases hrequest.request with ⟨-, sent, hsent⟩ | ⟨hsend, reason, herror⟩
    · cases hsent
    · obtain rfl := Except.error.inj herror
      exact .malformed hsend
  | undelivered hrequest hanswer =>
    cases hanswer with
    | sent hdry hyields => exact .undelivered (sendable_of_yields hrequest) hdry hyields
  | judged hrequest hanswer => exact overHttp_judge (hanswer.received (sendable_of_yields hrequest))

theorem Performed.overHttp {executed : Except StepFailure StepOutcome}
    (hkind : IsOverHttp registry step)
    (h : Performed world config registry step context calls executed) :
    OverHttp world config registry step calls executed := by
  cases h with
  | handled hother hhandler _ =>
    rcases hkind with hhttp | hnone
    · rw [hhttp] at hother
      cases hother
    · rw [hhandler] at hnone
      cases hnone
  | http _ hhttp => exact hhttp.overHttp

end Http

def Agrees (P : α → Prop) (x y : StateM σ α) : Prop := ∀ s, P (x.run s).1 → y.run s = x.run s

namespace Agrees

variable {P : β → Prop} {Q : α → Prop}

protected theorem refl (x : StateM σ α) : Agrees Q x x := fun _ _ => rfl

theorem bind (x : StateM σ α) {f g : α → StateM σ β} (h : ∀ a, Agrees P (f a) (g a)) :
    Agrees P (x >>= f) (x >>= g) := fun s hP => h (x.run s).1 (x.run s).2 hP

theorem bind_left {x y : StateM σ α} (h : Agrees Q x y) {f : α → StateM σ β}
    (hf : ∀ a b, Yields (f a) b → P b → Q a) : Agrees P (x >>= f) (y >>= f) := by
  intro s hP
  have hx : y.run s = x.run s := h s (hf (x.run s).1 _ ⟨(x.run s).2, rfl⟩ hP)
  exact congrArg (fun r => (f r.1).run r.2) hx

theorem of_not {x y : StateM σ α} (h : ∀ a, Yields x a → ¬Q a) : Agrees Q x y :=
  fun s hQ => absurd hQ (h _ ⟨s, rfl⟩)

end Agrees

def Failed (executed : Except StepFailure StepOutcome) : Prop := executed.isOk = false

section Extraction

variable (world : World (StateM σ)) (config : Config) (registry : Registry (StateM σ))
  (step : Step (StateM σ)) (context : Context) (spec : Option Extraction.Spec)
  (extractors : Extraction.Table)

theorem agrees_assess (response : Response) :
    Agrees Failed (assess world registry step response)
      (assess world { registry with extractors := extractors } { step with extract := spec }
        response) := by
  refine Agrees.bind (validate world registry step response) fun verdict => ?_
  cases hpassed : verdict.passed with
  | false =>
    simp only [Bool.false_eq_true, if_false]
    exact Agrees.refl _
  | true =>
    -- A response that passes its validation does not fail the step any more.
    refine Agrees.of_not fun executed hyields hfailed => ?_
    simp only [if_true] at hyields
    obtain ⟨found, -, hyields⟩ := hyields.of_bind
    rw [hyields.of_pure] at hfailed
    cases hfailed

theorem agrees_performHttp :
    Agrees Failed (performHttp world config registry step context)
      (performHttp world config { registry with extractors := extractors }
        { step with extract := spec } context) := by
  refine Agrees.bind (request world config registry step context) fun built => ?_
  cases built with
  | error error => exact Agrees.refl _
  | ok sent =>
    refine Agrees.bind (response world config step sent) fun answer => ?_
    cases answer with
    | error cause => exact Agrees.refl _
    | ok response => exact agrees_assess world registry step spec extractors response

theorem agrees_perform (hkind : IsOverHttp registry step) :
    Agrees Failed (perform world config registry step context)
      (perform world config { registry with extractors := extractors }
        { step with extract := spec } context) := by
  have hhttp := agrees_performHttp world config registry step context spec extractors
  by_cases hstep : step.isHttp = true
  · have hother : ({ step with extract := spec } : Step (StateM σ)).isHttp = true := hstep
    simp only [perform, hstep, hother, if_true]
    exact hhttp
  · have hnone := hkind.resolve_left hstep
    have hother : ({ step with extract := spec } : Step (StateM σ)).isHttp ≠ true := hstep
    have hkind : registry.stepTypes.get? ({ step with extract := spec } : Step (StateM σ)).kind =
        none := hnone
    simp only [perform, hstep, hother, hnone, hkind, if_false, Bool.false_eq_true]
    exact Agrees.bind _ fun _ => hhttp

/-- A step that fails over http has extracted nothing: with any other extraction it is the same
step. -/
theorem agrees_execute (hkind : IsOverHttp registry step) :
    Agrees (fun r => Failed r.1) (execute world config registry step context)
      (execute world config { registry with extractors := extractors }
        { step with extract := spec } context) := by
  refine (agrees_perform world config registry step context spec extractors hkind).bind_left ?_
  intro executed r hyields hfailed
  cases executed with
  | ok outcome =>
    rw [hyields.of_pure] at hfailed
    cases hfailed
  | error failure => rfl

end Extraction

/-- From a state of its surroundings, a step makes calls, comes to an outcome and leaves variables
behind. -/
def Executes (world : World (StateM σ)) (config : Config) (registry : Registry (StateM σ))
    (step : Step (StateM σ)) (context : Context) (s : σ) (calls : List (Call σ))
    (executed : Except StepFailure StepOutcome) (after : Context) : Prop :=
  ∃ s', (execute world config registry step context).run s = ((executed, after), s') ∧
    ((execute (Recording.world world) config (Recording.registry registry) (step.hoist quiet)
      context).run []).run s = (((executed, after), calls), s')

theorem Executes.unique {world : World (StateM σ)} {config : Config}
    {registry : Registry (StateM σ)} {step : Step (StateM σ)} {context after after' : Context}
    {s : σ} {calls calls' : List (Call σ)} {executed executed' : Except StepFailure StepOutcome}
    (h : Executes world config registry step context s calls executed after)
    (h' : Executes world config registry step context s calls' executed' after') :
    calls = calls' ∧ executed = executed' ∧ after = after' := by
  obtain ⟨_, -, hrecorded⟩ := h
  obtain ⟨_, -, hrecorded'⟩ := h'
  obtain ⟨hresult, -⟩ := Prod.mk.inj (hrecorded.symm.trans hrecorded')
  obtain ⟨hstep, hcalls⟩ := Prod.mk.inj hresult
  obtain ⟨hexecuted, hafter⟩ := Prod.mk.inj hstep
  exact ⟨hcalls, hexecuted, hafter⟩

theorem exists_performed (world : World (StateM σ)) (config : Config)
    (registry : Registry (StateM σ)) (step : Step (StateM σ)) (context : Context) (s : σ) :
    ∃ calls executed, Executes world config registry step context s calls executed
        (absorb context executed) ∧
      Performed world config registry step context calls executed := by
  have hrecords : Records _ (execute world config registry step context) _ := records_execute
  obtain ⟨calls, ⟨executed, hperformed, hresult⟩, hrecorded⟩ := hrecords s
  have hplain : (execute world config registry step context).run s =
      ((executed, absorb context executed), _) := Prod.ext hresult rfl
  refine ⟨calls, executed, ⟨_, hplain, ?_⟩, hperformed⟩
  rw [hrecorded [], hresult]
  rfl

/-- However a step is performed, it adds exactly what it extracted or fails and changes nothing. An
http step that fails, fails in the same way whatever it was to extract. -/
theorem atomic_of_execute (world : World (StateM σ)) (config : Config)
    (registry : Registry (StateM σ)) (step : Step (StateM σ)) (context : Context) (s : σ) :
    ∃ calls executed after, Executes world config registry step context s calls executed after ∧
      Atomic context executed after ∧
      (IsOverHttp registry step →
        OverHttp world config registry step calls executed ∧
        (Failed executed → ∀ spec extractors,
          (execute world config { registry with extractors := extractors }
              { step with extract := spec } context).run s =
            (execute world config registry step context).run s)) := by
  obtain ⟨calls, executed, hexecutes, hperformed⟩ :=
    exists_performed world config registry step context s
  refine ⟨calls, executed, _, hexecutes, atomic_absorb context executed, fun hkind => ?_⟩
  refine ⟨hperformed.overHttp hkind, fun hfailed spec extractors => ?_⟩
  obtain ⟨s', hplain, -⟩ := hexecutes
  refine agrees_execute world config registry step context spec extractors hkind s ?_
  rw [hplain]
  exact hfailed

namespace Sample

def removal : Step (StateM Nat) :=
  { Step.http "remove" .delete "/items/1" with
    validate := some (.all [("code", .check (.status 204))])
    extract := some [("code", .path "status")] }

def token : Context := [("token", .string "t")]

def accepted : Call Nat := .send ⟨.delete, "/items/1", [], none⟩ (.ok (.ofStatus 200))

def madeUp : Response :=
  ⟨200, "OK", [("content-type", "application/json")],
    .object
      [("id", .string "00000000-0000-4000-8000-000000000000"),
       ("message", .string "Simulated response for step 'remove'"), ("simulated", .bool true)]⟩

def rejection (response : Response) : StepFailure :=
  let cause := "expected status 204, got 200"
  ⟨.validation "remove" s!"code: validation 'code' failed: {cause}", some response,
    [⟨"code", cause⟩, ⟨"code", s!"validation 'code' failed: {cause}"⟩]⟩

theorem executes_removal :
    Executes world .default registry removal token 0 [accepted] (.error (rejection (.ofStatus 200)))
      token := by
  have hurl : Placeholder.substitute token "/items/1" = "/items/1" := by decide +kernel
  rw [accepted, ← hurl]
  exact ⟨1, rfl, rfl⟩

theorem executes_removal_dry :
    Executes world (Config.default.withDryRun true) registry removal token 0 []
      (.error (rejection madeUp)) token :=
  ⟨0, rfl, rfl⟩

end Sample

theorem atomic_of_sample_execute :
    IsOverHttp Sample.registry Sample.removal ∧
    OverHttp Sample.world .default Sample.registry Sample.removal [Sample.accepted]
      (.error (Sample.rejection (.ofStatus 200))) ∧
    OverHttp Sample.world (Config.default.withDryRun true) Sample.registry Sample.removal []
      (.error (Sample.rejection Sample.madeUp)) ∧
    ∀ spec extractors,
      (execute Sample.world .default { Sample.registry with extractors := extractors }
        { Sample.removal with extract := spec } Sample.token).run 0 =
      ((.error (Sample.rejection (.ofStatus 200)), Sample.token), 1) := by
  have hkind : IsOverHttp Sample.registry Sample.removal := .inl rfl
  obtain ⟨_, _, _, hexecutes, -, hhttp⟩ :=
    atomic_of_execute Sample.world .default Sample.registry Sample.removal Sample.token 0
  obtain ⟨rfl, rfl, rfl⟩ := hexecutes.unique Sample.executes_removal
  obtain ⟨hrejected, hsame⟩ := hhttp hkind
  obtain ⟨_, _, _, hexecutes, -, hhttp⟩ :=
    atomic_of_execute Sample.world (Config.default.withDryRun true) Sample.registry Sample.removal
      Sample.token 0
  obtain ⟨rfl, rfl, rfl⟩ := hexecutes.unique Sample.executes_removal_dry
  exact ⟨hkind, hrejected, (hhttp hkind).1, hsame rfl⟩

end HttpScenario
