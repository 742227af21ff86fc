import HttpScenario.Proofs.Fields
import HttpScenario.Template
import HttpScenario.Transport
import HttpScenario.World

/-! Programs that do not know their monad. Where computations of two monads correspond in a way that
agrees with sequencing, so do the values that generators and templates make of corresponding random
numbers and clocks, and so does what becomes of a request. -/

namespace HttpScenario

/-- A relation between computations of two monads, on all types of results, that agrees with
sequencing. -/
structure Correspondence (m n : Type → Type) [Monad m] [Monad n] where
  holds : ∀ {α : Type}, m α → n α → Prop
  pure : ∀ {α : Type} (a : α), holds (Pure.pure a) (Pure.pure a)
  bind : ∀ {α β : Type} {x : m α} {y : n α} {f : α → m β} {g : α → n β},
    holds x y → (∀ a, holds (f a) (g a)) → holds (x >>= f) (y >>= g)

namespace Correspondence

variable {m n : Type → Type} [Monad m] [Monad n] (R : Correspondence m n)

def Pointwise {α β : Type} (f : α → m β) (g : α → n β) : Prop := ∀ a, R.holds (f a) (g a)

structure Links (link : Link m) (other : Link n) : Prop where
  exchange : R.Pointwise link.exchange other.exchange
  wait : R.Pointwise link.wait other.wait
  log : R.Pointwise link.log other.log

structure Worlds (world : World m) (other : World n) : Prop where
  send : R.Pointwise world.send other.send
  wait : R.Pointwise world.wait other.wait
  draw : R.Pointwise world.draw other.draw
  now : R.holds world.now other.now
  log : R.Pointwise world.log other.log

variable {R}

theorem optional {α : Type} {c : Prop} [Decidable c] {first : m Unit} {first' : n Unit} {x : m α}
    {y : n α} (hfirst : R.holds first first') (h : R.holds x y) :
    R.holds (if c then first >>= fun _ => x else x) (if c then first' >>= fun _ => y else y) := by
  split
  · exact R.bind hfirst fun _ => h
  · exact h

section Generators

variable {draw : Nat → m Nat} {draw' : Nat → n Nat} {now : m Nat} {now' : n Nat}

theorem uuid (hdraw : R.Pointwise draw draw') :
    R.Pointwise (Generator.uuid draw) (Generator.uuid draw') := fun _ =>
  R.bind (hdraw _) fun _ => R.pure _

theorem drawText (hdraw : R.Pointwise draw draw') :
    R.Pointwise (Generator.drawText draw) (Generator.drawText draw') := by
  intro size
  induction size with
  | zero => exact R.pure []
  | succ size ih => exact R.bind (hdraw _) fun _ => R.bind ih fun _ => R.pure _

theorem randomInt (hdraw : R.Pointwise draw draw') :
    R.Pointwise (Generator.randomInt draw) (Generator.randomInt draw') := fun _ =>
  R.bind (hdraw _) fun _ => R.pure _

theorem randomString (hdraw : R.Pointwise draw draw') :
    R.Pointwise (Generator.randomString draw) (Generator.randomString draw') := fun _ =>
  R.bind (drawText hdraw _) fun _ => R.pure _

theorem randomEmail (hdraw : R.Pointwise draw draw') :
    R.Pointwise (Generator.randomEmail draw) (Generator.randomEmail draw') := fun _ =>
  R.bind (drawText hdraw _) fun _ => R.pure _

theorem rel_get?_cons {α β : Type} {P : α → β → Prop} {a : α} {b : β} {fields : Fields α}
    {others : Fields β} {name : String} (key : String) (hfirst : P a b)
    (hrest : Option.Rel P (fields.get? name) (others.get? name)) :
    Option.Rel P (Fields.get? ((key, a) :: fields) name) (Fields.get? ((key, b) :: others) name) := by
  rw [Fields.get?_cons, Fields.get?_cons]
  split
  · exact .some hfirst
  · exact hrest

theorem builtin (hdraw : R.Pointwise draw draw') (hnow : R.holds now now') (name : String) :
    Option.Rel R.Pointwise ((Generator.builtin draw now).get? name)
      ((Generator.builtin draw' now').get? name) := by
  have htimestamp : R.Pointwise (fun _ : List Json => return Json.nat (← now))
      (fun _ => return Json.nat (← now')) := fun _ => R.bind hnow fun _ => R.pure _
  have hdate : R.Pointwise
      (fun _ : List Json => return Json.string (Generator.instantText (← now)))
      (fun _ => return Json.string (Generator.instantText (← now'))) := fun _ =>
    R.bind hnow fun _ => R.pure _
  exact rel_get?_cons _ (uuid hdraw) <| rel_get?_cons _ (randomInt hdraw) <|
    rel_get?_cons _ (randomString hdraw) <| rel_get?_cons _ (randomEmail hdraw) <|
    rel_get?_cons _ htimestamp <| rel_get?_cons _ hdate .none

end Generators

section Templates

open Template

variable {env : Environment m} {other : Environment n}

structure Environments (R : Correspondence m n) (env : Environment m) (other : Environment n) :
    Prop where
  generators : ∀ name,
    Option.Rel R.Pointwise (env.generators.get? name) (other.generators.get? name)
  warn : R.Pointwise env.warn other.warn

theorem generate (henv : R.Environments env other) (name : String) :
    R.Pointwise (Template.generate env (.named name)) (Template.generate other (.named name)) := by
  intro params
  have hfound := henv.generators name
  simp only [Template.generate]
  generalize env.generators.get? name = found at hfound ⊢
  generalize other.generators.get? name = found' at hfound ⊢
  cases hfound with
  | none => exact R.bind (henv.warn _) fun _ => R.pure _
  | some hmake => exact hmake params

mutual

/-- A template that is read from data names its generators, and is as good in one monad as in
another. -/
theorem render (henv : R.Environments env other) (context : Context) (json : Json) :
    R.holds ((ofJson json).render env context) ((ofJson json).render other context) := by
  match json with
  | .null => exact R.pure _
  | .bool _ => exact R.pure _
  | .number _ => exact R.pure _
  | .string _ => exact R.pure _
  | .array items => exact R.bind (renderItems henv context items) fun _ => R.pure _
  | .object fields =>
    simp only [ofJson]
    split
    · exact generate henv _ _
    · exact R.bind (renderFields henv context fields) fun _ => R.pure _

theorem renderItems (henv : R.Environments env other) (context : Context) (items : List Json) :
    R.holds (Template.renderItems env context (ofItems items))
      (Template.renderItems other context (ofItems items)) := by
  match items with
  | [] => exact R.pure _
  | item :: rest =>
    exact R.bind (render henv context item) fun _ =>
      R.bind (renderItems henv context rest) fun _ => R.pure _

theorem renderFields (henv : R.Environments env other) (context : Context)
    (fields : List (String × Json)) :
    R.holds (Template.renderFields env context (ofFields fields))
      (Template.renderFields other context (ofFields fields)) := by
  match fields with
  | [] => exact R.pure _
  | (_, value) :: rest =>
    exact R.bind (render henv context value) fun _ =>
      R.bind (renderFields henv context rest) fun _ => R.pure _

end

end Templates

section Transport

open Transport

variable {link : Link m} {other : Link n}

theorem attempt (hlink : R.Links link other) (strict : Bool) (address : String)
    (request : Request) :
    R.holds (Transport.attempt link strict address request)
      (Transport.attempt other strict address request) := by
  unfold Transport.attempt
  cases Outgoing.build address request with
  | error cause => exact R.pure _
  | ok outgoing =>
    refine R.bind (hlink.exchange outgoing) fun answer => ?_
    cases answer.bind (Answer.read request.method) with
    | error message => exact R.pure _
    | ok answer => exact R.pure _

theorem attempts (hlink : R.Links link other) (config : Config) {once : m Outcome}
    {once' : n Outcome} (honce : R.holds once once') (number left : Nat) :
    R.holds (Transport.attempts link config once number left)
      (Transport.attempts other config once' number left) := by
  induction left generalizing number with
  | zero => exact honce
  | succ left ih =>
    refine R.bind honce fun outcome => ?_
    split
    · exact R.bind (hlink.log _) fun _ => R.bind (hlink.wait _) fun _ => ih (number + 1)
    · exact R.pure outcome

theorem send (hlink : R.Links link other) (config : Config) :
    R.Pointwise (Transport.send link config) (Transport.send other config) := by
  intro request
  unfold Transport.send
  cases resolve config.baseUrl request.url with
  | error cause => exact R.pure _
  | ok address => exact attempts hlink config (attempt hlink _ address request) 1 config.retries

end Transport

end Correspondence

end HttpScenario
