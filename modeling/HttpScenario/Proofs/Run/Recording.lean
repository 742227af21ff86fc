import HttpScenario.Execution
import HttpScenario.Proofs.Run.Hoist

/-! A run takes place in surroundings whose state can be of any type. To speak about the calls it
makes, the same run takes place in surroundings that also keep a list of these calls: nothing else
differs, and what a plain computation yields the recording one yields too. -/

namespace HttpScenario

/-- A call that a run makes, with what came back where that matters. -/
inductive Call (σ : Type)
  /-- Middleware is known by its place among all at its point. -/
  | middleware (event : HookEvent (StateM σ)) (place : Nat) (failure : Option Failure)
  | handler (step : Step (StateM σ)) (context : Context) (answer : Except Failure StepOutcome)
  | send (request : Request) (answer : Except TransportError Response)
  | reporter (name : String) (report : Report)

abbrev Recording (σ : Type) := StateT (List (Call σ)) (StateM σ)

variable {σ α β : Type}

def Yields (x : StateM σ α) (a : α) : Prop := ∃ s, (x.run s).1 = a

namespace Recording

def quiet (x : StateM σ α) : Recording σ α := StateT.lift x

def noting (call : α → Call σ) (x : StateM σ α) : Recording σ α := do
  let a ← quiet x
  modify fun calls => calls ++ [call a]
  return a

def forget (x : Recording σ α) : StateM σ α := do
  let (a, _) ← x.run []
  return a

theorem forget_quiet (x : StateM σ α) : forget (quiet x) = x := rfl

def middleware (place : Nat) (given : Middleware (StateM σ)) : Middleware (Recording σ) :=
  fun event context =>
    let plain := event.hoist forget
    noting (fun answer => .middleware plain place answer.2) (given plain context)

def middlewareFrom (place : Nat) : List (Middleware (StateM σ)) → List (Middleware (Recording σ))
  | [] => []
  | given :: rest => middleware place given :: middlewareFrom (place + 1) rest

def handler (given : StepHandler (StateM σ)) : StepHandler (Recording σ) :=
  fun step context =>
    let plain := step.hoist forget
    noting (.handler plain context) (given plain context)

def reporter (name : String) (given : Reporter (StateM σ)) : Reporter (Recording σ) :=
  fun report => noting (fun _ => .reporter name report) (given report)

def generator (given : Generator (StateM σ)) : Generator (Recording σ) :=
  fun params => quiet (given params)

def world (given : World (StateM σ)) : World (Recording σ) :=
  { send := fun request => noting (.send request) (given.send request)
    wait := fun millis => quiet (given.wait millis)
    draw := fun bound => quiet (given.draw bound)
    now := quiet given.now
    log := fun line => quiet (given.log line) }

def registry (given : Registry (StateM σ)) : Registry (Recording σ) :=
  { validators := given.validators
    extractors := given.extractors
    generators := given.generators.map fun entry => (entry.1, generator entry.2)
    stepTypes := given.stepTypes.map fun entry => (entry.1, handler entry.2)
    middleware := fun point => middlewareFrom 0 (given.middleware point)
    reporters := given.reporters.map fun entry => (entry.1, reporter entry.1 entry.2) }

end Recording

open Recording

/-- The recording computation does what the plain one does, whatever was recorded before, and its
calls and its result satisfy a predicate. -/
def Records (x : Recording σ α) (y : StateM σ α) (P : List (Call σ) → α → Prop) : Prop :=
  ∀ s, ∃ calls, P calls (y.run s).1 ∧
    ∀ earlier, (x.run earlier).run s = (((y.run s).1, earlier ++ calls), (y.run s).2)

namespace Records

variable {x : Recording σ α} {y : StateM σ α} {P Q : List (Call σ) → α → Prop}

protected theorem pure {a : α} (h : P [] a) : Records (pure a) (pure a) P := fun s =>
  ⟨[], h, fun earlier => by rw [List.append_nil]; rfl⟩

theorem quiet (h : ∀ a, Yields y a → P [] a) : Records (quiet y) y P := fun s =>
  ⟨[], h _ ⟨s, rfl⟩, fun earlier => by rw [List.append_nil]; rfl⟩

theorem noting {call : α → Call σ} (h : ∀ a, Yields y a → P [call a] a) :
    Records (noting call y) y P := fun s =>
  ⟨[call (y.run s).1], h _ ⟨s, rfl⟩, fun _ => rfl⟩

theorem mono (h : Records x y P) (hPQ : ∀ calls a, P calls a → Q calls a) :
    Records x y Q := by
  intro s
  obtain ⟨calls, hP, hx⟩ := h s
  exact ⟨calls, hPQ calls _ hP, hx⟩

protected theorem bind {f : α → Recording σ β} {g : α → StateM σ β}
    {Q : List (Call σ) → β → Prop} (hx : Records x y P)
    (hf : ∀ calls a, Yields y a → P calls a →
      Records (f a) (g a) fun later b => Q (calls ++ later) b) :
    Records (x >>= f) (y >>= g) Q := by
  intro s
  obtain ⟨calls, hP, hx⟩ := hx s
  obtain ⟨later, hQ, hf⟩ := hf calls (y.run s).1 ⟨s, rfl⟩ hP (y.run s).2
  refine ⟨calls ++ later, hQ, fun earlier => ?_⟩
  have hrun : ((x >>= f).run earlier).run s =
      ((f ((x.run earlier).run s).1.1).run ((x.run earlier).run s).1.2).run
        ((x.run earlier).run s).2 := rfl
  rw [hrun, hx earlier]
  exact (hf (earlier ++ calls)).trans (by rw [List.append_assoc]; rfl)

theorem bind_silent {R : α → Prop} {f : α → Recording σ β} {g : α → StateM σ β}
    {Q : List (Call σ) → β → Prop} (hx : Records x y fun calls a => calls = [] ∧ R a)
    (hf : ∀ a, Yields y a → R a → Records (f a) (g a) Q) :
    Records (x >>= f) (y >>= g) Q :=
  hx.bind fun calls a hy h => by
    obtain ⟨rfl, hR⟩ := h
    exact hf a hy hR

theorem quiet_bind {z : StateM σ β} {f : β → Recording σ α} {g : β → StateM σ α}
    (hf : ∀ b, Records (f b) (g b) P) : Records (Recording.quiet z >>= f) (z >>= g) P := by
  have hz : Records (Recording.quiet z) z fun calls _ => calls = [] ∧ True :=
    Records.quiet fun _ _ => ⟨rfl, trivial⟩
  exact hz.bind_silent fun b _ _ => hf b

theorem optional {c : Prop} [Decidable c] {first : StateM σ Unit} (h : Records x y P) :
    Records (if c then Recording.quiet first >>= fun _ => x else x)
      (if c then first >>= fun _ => y else y) P := by
  split
  · exact quiet_bind fun _ => h
  · exact h

end Records

abbrev Silent (x : Recording σ α) (y : StateM σ α) (R : α → Prop) : Prop :=
  Records x y fun calls a => calls = [] ∧ R a

namespace Silent

variable {R : α → Prop}

protected theorem pure {a : α} (h : R a) : Silent (pure a : Recording σ α) (pure a) R :=
  Records.pure ⟨rfl, h⟩

theorem quiet {y : StateM σ α} (h : ∀ a, R a) : Silent (Recording.quiet y) y R :=
  Records.quiet fun a _ => ⟨rfl, h a⟩

end Silent

end HttpScenario
