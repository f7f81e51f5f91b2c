/-
  Proviso/Logged.lean
  ===================
  **Computations with a log**: a result, or the error that ended it, beside the events up to
  there.

  The events of an ended computation stay.  Each projection of a sequence is told by the
  projections of its parts (`result_bind`, `events_bind`), so what is proved of results never
  mentions events.
-/
import Proviso.Event

namespace Proviso

/-- A result or error of type `ε`, and the events on the way to it. -/
structure Logged (ε α : Type) where
  events : List Event
  result : Except ε α

namespace Logged

variable {ε α β : Type}

/-- A result without events. -/
def ofExcept (r : Except ε α) : Logged ε α := ⟨[], r⟩

/-- One computation after another; an error ends both. -/
def andThen (x : Logged ε α) (f : α → Logged ε β) : Logged ε β :=
  match x.result with
  | .ok a => ⟨x.events ++ (f a).events, (f a).result⟩
  | .error e => ⟨x.events, .error e⟩

instance : Monad (Logged ε) where
  pure a := ofExcept (.ok a)
  bind := andThen

def fail (e : ε) : Logged ε α := ofExcept (.error e)

def emit (events : List Event) : Logged ε Unit := ⟨events, .ok ()⟩

/-- The same computation with another error. -/
def mapError {ε' : Type} (f : ε → ε') (x : Logged ε α) : Logged ε' α :=
  ⟨x.events, x.result.mapError f⟩

/-! ### Results and events of a sequence -/

@[simp] theorem result_pure (a : α) : (pure a : Logged ε α).result = .ok a := rfl

@[simp] theorem events_pure (a : α) : (pure a : Logged ε α).events = [] := rfl

@[simp] theorem result_fail (e : ε) : (fail e : Logged ε α).result = .error e := rfl

@[simp] theorem events_fail (e : ε) : (fail e : Logged ε α).events = [] := rfl

@[simp] theorem result_ofExcept (r : Except ε α) : (ofExcept r).result = r := rfl

@[simp] theorem events_ofExcept (r : Except ε α) : (ofExcept r).events = [] := rfl

@[simp] theorem result_emit (es : List Event) : (emit es : Logged ε Unit).result = .ok () := rfl

@[simp] theorem events_emit (es : List Event) : (emit es : Logged ε Unit).events = es := rfl

theorem result_bind (x : Logged ε α) (f : α → Logged ε β) :
    (x >>= f).result = x.result >>= fun a => (f a).result := by
  show (andThen x f).result = _
  rw [andThen]
  split <;> rename_i h <;> rw [h] <;> rfl

theorem events_bind_ok {x : Logged ε α} {a : α} (h : x.result = .ok a) (f : α → Logged ε β) :
    (x >>= f).events = x.events ++ (f a).events := by
  show (andThen x f).events = _
  rw [andThen]
  simp [h]

theorem events_bind_error {x : Logged ε α} {e : ε} (h : x.result = .error e)
    (f : α → Logged ε β) : (x >>= f).events = x.events := by
  show (andThen x f).events = _
  rw [andThen]
  simp [h]

/-- Sequencing is associative and has `pure` as its unit, in results and in events. -/
instance : LawfulMonad (Logged ε) := LawfulMonad.mk' (Logged ε)
  (by
    intro α x
    show andThen x (fun a => ofExcept (.ok a)) = x
    obtain ⟨events, result⟩ := x
    cases result <;> simp [andThen])
  (by intro α β a f; rfl)
  (by
    intro α β γ x f g
    show andThen (andThen x f) g = andThen x fun a => andThen (f a) g
    obtain ⟨events, result⟩ := x
    cases result with
    | error e => rfl
    | ok a => cases h : (f a).result <;> simp [andThen, h])

/-! ### Rows of computations -/

/-- The results of a row, from left to right up to the first error. -/
def forEach (f : α → Logged ε β) : List α → Logged ε (List β)
  | [] => pure []
  | a :: rest => do
    let b ← f a
    let bs ← forEach f rest
    return b :: bs

/-- From left to right up to the first verdict other than `neutral`, which then is the verdict of
    the row. -/
def untilOther (neutral : Bool) (f : α → Logged ε Bool) : List α → Logged ε Bool
  | [] => pure neutral
  | a :: rest => do
    let verdict ← f a
    if verdict = neutral then untilOther neutral f rest else return verdict

end Logged

end Proviso
