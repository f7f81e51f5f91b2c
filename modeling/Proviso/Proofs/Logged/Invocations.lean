/-
  Proviso/Proofs/Logged/Invocations.lean
  ======================================
  **Which checks a computation runs**, and in which order.

  Each run of a check leaves an event of its own, so the invocations of a computation are read off
  its events.  Computations one after the other have the invocations of both, up to an error.  A
  row that stops at the first verdict other than the neutral one has the events of the members up
  to and including that one, and no others (`events_untilOther_of_stop`).
-/
import Proviso.Proofs.Logged.Rows

namespace Proviso.Logged

variable {ε α β : Type}

/-- The conditions whose checks were run, one entry for each run. -/
def invocations (x : Logged ε α) : List Condition := x.events.filterMap Event.condition?

/-- No check is run. -/
def Quiet (x : Logged ε α) : Prop := x.invocations = []

/-! ### Two computations -/

theorem invocations_bind_ok {x : Logged ε α} {a : α} (h : x.result = .ok a) (f : α → Logged ε β) :
    (x >>= f).invocations = x.invocations ++ (f a).invocations := by
  rw [invocations, events_bind_ok h, List.filterMap_append, invocations, invocations]

theorem invocations_bind_error {x : Logged ε α} {e : ε} (h : x.result = .error e)
    (f : α → Logged ε β) : (x >>= f).invocations = x.invocations := by
  rw [invocations, events_bind_error h, invocations]

theorem quiet_pure (a : α) : (pure a : Logged ε α).Quiet := rfl

theorem quiet_fail (e : ε) : (fail e : Logged ε α).Quiet := rfl

theorem quiet_ofExcept (r : Except ε α) : (ofExcept r).Quiet := rfl

theorem invocations_bind_of_quiet {x : Logged ε α} {f : α → Logged ε β}
    (h : ∀ a, x.result = .ok a → (f a).Quiet) : (x >>= f).invocations = x.invocations := by
  cases hx : x.result with
  | error e => exact invocations_bind_error hx f
  | ok a => rw [invocations_bind_ok hx, h a hx, List.append_nil]

theorem Quiet.bind {x : Logged ε α} {f : α → Logged ε β} (hx : x.Quiet) (hf : ∀ a, (f a).Quiet) :
    (x >>= f).Quiet :=
  (invocations_bind_of_quiet fun a _ => hf a).trans hx

theorem Quiet.invocations_bind_ok {x : Logged ε α} (hx : x.Quiet) {a : α} (h : x.result = .ok a)
    (f : α → Logged ε β) : (x >>= f).invocations = (f a).invocations := by
  rw [Logged.invocations_bind_ok h, hx, List.nil_append]

/-! ### Rows -/

theorem Quiet.forEach {f : α → Logged ε β} {as : List α} (h : ∀ a ∈ as, (f a).Quiet) :
    (forEach f as).Quiet := by
  induction as with
  | nil => exact quiet_pure []
  | cons a rest ih =>
    rw [List.forall_mem_cons] at h
    apply h.1.bind
    intro b
    apply (ih h.2).bind
    intro bs
    exact quiet_pure (b :: bs)

section

variable {neutral : Bool} {f : α → Logged ε Bool}

theorem events_untilOther_append {front : List α} (h : ∀ a ∈ front, (f a).result = .ok neutral)
    (rest : List α) : (untilOther neutral f (front ++ rest)).events =
      (front.flatMap fun a => (f a).events) ++ (untilOther neutral f rest).events := by
  induction front with
  | nil => rfl
  | cons a front ih =>
    rw [List.forall_mem_cons] at h
    rw [List.cons_append, untilOther, events_bind_ok h.1, if_pos rfl, ih h.2, List.flatMap_cons,
      List.append_assoc]

theorem events_untilOther_of_forall {as : List α} (h : ∀ a ∈ as, (f a).result = .ok neutral) :
    (untilOther neutral f as).events = as.flatMap fun a => (f a).events := by
  have hrow := events_untilOther_append h []
  rw [List.append_nil] at hrow
  rw [hrow]
  exact List.append_nil _

theorem events_untilOther_cons_of_stop {a : α} (ha : (f a).result ≠ .ok neutral)
    (rest : List α) : (untilOther neutral f (a :: rest)).events = (f a).events := by
  rw [untilOther]
  cases hresult : (f a).result with
  | error e => exact events_bind_error hresult _
  | ok verdict =>
    have hv : verdict ≠ neutral := fun heq => ha (heq ▸ hresult)
    rw [events_bind_ok hresult, if_neg hv, events_pure, List.append_nil]

/-- **A row stops** behind the first member that does not have the neutral verdict, be it for its
    verdict or for its error. -/
theorem events_untilOther_of_stop {front : List α} {a : α} {rest : List α}
    (hfront : ∀ b ∈ front, (f b).result = .ok neutral) (ha : (f a).result ≠ .ok neutral) :
    (untilOther neutral f (front ++ a :: rest)).events =
      (front.flatMap fun b => (f b).events) ++ (f a).events := by
  rw [events_untilOther_append hfront, events_untilOther_cons_of_stop ha]

theorem exists_front_events_untilOther (neutral : Bool) (f : α → Logged ε Bool) (as : List α) :
    ∃ front rest, as = front ++ rest ∧
      (untilOther neutral f as).events = front.flatMap fun a => (f a).events := by
  induction as with
  | nil => exact ⟨[], [], rfl, rfl⟩
  | cons a as ih =>
    by_cases ha : (f a).result = .ok neutral
    · obtain ⟨front, rest, rfl, hevents⟩ := ih
      refine ⟨a :: front, rest, rfl, ?_⟩
      rw [untilOther, events_bind_ok ha, if_pos rfl, hevents, List.flatMap_cons]
    · refine ⟨[a], as, rfl, ?_⟩
      rw [events_untilOther_cons_of_stop ha, List.flatMap_singleton]

end

end Proviso.Logged
