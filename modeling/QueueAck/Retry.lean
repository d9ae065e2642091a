/-!
# Retry policies

What happens to the visibility of a message that is handed back. `resolveDelay` says which timeout
is requested for a policy, or that none is requested at all.
-/

namespace QueueAck

/-- How a negative acknowledgement affects the time until the next delivery. -/
inductive RetryMode where
  /-- The message is delivered again right away. -/
  | defaultDelay
  /-- The message is delivered again after the delay of the policy. -/
  | explicitDelay
  /-- The visibility timeout of the queue is left in place. -/
  | queueDelay
deriving DecidableEq, Repr

namespace RetryMode

/-- All modes, in the order in which they are declared. -/
def all : List RetryMode := [.defaultDelay, .explicitDelay, .queueDelay]

/-- The name of the mode. -/
def name : RetryMode → String
  | .defaultDelay => "DEFAULT_DELAY"
  | .explicitDelay => "EXPLICIT_DELAY"
  | .queueDelay => "QUEUE_DELAY"

/-- The text by which a configuration selects the mode. -/
def value : RetryMode → String
  | .defaultDelay => "default_delay"
  | .explicitDelay => "explicit_delay"
  | .queueDelay => "queue_delay"

/-- The mode that a text selects. -/
def ofValue? (s : String) : Option RetryMode := all.find? (·.value == s)

/-- The mode with a name. -/
def ofName? (s : String) : Option RetryMode := all.find? (·.name == s)

/-- Every mode is listed. -/
theorem mem_all (m : RetryMode) : m ∈ all := by cases m <;> decide

/-- The value of a mode selects it. -/
theorem ofValue?_value (m : RetryMode) : ofValue? m.value = some m := by cases m <;> decide

/-- A text selects a mode exactly when it is the value of the mode. -/
theorem ofValue?_eq_some_iff {s : String} {m : RetryMode} : ofValue? s = some m ↔ s = m.value := by
  constructor
  · intro h
    unfold ofValue? at h
    have hm := List.find?_some h
    exact (eq_of_beq hm).symm
  · rintro rfl
    exact ofValue?_value m

end RetryMode

/-- A retry mode with its delay in seconds. -/
structure RetryPolicy where
  /-- How the delay is chosen. -/
  mode : RetryMode := .defaultDelay
  /-- The delay that an explicit mode asks for. -/
  delay : Int := 0
deriving DecidableEq, Repr

/-- The visibility timeout that a negative acknowledgement requests. A missing policy stands for
an immediate retry, a negative delay is raised to zero, and under the queue's own delay there is
nothing to request. -/
def resolveDelay : Option RetryPolicy → Option Int
  | none => some 0
  | some p =>
    match p.mode with
    | .defaultDelay => some 0
    | .explicitDelay => some (max p.delay 0)
    | .queueDelay => none

/-- A requested timeout is never negative. -/
theorem resolveDelay_nonneg {p : Option RetryPolicy} {t : Int} (h : resolveDelay p = some t) :
    0 ≤ t := by
  rcases p with _ | ⟨_ | _ | _, d⟩
  · exact Option.some.inj h ▸ Int.le_refl 0
  · exact Option.some.inj h ▸ Int.le_refl 0
  · exact Option.some.inj h ▸ Int.le_max_right d 0
  · cases h

/-- Nothing is requested exactly under the queue's own delay. -/
theorem resolveDelay_eq_none_iff {p : Option RetryPolicy} :
    resolveDelay p = none ↔ ∃ d, p = some ⟨.queueDelay, d⟩ := by
  rcases p with _ | ⟨_ | _ | _, d⟩ <;> simp [resolveDelay]

end QueueAck
