import QueueAck.Proofs.Log.Emission
import QueueAck.Proofs.Submission

/-!
# What a service makes of a run

A service that gets requests, of which some fail. `Service.Conduct` is the conduct of a client that
reports a failure of the service's own as a failed call, after it has logged it, passes any other
failure as it is, and sends nothing afterwards. A run on such a client conducts itself in this way
(`Connection.settle_follows`), and `Service.Translated` says what that comes to.
-/

namespace QueueAck

variable {η ρ ε α : Type}

/-- A service that gets requests. -/
structure Service (η ρ : Type) where
  /-- What it keeps after a request. -/
  advance : η → ρ → η
  /-- The failure with which a request ends, if any. -/
  escapes : η → ρ → Option Failure
  /-- The failures that are its own. -/
  own : Failure → Bool
  /-- The name of the operation of a request. -/
  operation : ρ → String
  /-- The destination of a request. -/
  destination : ρ → String

namespace Service

variable (s : Service η ρ)

/-- What the service keeps after requests. -/
def after (kept : η) (requests : List ρ) : η := requests.foldl s.advance kept

/-- The request asks for an operation on a destination. -/
def Asks (operation destination : String) (r : ρ) : Prop :=
  s.operation r = operation ∧ s.destination r = destination

/-- The requests ask for an operation on a destination, and none of them fails. -/
def Clear (operation destination : String) : η → List ρ → Prop
  | _, [] => True
  | kept, r :: rs =>
    s.Asks operation destination r ∧ s.escapes kept r = none ∧
      Clear operation destination (s.advance kept r) rs

/-- The failure of a call for a failure of its request. -/
def translate (operation destination : String) (f : Failure) : Failure :=
  if s.own f then .backendCall operation destination f else f

/-- A failure of the service's own that was logged as an error, once by every handler if errors are
let through. Other failures are not logged. -/
def Logs (l l' : Log.State) (f : Failure) : Prop :=
  ∃ logged, l'.errors = l.errors ++ logged ∧
    logged.length =
      (if s.own f ∧ Log.enables l.logger.threshold Log.error then l.logger.handlers.length else 0) ∧
    ∀ r ∈ logged, ∃ t, r.exception = .trace t ∧ t.failure = f

/-- The conduct of a client on the service: all requests are answered and no error is logged,
whatever the client makes of that, or the last one fails, and the client ends with its failure. -/
inductive Conduct (operation destination : String) : QueueAck.Conduct η where
  /-- All requests were answered. -/
  | answered {w w' : World η} {o : Option Failure} (requests : List ρ)
    (made : w'.outside = s.after w.outside requests)
    (clear : s.Clear operation destination w.outside requests)
    (logger : w'.log.logger = w.log.logger) (errors : w'.log.errors = w.log.errors) :
    Conduct operation destination w o w'
  /-- The last request failed. -/
  | escaped {w w' : World η} (requests : List ρ) (last : ρ) (f : Failure)
    (made : w'.outside = s.after w.outside (requests ++ [last]))
    (clear : s.Clear operation destination w.outside requests)
    (asks : s.Asks operation destination last)
    (escapes : s.escapes (s.after w.outside requests) last = some f)
    (logger : w'.log.logger = w.log.logger) (logs : s.Logs w.log w'.log f) :
    Conduct operation destination w (some (s.translate operation destination f)) w'

variable {s} {operation destination : String}

/-- Another failure than the service's own is not logged. -/
theorem Logs.errors_eq {l l' : Log.State} {f : Failure} (h : s.Logs l l' f)
    (other : s.own f = false) : l'.errors = l.errors := by
  obtain ⟨logged, errors, length, -⟩ := h
  have none : logged = [] := by simpa [other] using length
  rw [errors, none, List.append_nil]

/-- A failure of the service's own is logged once by a logger with one handler. -/
theorem Logs.once {l l' : Log.State} {f : Failure} (h : s.Logs l l' f) (own : s.own f = true)
    (enabled : Log.enables l.logger.threshold Log.error) (one : l.logger.handlers.length = 1) :
    ∃ record t, l'.errors = l.errors ++ [record] ∧ record.exception = .trace t ∧ t.failure = f := by
  obtain ⟨logged, errors, length, same⟩ := h
  rw [if_pos ⟨own, enabled⟩, one] at length
  obtain ⟨record, rfl⟩ := List.length_eq_one_iff.mp length
  obtain ⟨t, exception, failure⟩ := same record List.mem_cons_self
  exact ⟨record, t, errors, exception, failure⟩

/-- Requests that do not fail may follow others. -/
theorem Clear.append {kept : η} {xs ys : List ρ} (hx : s.Clear operation destination kept xs)
    (hy : s.Clear operation destination (s.after kept xs) ys) :
    s.Clear operation destination kept (xs ++ ys) := by
  induction xs generalizing kept with
  | nil => exact hy
  | cons x xs ih => exact ⟨hx.1, hx.2.1, ih hx.2.2 hy⟩

/-- None of the requests fails. -/
theorem Clear.escapes_eq_none {kept : η} {requests : List ρ}
    (h : s.Clear operation destination kept requests) {j : Nat} {r : ρ}
    (hj : requests[j]? = some r) : s.escapes (s.after kept (requests.take j)) r = none := by
  induction requests generalizing kept j with
  | nil => simp at hj
  | cons first requests ih =>
    cases j with
    | zero =>
      cases hj
      exact h.2.1
    | succ j => exact ih h.2.2 hj

/-- Where only the last request may fail, one that fails is the last one. -/
theorem Clear.eq_length_of_escapes {kept : η} {requests : List ρ} {last : ρ}
    (h : s.Clear operation destination kept requests) {j : Nat} {r : ρ} {f : Failure}
    (hj : (requests ++ [last])[j]? = some r)
    (he : s.escapes (s.after kept ((requests ++ [last]).take j)) r = some f) :
    j = requests.length := by
  obtain ⟨hl, -⟩ := List.getElem?_eq_some_iff.mp hj
  rw [List.length_append, List.length_singleton] at hl
  rcases Nat.lt_or_ge j requests.length with lt | ge
  · rw [List.getElem?_append_left lt] at hj
    rw [List.take_append_of_le_length (Nat.le_of_lt lt), h.escapes_eq_none hj] at he
    cases he
  · exact Nat.le_antisymm (Nat.le_of_lt_succ hl) ge

/-- All requests ask for the operation. -/
theorem Clear.asks {kept : η} {requests : List ρ}
    (h : s.Clear operation destination kept requests) :
    ∀ r ∈ requests, s.Asks operation destination r := by
  induction requests generalizing kept with
  | nil => simp
  | cons first requests ih => exact List.forall_mem_cons.mpr ⟨h.1, ih h.2.2⟩

/-- Requests that follow others. -/
theorem after_append (s : Service η ρ) (kept : η) (xs ys : List ρ) :
    s.after kept (xs ++ ys) = s.after (s.after kept xs) ys := List.foldl_append

namespace Conduct

variable {u v w : World η} {o : Option Failure}

/-- Nothing is sent and no error is logged. -/
theorem silent (outside : w.outside = v.outside) (logger : w.log.logger = v.log.logger)
    (errors : w.log.errors = v.log.errors) : s.Conduct operation destination v o w :=
  .answered [] outside trivial logger errors

/-- What follows requests that were answered. -/
theorem trans (first : s.Conduct operation destination u none v)
    (later : s.Conduct operation destination v o w) : s.Conduct operation destination u o w := by
  cases first with
  | answered xs made clear logger errors =>
    cases later with
    | answered ys made' clear' logger' errors' =>
      refine .answered (xs ++ ys) ?_ (clear.append ?_) (logger'.trans logger)
        (errors'.trans errors)
      · rw [made', made, after_append]
      · rwa [made] at clear'
    | escaped ys last f made' clear' asks escapes logger' logs =>
      refine .escaped (xs ++ ys) last f ?_ (clear.append ?_) asks ?_ (logger'.trans logger) ?_
      · rw [made', made, ← after_append, List.append_assoc]
      · rwa [made] at clear'
      · rwa [made, ← after_append] at escapes
      · rwa [Logs, errors, logger] at logs

/-- A request is answered. -/
theorem accepted {r : ρ} (asks : s.Asks operation destination r)
    (escapes : s.escapes v.outside r = none) (made : w.outside = s.advance v.outside r)
    (log : w.log = v.log) : s.Conduct operation destination v none w :=
  .answered [r] made ⟨asks, escapes, trivial⟩ (congrArg _ log) (congrArg _ log)

/-- A request fails for a reason that is not the service's, and so does the call. -/
theorem passed {r : ρ} {f : Failure} (asks : s.Asks operation destination r)
    (escapes : s.escapes v.outside r = some f) (other : s.own f = false)
    (made : w.outside = s.advance v.outside r) (log : w.log = v.log) :
    s.Conduct operation destination v (some f) w := by
  have unlogged : s.Logs v.log w.log f := by
    refine ⟨[], ?_, ?_, by simp⟩
    · rw [log, List.append_nil]
    · simp [other]
  have h : s.Conduct operation destination v (some (s.translate operation destination f)) w :=
    escaped [] r f made trivial asks escapes (congrArg _ log) unlogged
  rwa [translate, other] at h

/-- A request fails for a reason of the service's own: an error is logged, and the call fails. -/
theorem reported {r : ρ} {f : Failure} {record : Log.Record} {t : Trace}
    (asks : s.Asks operation destination r) (escapes : s.escapes v.outside r = some f)
    (own : s.own f = true) (made : w.outside = s.advance v.outside r)
    (log : w.log = v.log.report record) (level : record.level = Log.error)
    (exception : record.exception = .trace t) (failure : t.failure = f) :
    s.Conduct operation destination v (some (.backendCall operation destination f)) w := by
  have logger : w.log.logger = v.log.logger := log ▸ (v.log.report_keeps record).1
  have logs : s.Logs v.log w.log f := by
    obtain ⟨logged, errors, length, same⟩ := Log.State.errors_report_of_eq (s := v.log) level
    refine ⟨logged, log ▸ errors, ?_, fun x hx ↦ ⟨t, (same x hx).trans exception, failure⟩⟩
    simpa [own] using length
  have h := escaped [] r f made trivial asks escapes logger logs
  rwa [translate, own] at h

/-- The context may be another one afterwards. -/
theorem ignoresContext :
    QueueAck.Conduct.IgnoresContext (s.Conduct operation destination) := by
  intro u o v c h
  cases h with
  | answered requests made clear logger errors => exact .answered requests made clear logger errors
  | escaped requests last f made clear asks escapes logger logs =>
    exact .escaped requests last f made clear asks escapes logger logs

end Conduct

/-- The conduct allows what sends nothing and logs no error. -/
theorem lenient_conduct (s : Service η ρ) (operation destination : String) (q : QueueId) :
    Lenient (s.Conduct operation destination) q where
  refl _ := .silent rfl rfl rfl
  fail _ _ := .silent rfl rfl rfl
  trans := .trans
  report w _ _ _ hr := .silent rfl (w.log.report_keeps _).1 (Log.State.errors_report_of_ne hr)
  queue _ _ := .silent rfl rfl rfl

/-- Drawing an identifier sends nothing. -/
theorem nextId_follows (s : Service η ρ) (operation destination : String) (g : GeneratorId) :
    (Action.nextId g).Follows (s.Conduct operation destination) := fun _ ↦ .silent rfl rfl rfl

/-- What a run on a service comes to: it makes requests for one operation on one destination, and
the first one that fails is the last one. A failure of the service's own is the cause of the failure
with which the run ends, and it is logged; any other one leaves the run as it is. -/
structure Translated (s : Service η ρ) (operation destination : String) (w : World η)
    (outcome : Except Failure α) (w' : World η) (requests : List ρ) : Prop where
  /-- The service has got the requests. -/
  made : w'.outside = s.after w.outside requests
  /-- They are for the operation and the destination. -/
  asks : ∀ r ∈ requests, s.operation r = operation ∧ s.destination r = destination
  /-- A failure ends the run. -/
  ends : ∀ (j : Nat) r f, requests[j]? = some r →
    s.escapes (s.after w.outside (requests.take j)) r = some f →
    j + 1 = requests.length ∧
      outcome = .error (if s.own f then .backendCall operation destination f else f) ∧
      s.Logs w.log w'.log f
  /-- Without a failure no error is logged. -/
  quiet : (∀ (j : Nat) r, requests[j]? = some r →
    s.escapes (s.after w.outside (requests.take j)) r = none) → w'.log.errors = w.log.errors

/-- An action that conducts itself as a client of a service. -/
theorem translated_of_follows {a : Action η α}
    (h : a.Follows (s.Conduct operation destination)) (w : World η) :
    ∃ requests, s.Translated operation destination w (a.apply w).1 (a.apply w).2 requests := by
  have hw := h w
  generalize (a.apply w).1 = outcome at hw ⊢
  generalize (a.apply w).2 = w' at hw ⊢
  generalize ho : failure? outcome = o at hw
  cases hw with
  | answered requests made clear logger errors =>
    refine ⟨requests, made, clear.asks, fun j r f hj he ↦ ?_, fun _ ↦ errors⟩
    exact absurd ((clear.escapes_eq_none hj).symm.trans he) (Option.some_ne_none f).symm
  | escaped requests last f made clear asks escapes logger logs =>
    have at_last : (requests ++ [last])[requests.length]? = some last := List.getElem?_concat_length
    have before_last : (requests ++ [last]).take requests.length = requests := List.take_left
    refine ⟨requests ++ [last], made, ?_, fun j r g hj he ↦ ?_, fun none ↦ ?_⟩
    · exact List.forall_mem_append.mpr ⟨clear.asks, List.forall_mem_singleton.mpr asks⟩
    · -- Only the last request fails, so the failure at hand is the one the action ended with.
      obtain rfl := clear.eq_length_of_escapes hj he
      obtain rfl : last = r := Option.some.inj (at_last.symm.trans hj)
      rw [before_last] at he
      obtain rfl : f = g := Option.some.inj (escapes.symm.trans he)
      refine ⟨?_, eq_error_of_failure? ho, logs⟩
      rw [List.length_append, List.length_singleton]
    · have passed := none requests.length last at_last
      rw [before_last, escapes] at passed
      cases passed

end Service

/-- A run on a client of a service comes to what the service makes of it. -/
theorem Connection.settle_translated {s : Service η ρ} {c : Connection (QueueClient η)}
    {k : Settlement} {operation destination : String}
    (call : ∀ entries,
      (c.client.perform (k.call destination entries)).Follows (s.Conduct operation destination))
    (q : QueueId) (w : World η) :
    let r := (c.settle k q destination).apply w
    ∃ requests, s.Translated operation destination w r.1 r.2 requests :=
  Service.translated_of_follows
    (settle_follows (s.lenient_conduct operation destination q) Service.Conduct.ignoresContext
      (s.nextId_follows operation destination c.generator) call) w

end QueueAck
