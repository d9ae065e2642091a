import QueueAck.Client.PubSub
import QueueAck.Client.Sqs
import QueueAck.Proofs.Caller
import QueueAck.Proofs.Submission

/-!
# Clients on isolated services

A service that has nothing to do with some part of the state: with the log (`Action.IgnoresLog`), or
with anything but what it keeps itself (`Action.Detached`). A client on such a service agrees with
itself under every relation that lets the library go on alike and that the service respects
(`QueueClient.Over.agrees`), whether its calls are written down or not, and so do the steps of a
caller. On a detached service a call is a function of what the service keeps
(`QueueClient.Over.answers`). States that differ in nothing but their logs (`UpToLog`) are the
relation for services that ignore the log.
-/

namespace QueueAck

variable {ε η σ α : Type}

/-- The action has nothing to do with the log: whatever the log is, it does the same and leaves the
log alone. -/
def Action.IgnoresLog (a : Action ε α) : Prop :=
  ∀ w l, a.apply { w with log := l } = ((a.apply w).1, { (a.apply w).2 with log := l })

/-- The action sees and changes nothing but what the backends keep. -/
def Action.Detached (a : Action ε α) : Prop := ∃ f, a = .ofBackend f

/-- A client on a service, or a client of another make, on which all actions are of one kind. -/
inductive QueueClient.Over (P : ∀ {α : Type}, Action ε α → Prop) : QueueClient ε → Prop where
  /-- The client of the library on an SQS service. -/
  | sqs (b : SqsBackend ε) (call : ∀ request, P (b.call request)) : Over P b.client
  /-- The client of the library on a Pub/Sub service. -/
  | pubSub (b : PubSubBackend ε) (connect : P b.connect)
    (subscriber : ∀ w s w', b.connect.apply w = (.ok s, w') →
      (∀ request, P (s.call request)) ∧ ∀ earlier, P (s.close earlier)) : Over P b.client
  /-- Any client. -/
  | other (client : QueueClient ε) (perform : ∀ call, P (client.perform call)) : Over P client

section Agreement

variable {R : World ε → World ε → Prop}

/-- Sending a request to SQS, when the service agrees with itself. -/
theorem LogsAlike.sqs (h : LogsAlike R) {b : SqsBackend ε} {request : SqsRequest}
    (hb : (b.call request).Agrees R (b.call request)) :
    (b.send request).Agrees R (b.send request) := by
  unfold SqsBackend.send
  split
  · exact .throw _
  · refine .bind hb.attempt fun r ↦ ?_
    cases r with
    | ok response => exact .ofExcept _
    | error f =>
      dsimp only
      split
      · exact .bind h.message fun _ ↦ .throw _
      · exact .throw _

/-- Making a request to Pub/Sub, when the service agrees with itself, and so do its subscribers. -/
theorem LogsAlike.pubSub (h : LogsAlike R) {b : PubSubBackend ε}
    (connect : b.connect.Agrees R b.connect)
    (subscriber : ∀ w s w', b.connect.apply w = (.ok s, w') →
      (∀ request, (s.call request).Agrees R (s.call request)) ∧
        ∀ earlier, (s.close earlier).Agrees R (s.close earlier))
    (function : String) (request : PubSubRequest) :
    (b.send function request).Agrees R (b.send function request) := by
  have exchanged : (b.exchange request).Agrees R (b.exchange request) := by
    refine .bind_of connect.attempt fun w r w' hr ↦ ?_
    cases r with
    | error f => exact .pure _
    | ok s =>
      have opened : b.connect.apply w = (.ok s, w') := by
        rw [Action.apply_attempt] at hr
        obtain ⟨outcome, after⟩ := Prod.mk.inj hr
        exact Prod.ext (Except.ok.inj outcome) after
      obtain ⟨call, close⟩ := subscriber w s w' opened
      refine .bind (call request).attempt fun r ↦ ?_
      cases r with
      | ok _ =>
        refine .bind (close none).attempt fun r ↦ ?_
        cases r <;> exact .pure _
      | error earlier =>
        refine .bind (close (some earlier)).attempt fun r ↦ ?_
        cases r <;> exact .pure _
  refine .bind exchanged fun r ↦ ?_
  cases r with
  | ok _ => exact .pure ()
  | error t =>
    dsimp only
    split
    · exact .bind h.message fun _ ↦ .throw _
    · exact .throw _

/-- Finding the one deadline of a request. -/
theorem LogsAlike.commonDeadline (h : LogsAlike R) (entries : List BatchEntry) :
    (PubSubBackend.commonDeadline entries : Action ε Int).Agrees R
      (PubSubBackend.commonDeadline entries) := by
  unfold PubSubBackend.commonDeadline
  split
  · exact .pure 0
  · split
    · exact .bind (.ofExcept _) fun _ ↦ .bind h.message fun _ ↦ .pure maxAckDeadline
    · exact .pure _
  · split
    · exact .throw _
    · exact .throw _

/-- A client agrees with itself when the actions on its service do. It numbers nothing, so that the
sources of identifiers do not matter. -/
theorem QueueClient.Over.agrees_of_logsAlike {P : ∀ {α : Type}, Action ε α → Prop}
    {client : QueueClient ε} (hc : client.Over P) (h : LogsAlike R)
    (hP : ∀ {α : Type} {a : Action ε α}, P a → a.Agrees R a) (call : BatchCall) :
    (client.perform call).Agrees R (client.perform call) := by
  cases hc with
  | sqs b answered => cases call <;> exact h.sqs (hP (answered _))
  | pubSub b connect subscriber =>
    have sent := h.pubSub (hP connect) fun w s w' opened ↦
      ⟨fun request ↦ hP ((subscriber w s w' opened).1 request),
        fun earlier ↦ hP ((subscriber w s w' opened).2 earlier)⟩
    cases call with
    | changeVisibility destination entries =>
      exact .bind (h.commonDeadline entries) fun _ ↦ .bind (sent _ _) fun _ ↦ .pure _
    | delete destination entries => exact .bind (sent _ _) fun _ ↦ .pure _
  | other client perform => exact hP (perform call)

/-- A client agrees with itself under a relation between states with the same sources. -/
theorem QueueClient.Over.agrees {P : ∀ {α : Type}, Action ε α → Prop} {client : QueueClient ε}
    (hc : client.Over P) (h : Coupled R) (hP : ∀ {α : Type} {a : Action ε α}, P a → a.Agrees R a)
    (call : BatchCall) : (client.perform call).Agrees R (client.perform call) :=
  hc.agrees_of_logsAlike h.toLogsAlike hP call

end Agreement

/-- What a call on the client comes to is a matter of its backend alone, and nothing but the backend
and the log is changed. -/
def QueueClient.Answers (c : QueueClient ε) (f : BatchCall → ε → Except Failure BatchResult × ε) :
    Prop :=
  ∀ call w, ∃ l, (c.perform call).apply w =
    ((f call w.outside).1, { w with log := l, outside := (f call w.outside).2 })

/-- A client on a service that sees and changes nothing else answers as the service does. -/
theorem QueueClient.Over.answers {client : QueueClient ε} (hc : client.Over Action.Detached) :
    ∃ f, client.Answers f := by
  refine ⟨fun call o ↦ ((client.perform call).apply { outside := o }).map id World.outside, ?_⟩
  intro call w
  -- The one state is `w` but for the log and the backend, and the other one has the same backend.
  have alike : LogsAlike fun u v : World ε ↦
      u = { w with log := u.log, outside := u.outside } ∧ u.outside = v.outside :=
    { report := fun h r ↦ ⟨by rw [h.1], h.2⟩
      overlay := fun _ h fields ↦ ⟨by rw [h.1]; rfl, h.2⟩ }
  obtain ⟨outcome, after, backend⟩ := hc.agrees_of_logsAlike alike
    (fun {α a} ha u v h ↦ by
      obtain ⟨f, rfl⟩ := ha
      rw [Action.apply_ofBackend, Action.apply_ofBackend, h.2]
      exact ⟨rfl, by rw [h.1], rfl⟩) call w { outside := w.outside } ⟨rfl, rfl⟩
  refine ⟨((client.perform call).apply w).2.log, Prod.ext outcome ?_⟩
  rw [after, backend]
  rfl

section Notes

variable {R : World ε → World η → Prop} {q : QueueId}

/-- The relation between states with one record, which are in a relation without it. -/
def Noted (R : World ε → World η → Prop) (w : World (ε × σ)) (v : World (η × σ)) : Prop :=
  R w.forget v.forget ∧ w.record = v.record

/-- The library goes on alike beside a record. -/
theorem CoupledOn.noted (h : CoupledOn R q) : CoupledOn (Noted (σ := σ) R) q where
  counters hr := h.counters hr.1
  setCounter hr g n := ⟨h.setCounter hr.1 g n, hr.2⟩
  report hr r := ⟨h.report hr.1 r, hr.2⟩
  overlay hr hr' fields := ⟨h.overlay hr.1 hr'.1 fields, hr'.2⟩
  queue hr := h.queue hr.1
  patience hr := h.patience hr.1
  setQueue hr items := ⟨h.setQueue hr.1 items, hr.2⟩

/-- Actions that agree also do so when they are noted. -/
theorem Action.Agrees.noting {a : Action ε α} {b : Action η α} (h : a.Agrees R b) (note : σ) :
    (a.noting note).Agrees (Noted R) (b.noting note) := by
  rintro w v ⟨hr, record⟩
  obtain ⟨outcome, after⟩ := h _ _ hr
  exact ⟨outcome, after, congrArg (· ++ [note]) record⟩

/-- Clients that agree also do so when their calls are written down. -/
theorem QueueClient.recorded_agrees {c : QueueClient ε} {d : QueueClient η}
    (h : ∀ call, (c.perform call).Agrees R (d.perform call)) (call : BatchCall) :
    (c.recorded.perform call).Agrees (Noted R) (d.recorded.perform call) := by
  rw [c.perform_recorded, d.perform_recorded]
  exact (h call).noting call

end Notes

namespace Connection

/-- Two connections with one policy settle the items of a queue alike when their clients agree. -/
theorem settle_agrees_of {R : World ε → World η → Prop} {c : Connection (QueueClient ε)}
    {d : Connection (QueueClient η)} {q : QueueId} (hn : NumbersAlike R c.generator d.generator)
    (hd : DrainsAlike R q) (policy : c.policy = d.policy)
    (hc : ∀ call, (c.client.perform call).Agrees R (d.client.perform call)) (k : Settlement)
    (destination : String) :
    (c.settle k q destination).Agrees R (d.settle k q destination) := by
  obtain ⟨client, policy', prefetchSize, generator⟩ := c
  obtain rfl : policy' = d.policy := policy
  rw [settle_eq_within, settle_eq_within]
  refine hd.within _ (hd.dispatch (by cases k <;> rfl) fun handles _ ↦ ?_)
  cases k with
  | ack => exact hn.acknowledge fun _ entries _ _ ↦ hc (.delete destination entries)
  | nack => exact hn.handBack fun _ _ _ entries _ _ ↦ hc (.changeVisibility destination entries)

variable {c : Connection (QueueClient ε)} {R : World ε → World ε → Prop}

/-- Settling the items of a queue agrees with itself when the client of the connection does. -/
theorem settle_agrees {q : QueueId} (h : CoupledOn R q)
    (hc : ∀ call, (c.client.perform call).Agrees R (c.client.perform call)) (k : Settlement)
    (destination : String) :
    (c.settle k q destination).Agrees R (c.settle k q destination) :=
  settle_agrees_of (h.numbersAlike _) h.toDrainsAlike rfl hc k destination

/-- The steps of a caller agree with themselves when the client of the connection does. -/
theorem perform_agrees (h : ∀ q, CoupledOn R q)
    (hc : ∀ call, (c.client.perform call).Agrees R (c.client.perform call)) (s : CallerStep) :
    (c.perform s).Agrees R (c.perform s) := by
  cases s with
  | fill q items => exact fun w v hr ↦ ⟨rfl, (h q).setQueue hr items⟩
  | ack q destination => exact settle_agrees (h q) hc .ack destination
  | nack q destination => exact settle_agrees (h q) hc .nack destination

/-- A run from which steps are left out has the outcomes of the other steps and leads to a related
state, when the other steps agree with themselves and those left out keep states related. -/
theorem run_filter {p : CallerStep → Bool} {steps : List CallerStep}
    (kept : ∀ s ∈ steps, p s = true → (c.perform s).Agrees R (c.perform s))
    (left : ∀ s ∈ steps, p s = false → ∀ w v, R w v → R ((c.perform s).apply w).2 v)
    {w v : World ε} (hr : R w v) :
    (c.outcomes steps w).filter (fun taken ↦ p taken.1) = c.outcomes (steps.filter p) v ∧
      R (c.run steps w) (c.run (steps.filter p) v) := by
  rw [outcomes_eq, outcomes_eq]
  exact Action.run_filter kept left hr

/-- Runs of steps that agree with themselves have the same outcomes and lead to related states. -/
theorem run_agrees (hs : ∀ s, (c.perform s).Agrees R (c.perform s)) (steps : List CallerStep)
    {w v : World ε} (hr : R w v) :
    c.outcomes steps w = c.outcomes steps v ∧ R (c.run steps w) (c.run steps v) := by
  rw [outcomes_eq, outcomes_eq]
  exact Action.run_agrees hs steps hr

end Connection

/-- The relation between states that differ in nothing but their logs, which are in a relation. -/
def UpToLog (L : Log.State → Log.State → Prop) (w v : World ε) : Prop :=
  L w.log v.log ∧ v = { w with log := v.log }

/-- A relation between logs that stays when the library logs in both. -/
structure Log.Coupled (L : Log.State → Log.State → Prop) : Prop where
  /-- A message may be logged. -/
  report : ∀ {l m}, L l m → ∀ r, L (l.report r) (m.report r)
  /-- The contexts of earlier logs may be extended, or be there again. -/
  overlay : ∀ {l m l' m'}, L l m → L l' m' → ∀ fields,
    L { l' with context := l.context.overlay fields }
      { m' with context := m.context.overlay fields }

/-- Any two logs stay any two logs. -/
theorem Log.coupled_any : Log.Coupled fun _ _ ↦ True := ⟨fun _ _ ↦ trivial, fun _ _ _ ↦ trivial⟩

namespace UpToLog

variable {L : Log.State → Log.State → Prop}

/-- States that differ in their logs alone are numbered and drained alike. -/
theorem coupledOn (h : Log.Coupled L) (q : QueueId) : CoupledOn (UpToLog (ε := ε) L) q where
  counters hr := by rw [hr.2]
  setCounter hr g n := ⟨hr.1, by rw [hr.2]; rfl⟩
  report hr r := ⟨h.report hr.1 r, by rw [hr.2]⟩
  overlay hr hr' fields := ⟨h.overlay hr.1 hr'.1 fields, by rw [hr'.2]; rfl⟩
  queue hr := by rw [hr.2]
  patience hr := by rw [hr.2]
  setQueue hr items := ⟨hr.1, by rw [hr.2]; rfl⟩

/-- An action that ignores the log does the same in both states. -/
theorem ignoresLog {a : Action ε α} (ha : a.IgnoresLog) : a.Agrees (UpToLog L) a := by
  rintro w v ⟨hl, hv⟩
  have kept : (a.apply w).2.log = w.log := congrArg (fun r ↦ r.2.log) (ha w w.log)
  rw [hv, ha w v.log]
  exact ⟨rfl, kept ▸ hl, rfl⟩

end UpToLog
end QueueAck
