import QueueAck.Proofs.Guarantee

/-!
# Actions that agree

Two actions agree under a relation between states when they have one outcome from states in the
relation and lead to states in it again; their backends may be different ones. What the library does
by itself agrees with itself under a relation that lets both sides log (`LogsAlike`), number entries
(`NumbersAlike`) and drain a queue (`DrainsAlike`) alike, so that two dispatches agree as soon as
their calls on the backends do (`DrainsAlike.dispatch`). Under most relations all sources of
identifiers are the same (`Coupled`, `CoupledOn`). A relation that has to do with the backends alone
(`Parallel`) is such a relation. Steps that agree are taken one after the other with the same
outcomes (`Action.run_agrees`), and some that keep states related may be left out on the one side
(`Action.run_filter`).
-/

namespace QueueAck

variable {ε η α β : Type}

/-- From states in a relation two actions have one outcome, and they lead to states in it. -/
def Action.Agrees (R : World ε → World η → Prop) (a : Action ε α) (b : Action η α) : Prop :=
  ∀ w v, R w v → (a.apply w).1 = (b.apply v).1 ∧ R (a.apply w).2 (b.apply v).2

/-- A relation between states that lets the library log alike in both. -/
structure LogsAlike (R : World ε → World η → Prop) : Prop where
  /-- A message may be logged. -/
  report : ∀ {w v}, R w v → ∀ r, R { w with log := w.log.report r } { v with log := v.log.report r }
  /-- The contexts of earlier states may be extended, or be there again. -/
  overlay : ∀ {w v w' v'}, R w v → R w' v' → ∀ fields,
    R (w'.setContext (w.log.context.overlay fields)) (v'.setContext (v.log.context.overlay fields))

/-- A relation between states that also lets the library number entries alike in both, from a source
of the one and a source of the other. -/
structure NumbersAlike (R : World ε → World η → Prop) (g g' : GeneratorId) : Prop
    extends LogsAlike R where
  /-- The next numbers are the same. -/
  counter : ∀ {w v}, R w v → w.counters g = v.counters g'
  /-- They may change. -/
  setNext : ∀ {w v}, R w v → ∀ n, R (w.setCounter g n) (v.setCounter g' n)

/-- A relation between states that also lets the library drain a queue alike in both. -/
structure DrainsAlike (R : World ε → World η → Prop) (q : QueueId) : Prop extends LogsAlike R where
  /-- The queue is the same. -/
  queue : ∀ {w v}, R w v → w.queues q = v.queues q
  /-- As many items may join it. -/
  patience : ∀ {w v}, R w v → w.patience = v.patience
  /-- It may change. -/
  setQueue : ∀ {w v}, R w v → ∀ items, R (w.setQueue q items) (v.setQueue q items)

/-- A relation between states that lets the library number and log alike in both. -/
structure Coupled (R : World ε → World η → Prop) : Prop extends LogsAlike R where
  /-- The sources of identifiers are the same. -/
  counters : ∀ {w v}, R w v → w.counters = v.counters
  /-- A source of identifiers may change. -/
  setCounter : ∀ {w v}, R w v → ∀ g n, R (w.setCounter g n) (v.setCounter g n)

/-- A relation between states that lets the library number, log and drain a queue alike in both. -/
structure CoupledOn (R : World ε → World η → Prop) (q : QueueId) : Prop
    extends Coupled R, DrainsAlike R q

/-- A relation between states that have all in common but what their backends keep. A change to what
they have in common does not matter. -/
structure Parallel (R : World ε → World η → Prop) : Prop where
  /-- The queues are the same. -/
  queues : ∀ {w v}, R w v → w.queues = v.queues
  /-- The sources of identifiers are the same. -/
  counters : ∀ {w v}, R w v → w.counters = v.counters
  /-- As many items may join a queue. -/
  patience : ∀ {w v}, R w v → w.patience = v.patience
  /-- The log is the same. -/
  log : ∀ {w v}, R w v → w.log = v.log
  /-- A queue may change. -/
  setQueue : ∀ {w v}, R w v → ∀ q items, R (w.setQueue q items) (v.setQueue q items)
  /-- A source of identifiers may change. -/
  setCounter : ∀ {w v}, R w v → ∀ g n, R (w.setCounter g n) (v.setCounter g n)
  /-- The log may change. -/
  setLog : ∀ {w v}, R w v → ∀ l, R { w with log := l } { v with log := l }

/-- What states have in common is numbered, logged and drained alike. -/
theorem Parallel.coupledOn {R : World ε → World η → Prop} (h : Parallel R) (q : QueueId) :
    CoupledOn R q where
  counters := h.counters
  setCounter := h.setCounter
  report hr r := h.log hr ▸ h.setLog hr _
  overlay hr hr' fields := by
    rw [World.setContext, World.setContext, h.log hr, h.log hr']
    exact h.setLog hr' _
  queue hr := congrFun (h.queues hr) q
  patience := h.patience
  setQueue hr := h.setQueue hr q

namespace Action.Agrees

variable {R : World ε → World η → Prop}

/-- Nothing happens. -/
theorem pure (x : α) : (Pure.pure x : Action ε α).Agrees R (Pure.pure x) := fun _ _ h ↦ ⟨rfl, h⟩

/-- A failure. -/
theorem throw (f : Failure) :
    (MonadExcept.throw f : Action ε α).Agrees R (MonadExcept.throw f) := fun _ _ h ↦ ⟨rfl, h⟩

/-- A known outcome. -/
theorem ofExcept (r : Except Failure α) :
    (Action.ofExcept r : Action ε α).Agrees R (Action.ofExcept r) := fun _ _ h ↦ ⟨rfl, h⟩

/-- Keeping failures as values. -/
theorem attempt {a : Action ε α} {b : Action η α} (h : a.Agrees R b) :
    a.attempt.Agrees R b.attempt := by
  intro w v hr
  obtain ⟨outcome, after⟩ := h w v hr
  exact ⟨congrArg Except.ok outcome, after⟩

/-- Two actions, the second one only after a value that the first one gives. -/
theorem bind_of {a : Action ε α} {b : Action η α} {k : α → Action ε β} {l : α → Action η β}
    (ha : a.Agrees R b) (hk : ∀ w x w', a.apply w = (.ok x, w') → (k x).Agrees R (l x)) :
    (a >>= k).Agrees R (b >>= l) := by
  intro w v h
  obtain ⟨outcome, after⟩ := ha w v h
  rw [apply_bind, apply_bind]
  rcases hr : a.apply w with ⟨r, w'⟩
  rcases hs : b.apply v with ⟨s, v'⟩
  rw [hr, hs] at outcome after
  obtain rfl : r = s := outcome
  cases r with
  | error f => exact ⟨rfl, after⟩
  | ok x => exact hk w x w' hr w' v' after

/-- Two actions. -/
theorem bind {a : Action ε α} {b : Action η α} {k : α → Action ε β} {l : α → Action η β}
    (ha : a.Agrees R b) (hk : ∀ x, (k x).Agrees R (l x)) : (a >>= k).Agrees R (b >>= l) :=
  bind_of ha fun _ x _ _ ↦ hk x

end Action.Agrees

/-- A run from which steps are left out has the outcomes of the other steps and leads to a related
state, when the other steps agree and those left out keep states related. The other steps may be
taken in another way. -/
theorem Action.run_filter {S : Type} {R : World ε → World η → Prop} {perform : S → Action ε α}
    {perform' : S → Action η α} {p : S → Bool} {steps : List S}
    (kept : ∀ s ∈ steps, p s = true → (perform s).Agrees R (perform' s))
    (left : ∀ s ∈ steps, p s = false → ∀ w v, R w v → R ((perform s).apply w).2 v)
    {w : World ε} {v : World η} (hr : R w v) :
    (outcomes perform steps w).filter (fun taken ↦ p taken.1) =
        outcomes perform' (steps.filter p) v ∧
      R (runAll perform steps w) (runAll perform' (steps.filter p) v) := by
  induction steps generalizing w v with
  | nil => exact ⟨rfl, hr⟩
  | cons s steps ih =>
    obtain ⟨kept_s, kept⟩ := List.forall_mem_cons.mp kept
    obtain ⟨left_s, left⟩ := List.forall_mem_cons.mp left
    rw [outcomes, List.filter_cons, List.filter_cons]
    dsimp only
    cases hs : p s with
    | true =>
      obtain ⟨outcome, after⟩ := kept_s hs w v hr
      obtain ⟨outcomes_eq, later⟩ := ih kept left after
      rw [if_pos rfl, if_pos rfl, outcomes, outcomes_eq, outcome]
      exact ⟨rfl, later⟩
    | false =>
      rw [if_neg Bool.false_ne_true, if_neg Bool.false_ne_true]
      exact ih kept left (left_s hs w v hr)

/-- Runs of steps that agree have the same outcomes and lead to related states. -/
theorem Action.run_agrees {S : Type} {R : World ε → World η → Prop} {perform : S → Action ε α}
    {perform' : S → Action η α} (hs : ∀ s, (perform s).Agrees R (perform' s)) (steps : List S)
    {w : World ε} {v : World η} (hr : R w v) :
    outcomes perform steps w = outcomes perform' steps v ∧
      R (runAll perform steps w) (runAll perform' steps v) := by
  have all := run_filter (p := fun _ ↦ true) (fun s (_ : s ∈ steps) _ ↦ hs s)
    (fun _ _ never ↦ nomatch never) hr
  rwa [List.filter_eq_self.mpr fun _ _ ↦ rfl, List.filter_eq_self.mpr fun _ _ ↦ rfl] at all

namespace LogsAlike

variable {R : World ε → World η → Prop}

/-- Logging. -/
theorem message (h : LogsAlike R) {s : Log.Site} {level : Int} {text : String}
    {exception : Option Trace} :
    (Action.report s level text exception : Action ε Unit).Agrees R
      (Action.report s level text exception) :=
  fun _ _ hr ↦ ⟨rfl, h.report hr _⟩

/-- Two actions inside a context. -/
theorem within (h : LogsAlike R) (fields : List (String × Value)) {a : Action ε α} {b : Action η α}
    (ha : a.Agrees R b) : (Action.within fields a).Agrees R (Action.within fields b) := by
  intro w v hr
  obtain ⟨outcome, after⟩ := ha _ _ (h.overlay hr hr fields)
  exact ⟨outcome, h.overlay hr after []⟩

/-- Logging refused entries. -/
theorem reportFailures (h : LogsAlike R) (site : Log.Site) (introduction : String)
    (fs : List EntryFailure) :
    (reportFailures site introduction fs : Action ε Unit).Agrees R
      (QueueAck.reportFailures site introduction fs) := by
  induction fs with
  | nil => exact .pure ()
  | cons f fs ih => exact .bind h.message fun _ ↦ ih

/-- Logging a policy. -/
theorem reportPolicy (h : LogsAlike R) {n : NegativeAcknowledger ε} {m : NegativeAcknowledger η}
    (hp : n.policy = m.policy) (destination : String) :
    (n.reportPolicy destination).Agrees R (m.reportPolicy destination) := by
  unfold NegativeAcknowledger.reportPolicy
  rw [hp]
  cases m.policy with
  | none => exact h.message
  | some p => exact .bind (.ofExcept _) fun _ ↦ h.message

end LogsAlike

namespace NumbersAlike

variable {R : World ε → World η → Prop} {g g' : GeneratorId} {c : QueueClient ε}
  {d : QueueClient η} {destination : String} {handles : List String}

/-- Drawing an identifier. -/
theorem nextId (h : NumbersAlike R g g') :
    (Action.nextId g : Action ε String).Agrees R (Action.nextId g') := by
  intro w v hr
  rw [Action.apply_nextId, Action.apply_nextId, h.counter hr]
  exact ⟨rfl, h.setNext hr _⟩

/-- Numbering entries. -/
theorem numberEntries (h : NumbersAlike R g g') (timeout : Option Int) (handles : List String) :
    (numberEntries (Action.nextId g : Action ε String) timeout handles).Agrees R
      (QueueAck.numberEntries (Action.nextId g') timeout handles) := by
  induction handles with
  | nil => exact .pure []
  | cons handle handles ih => exact .bind h.nextId fun _ ↦ .bind ih fun _ ↦ .pure _

/-- Two acknowledgers, when their clients agree on the entries that a batch is given. -/
theorem acknowledge (h : NumbersAlike R g g')
    (hc : ∀ w entries w',
      (QueueAck.numberEntries (Action.nextId g : Action ε String) none handles).apply w =
        (.ok entries, w') →
      (c.delete destination entries).Agrees R (d.delete destination entries)) :
    (Acknowledger.action ⟨c, g⟩ destination handles).Agrees R
      (Acknowledger.action ⟨d, g'⟩ destination handles) := by
  unfold Acknowledger.action
  split
  · exact .pure none
  · refine .bind_of (h.numberEntries none handles) fun w entries w' hn ↦ ?_
    refine .bind (hc w entries w' hn) fun result ↦ ?_
    exact .bind (h.reportFailures _ _ _) fun _ ↦ .pure _

/-- Two negative acknowledgers whose policies ask for the same and are announced alike, when their
clients agree on the entries that a batch is given under the timeout that is asked for. -/
theorem handBack_of (h : NumbersAlike R g g') {policy policy' : Option RetryPolicy}
    (asked : resolveDelay policy' = resolveDelay policy)
    (announced : (NegativeAcknowledger.reportPolicy ⟨c, policy, g⟩ destination).Agrees R
      (NegativeAcknowledger.reportPolicy ⟨d, policy', g'⟩ destination))
    (hc : ∀ timeout, resolveDelay policy = some timeout → ∀ w entries w',
      (QueueAck.numberEntries (Action.nextId g : Action ε String) (some timeout) handles).apply w =
        (.ok entries, w') →
      (c.changeVisibility destination entries).Agrees R (d.changeVisibility destination entries)) :
    (NegativeAcknowledger.action ⟨c, policy, g⟩ destination handles).Agrees R
      (NegativeAcknowledger.action ⟨d, policy', g'⟩ destination handles) := by
  unfold NegativeAcknowledger.action
  split
  · exact .pure none
  · refine .bind announced fun _ ↦ ?_
    dsimp only
    rw [asked]
    cases ht : resolveDelay policy with
    | none => exact .bind h.message fun _ ↦ .pure none
    | some timeout =>
      refine .bind_of (h.numberEntries (some timeout) handles) fun w entries w' hn ↦ ?_
      refine .bind (hc timeout ht w entries w' hn) fun result ↦ ?_
      exact .bind (h.reportFailures _ _ _) fun _ ↦ .pure _

/-- Two negative acknowledgers with one policy, when their clients agree on the entries that a batch
is given under the timeout that the policy resolves to. -/
theorem handBack (h : NumbersAlike R g g') {policy : Option RetryPolicy}
    (hc : ∀ timeout, resolveDelay policy = some timeout → ∀ w entries w',
      (QueueAck.numberEntries (Action.nextId g : Action ε String) (some timeout) handles).apply w =
        (.ok entries, w') →
      (c.changeVisibility destination entries).Agrees R (d.changeVisibility destination entries)) :
    (NegativeAcknowledger.action ⟨c, policy, g⟩ destination handles).Agrees R
      (NegativeAcknowledger.action ⟨d, policy, g'⟩ destination handles) :=
  h.handBack_of rfl (h.reportPolicy rfl destination) hc

end NumbersAlike

/-- Sources that are all the same number entries alike. -/
theorem Coupled.numbersAlike {R : World ε → World η → Prop} (h : Coupled R) (g : GeneratorId) :
    NumbersAlike R g g where
  toLogsAlike := h.toLogsAlike
  counter hr := congrFun (h.counters hr) g
  setNext hr := h.setCounter hr g

namespace DrainsAlike

variable {R : World ε → World η → Prop} {q : QueueId} {d : Dispatcher ε} {d' : Dispatcher η}
  {destination : String}

/-- Taking an item from the queue. -/
theorem popFront (h : DrainsAlike R q) :
    (Action.popFront q : Action ε (Option PendingItem)).Agrees R (Action.popFront q) := by
  intro w v hr
  simp only [Action.popFront, Action.apply_ofFunction]
  rw [h.queue hr]
  cases v.queues q with
  | nil => exact ⟨rfl, hr⟩
  | cons item items => exact ⟨rfl, h.setQueue hr items⟩

/-- Draining the queue, when the actions agree on batches that are not too large. -/
theorem drain (h : DrainsAlike R q) (hs : d.size = d'.size)
    (ha : ∀ handles, handles.length ≤ d.size.val →
      (d.action destination handles).Agrees R (d'.action destination handles))
    (fuel : Nat) {handles : List String} (hl : handles.length < d.size.val)
    (results : List BatchResult) :
    (d.drain q destination fuel handles results).Agrees R
      (d'.drain q destination fuel handles results) := by
  have hf (handles : List String) (hl : handles.length ≤ d.size.val) :
      (d.flush destination handles).Agrees R (d'.flush destination handles) :=
    .bind h.message fun _ ↦ ha handles hl
  have empty : ([] : List String).length < d.size.val := d.size.val_pos
  induction fuel generalizing handles results with
  | zero => exact .throw .endlessQueue
  | succ fuel ih =>
    refine .bind h.popFront fun item ↦ ?_
    cases item with
    | none =>
      dsimp only
      split
      · exact .pure results
      · exact .bind (hf handles (Nat.le_of_lt hl)) fun _ ↦ .pure _
    | some item =>
      have one_more : (handles ++ [item.receiptHandle]).length ≤ d.size.val := by
        rw [List.length_append, List.length_singleton]
        exact hl
      dsimp only
      rw [← hs]
      split
      · exact .bind (hf _ one_more) fun _ ↦ ih empty _
      · next other => exact ih (Nat.lt_of_le_of_ne one_more other) _

/-- A dispatch, when the actions agree on batches that are not too large. -/
theorem dispatch (h : DrainsAlike R q) (hs : d.size = d'.size)
    (ha : ∀ handles, handles.length ≤ d.size.val →
      (d.action destination handles).Agrees R (d'.action destination handles)) :
    (d.dispatch q destination).Agrees R (d'.dispatch q destination) := by
  intro w v hr
  rw [Dispatcher.dispatch, Dispatcher.dispatch, Action.apply_bind, Action.apply_bind,
    Action.apply_read, Action.apply_read, h.queue hr]
  dsimp only
  split
  · exact ⟨rfl, hr⟩
  · rw [Action.apply_bind, Action.apply_bind, Action.apply_read, Action.apply_read, h.patience hr]
    have empty : ([] : List String).length < d.size.val := d.size.val_pos
    exact h.drain hs ha _ empty [] w v hr

end DrainsAlike
end QueueAck
