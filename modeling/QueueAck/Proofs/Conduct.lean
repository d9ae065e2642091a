import QueueAck.Client.PubSub
import QueueAck.Connection

/-!
# How actions conduct themselves

A relation between the state before an action, the failure with which the action ends, if any, and
the state after it. The relations of this library allow to stop at any time (`Lasting`), most of
them to log (`Tolerant`), and those on a dispatch also to take items from the queue (`Lenient`). The
conduct of the parts is then that of the whole: `Lenient.dispatch` needs no more than the conduct of
the action, and `Lasting.dispatch_of` does with less of the relation.
-/

namespace QueueAck

variable {ε α β : Type}

/-- The failure with which an action has ended. -/
def failure? : Except Failure α → Option Failure
  | .ok _ => none
  | .error f => some f

/-- An action that has ended with a failure has no value. -/
theorem eq_error_of_failure? {r : Except Failure α} {f : Failure} (h : failure? r = some f) :
    r = .error f := by
  cases r with
  | ok => cases h
  | error => exact congrArg _ (Option.some.inj h)

/-- What an action may do to a state, and how it may end then. -/
abbrev Conduct (ε : Type) := World ε → Option Failure → World ε → Prop

/-- The action does in every state what is allowed, and ends as is allowed. -/
def Action.Follows (C : Conduct ε) (a : Action ε α) : Prop :=
  ∀ w, C w (failure? (a.apply w).1) (a.apply w).2

/-- A conduct that allows to do nothing, to fail and to go on. -/
structure Lasting (C : Conduct ε) : Prop where
  /-- A state may stay as it is. -/
  refl : ∀ w, C w none w
  /-- A failure may leave the state as it is. -/
  fail : ∀ w f, C w (some f) w
  /-- What is allowed in two steps, of which the first one does not fail, is allowed in one. -/
  trans : ∀ {u v w o}, C u none v → C v o w → C u o w

/-- A conduct that also allows the library to log what is no error. -/
structure Tolerant (C : Conduct ε) : Prop extends Lasting C where
  /-- A message that is no error may be logged. -/
  report : ∀ w (s : Log.Site) level text, level ≠ Log.error →
    C w none { w with log := w.log.report (s.record level text none) }

/-- A conduct that also allows a queue to change. -/
structure Lenient (C : Conduct ε) (q : QueueId) : Prop extends Tolerant C where
  /-- The queue may change. -/
  queue : ∀ w items, C w none (w.setQueue q items)

/-- In the end the context may be another one. -/
def Conduct.IgnoresContext (C : Conduct ε) : Prop :=
  ∀ u o v c, C u o v → C u o (v.setContext c)

namespace Lasting

variable {C : Conduct ε}

/-- Nothing happens. -/
theorem pure (h : Lasting C) (x : α) : (Pure.pure x : Action ε α).Follows C := fun w ↦ h.refl w

/-- A failure. -/
theorem throw (h : Lasting C) (f : Failure) : (MonadExcept.throw f : Action ε α).Follows C :=
  fun w ↦ h.fail w f

/-- Reading changes nothing. -/
theorem read (h : Lasting C) (f : World ε → α) : (Action.read f).Follows C := fun w ↦ h.refl w

/-- A known outcome changes nothing. -/
theorem ofExcept (h : Lasting C) (r : Except Failure α) :
    (Action.ofExcept r : Action ε α).Follows C := by
  intro w
  cases r with
  | ok x => exact h.refl w
  | error f => exact h.fail w f

/-- Two actions, the second one only after a value that the first one gives. -/
theorem bind_of (h : Lasting C) {a : Action ε α} {k : α → Action ε β} (ha : a.Follows C)
    (hk : ∀ w x w', a.apply w = (.ok x, w') →
      C w' (failure? ((k x).apply w').1) ((k x).apply w').2) : (a >>= k).Follows C := by
  intro w
  have hw := ha w
  rw [Action.apply_bind]
  rcases hr : a.apply w with ⟨_ | x, w'⟩
  · rwa [hr] at hw
  · rw [hr] at hw
    exact h.trans hw (hk w x w' hr)

/-- Two actions. -/
theorem bind (h : Lasting C) {a : Action ε α} {k : α → Action ε β} (ha : a.Follows C)
    (hk : ∀ x, (k x).Follows C) : (a >>= k).Follows C :=
  h.bind_of ha fun _ x w' _ ↦ hk x w'

/-- An action inside a context does what it does in the state with that context. -/
theorem within_at (h : Lasting C) (hc : C.IgnoresContext) {fields : List (String × Value)}
    {a : Action ε α} {w : World ε}
    (ha : let v := w.setContext (w.log.context.overlay fields)
      C v (failure? (a.apply v).1) (a.apply v).2) :
    C w (failure? ((Action.within fields a).apply w).1) ((Action.within fields a).apply w).2 := by
  have hin : C w none (w.setContext (w.log.context.overlay fields)) :=
    hc _ _ _ _ (h.refl w)
  exact hc _ _ _ _ (h.trans hin ha)

/-- An action inside a context. -/
theorem within (h : Lasting C) (hc : C.IgnoresContext) (fields : List (String × Value))
    {a : Action ε α} (ha : a.Follows C) : (Action.within fields a).Follows C :=
  fun _ ↦ h.within_at hc (ha _)

/-- Numbering entries does what drawing an identifier does. -/
theorem numberEntries (h : Lasting C) {draw : Action ε String} (hd : draw.Follows C)
    (timeout : Option Int) (handles : List String) :
    (numberEntries draw timeout handles).Follows C := by
  induction handles with
  | nil => exact h.pure []
  | cons handle handles ih => exact h.bind hd fun _ ↦ h.bind ih fun _ ↦ h.pure _

/-- Finding the one deadline of a request does what logging that it is lowered does. -/
theorem commonDeadline (h : Lasting C)
    (hr : ∀ text, (Action.report (PubSubBackend.site PubSubBackend.changeFunction) Log.warning
      text : Action ε Unit).Follows C) (entries : List BatchEntry) :
    (PubSubBackend.commonDeadline entries : Action ε Int).Follows C := by
  unfold PubSubBackend.commonDeadline
  split
  · exact h.pure 0
  · split
    · exact h.bind (h.ofExcept _) fun _ ↦ h.bind (hr _) fun _ ↦ h.pure maxAckDeadline
    · exact h.pure _
  · split
    · exact h.throw _
    · exact h.throw _

variable {q : QueueId}

/-- Taking an item from a queue that may change. -/
theorem popFront (h : Lasting C) (hq : ∀ w items, C w none (w.setQueue q items)) :
    (Action.popFront q).Follows C := by
  intro w
  simp only [Action.popFront, Action.apply_ofFunction]
  split
  · exact h.refl w
  · exact hq w _

/-- Draining a queue that may change does what handing a batch over does. -/
theorem drain_of (h : Lasting C) (hq : ∀ w items, C w none (w.setQueue q items))
    {d : Dispatcher ε} {destination : String}
    (hf : ∀ handles, (d.flush destination handles).Follows C) (fuel : Nat)
    (handles : List String) (results : List BatchResult) :
    (d.drain q destination fuel handles results).Follows C := by
  induction fuel generalizing handles results with
  | zero => exact h.throw .endlessQueue
  | succ fuel ih =>
    refine h.bind (h.popFront hq) fun item ↦ ?_
    cases item with
    | none =>
      dsimp only
      split
      · exact h.pure results
      · exact h.bind (hf handles) fun _ ↦ h.pure _
    | some item =>
      dsimp only
      split
      · exact h.bind (hf _) fun _ ↦ ih _ _
      · exact ih _ _

/-- A dispatch of a queue that may change does what handing a batch over does. -/
theorem dispatch_of (h : Lasting C) (hq : ∀ w items, C w none (w.setQueue q items))
    {d : Dispatcher ε} {destination : String}
    (hf : ∀ handles, (d.flush destination handles).Follows C) :
    (d.dispatch q destination).Follows C := by
  refine h.bind (h.read _) fun items ↦ ?_
  split
  · exact h.throw _
  · exact h.bind (h.read _) fun _ ↦ h.drain_of hq hf _ _ _

end Lasting

namespace Tolerant

variable {C : Conduct ε}

/-- Logging what is no error. -/
theorem message (h : Tolerant C) {s : Log.Site} {level : Int} (hl : level ≠ Log.error)
    {text : String} : (Action.report s level text : Action ε Unit).Follows C :=
  fun w ↦ h.report w s level text hl

/-- Logging refused entries. -/
theorem reportFailures (h : Tolerant C) (site : Log.Site) (introduction : String)
    (fs : List EntryFailure) :
    (reportFailures site introduction fs : Action ε Unit).Follows C := by
  induction fs with
  | nil => exact h.pure ()
  | cons f fs ih => exact h.bind (h.message (by decide)) fun _ ↦ ih

/-- Logging the policy. -/
theorem reportPolicy (h : Tolerant C) (n : NegativeAcknowledger ε) (destination : String) :
    (n.reportPolicy destination).Follows C := by
  unfold NegativeAcknowledger.reportPolicy
  split
  · exact h.message (by decide)
  · exact h.bind (h.ofExcept _) fun _ ↦ h.message (by decide)

/-- Deleting a batch does what numbering it and calling the client with it do. -/
theorem acknowledge_of (h : Tolerant C) {a : Acknowledger ε} {destination : String}
    {handles : List String}
    (hc : ∀ k : BatchResult → Action ε (Option BatchResult), (∀ result, (k result).Follows C) →
      (QueueAck.numberEntries (Action.nextId a.generator) none handles >>= fun entries ↦
        a.client.delete destination entries >>= k).Follows C) :
    (a.action destination handles).Follows C := by
  unfold Acknowledger.action
  split
  · exact h.pure none
  · exact hc _ fun _ ↦ h.bind (h.reportFailures _ _ _) fun _ ↦ h.pure _

/-- Handing a batch back does what numbering it and calling the client with it do, under the
timeout that the policy resolves to. -/
theorem handBack_of (h : Tolerant C) {n : NegativeAcknowledger ε} {destination : String}
    {handles : List String}
    (hc : ∀ timeout, resolveDelay n.policy = some timeout →
      ∀ k : BatchResult → Action ε (Option BatchResult), (∀ result, (k result).Follows C) →
        (QueueAck.numberEntries (Action.nextId n.generator) (some timeout) handles >>= fun entries ↦
          n.client.changeVisibility destination entries >>= k).Follows C) :
    (n.action destination handles).Follows C := by
  unfold NegativeAcknowledger.action
  split
  · exact h.pure none
  · refine h.bind (h.reportPolicy n destination) fun _ ↦ ?_
    cases ht : resolveDelay n.policy with
    | none => exact h.bind (h.message (by decide)) fun _ ↦ h.pure none
    | some timeout =>
      exact hc timeout ht _ fun _ ↦ h.bind (h.reportFailures _ _ _) fun _ ↦ h.pure _

/-- Handing a batch over does what the action does. -/
theorem flush (h : Tolerant C) {d : Dispatcher ε} {destination : String} {handles : List String}
    (ha : (d.action destination handles).Follows C) :
    (d.flush destination handles).Follows C :=
  h.bind (h.message (by decide)) fun _ ↦ ha

end Tolerant

/-- A dispatch does what the action does. -/
theorem Lenient.dispatch {C : Conduct ε} {q : QueueId} (h : Lenient C q) {d : Dispatcher ε}
    {destination : String} (ha : ∀ handles, (d.action destination handles).Follows C) :
    (d.dispatch q destination).Follows C :=
  h.dispatch_of h.queue fun handles ↦ h.flush (ha handles)

end QueueAck
