import QueueAck.Proofs.Conduct

/-!
# What an action guarantees

A relation between the state before an action and the state after it, whatever the action returns
and however it ends. The relations of this library allow to log (`Steady`), and those on a dispatch
also to take items from the queue (`Indifferent`). Either is a conduct that is blind to failures, so
that a guarantee of the parts is one of the whole: `Indifferent.dispatch` needs no more than the
guarantee of the action.
-/

namespace QueueAck

variable {ε α β : Type}

/-- The action leads from every state to one that the relation allows, however it ends. -/
def Action.Guarantees (R : World ε → World ε → Prop) (a : Action ε α) : Prop :=
  ∀ w, R w (a.apply w).2

/-- The state after steps that are taken one after the other, failed ones included. -/
def Action.runAll {S : Type} (perform : S → Action ε α) (steps : List S) (w : World ε) : World ε :=
  steps.foldl (fun w s ↦ ((perform s).apply w).2) w

/-- The first step is taken before the others. -/
theorem Action.runAll_cons {S : Type} (perform : S → Action ε α) (s : S) (steps : List S)
    (w : World ε) :
    runAll perform (s :: steps) w = runAll perform steps ((perform s).apply w).2 := rfl

/-- Steps that are taken one after the other, each with its outcome. -/
def Action.outcomes {S : Type} (perform : S → Action ε α) : List S → World ε →
    List (S × Except Failure α)
  | [], _ => []
  | s :: steps, w =>
    (s, ((perform s).apply w).1) :: outcomes perform steps ((perform s).apply w).2

/-- Both calls on the client lead to a state that the relation allows. -/
structure QueueClient.Guarantees (R : World ε → World ε → Prop) (c : QueueClient ε) : Prop where
  /-- Changing visibility timeouts does. -/
  changeVisibility : ∀ destination entries, (c.changeVisibility destination entries).Guarantees R
  /-- Deleting does. -/
  delete : ∀ destination entries, (c.delete destination entries).Guarantees R

/-- A relation between states that allows to stay, to go on and to log. -/
structure Steady (R : World ε → World ε → Prop) : Prop where
  /-- A state may stay as it is. -/
  refl : ∀ w, R w w
  /-- What is allowed in two steps is allowed in one. -/
  trans : ∀ {u v w}, R u v → R v w → R u w
  /-- The log may change. -/
  log : ∀ w l, R w { w with log := l }

/-- A relation between states that also allows a queue to change. -/
structure Indifferent (R : World ε → World ε → Prop) (q : QueueId) : Prop extends Steady R where
  /-- The queue may change. -/
  queue : ∀ w items, R w (w.setQueue q items)

/-- What a relation allows, whatever the failure. -/
theorem Steady.tolerant {R : World ε → World ε → Prop} (h : Steady R) :
    Tolerant fun w _ w' ↦ R w w' where
  refl := h.refl
  fail w _ := h.refl w
  trans := h.trans
  report w _ _ _ _ := h.log w _

/-- What a relation allows does not depend on the context. -/
theorem Steady.ignoresContext {R : World ε → World ε → Prop} (h : Steady R) :
    Conduct.IgnoresContext fun w _ w' ↦ R w w' := fun _ _ _ _ hr ↦ h.trans hr (h.log _ _)

/-- What a relation allows on a dispatch, whatever the failure. -/
theorem Indifferent.lenient {R : World ε → World ε → Prop} {q : QueueId} (h : Indifferent R q) :
    Lenient (fun w _ w' ↦ R w w') q :=
  { h.tolerant with queue := h.queue }

namespace Steady

variable {R : World ε → World ε → Prop}

/-- Nothing happens. -/
theorem pure (h : Steady R) (x : α) : (Pure.pure x : Action ε α).Guarantees R := h.tolerant.pure x

/-- Failing changes nothing. -/
theorem throw (h : Steady R) (f : Failure) :
    (MonadExcept.throw f : Action ε α).Guarantees R := h.tolerant.throw f

/-- Reading changes nothing. -/
theorem read (h : Steady R) (f : World ε → α) : (Action.read f).Guarantees R := h.tolerant.read f

/-- A known outcome changes nothing. -/
theorem ofExcept (h : Steady R) (r : Except Failure α) :
    (Action.ofExcept r : Action ε α).Guarantees R := h.tolerant.ofExcept r

/-- Logging is allowed. -/
theorem report (h : Steady R) {s : Log.Site} {level : Int} {message : String}
    {exception : Option Trace} :
    (Action.report s level message exception : Action ε Unit).Guarantees R := fun w ↦ h.log w _

/-- Two actions keep what each of them keeps; the second one only after a value that the first one
gives. -/
theorem bind_of (h : Steady R) {a : Action ε α} {k : α → Action ε β} (ha : a.Guarantees R)
    (hk : ∀ w x w', a.apply w = (.ok x, w') → R w' ((k x).apply w').2) :
    (a >>= k).Guarantees R := h.tolerant.bind_of ha hk

/-- Two actions keep what each of them keeps. -/
theorem bind (h : Steady R) {a : Action ε α} {k : α → Action ε β} (ha : a.Guarantees R)
    (hk : ∀ x, (k x).Guarantees R) : (a >>= k).Guarantees R := h.tolerant.bind ha hk

/-- Keeping a failure as a value changes nothing about the state. -/
theorem attempt {a : Action ε α} (ha : a.Guarantees R) : a.attempt.Guarantees R := ha

/-- An action inside a context keeps what it keeps in the state with that context. -/
theorem within_at (h : Steady R) {fields : List (String × Value)} {a : Action ε α} {w : World ε}
    (ha : let v := w.setContext (w.log.context.overlay fields); R v (a.apply v).2) :
    R w ((Action.within fields a).apply w).2 := h.tolerant.within_at h.ignoresContext ha

/-- An action inside a context keeps what it keeps outside. -/
theorem within (h : Steady R) (fields : List (String × Value)) {a : Action ε α}
    (ha : a.Guarantees R) : (Action.within fields a).Guarantees R :=
  h.tolerant.within h.ignoresContext fields ha

/-- Logging refused entries is allowed. -/
theorem reportFailures (h : Steady R) (site : Log.Site) (introduction : String)
    (fs : List EntryFailure) :
    (reportFailures site introduction fs : Action ε Unit).Guarantees R :=
  h.tolerant.reportFailures site introduction fs

/-- Logging the policy is allowed. -/
theorem reportPolicy (h : Steady R) (n : NegativeAcknowledger ε) (destination : String) :
    (n.reportPolicy destination).Guarantees R := h.tolerant.reportPolicy n destination

/-- Numbering entries keeps what drawing an identifier keeps. -/
theorem numberEntries (h : Steady R) {draw : Action ε String} (hd : draw.Guarantees R)
    (timeout : Option Int) (handles : List String) :
    (numberEntries draw timeout handles).Guarantees R :=
  h.tolerant.numberEntries hd timeout handles

/-- Deleting a batch keeps what numbering it and calling the client with it keep. -/
theorem acknowledge_of (h : Steady R) {a : Acknowledger ε} {destination : String}
    {handles : List String}
    (hc : ∀ k : BatchResult → Action ε (Option BatchResult), (∀ result, (k result).Guarantees R) →
      (QueueAck.numberEntries (Action.nextId a.generator) none handles >>= fun entries ↦
        a.client.delete destination entries >>= k).Guarantees R) :
    (a.action destination handles).Guarantees R := h.tolerant.acknowledge_of hc

/-- Handing a batch back keeps what numbering it and calling the client with it keep, under the
timeout that the policy resolves to. -/
theorem handBack_of (h : Steady R) {n : NegativeAcknowledger ε} {destination : String}
    {handles : List String}
    (hc : ∀ timeout, resolveDelay n.policy = some timeout →
      ∀ k : BatchResult → Action ε (Option BatchResult), (∀ result, (k result).Guarantees R) →
        (QueueAck.numberEntries (Action.nextId n.generator) (some timeout) handles >>= fun entries ↦
          n.client.changeVisibility destination entries >>= k).Guarantees R) :
    (n.action destination handles).Guarantees R := h.tolerant.handBack_of hc

/-- Deleting a batch keeps what drawing an identifier and the client keep. -/
theorem acknowledge (h : Steady R) {a : Acknowledger ε}
    (hd : (Action.nextId a.generator : Action ε String).Guarantees R) (hc : a.client.Guarantees R)
    (destination : String) (handles : List String) : (a.action destination handles).Guarantees R :=
  h.acknowledge_of fun _ hk ↦
    h.bind (h.numberEntries hd none handles) fun entries ↦ h.bind (hc.delete destination entries) hk

/-- Handing a batch back keeps what drawing an identifier and the client keep. -/
theorem handBack (h : Steady R) {n : NegativeAcknowledger ε}
    (hd : (Action.nextId n.generator : Action ε String).Guarantees R) (hc : n.client.Guarantees R)
    (destination : String) (handles : List String) : (n.action destination handles).Guarantees R :=
  h.handBack_of fun timeout _ _ hk ↦
    h.bind (h.numberEntries hd (some timeout) handles) fun entries ↦
      h.bind (hc.changeVisibility destination entries) hk

/-- Handing a batch over keeps what the action keeps. -/
theorem flush (h : Steady R) {d : Dispatcher ε} {destination : String} {handles : List String}
    (ha : (d.action destination handles).Guarantees R) :
    (d.flush destination handles).Guarantees R := h.tolerant.flush ha

/-- A run keeps what every step keeps. -/
theorem runAll (h : Steady R) {S : Type} {perform : S → Action ε α}
    (hs : ∀ s, (perform s).Guarantees R) (steps : List S) (w : World ε) :
    R w (Action.runAll perform steps w) := by
  induction steps generalizing w with
  | nil => exact h.refl w
  | cons s steps ih => exact h.trans (hs s w) (ih _)

end Steady

namespace Indifferent

variable {R : World ε → World ε → Prop} {q : QueueId}

/-- Taking an item from the queue is allowed. -/
theorem popFront (h : Indifferent R q) : (Action.popFront q).Guarantees R :=
  h.lenient.popFront h.queue

/-- A dispatch keeps what the action keeps. -/
theorem dispatch (h : Indifferent R q) {d : Dispatcher ε} {destination : String}
    (ha : ∀ handles, (d.action destination handles).Guarantees R) :
    (d.dispatch q destination).Guarantees R := h.lenient.dispatch ha

end Indifferent
end QueueAck
