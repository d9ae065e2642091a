import QueueAck.Proofs.Guarantee

/-!
# Records of calls

A record that is kept beside the state of the backends. `noting` carries an action out and writes a
note of it into the record; nothing else reads or writes the record, so that it shows what was
called without having a part in it. Dispatchers and queue clients are recorded call by call.
`keeping` writes down what an action returns instead.
-/

namespace QueueAck

variable {ε σ α : Type}

namespace World

/-- The state without the record. -/
def forget (w : World (ε × σ)) : World ε :=
  { queues := w.queues, counters := w.counters, generators := w.generators, patience := w.patience
    log := w.log, outside := w.outside.1 }

/-- The state with a record. -/
def remember (w : World ε) (s : σ) : World (ε × σ) :=
  { queues := w.queues, counters := w.counters, generators := w.generators, patience := w.patience
    log := w.log, outside := (w.outside, s) }

/-- The record of a state that has one. -/
def record (w : World (ε × σ)) : σ := w.outside.2

@[simp] theorem forget_remember (w : World ε) (s : σ) : (w.remember s).forget = w := rfl

@[simp] theorem record_remember (w : World ε) (s : σ) : (w.remember s).record = s := rfl

@[simp] theorem queues_remember (w : World ε) (s : σ) : (w.remember s).queues = w.queues := rfl

@[simp] theorem counters_remember (w : World ε) (s : σ) :
    (w.remember s).counters = w.counters := rfl

@[simp] theorem queues_forget (w : World (ε × σ)) : w.forget.queues = w.queues := rfl

/-- A state is what is left without its record, and the record. -/
theorem remember_forget (w : World (ε × σ)) : w.forget.remember w.record = w := rfl

end World

/-- Carries an action out and adds a note to the record. -/
def Action.noting (note : σ) (a : Action ε α) : Action (ε × List σ) α :=
  Action.ofFunction fun w ↦
    let r := a.apply w.forget
    (r.1, r.2.remember (w.record ++ [note]))

/-- Carries an action out and adds the value that it has, if any, to the record. -/
def Action.keeping (a : Action ε α) : Action (ε × List α) α :=
  Action.ofFunction fun w ↦
    let r := a.apply w.forget
    (r.1, r.2.remember (w.record ++ r.1.toOption.toList))

/-- The dispatcher with the receipt handles of every batch that its action is given written down. -/
def Dispatcher.recorded (d : Dispatcher ε) : Dispatcher (ε × List (List String)) where
  action destination handles := (d.action destination handles).noting handles
  size := d.size

/-- Handing a batch over writes it down. -/
theorem Dispatcher.flush_recorded (d : Dispatcher ε) (destination : String)
    (handles : List String) (w : World ε) (calls : List (List String)) :
    (d.recorded.flush destination handles).apply (w.remember calls) =
      (((d.flush destination handles).apply w).1,
        ((d.flush destination handles).apply w).2.remember (calls ++ [handles])) := rfl

/-- A call on a queue client. -/
inductive BatchCall where
  /-- Visibility timeouts are changed. -/
  | changeVisibility (destination : String) (entries : List BatchEntry)
  /-- Messages are deleted. -/
  | delete (destination : String) (entries : List BatchEntry)
deriving DecidableEq, Repr

/-- The entries of a call. -/
def BatchCall.entries : BatchCall → List BatchEntry
  | .changeVisibility _ es => es
  | .delete _ es => es

/-- The queue client with every call on it written down. -/
def QueueClient.recorded (c : QueueClient ε) : QueueClient (ε × List BatchCall) where
  changeVisibility destination entries :=
    (c.changeVisibility destination entries).noting (.changeVisibility destination entries)
  delete destination entries :=
    (c.delete destination entries).noting (.delete destination entries)

/-- The queue client with every result that it returns kept. -/
def QueueClient.keeping (c : QueueClient ε) : QueueClient (ε × List BatchResult) where
  changeVisibility destination entries := (c.changeVisibility destination entries).keeping
  delete destination entries := (c.delete destination entries).keeping

end QueueAck
