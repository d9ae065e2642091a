import QueueAck.Log.Logger

/-!
# The state of a process

What the operations of the library read and change: the queues of pending items, the counters that
entry identifiers come from, and the log. Whatever a backend keeps is a further part, about which
nothing is known. An `Action` changes this state and has a value or ends with a failure; the changes
made before a failure stay. A `QueueClient` offers the two batch calls that acknowledgers make on
a backend.
-/

namespace QueueAck

/-- A queue of pending items that is filled and drained while the process runs. -/
abbrev QueueId := Nat

/-- A source of entry identifiers. -/
inductive GeneratorId where
  /-- The source of all acknowledgers that were given none. -/
  | shared
  /-- A source of its own. -/
  | own (number : Nat)
deriving DecidableEq, Repr

/-- The state of a process; `ε` is what its backends keep. -/
structure World (ε : Type) where
  /-- The items that wait in each queue, the oldest first. -/
  queues : QueueId → List PendingItem := fun _ => []
  /-- The next number of each source of identifiers. -/
  counters : GeneratorId → Int := fun _ => 0
  /-- The number of sources that were made. -/
  generators : Nat := 0
  /-- How many of the items that join a queue while it is drained the fuel of `Dispatcher.drain` is
  for. -/
  patience : Nat := 0
  /-- The log. -/
  log : Log.State := {}
  /-- What the backends keep. -/
  outside : ε

/-- A change of the state that has a value or ends with a failure. -/
abbrev Action (ε : Type) := ExceptT Failure (StateM (World ε))

namespace Action

variable {ε α β : Type}

/-- An action given as a function on the state. -/
def ofFunction (f : World ε → Except Failure α × World ε) : Action ε α := ExceptT.mk f

/-- Carries an action out. -/
def apply (a : Action ε α) (w : World ε) : Except Failure α × World ε := a.run.run w

/-- Carries an action out and keeps its failure as a value. -/
def attempt (a : Action ε α) : Action ε (Except Failure α) :=
  ofFunction fun w =>
    let r := a.apply w
    (.ok r.1, r.2)

/-- An action that reads the state. -/
def read (f : World ε → α) : Action ε α := ofFunction fun w => (.ok (f w), w)

/-- An action that changes the state and cannot fail. -/
def change (f : World ε → World ε) : Action ε Unit := ofFunction fun w => (.ok (), f w)

/-- An action that succeeds or fails and changes nothing. -/
def ofExcept (r : Except Failure α) : Action ε α := ofFunction fun w => (r, w)

/-- An action of a backend that keeps to itself: it sees and changes its own part of the state. -/
def ofBackend (f : ε → Except Failure α × ε) : Action ε α :=
  ofFunction fun w =>
    let r := f w.outside
    (r.1, { w with outside := r.2 })

@[simp] theorem apply_ofFunction (f : World ε → Except Failure α × World ε) (w : World ε) :
    (ofFunction f).apply w = f w := rfl

@[simp] theorem apply_pure (a : α) (w : World ε) : (pure a : Action ε α).apply w = (.ok a, w) := rfl

@[simp] theorem apply_throw (f : Failure) (w : World ε) :
    (throw f : Action ε α).apply w = (.error f, w) := rfl

/-- The second of two actions is carried out unless the first one fails. -/
theorem apply_bind (a : Action ε α) (k : α → Action ε β) (w : World ε) :
    (a >>= k).apply w =
      match a.apply w with
      | (.ok x, w') => (k x).apply w'
      | (.error f, w') => (.error f, w') := by
  change (ExceptT.bindCont k (a.apply w).1).run (a.apply w).2 = _
  rcases a.apply w with ⟨_ | x, w'⟩ <;> rfl

/-- When two actions have a value, the first one has one, and the second one after it. -/
theorem eq_ok_of_apply_bind {a : Action ε α} {k : α → Action ε β} {w w' : World ε} {y : β}
    (h : (a >>= k).apply w = (.ok y, w')) :
    ∃ x v, a.apply w = (.ok x, v) ∧ (k x).apply v = (.ok y, w') := by
  rw [apply_bind] at h
  rcases ha : a.apply w with ⟨f | x, v⟩
  · rw [ha] at h
    cases h
  · rw [ha] at h
    exact ⟨x, v, rfl, h⟩

@[simp] theorem apply_attempt (a : Action ε α) (w : World ε) :
    a.attempt.apply w = (.ok (a.apply w).1, (a.apply w).2) := rfl

@[simp] theorem apply_read (f : World ε → α) (w : World ε) :
    (read f).apply w = (.ok (f w), w) := rfl

@[simp] theorem apply_change (f : World ε → World ε) (w : World ε) :
    (change f).apply w = (.ok (), f w) := rfl

@[simp] theorem apply_ofExcept (r : Except Failure α) (w : World ε) :
    (ofExcept r : Action ε α).apply w = (r, w) := rfl

@[simp] theorem apply_ofBackend (f : ε → Except Failure α × ε) (w : World ε) :
    (ofBackend f).apply w = ((f w.outside).1, { w with outside := (f w.outside).2 }) := rfl

end Action

namespace World

variable {ε : Type}

/-- Replaces the content of a queue. -/
def setQueue (w : World ε) (q : QueueId) (items : List PendingItem) : World ε :=
  { w with queues := fun r => if r = q then items else w.queues r }

/-- Sets the next number of a source of identifiers. -/
def setCounter (w : World ε) (g : GeneratorId) (n : Int) : World ε :=
  { w with counters := fun h => if h = g then n else w.counters h }

/-- Replaces the context of the current thread. -/
def setContext (w : World ε) (c : Context) : World ε :=
  { w with log := { w.log with context := c } }

/-- Adds items at the back of a queue. -/
def append (w : World ε) (q : QueueId) (items : List PendingItem) : World ε :=
  w.setQueue q (w.queues q ++ items)

@[simp] theorem queues_setQueue_self (w : World ε) (q : QueueId) (items : List PendingItem) :
    (w.setQueue q items).queues q = items := if_pos rfl

@[simp] theorem queues_setQueue_of_ne (w : World ε) {q r : QueueId} (items : List PendingItem)
    (h : r ≠ q) : (w.setQueue q items).queues r = w.queues r := if_neg h

/-- Of two contents for one queue the later one stays. -/
@[simp] theorem setQueue_setQueue (w : World ε) (q : QueueId) (xs ys : List PendingItem) :
    (w.setQueue q xs).setQueue q ys = w.setQueue q ys := by
  have h : ∀ r, (if r = q then ys else if r = q then xs else w.queues r) =
      if r = q then ys else w.queues r := by
    intro r
    split <;> rfl
  simp only [setQueue, h]

/-- Giving a queue what it has changes nothing. -/
theorem setQueue_eq_self {w : World ε} {q : QueueId} {items : List PendingItem}
    (h : w.queues q = items) : w.setQueue q items = w := by
  have hr : ∀ r, (if r = q then items else w.queues r) = w.queues r := by
    intro r
    split
    · next e => rw [e, h]
    · rfl
  simp only [setQueue, hr]

@[simp] theorem counters_setCounter_self (w : World ε) (g : GeneratorId) (n : Int) :
    (w.setCounter g n).counters g = n := if_pos rfl

@[simp] theorem counters_setCounter_of_ne (w : World ε) {g h : GeneratorId} (n : Int) (e : h ≠ g) :
    (w.setCounter g n).counters h = w.counters h := if_neg e

/-- Of two next numbers for one source the later one stays. -/
@[simp] theorem setCounter_setCounter (w : World ε) (g : GeneratorId) (m n : Int) :
    (w.setCounter g m).setCounter g n = w.setCounter g n := by
  have h : ∀ r, (if r = g then n else if r = g then m else w.counters r) =
      if r = g then n else w.counters r := by
    intro r
    split <;> rfl
  simp only [setCounter, h]

/-- Giving a source the next number that it has changes nothing. -/
theorem setCounter_eq_self {w : World ε} {g : GeneratorId} {n : Int} (h : w.counters g = n) :
    w.setCounter g n = w := by
  have hr : ∀ r, (if r = g then n else w.counters r) = w.counters r := by
    intro r
    split
    · next e => rw [e, h]
    · rfl
  simp only [setCounter, hr]

end World

/-- The decimal text of an integer, for a message or an identifier. One with too many digits has
none. -/
def decimalText (n : Int) : Except Failure String :=
  match Text.decimal? n with
  | some s => .ok s
  | none => .error .unprintableInteger

/-- The place that logs a message. -/
structure Log.Site where
  /-- The module that logs. -/
  module : String
  /-- The function that logs. -/
  function : String
deriving DecidableEq, Repr

/-- A record of a message that the library logs. -/
def Log.Site.record (s : Log.Site) (level : Int) (message : String) (exception : Option Trace) :
    Log.Record :=
  { level, message := .text message, module := .text s.module, function := .text s.function
    exception := match exception with
      | some t => .trace t
      | none => .none }

namespace Action

variable {ε α : Type}

/-- Logs a message of the library. -/
def report (s : Log.Site) (level : Int) (message : String) (exception : Option Trace := none) :
    Action ε Unit :=
  change fun w => { w with log := w.log.report (s.record level message exception) }

/-- Carries an action out inside a context that extends the current one. The context from before is
there again afterwards, whatever the action did and however it ended. -/
def within (fields : List (String × Value)) (a : Action ε α) : Action ε α :=
  ofFunction fun w =>
    let before := w.log.context
    let r := a.apply (w.setContext (before.overlay fields))
    (r.1, r.2.setContext before)

/-- Takes the next identifier from a source: the decimal text of its number. A number with too many
digits is taken as well, and then there is no identifier. -/
def nextId (g : GeneratorId) : Action ε String :=
  ofFunction fun w => (decimalText (w.counters g), w.setCounter g (w.counters g + 1))

@[simp] theorem apply_nextId (g : GeneratorId) (w : World ε) :
    (nextId g).apply w = (decimalText (w.counters g), w.setCounter g (w.counters g + 1)) := rfl

/-- Makes a source of identifiers that starts at a number. -/
def newGenerator (start : Int := 0) : Action ε GeneratorId :=
  ofFunction fun w =>
    let g := GeneratorId.own w.generators
    (.ok g, { w.setCounter g start with generators := w.generators + 1 })

/-- Takes the oldest item from a queue. -/
def popFront (q : QueueId) : Action ε (Option PendingItem) :=
  ofFunction fun w =>
    match w.queues q with
    | [] => (.ok none, w)
    | item :: items => (.ok (some item), w.setQueue q items)

end Action

/-- A backend on which batches of entries are changed and deleted. -/
structure QueueClient (ε : Type) where
  /-- Changes the visibility timeout of every entry in one call. -/
  changeVisibility : (destination : String) → (entries : List BatchEntry) → Action ε BatchResult
  /-- Deletes every entry in one call. -/
  delete : (destination : String) → (entries : List BatchEntry) → Action ε BatchResult

end QueueAck
