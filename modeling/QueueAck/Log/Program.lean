import QueueAck.Log.Logger

/-!
# Programs that log

A program of nested context blocks, log calls, reads and replacements of the context, failures that
are raised and caught, and threads. Running it gives the state of the log and everything that was
observed on the way. A block restores the context from before it however it is left, and a thread
has a context of its own. A block is not entered when it gives a value to the logger's own name.
-/

namespace QueueAck.Log

/-- A step of a program that logs. -/
inductive Step where
  /-- Runs steps inside a context that extends the current one. -/
  | within (fields : List (String × Value)) (body : List Step)
  /-- Logs a record with further attributes. -/
  | log (record : Record) (extra : List (String × Value))
  /-- Makes a log call that is refused before it reaches the log, for want of what it needs. -/
  | refuse (f : Failure)
  /-- Reads the context. -/
  | read
  /-- Replaces the context. -/
  | replace (context : Context)
  /-- Raises a failure. -/
  | raise (f : Failure)
  /-- Runs steps and catches their failure. -/
  | attempt (body : List Step)
  /-- Runs steps in a new thread and waits for its end; a failure ends only the thread. -/
  | thread (body : List Step)
deriving Repr

/-- What is observed while a program runs. -/
inductive Observation where
  /-- A log call was accepted, and these records were let through. -/
  | logged (records : List Record)
  /-- A log call was refused. -/
  | refused (f : Failure)
  /-- The context was read. -/
  | seen (context : Context)
  /-- A failure was caught. -/
  | caught (f : Failure)
deriving Repr

/-- How steps ended. -/
structure Outcome where
  /-- The failure that left them. -/
  failure : Option Failure := none
  /-- The state of the log afterwards. -/
  state : State
  /-- What was observed, in order. -/
  observed : List Observation := []

/-- The state with another context. -/
def State.setContext (s : State) (c : Context) : State := { s with context := c }

/-- The name under which the logger itself is given to a context block; no value has it. -/
def receiverName : String := "self"

/-- The function that opens a context block. -/
def blockFunction : String := "SQSMessagingLogger.contextualize"

mutual

/-- Runs one step. -/
def Step.run : Step → State → Outcome
  | .within fields body, s =>
    if fields.any fun f => f.1 == receiverName then
      { failure := some (.repeatedArgument blockFunction receiverName), state := s }
    else
      let o := runSteps body (s.setContext (s.context.overlay fields))
      { o with state := o.state.setContext s.context }
  | .log r extra, s =>
    match s.call r extra with
    | .ok t => { state := t, observed := [.logged (t.records.drop s.records.length)] }
    | .error f => { state := s, observed := [.refused f] }
  | .refuse f, s => { state := s, observed := [.refused f] }
  | .read, s => { state := s, observed := [.seen s.context] }
  | .replace c, s => { state := s.setContext c }
  | .raise f, s => { failure := some f, state := s }
  | .attempt body, s =>
    let o := runSteps body s
    match o.failure with
    | none => o
    | some f => { state := o.state, observed := o.observed ++ [.caught f] }
  | .thread body, s =>
    let o := runSteps body (s.setContext [])
    { state := o.state.setContext s.context, observed := o.observed }

/-- Runs steps in order until one ends with a failure. -/
def runSteps : List Step → State → Outcome
  | [], s => { state := s }
  | step :: steps, s =>
    let o := step.run s
    match o.failure with
    | some f => { failure := some f, state := o.state, observed := o.observed }
    | none =>
      let p := runSteps steps o.state
      { p with observed := o.observed ++ p.observed }

end

end QueueAck.Log
