import QueueAck.Log.Formatter

/-!
# The logger

The set-up of the logger and what becomes of a record that it lets through. `Logger.setUp` reads the
set-up from the variables of the environment, by the readers at the front, and changes the logger
step by step; `Logger.configure` is the logger that comes of it. The settings are read before the
first step, so that the logger is changed as a whole or, on a value that cannot be read, not at all.
-/

namespace QueueAck

/-- Environment variables and their values. -/
abbrev Environment := List (String × String)

namespace Environment

/-- The value of a variable. -/
def get? (env : Environment) (name : String) : Option String := env.lookup name

/-- The integer value of a variable, or a default when the variable is not set. -/
def integer (env : Environment) (name : String) (default : Int) : Except Failure Int :=
  match env.get? name with
  | none => .ok default
  | some s => (Text.readInteger s).mapError (.unreadableInteger s)

/-- The value of a variable; an empty one counts as not set. -/
def nonEmpty? (env : Environment) (name : String) : Option String :=
  (env.get? name).filter fun s => !s.isEmpty

end Environment

namespace Log

/-- A step that a record passes before it is formatted. -/
inductive Filter where
  /-- Fills in the context of the record. -/
  | context
deriving DecidableEq, Repr

/-- The name of the class of a filter. -/
def Filter.name : Filter → String
  | .context => "ContextFilter"

/-- The record as a filter leaves it; no filter drops a record. -/
def Filter.apply (store : Context) : Filter → Record → Record
  | .context, r => r.contextualize store

/-- A place to which records are written. -/
structure Handler where
  /-- The way records are turned into text. -/
  formatter : Formatter
  /-- The steps that a record passes before. -/
  filters : List Filter := []
deriving DecidableEq, Repr

/-- The set-up of the logger. -/
structure Logger where
  /-- The threshold of the logger. -/
  threshold : Int := 0
  /-- Whether records are passed on to the loggers above. -/
  propagate : Bool := true
  /-- The places to which records are written. -/
  handlers : List Handler := []
deriving DecidableEq, Repr

/-- The variable that holds the threshold. -/
def levelVariable : String := "SQSMESSAGING_LOG_LEVEL"

/-- The variable that asks for the JSON form. -/
def serializeVariable : String := "SQSMESSAGING_ENABLE_LOG_SERIALIZE"

/-- The threshold that an environment asks for. -/
def thresholdOf (env : Environment) : Except Failure Int :=
  match env.get? levelVariable with
  | none => .ok info
  | some s => readLevel s

/-- The formatter that an environment asks for: the JSON form when the variable is a number other
than zero. -/
def formatterOf (env : Environment) : Except Failure Formatter :=
  (env.integer serializeVariable 0).map fun n =>
    if n = 0 then .text standardFormat none else .json none

/-- The logger as an environment describes it: one handler with the context filter, and nothing
passed on. -/
def Logger.configure (env : Environment) (l : Logger) : Except Failure Logger := do
  let threshold ← thresholdOf env
  let formatter ← formatterOf env
  return { l with
    threshold
    propagate := false
    handlers := [{ formatter, filters := [.context] }] }

/-- Steps that change the logger, until one of them fails; what was changed before stays so. -/
abbrev Logger.Steps : Type → Type := ExceptT Failure (StateM Logger)

/-- Takes the handlers of the logger away, if there are any. -/
def Logger.clear : Logger.Steps Unit := do
  unless (← get).handlers.isEmpty do modify fun l => { l with handlers := [] }

/-- Sets the logger up as an environment describes it. -/
def Logger.setUp (env : Environment) : Logger.Steps Unit := do
  let threshold ← MonadExcept.ofExcept (thresholdOf env)
  let formatter ← MonadExcept.ofExcept (formatterOf env)
  clear
  modify fun l => { l with threshold }
  modify fun l => { l with propagate := false }
  modify fun l => { l with handlers := l.handlers ++ [{ formatter, filters := [.context] }] }

/-- What comes of setting a logger up, and the logger that is left. -/
def Logger.attempt (l : Logger) (env : Environment) : Except Failure Unit × Logger :=
  StateT.run (setUp env).run l

/-- Setting up leaves the configured logger, or the logger as it was. -/
theorem Logger.attempt_eq (l : Logger) (env : Environment) :
    l.attempt env =
      match l.configure env with
      | .ok l' => (.ok (), l')
      | .error f => (.error f, l) := by
  unfold attempt setUp configure
  cases thresholdOf env with
  | error f => rfl
  | ok threshold =>
    cases formatterOf env with
    | error f => rfl
    | ok formatter => obtain ⟨_, _, _ | _⟩ := l <;> rfl

/-- What a process has logged so far, and what decides on the next record. -/
structure State where
  /-- The set-up of the logger. -/
  logger : Logger := {}
  /-- The context of the current thread. -/
  context : Context := []
  /-- The records that were let through, in order. -/
  records : List Record := []
  /-- The text that the handlers have written. -/
  output : String := ""
deriving Repr

namespace State

/-- The record as the filters of a handler leave it. -/
def filtered (s : State) (h : Handler) (r : Record) : Record :=
  h.filters.foldl (fun r f => f.apply s.context r) r

/-- The line that a handler writes for a record. A record that cannot be formatted leaves none. -/
def lineOf (h : Handler) (r : Record) : String :=
  match h.formatter.format r with
  | .ok t => t ++ "\n"
  | .error _ => ""

/-- Hands a record to one handler. -/
def handle (s : State) (h : Handler) (r : Record) : State :=
  let r := s.filtered h r
  { s with records := s.records ++ [r], output := s.output ++ lineOf h r }

/-- Hands a record to all handlers. -/
def emit (s : State) (r : Record) : State := s.logger.handlers.foldl (fun s h => s.handle h r) s

/-- Logs a record when its level is let through. -/
def report (s : State) (r : Record) : State :=
  if enables s.logger.threshold r.level then s.emit r else s

/-- Logs a message on behalf of a caller, who may give further attributes. An attribute that every
record has, or that formatting sets, is refused, unless the level is not let through. -/
def call (s : State) (r : Record) (extra : List (String × Value)) : Except Failure State :=
  if enables s.logger.threshold r.level then
    match extra.find? fun f => (standardAttributes ++ ["message", "asctime"]).contains f.1 with
    | some f => .error (.protectedAttribute f.1)
    | none => .ok (s.emit (r.assignAll extra))
  else .ok s

end State
end Log
end QueueAck
