/-!
# Plain kinds of failure

The kinds of failure that belong to no service and no library, each with its name.
-/

namespace QueueAck

/-- The kinds of failure that belong to no service and no library. -/
inductive PlainKind where
  /-- A value is not acceptable. -/
  | value
  /-- A key is not known. -/
  | key
  /-- A position is not there. -/
  | index
  /-- A value has the wrong type. -/
  | type
  /-- A value lacks an attribute. -/
  | missingAttribute
  /-- A number is too large. -/
  | overflow
  /-- There is not enough memory. -/
  | memory
  /-- Anything else went wrong. -/
  | runtime
  /-- A connection failed. -/
  | connection
  /-- Something took too long. -/
  | timeout
  /-- The system refused something. -/
  | system
deriving DecidableEq, Repr

namespace PlainKind

/-- The name of a plain kind. -/
def name : PlainKind → String
  | .value => "ValueError"
  | .key => "KeyError"
  | .index => "IndexError"
  | .type => "TypeError"
  | .missingAttribute => "AttributeError"
  | .overflow => "OverflowError"
  | .memory => "MemoryError"
  | .runtime => "RuntimeError"
  | .connection => "ConnectionError"
  | .timeout => "TimeoutError"
  | .system => "OSError"

/-- All plain kinds. -/
def all : List PlainKind :=
  [.value, .key, .index, .type, .missingAttribute, .overflow, .memory, .runtime, .connection,
    .timeout, .system]

/-- The plain kind with a name. -/
def ofName? (s : String) : Option PlainKind := all.find? (·.name == s)

/-- The name of a plain kind selects it. -/
theorem ofName?_name (k : PlainKind) : ofName? k.name = some k := by cases k <;> decide

end PlainKind
end QueueAck
