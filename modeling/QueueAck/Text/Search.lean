/-!
# Searching in texts

Whether something starts at some place of a text. `anySuffix` looks at what is left from each place
on, the end included.
-/

namespace QueueAck.Text

/-- True when the rest of a text from some place on passes a test. -/
def anySuffix (test : List Char → Bool) : List Char → Bool
  | [] => test []
  | c :: cs => test (c :: cs) || anySuffix test cs

/-- True when a text stands somewhere in another one. -/
def occursIn (part whole : String) : Bool := anySuffix (part.toList.isPrefixOf ·) whole.toList

end QueueAck.Text
