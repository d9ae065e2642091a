import QueueAck.Text.Printable

/-!
# Quoted text

The literal that shows a text inside a message. It stands between apostrophes, or between double
quotes when the text has an apostrophe and no double quote. The delimiter and the backslash are
escaped by a backslash, tab and line ends by their letters, and every other character that is not
printable by its code point in two, four or eight hexadecimal digits.
-/

namespace QueueAck.Text

/-- The lower case hexadecimal digits of a number, at least `width` of them. -/
def hexDigits (width n : Nat) : List Char :=
  let ds := Nat.toDigits 16 n
  List.replicate (width - ds.length) '0' ++ ds

/-- The quote that delimits a text. -/
def delimiter (cs : List Char) : Char :=
  if cs.contains '\'' && !cs.contains '"' then '"' else '\''

/-- A character given by its code point, in two, four or eight hexadecimal digits. -/
def codeEscape (c : Char) : List Char :=
  if c.toNat ≤ 0xff then '\\' :: 'x' :: hexDigits 2 c.toNat
  else if c.toNat ≤ 0xffff then '\\' :: 'u' :: hexDigits 4 c.toNat
  else '\\' :: 'U' :: hexDigits 8 c.toNat

/-- The way a character stands between delimiters. -/
def escapeChar (quote c : Char) : List Char :=
  if c = quote || c = '\\' then ['\\', c]
  else if c = '\t' then ['\\', 't']
  else if c = '\n' then ['\\', 'n']
  else if c = '\r' then ['\\', 'r']
  else if isPrintable c then [c]
  else codeEscape c

/-- The literal of a list of characters. -/
def quoteChars (cs : List Char) : List Char :=
  let q := delimiter cs
  q :: cs.flatMap (escapeChar q) ++ [q]

/-- The literal of a text. -/
def quote (s : String) : String := String.ofList (quoteChars s.toList)

/-- The text with every character beyond ASCII given by its code point. -/
def asciiOnly (cs : List Char) : List Char :=
  cs.flatMap fun c => if c.toNat < 0x80 then [c] else codeEscape c

/-- The apostrophe is the usual delimiter, the double quote the exception. -/
example : quoteChars ['a'] = "'a'".toList ∧ quoteChars ['\''] = "\"'\"".toList ∧
    quoteChars ['\'', '"'] = "'\\'\"'".toList := by decide +kernel

/-- Escapes have two, four or eight digits. -/
example : quoteChars ['\x7f', '\u200b', Char.ofNat 0xe0001] =
    "'\\x7f\\u200b\\U000e0001'".toList := by decide +kernel

end QueueAck.Text
