import Mathlib
import QueueAck.Json.Reader
import QueueAck.Json.Writer

/-!
# Strings in JSON

A written string is made of printable ASCII characters, and reading gives it back whatever its
characters are (`readString_flatMap_escapeChar`). An escape is read in front of anything, also in
front of another escape: the halves of a surrogate pair are no characters, so that the unit of
a character is never taken for half a pair.
-/

namespace QueueAck.Json

/-- A printable ASCII character. -/
def IsPrintable (c : Char) : Prop := ' ' ≤ c ∧ c ≤ '~'

instance : DecidablePred IsPrintable := fun _ ↦ inferInstanceAs (Decidable (_ ∧ _))

/-- A text of printable characters. -/
def Printable (cs : List Char) : Prop := ∀ c ∈ cs, IsPrintable c

/-- No text at all. -/
theorem Printable.nil : Printable [] := List.forall_mem_nil _

/-- A character in front of a text. -/
theorem Printable.cons {c : Char} {cs : List Char} (h : IsPrintable c) (h' : Printable cs) :
    Printable (c :: cs) := List.forall_mem_cons.mpr ⟨h, h'⟩

/-- One text after the other. -/
theorem Printable.append {cs ds : List Char} (h : Printable cs) (h' : Printable ds) :
    Printable (cs ++ ds) := List.forall_mem_append.mpr ⟨h, h'⟩

/-- The forms of a character inside a string. -/
inductive Escaped (c : Char) : List Char → Prop where
  /-- A backslash and a letter. -/
  | letter {l : Char} (reads : letterEscape? l = some c) (printable : IsPrintable l) :
    Escaped c ['\\', l]
  /-- The character itself. -/
  | plain (quote : c ≠ '"') (backslash : c ≠ '\\') (printable : IsPrintable c) : Escaped c [c]
  /-- One unit. -/
  | unit (small : c.toNat < 0x10000) : Escaped c (unitEscape c.toNat)
  /-- Two units, the halves of a pair. -/
  | pair {v : Nat} (small : v < 0x100000) (value : c = Char.ofNat (0x10000 + v)) :
    Escaped c (unitEscape (0xd800 + v / 0x400) ++ unitEscape (0xdc00 + v % 0x400))

/-- A character is no half of a pair. -/
theorem toNat_lt_or_le (c : Char) : c.toNat < 0xd800 ∨ 0xe000 ≤ c.toNat := c.valid.imp id And.left

/-- A character is written in one of the forms. -/
theorem escaped_escapeChar (c : Char) : Escaped c (escapeChar c) := by
  have letter {l x : Char} (h : letterEscape? l = some x) (printable : IsPrintable l)
      (hc : c = x) : Escaped c ['\\', l] := .letter (hc ▸ h) printable
  unfold escapeChar
  split_ifs with quote backslash line carriage tab backspace feed printable unit
  · exact letter rfl (by decide) quote
  · exact letter rfl (by decide) backslash
  · exact letter rfl (by decide) line
  · exact letter rfl (by decide) carriage
  · exact letter rfl (by decide) tab
  · exact letter rfl (by decide) backspace
  · exact letter rfl (by decide) feed
  · exact .plain quote backslash printable
  · exact .unit unit
  · have valid : c.toNat < 0xd800 ∨ 0xdfff < c.toNat ∧ c.toNat < 0x110000 := c.valid
    refine .pair (by omega) ?_
    rw [Nat.add_sub_of_le (Nat.not_lt.mp unit), Char.ofNat_toNat]

/-! ### Reading -/

/-- A written digit is read. -/
theorem hexValue?_hexDigit {n : Nat} (h : n < 16) : hexValue? (hexDigit n) = some n := by
  revert n
  decide

/-- A written unit is read. -/
theorem unit?_hexDigit {n : Nat} (h : n < 0x10000) :
    unit? (hexDigit (n / 4096 % 16)) (hexDigit (n / 256 % 16)) (hexDigit (n / 16 % 16))
      (hexDigit (n % 16)) = some n := by
  have below (m : Nat) : m % 16 < 16 := Nat.mod_lt m (by decide)
  simp only [unit?, hexValue?_hexDigit (below _), Option.bind_eq_bind, Option.bind_some,
    Option.pure_def, Option.some.injEq]
  omega

/-- A character in front of what is read. -/
def prepend (c : Char) (p : List Char × List Char) : List Char × List Char := (c :: p.1, p.2)

private theorem bind_prepend (c : Char) (r : Option (List Char × List Char)) :
    (do
      let (cs, rest) ← r
      return (c :: cs, rest)) = r.map (prepend c) := by
  cases r <;> rfl

/-- A unit that is no half of a pair is read as the character that it stands for. -/
theorem readString_unitEscape {n : Nat} (h : n < 0x10000) (single : n < 0xd800 ∨ 0xe000 ≤ n)
    (tail : List Char) :
    readString (unitEscape n ++ tail) = (readString tail).map (prepend (Char.ofNat n)) := by
  have high : ¬(0xd800 ≤ n ∧ n < 0xdc00) := by omega
  have low : ¬(0xdc00 ≤ n ∧ n < 0xe000) := by omega
  have half : ¬(0xd800 ≤ n ∧ n < 0xe000) := by omega
  simp only [unitEscape, List.cons_append, List.nil_append]
  by_cases escape : ∃ a b c d cs, tail = '\\' :: 'u' :: a :: b :: c :: d :: cs
  · obtain ⟨a, b, c, d, cs, rfl⟩ := escape
    rw [readString, unit?_hexDigit h, Option.bind_eq_bind, Option.bind_some, if_neg high,
      if_neg low]
    exact bind_prepend _ _
  · rw [readString, unit?_hexDigit h, Option.bind_eq_bind, Option.bind_some, if_neg half]
    · exact bind_prepend _ _
    · exact fun a b c d cs he ↦ escape ⟨a, b, c, d, cs, he⟩

/-- Two halves of a pair are read as the character that they stand for. -/
theorem readString_pair {v : Nat} (h : v < 0x100000) (tail : List Char) :
    readString (unitEscape (0xd800 + v / 0x400) ++ unitEscape (0xdc00 + v % 0x400) ++ tail) =
      (readString tail).map (prepend (Char.ofNat (0x10000 + v))) := by
  have high : 0xd800 ≤ 0xd800 + v / 0x400 ∧ 0xd800 + v / 0x400 < 0xdc00 := by omega
  have low : 0xdc00 ≤ 0xdc00 + v % 0x400 ∧ 0xdc00 + v % 0x400 < 0xe000 := by omega
  have joined : 0x10000 + (0xd800 + v / 0x400 - 0xd800) * 0x400 + (0xdc00 + v % 0x400 - 0xdc00) =
      0x10000 + v := by omega
  simp only [unitEscape, List.cons_append, List.nil_append]
  rw [readString, unit?_hexDigit (by omega), unit?_hexDigit (by omega), Option.bind_eq_bind,
    Option.bind_some, if_pos high, Option.bind_eq_bind, Option.bind_some, if_pos low, joined]
  exact bind_prepend _ _

/-- A letter after a backslash is read as the character that it stands for. -/
theorem readString_letter {l c : Char} (h : letterEscape? l = some c) (tail : List Char) :
    readString ('\\' :: l :: tail) = (readString tail).map (prepend c) := by
  have other : l ≠ 'u' := by
    rintro rfl
    cases h
  rw [readString, h, Option.bind_eq_bind, Option.bind_some]
  · exact bind_prepend _ _
  · exact fun _ _ _ _ _ _ _ _ _ hl ↦ absurd hl other
  · exact fun _ _ _ _ _ hl ↦ absurd hl other

/-- A printable character that is neither a quote nor a backslash is read as it is. -/
theorem readString_plain {c : Char} (quote : c ≠ '"') (backslash : c ≠ '\\')
    (printable : IsPrintable c) (tail : List Char) :
    readString (c :: tail) = (readString tail).map (prepend c) := by
  rw [readString]
  · rw [if_neg (Char.not_lt.mpr printable.1)]
    exact bind_prepend _ _
  · exact quote
  · exact fun _ _ _ _ _ _ _ _ _ hc ↦ absurd hc backslash
  · exact fun _ _ _ _ _ hc ↦ absurd hc backslash
  · exact fun _ _ hc ↦ absurd hc backslash

/-- A written character is read. -/
theorem Escaped.readString_append {c : Char} {w : List Char} (h : Escaped c w) (tail : List Char) :
    readString (w ++ tail) = (readString tail).map (prepend c) := by
  cases h with
  | letter reads => exact readString_letter reads tail
  | plain quote backslash printable => exact readString_plain quote backslash printable tail
  | unit small =>
    have read := readString_unitEscape small (toNat_lt_or_le c) tail
    rwa [Char.ofNat_toNat] at read
  | pair small value => exact value ▸ readString_pair small tail

/-- The characters of a written string are read up to its closing quote. -/
theorem readString_flatMap_escapeChar (cs rest : List Char) :
    readString (cs.flatMap escapeChar ++ '"' :: rest) = some (cs, rest) := by
  induction cs with
  | nil => rw [List.flatMap_nil, List.nil_append, readString]
  | cons c cs ih =>
    rw [List.flatMap_cons, List.append_assoc, (escaped_escapeChar c).readString_append, ih]
    rfl

/-! ### The range of written characters -/

/-- A digit is printable. -/
theorem isPrintable_hexDigit {n : Nat} (h : n < 16) : IsPrintable (hexDigit n) := by
  revert n
  decide

/-- A written unit is printable. -/
theorem printable_unitEscape (n : Nat) : Printable (unitEscape n) := by
  have digit (m : Nat) : IsPrintable (hexDigit (m % 16)) :=
    isPrintable_hexDigit (Nat.mod_lt m (by decide))
  exact .cons (by decide) (.cons (by decide) (.cons (digit _) (.cons (digit _)
    (.cons (digit _) (.cons (digit _) .nil)))))

/-- A written character is printable. -/
theorem Escaped.printable {c : Char} {w : List Char} (h : Escaped c w) : Printable w := by
  cases h with
  | letter reads printable => exact .cons (by decide) (.cons printable .nil)
  | plain quote backslash printable => exact .cons printable .nil
  | unit small => exact printable_unitEscape _
  | pair small value => exact .append (printable_unitEscape _) (printable_unitEscape _)

/-- A written string is printable. -/
theorem printable_writeString (s : String) : Printable (writeString s) := by
  have quote : IsPrintable '"' := by decide
  refine .append (.cons quote fun c hc ↦ ?_) (.cons quote .nil)
  obtain ⟨x, -, hx⟩ := List.mem_flatMap.mp hc
  exact (escaped_escapeChar x).printable c hx

end QueueAck.Json
