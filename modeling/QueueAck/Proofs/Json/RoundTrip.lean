import Mathlib
import QueueAck.Proofs.Json.Strings
import QueueAck.Proofs.Text.Numerals

/-!
# Reading what was written

The text of a JSON value without doubles is read as that value, whatever follows it, as long as that
is no part of a number (`readValue_write`). The text is printable ASCII, so it stands on one line.
-/

namespace QueueAck.Json

/-! ### One step of the reader -/

section Reader

variable {fuel : Nat} {cs ds es : List Char} {c : Char} {x : Json} {xs : List Json} {k : String}
  {m : String × Json} {ms : List (String × Json)}

/-- What starts with no white space has none at the front. -/
theorem skipSpace_cons (h : isSpace c = false) (cs : List Char) :
    skipSpace (c :: cs) = c :: cs :=
  List.dropWhile_cons_of_neg (by simp [h])

/-- A name or a number is read where no string, array or object starts. -/
theorem readValue_scalar (space : isSpace c = false) (quote : c ≠ '"') (bracket : c ≠ '[')
    (brace : c ≠ '\x7b') : readValue (fuel + 1) (c :: cs) = readScalar (c :: cs) := by
  rw [readValue, skipSpace_cons space]
  split
  · next h => exact absurd (List.cons.inj h).1 quote
  · next h => exact absurd (List.cons.inj h).1 bracket
  · next h => exact absurd (List.cons.inj h).1 brace
  · rfl

/-- A string is read. -/
theorem readValue_string (s : String) (rest : List Char) :
    readValue (fuel + 1) (writeString s ++ rest) = some (.string s, rest) := by
  rw [readValue, writeString, List.cons_append, List.cons_append, skipSpace_cons (by decide)]
  simp only [List.append_assoc, List.singleton_append, readString_flatMap_escapeChar,
    Option.map_some, String.ofList_toList]

/-- An empty array is read. -/
theorem readValue_array_nil : readValue (fuel + 1) ('[' :: ']' :: cs) = some (.array [], cs) := by
  rw [readValue, skipSpace_cons (by decide)]
  simp only [skipSpace_cons (c := ']') (by decide)]

/-- An array is read item by item. -/
theorem readValue_array_cons (space : isSpace c = false) (bracket : c ≠ ']')
    (first : readValue fuel (c :: cs) = some (x, ds)) (others : readItems fuel ds = some (xs, es)) :
    readValue (fuel + 1) ('[' :: c :: cs) = some (.array (x :: xs), es) := by
  rw [readValue, skipSpace_cons (by decide)]
  simp only [skipSpace_cons space]
  split
  · next h => exact absurd (List.cons.inj h).1 bracket
  · simp [first, others]

/-- An empty object is read. -/
theorem readValue_object_nil :
    readValue (fuel + 1) ('\x7b' :: '\x7d' :: cs) = some (.object [], cs) := by
  rw [readValue, skipSpace_cons (by decide)]
  simp only [skipSpace_cons (c := '\x7d') (by decide)]

/-- An object is read member by member. -/
theorem readValue_object_cons (space : isSpace c = false) (brace : c ≠ '\x7d')
    (first : readMember fuel (c :: cs) = some (m, ds))
    (others : readMembers fuel ds = some (ms, es)) :
    readValue (fuel + 1) ('\x7b' :: c :: cs) = some (.object (m :: ms), es) := by
  rw [readValue, skipSpace_cons (by decide)]
  simp only [skipSpace_cons space]
  split
  · next h => exact absurd (List.cons.inj h).1 brace
  · simp [first, others]

/-- No further items are read. -/
theorem readItems_nil : readItems (fuel + 1) (']' :: cs) = some ([], cs) := by
  rw [readItems, skipSpace_cons (by decide)]
  rfl

/-- A further item is read. -/
theorem readItems_cons (first : readValue fuel cs = some (x, ds))
    (others : readItems fuel ds = some (xs, es)) :
    readItems (fuel + 1) (',' :: cs) = some (x :: xs, es) := by
  rw [readItems, skipSpace_cons (by decide)]
  simp [first, others]

/-- A member is read. -/
theorem readMember_of_readValue (value : readValue fuel cs = some (x, ds)) :
    readMember (fuel + 1) (writeString k ++ ':' :: cs) = some ((k, x), ds) := by
  rw [readMember, writeString, List.cons_append, List.cons_append, skipSpace_cons (by decide)]
  simp only [List.append_assoc, List.singleton_append, readString_flatMap_escapeChar]
  simp [skipSpace_cons (c := ':') (by decide), value]

/-- No further members are read. -/
theorem readMembers_nil : readMembers (fuel + 1) ('\x7d' :: cs) = some ([], cs) := by
  rw [readMembers, skipSpace_cons (by decide)]
  rfl

/-- A further member is read. -/
theorem readMembers_cons (first : readMember fuel cs = some (m, ds))
    (others : readMembers fuel ds = some (ms, es)) :
    readMembers (fuel + 1) (',' :: cs) = some (m :: ms, es) := by
  rw [readMembers, skipSpace_cons (by decide)]
  simp [first, others]

end Reader

/-! ### Integers -/

/-- Only zero is written with a zero in front. -/
theorem eq_zero_of_head?_toDigits {n : Nat} (h : (Nat.toDigits 10 n).head? = some '0') : n = 0 := by
  induction n using Nat.strongRecOn with
  | ind n ih =>
    rcases Nat.lt_or_ge n 10 with small | large
    · rw [Nat.toDigits_of_lt_base small, List.head?_cons, Option.some.injEq] at h
      exact Nat.digitChar_eq_zero.mp h
    · rw [Nat.toDigits_of_base_le (by decide) large,
        List.head?_append_of_ne_nil _ Nat.toDigits_ne_nil] at h
      have front : n / 10 = 0 := ih (n / 10) (by omega) h
      omega

/-- Digits without a zero in front may stand in front of a point. -/
theorem isWhole_cons {d : Char} {ds : List Char} (other : d ≠ '0')
    (digits : ∀ c ∈ d :: ds, c.isDigit = true) : isWhole (d :: ds) = true := by
  rw [isWhole, List.all_eq_true.mpr digits, Bool.and_true, bne_iff_ne]
  · exact other
  · exact fun zero ↦ absurd zero other

/-- The digits of a natural number may stand in front of a point. -/
theorem isWhole_toDigits (n : Nat) : isWhole (Nat.toDigits 10 n) = true := by
  have digits : ∀ c ∈ Nat.toDigits 10 n, c.isDigit = true :=
    fun _ ↦ Nat.isDigit_of_mem_toDigits (by decide) (by decide)
  by_cases zero : n = 0
  · rw [zero]
    rfl
  · obtain ⟨d, ds, written⟩ := List.exists_cons_of_ne_nil (Nat.toDigits_ne_nil (n := n) (b := 10))
    rw [written] at digits ⊢
    refine isWhole_cons ?_ digits
    rintro rfl
    exact zero (eq_zero_of_head?_toDigits (written ▸ rfl))

/-- The text of an integer is read as the integer. -/
theorem integer?_repr (i : Int) : integer? i.repr.toList = some i := by
  have whole : isWhole (Nat.toDigits 10 i.natAbs) = true := isWhole_toDigits i.natAbs
  rw [Text.toList_repr]
  split
  · next nonneg =>
    unfold integer?
    split
    · next ds h =>
      have minus : '-' ∈ Nat.toDigits 10 i.natAbs := by
        rw [List.nil_append] at h
        exact h ▸ List.mem_cons_self
      cases Nat.isDigit_of_mem_toDigits (by decide) (by decide) minus
    · rw [List.nil_append, if_pos whole, Nat.ofDigitChars_ten_toDigits, Int.natAbs_of_nonneg nonneg]
  · next neg =>
    rw [List.singleton_append, integer?, if_pos whole, Nat.ofDigitChars_ten_toDigits]
    exact congrArg some (by omega)

/-- No name starts with an integer. -/
theorem readScalar_of_integer? {cs : List Char} {i : Int}
    (h : integer? (cs.takeWhile isNumberChar) = some i) :
    readScalar cs = some (.int i, cs.dropWhile isNumberChar) := by
  unfold readScalar
  split
  · cases h
  · cases h
  · cases h
  · cases h
  · cases h
  · cases h
  · simp only [number?, h, Option.map_some]

/-- The text of an integer is not empty. -/
theorem repr_ne_nil (i : Int) : i.repr.toList ≠ [] := by
  rw [Text.toList_repr]
  exact List.append_ne_nil_of_right_ne_nil _ Nat.toDigits_ne_nil

/-- The text of an integer is made of characters of numbers. -/
theorem isNumberChar_of_mem_repr {i : Int} {c : Char} (h : c ∈ i.repr.toList) :
    isNumberChar c = true := by
  rw [Text.toList_repr, List.mem_append] at h
  rcases h with sign | digit
  · split at sign
    · cases sign
    · rw [List.mem_singleton.mp sign]
      rfl
  · simp [isNumberChar, Nat.isDigit_of_mem_toDigits (by decide) (by decide) digit]

/-- A character of numbers is no white space and starts no other value. -/
theorem of_isNumberChar {c : Char} (h : isNumberChar c = true) :
    isSpace c = false ∧ c ≠ '"' ∧ c ≠ '[' ∧ c ≠ '\x7b' := by
  refine ⟨?_, ?_, ?_, ?_⟩
  · rw [← Bool.not_eq_true]
    intro space
    simp only [isSpace, Bool.or_eq_true, beq_iff_eq] at space
    rcases space with ((rfl | rfl) | rfl) | rfl <;> cases h
  all_goals
    rintro rfl
    cases h

/-- An integer is read in front of what is no part of a number. -/
theorem readValue_int (fuel : Nat) (i : Int) {rest : List Char}
    (ends : ∀ c ∈ rest.head?, isNumberChar c = false) :
    readValue (fuel + 1) (i.repr.toList ++ rest) = some (.int i, rest) := by
  have number : ∀ c ∈ i.repr.toList, isNumberChar c = true := fun _ ↦ isNumberChar_of_mem_repr
  have read := readScalar_of_integer? ((Text.takeWhile_run number ends).symm ▸ integer?_repr i)
  rw [Text.dropWhile_run number ends] at read
  obtain ⟨c, cs, text⟩ := List.exists_cons_of_ne_nil (repr_ne_nil i)
  rw [text] at number read ⊢
  obtain ⟨space, quote, bracket, brace⟩ := of_isNumberChar (number c List.mem_cons_self)
  exact (readValue_scalar space quote bracket brace).trans read

/-! ### Values -/

mutual

/-- No double is in the value. -/
def Exact : Json → Prop
  | .null | .bool _ | .int _ | .string _ => True
  | .real _ => False
  | .array xs => ItemsExact xs
  | .object ms => MembersExact ms

/-- No double is in the items. -/
def ItemsExact : List Json → Prop
  | [] => True
  | x :: xs => x.Exact ∧ ItemsExact xs

/-- No double is in the members. -/
def MembersExact : List (String × Json) → Prop
  | [] => True
  | (_, x) :: ms => x.Exact ∧ MembersExact ms

end

/-- What follows a value is no part of a number. -/
def Ends (rest : List Char) : Prop := ∀ c ∈ rest.head?, isNumberChar c = false

/-- Further items and a closing bracket are no part of a number. -/
theorem ends_writeItems (xs : List Json) (rest : List Char) :
    Ends (writeItems xs ++ ']' :: rest) := by
  cases xs <;> rintro c ⟨⟩ <;> rfl

/-- Further members and a closing brace are no part of a number. -/
theorem ends_writeMembers (ms : List (String × Json)) (rest : List Char) :
    Ends (writeMembers ms ++ '\x7d' :: rest) := by
  cases ms <;> rintro c ⟨⟩ <;> rfl

/-- A value starts neither with white space nor with a closing bracket. -/
theorem exists_cons_write {j : Json} (h : j.Exact) :
    ∃ c cs, j.write = c :: cs ∧ isSpace c = false ∧ c ≠ ']' := by
  have start {c : Char} (cs : List Char) (hc : isSpace c = false) (other : c ≠ ']') :
      ∃ d ds, c :: cs = d :: ds ∧ isSpace d = false ∧ d ≠ ']' := ⟨c, cs, rfl, hc, other⟩
  cases j with
  | null => exact start _ rfl (by decide)
  | bool b => cases b <;> exact start _ rfl (by decide)
  | int i =>
    obtain ⟨c, cs, text⟩ := List.exists_cons_of_ne_nil (repr_ne_nil i)
    have number : isNumberChar c = true :=
      isNumberChar_of_mem_repr (text ▸ List.mem_cons_self : c ∈ i.repr.toList)
    refine ⟨c, cs, text, (of_isNumberChar number).1, ?_⟩
    rintro rfl
    cases number
  | real d => exact h.elim
  | string s => exact start _ rfl (by decide)
  | array xs => cases xs <;> exact start _ rfl (by decide)
  | object ms => cases ms <;> exact start _ rfl (by decide)

mutual

/-- A written value is read in front of what is no part of a number. -/
theorem readValue_write : ∀ (j : Json) {fuel : Nat} {rest : List Char}, j.Exact →
    2 * j.write.length ≤ fuel → Ends rest → readValue fuel (j.write ++ rest) = some (j, rest)
  | j, 0, rest, h, enough, _ => by
    obtain ⟨c, cs, text, -⟩ := exists_cons_write h
    simp [text] at enough
  | .null, fuel + 1, rest, _, _, _ => readValue_scalar rfl (by decide) (by decide) (by decide)
  | .bool true, fuel + 1, rest, _, _, _ => readValue_scalar rfl (by decide) (by decide) (by decide)
  | .bool false, fuel + 1, rest, _, _, _ =>
    readValue_scalar rfl (by decide) (by decide) (by decide)
  | .int i, fuel + 1, rest, _, _, ends => readValue_int fuel i ends
  | .string s, fuel + 1, rest, _, _, _ => readValue_string s rest
  | .array [], fuel + 1, rest, _, _, _ => readValue_array_nil
  | .array (x :: xs), fuel + 1, rest, ⟨hx, hxs⟩, enough, _ => by
    simp only [write, List.length_append, List.length_cons, List.length_nil] at enough
    obtain ⟨c, cs, text, space, bracket⟩ := exists_cons_write hx
    have first := readValue_write x hx (by omega : 2 * x.write.length ≤ fuel)
      (ends_writeItems xs rest)
    have others : readItems fuel (writeItems xs ++ ']' :: rest) = some (xs, rest) :=
      readItems_write xs hxs (by omega)
    rw [text] at first
    have read := readValue_array_cons space bracket first others
    simpa [write, text] using read
  | .object [], fuel + 1, rest, _, _, _ => readValue_object_nil
  | .object ((k, x) :: ms), fuel + 2, rest, ⟨hx, hms⟩, enough, _ => by
    simp only [write, List.length_append, List.length_cons, List.length_nil] at enough
    have value := readValue_write x hx (by omega : 2 * x.write.length ≤ fuel)
      (ends_writeMembers ms rest)
    have first := readMember_of_readValue (k := k) value
    have others : readMembers (fuel + 1) (writeMembers ms ++ '\x7d' :: rest) = some (ms, rest) :=
      readMembers_write ms hms (by omega)
    have read := readValue_object_cons (by decide) (by decide) first others
    simpa [write, writeString] using read
  | .object ((k, x) :: ms), 1, rest, _, enough, _ => by
    simp [write, writeString] at enough
    omega

/-- Written items are read up to the closing bracket. -/
theorem readItems_write : ∀ (xs : List Json) {fuel : Nat} {rest : List Char}, ItemsExact xs →
    2 * (writeItems xs).length + 1 ≤ fuel →
    readItems fuel (writeItems xs ++ ']' :: rest) = some (xs, rest)
  | [], fuel + 1, rest, _, _ => readItems_nil
  | x :: xs, fuel + 1, rest, ⟨hx, hxs⟩, enough => by
    simp only [writeItems, List.length_append, List.length_cons] at enough
    have first := readValue_write x hx (by omega : 2 * x.write.length ≤ fuel)
      (ends_writeItems xs rest)
    have others : readItems fuel (writeItems xs ++ ']' :: rest) = some (xs, rest) :=
      readItems_write xs hxs (by omega)
    have read := readItems_cons first others
    simpa [writeItems] using read

/-- Written members are read up to the closing brace. -/
theorem readMembers_write : ∀ (ms : List (String × Json)) {fuel : Nat} {rest : List Char},
    MembersExact ms → 2 * (writeMembers ms).length + 1 ≤ fuel →
    readMembers fuel (writeMembers ms ++ '\x7d' :: rest) = some (ms, rest)
  | [], fuel + 1, rest, _, _ => readMembers_nil
  | (k, x) :: ms, fuel + 2, rest, ⟨hx, hms⟩, enough => by
    simp only [writeMembers, List.length_append, List.length_cons] at enough
    have value := readValue_write x hx (by omega : 2 * x.write.length ≤ fuel)
      (ends_writeMembers ms rest)
    have first := readMember_of_readValue (k := k) value
    have others : readMembers (fuel + 1) (writeMembers ms ++ '\x7d' :: rest) = some (ms, rest) :=
      readMembers_write ms hms (by omega)
    have read := readMembers_cons first others
    simpa [writeMembers] using read
  | (k, x) :: ms, 1, rest, _, enough => by
    simp [writeMembers] at enough

end

/-- The text of a value without doubles is read as the value. -/
theorem parse?_render {j : Json} (h : j.Exact) : parse? j.render = some j := by
  have ends : Ends [] := by rintro _ ⟨⟩
  have read := readValue_write j h (Nat.le_add_right (2 * j.write.length) 2) ends
  rw [List.append_nil] at read
  rw [parse?, render, String.toList_ofList, read]
  rfl

/-! ### The range of written texts -/

/-- The text of an integer is printable. -/
theorem printable_repr (i : Int) : Printable i.repr.toList := by
  have digit {c : Char} (h : c.isDigit = true) : IsPrintable c := by
    obtain ⟨lower, upper⟩ := Char.isDigit_iff_toNat.mp h
    have low : ' '.toNat ≤ c.toNat := Nat.le_trans (by decide) lower
    exact ⟨low, Nat.le_trans upper (by decide : '9'.toNat ≤ '~'.toNat)⟩
  rw [Text.toList_repr]
  refine .append ?_ fun c hc ↦ digit (Nat.isDigit_of_mem_toDigits (by decide) (by decide) hc)
  split
  · exact .nil
  · exact .cons (by decide) .nil

mutual

/-- A written value is printable. -/
theorem printable_write : ∀ j : Json, j.Exact → Printable j.write
  | .null, _ => .cons (by decide) (.cons (by decide) (.cons (by decide) (.cons (by decide) .nil)))
  | .bool true, _ =>
    .cons (by decide) (.cons (by decide) (.cons (by decide) (.cons (by decide) .nil)))
  | .bool false, _ =>
    .cons (by decide) (.cons (by decide) (.cons (by decide) (.cons (by decide)
      (.cons (by decide) .nil))))
  | .int i, _ => printable_repr i
  | .string s, _ => printable_writeString s
  | .array [], _ => .cons (by decide) (.cons (by decide) .nil)
  | .array (x :: xs), ⟨hx, hxs⟩ =>
    .append (.append (.cons (by decide) (printable_write x hx)) (printable_writeItems xs hxs))
      (.cons (by decide) .nil)
  | .object [], _ => .cons (by decide) (.cons (by decide) .nil)
  | .object ((k, x) :: ms), ⟨hx, hms⟩ =>
    .append (.append (.append (.cons (by decide) (printable_writeString k))
      (.cons (by decide) (printable_write x hx))) (printable_writeMembers ms hms))
      (.cons (by decide) .nil)

/-- Written items are printable. -/
theorem printable_writeItems : ∀ xs : List Json, ItemsExact xs → Printable (writeItems xs)
  | [], _ => .nil
  | x :: xs, ⟨hx, hxs⟩ =>
    .append (.cons (by decide) (printable_write x hx)) (printable_writeItems xs hxs)

/-- Written members are printable. -/
theorem printable_writeMembers : ∀ ms : List (String × Json), MembersExact ms →
    Printable (writeMembers ms)
  | [], _ => .nil
  | (k, x) :: ms, ⟨hx, hms⟩ =>
    .append (.append (.cons (by decide) (printable_writeString k))
      (.cons (by decide) (printable_write x hx))) (printable_writeMembers ms hms)

end

/-- The text of a value without doubles is printable. -/
theorem printable_render {j : Json} (h : j.Exact) : Printable j.render.toList := by
  rw [render, String.toList_ofList]
  exact printable_write j h

end QueueAck.Json
