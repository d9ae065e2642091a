import Mathlib
import QueueAck.Proofs.Results
import QueueAck.Proofs.Text.Words
import QueueAck.Text.Integer

/-!
# Integers in text, as a grammar

What a text has to look like to spell an integer, said without a reader: white space, a sign or
none, a run of decimal digits of any script with single underscores between them, white space.
Reading accepts exactly the texts that spell an integer (`readInteger_eq_ok_iff`), and the decimal
text of an integer spells it, with white space around it as well (`spells_of_padded_repr`).
-/

namespace QueueAck.Text

/-- A run of digits, single underscores between them, and the values of its digits. -/
inductive Numeral : List Char → List Nat → Prop where
  /-- A single digit. -/
  | digit {c : Char} {d : Nat} (value : decimalValue? c = some d) : Numeral [c] [d]
  /-- A digit in front of a run. -/
  | next {c : Char} {d : Nat} {cs : List Char} {ds : List Nat} (value : decimalValue? c = some d)
    (rest : Numeral cs ds) : Numeral (c :: cs) (d :: ds)
  /-- A digit and an underscore in front of a run. -/
  | apart {c : Char} {d : Nat} {cs : List Char} {ds : List Nat} (value : decimalValue? c = some d)
    (rest : Numeral cs ds) : Numeral (c :: '_' :: cs) (d :: ds)

/-- A sign in front of a natural number, and the integer that the two stand for. -/
inductive Signed (n : Nat) : List Char → Int → Prop where
  /-- There is no sign. -/
  | bare : Signed n [] n
  /-- The integer is not negative. -/
  | plus : Signed n ['+'] n
  /-- The integer is not positive. -/
  | minus : Signed n ['-'] (-n)

/-- The text spells the integer. -/
inductive Spells (s : String) (i : Int) : Prop where
  /-- White space, a sign, a run of digits that is not too long, and white space. -/
  | intro (before sign numeral after : List Char) (digits : List Nat)
    (text : s.toList = before ++ (sign ++ (numeral ++ after)))
    (padded : ∀ c ∈ before, isPadding c = true) (signed : Signed (ofDigits digits) sign i)
    (run : Numeral numeral digits) (within : digits.length ≤ digitLimit)
    (padded_after : ∀ c ∈ after, isPadding c = true)

/-- White space has no decimal value. -/
theorem decimalValue?_of_isBlank {c : Char} (h : isBlank c = true) : decimalValue? c = none := by
  have apart : ∀ z ∈ zeroDigits, ∀ r ∈ blankRanges, z + 10 ≤ r.1 ∨ r.2 < z := by decide
  obtain ⟨r, hr, lower, upper⟩ := Ranges.has_eq_true_iff.mp h
  rw [decimalValue?, Option.map_eq_none_iff, List.find?_eq_none]
  intro z hz
  have hzr := apart z hz r hr
  simp only [Bool.and_eq_true, decide_eq_true_eq]
  omega

/-- What surrounds a number is no part of it. -/
theorem isDigitOrUnderscore_of_isPadding {c : Char} (h : isPadding c = true) :
    isDigitOrUnderscore c = false := by
  have blank : isBlank c = true := (Bool.and_eq_true_iff.mp h).1
  have other : c ≠ '_' := by
    rintro rfl
    exact absurd blank (by decide)
  simp [isDigitOrUnderscore, isDecimalDigit, decimalValue?_of_isBlank blank, other]

namespace Numeral

variable {cs : List Char} {ds : List Nat}

/-- A run starts with a digit. -/
theorem exists_cons (h : Numeral cs ds) :
    ∃ c d rest, cs = c :: rest ∧ decimalValue? c = some d := by
  cases h with
  | digit value => exact ⟨_, _, _, rfl, value⟩
  | next value => exact ⟨_, _, _, rfl, value⟩
  | apart value => exact ⟨_, _, _, rfl, value⟩

/-- A run is made of digits and underscores. -/
theorem forall_mem (h : Numeral cs ds) : ∀ c ∈ cs, isDigitOrUnderscore c = true := by
  have digit {c : Char} {d : Nat} (value : decimalValue? c = some d) :
      isDigitOrUnderscore c = true := by
    simp [isDigitOrUnderscore, isDecimalDigit, value]
  induction h with
  | digit value => simpa using digit value
  | next value rest ih => exact List.forall_mem_cons.mpr ⟨digit value, ih⟩
  | apart value rest ih =>
    exact List.forall_mem_cons.mpr ⟨digit value, List.forall_mem_cons.mpr ⟨by decide, ih⟩⟩

end Numeral

/-- The values of a run of digits are read. -/
theorem digitValues?_eq_some_iff {cs : List Char} {ds : List Nat} :
    digitValues? cs = some ds ↔ Numeral cs ds := by
  constructor
  · intro h
    fun_induction digitValues? cs generalizing ds with
    | case1 => cases h
    | case2 c =>
      obtain ⟨d, value, rfl⟩ := Option.map_eq_some_iff.mp h
      exact .digit value
    | case3 c cs ih =>
      obtain ⟨d, value, h⟩ := Option.bind_eq_some_iff.mp h
      obtain ⟨ds, rest, rfl⟩ := Option.map_eq_some_iff.mp h
      exact .apart value (ih rest)
    | case4 c cs _ _ ih =>
      obtain ⟨d, value, h⟩ := Option.bind_eq_some_iff.mp h
      obtain ⟨ds, rest, rfl⟩ := Option.map_eq_some_iff.mp h
      exact .next value (ih rest)
  · intro h
    induction h with
    | digit value => rw [digitValues?, value, Option.map_some]
    | @next c d cs ds value rest ih =>
      obtain ⟨c', d', rest', rfl, value'⟩ := rest.exists_cons
      have digit : c' ≠ '_' := by
        rintro rfl
        cases value'
      rw [digitValues?, value, Option.bind_some, ih, Option.map_some]
      · simp
      · rintro _ ⟨⟩
        exact digit rfl
    | apart value rest ih => rw [digitValues?, value, Option.bind_some, ih, Option.map_some]

/-- Reading digits accepts exactly a run that is not too long, with white space after it. -/
theorem readUnsigned_eq_ok_iff {cs : List Char} {n : Nat} :
    readUnsigned cs = .ok n ↔ ∃ numeral after ds, cs = numeral ++ after ∧ Numeral numeral ds ∧
      ds.length ≤ digitLimit ∧ (∀ c ∈ after, isPadding c = true) ∧ n = ofDigits ds := by
  constructor
  · intro h
    unfold readUnsigned at h
    split at h
    · cases h
    · next ds run =>
      split at h
      · cases h
      · next within =>
        split at h
        · next padded =>
          exact ⟨_, _, ds, List.takeWhile_append_dropWhile.symm, digitValues?_eq_some_iff.mp run,
            Nat.not_lt.mp within, List.all_eq_true.mp padded, (Except.ok.inj h).symm⟩
        · cases h
  · rintro ⟨numeral, after, ds, rfl, run, within, padded, rfl⟩
    have ends : ∀ c ∈ after.head?, isDigitOrUnderscore c = false := fun c hc ↦
      isDigitOrUnderscore_of_isPadding (padded c (List.mem_of_mem_head? hc))
    unfold readUnsigned
    rw [takeWhile_run run.forall_mem ends, dropWhile_run run.forall_mem ends,
      digitValues?_eq_some_iff.mpr run]
    dsimp only
    rw [if_neg (Nat.not_lt.mpr within), if_pos (List.all_eq_true.mpr padded)]

/-- Reading a sign and digits accepts a sign in front of what is read without one. -/
theorem readSigned_eq_ok_iff {cs : List Char} {i : Int} :
    readSigned cs = .ok i ↔ ∃ sign rest n, cs = sign ++ rest ∧ Signed n sign i ∧
      readUnsigned rest = .ok n := by
  constructor
  · intro h
    unfold readSigned at h
    split at h
    · next cs =>
      obtain ⟨_, lifted, rfl⟩ := map_eq_ok_iff.mp h
      obtain ⟨n, read, ⟨⟩⟩ := bind_eq_ok_iff.mp lifted
      exact ⟨['-'], cs, n, rfl, .minus, read⟩
    · next cs =>
      obtain ⟨n, read, rfl⟩ := map_eq_ok_iff.mp h
      exact ⟨['+'], cs, n, rfl, .plus, read⟩
    · obtain ⟨n, read, rfl⟩ := map_eq_ok_iff.mp h
      exact ⟨[], _, n, rfl, .bare, read⟩
  · rintro ⟨sign, rest, n, rfl, signed, read⟩
    cases signed with
    | plus => rw [List.singleton_append, readSigned, read]; rfl
    | minus => rw [List.singleton_append, readSigned, read]; rfl
    | bare =>
      obtain ⟨numeral, after, ds, rfl, run, -⟩ := readUnsigned_eq_ok_iff.mp read
      obtain ⟨c, d, tail, rfl, value⟩ := run.exists_cons
      rw [List.nil_append, List.cons_append] at *
      rw [readSigned, read]
      · rfl
      · rintro _ ⟨⟩
        cases value
      · rintro _ ⟨⟩
        cases value

/-- Reading an integer accepts exactly the texts that spell one. -/
theorem readInteger_eq_ok_iff {s : String} {i : Int} : readInteger s = .ok i ↔ Spells s i := by
  rw [readInteger, readSigned_eq_ok_iff]
  constructor
  · rintro ⟨sign, rest, n, split, signed, read⟩
    obtain ⟨numeral, after, ds, rfl, run, within, padded, rfl⟩ := readUnsigned_eq_ok_iff.mp read
    refine ⟨s.toList.takeWhile isPadding, sign, numeral, after, ds, ?_,
      fun c ↦ List.mem_takeWhile_imp, signed, run, within, padded⟩
    rw [← split, List.takeWhile_append_dropWhile]
  · rintro ⟨before, sign, numeral, after, ds, text, padded, signed, run, within, padded_after⟩
    refine ⟨sign, numeral ++ after, _, ?_, signed,
      readUnsigned_eq_ok_iff.mpr ⟨numeral, after, ds, rfl, run, within, padded_after, rfl⟩⟩
    obtain ⟨c, d, tail, rfl, value⟩ := run.exists_cons
    have starts : isPadding c = false := by
      rw [← Bool.not_eq_true]
      intro padding
      have blank := (Bool.and_eq_true_iff.mp padding).1
      cases value.symm.trans (decimalValue?_of_isBlank blank)
    rw [text, List.dropWhile_append_of_pos padded]
    cases signed with
    | bare => rw [List.nil_append, List.cons_append, List.dropWhile_cons_of_neg (by simp [starts])]
    | plus => rw [List.singleton_append, List.dropWhile_cons_of_neg (by decide)]
    | minus => rw [List.singleton_append, List.dropWhile_cons_of_neg (by decide)]

/-! ### Digits alone -/

/-- Decimal digits alone are a run. -/
theorem numeral_of_map {cs : List Char} {ds : List Nat} (some_digit : cs ≠ [])
    (values : cs.map decimalValue? = ds.map some) : Numeral cs ds := by
  induction cs generalizing ds with
  | nil => exact absurd rfl some_digit
  | cons c cs ih =>
    obtain _ | ⟨d, ds⟩ := ds
    · cases values
    · obtain ⟨value, values⟩ := List.cons_eq_cons.mp values
      cases cs with
      | nil =>
        obtain rfl : ds = [] := by simpa using values.symm
        exact .digit value
      | cons => exact .next value (ih (List.cons_ne_nil _ _) values)

/-- A run without underscores is made of decimal digits. -/
theorem Numeral.map_decimalValue? {cs : List Char} {ds : List Nat} (h : Numeral cs ds)
    (plain : '_' ∉ cs) : cs.map decimalValue? = ds.map some := by
  induction h with
  | digit value => rw [List.map_singleton, value, List.map_singleton]
  | next value rest ih =>
    rw [List.map_cons, value, ih (mt (List.mem_cons_of_mem _) plain), List.map_cons]
  | apart value rest => exact absurd (List.mem_cons_of_mem _ List.mem_cons_self) plain

/-- Digits stand for the number that they are the digits of to base ten. -/
theorem ofDigits_eq (ds : List Nat) : ofDigits ds = Nat.ofDigits 10 ds.reverse := by
  induction ds using List.reverseRecOn with
  | nil => rfl
  | append_singleton ds d ih =>
    rw [List.reverse_append, List.reverse_singleton, List.singleton_append, Nat.ofDigits_cons, ← ih,
      ofDigits, List.foldl_append]
    exact Nat.add_comm _ _

/-! ### Decimal texts -/

/-- An ASCII digit has the value that its position gives it. -/
theorem decimalValue?_of_isDigit {c : Char} (h : c.isDigit = true) :
    decimalValue? c = some (c.toNat - '0'.toNat) := by
  obtain ⟨lower, upper⟩ := Char.isDigit_iff_toNat.mp h
  have lower : 48 ≤ c.toNat := lower
  have upper : c.toNat < 58 := Nat.lt_succ_of_le upper
  unfold decimalValue? zeroDigits
  rw [List.find?_cons_of_pos (by simp [lower, upper])]
  rfl

/-- ASCII digits are a run. -/
theorem numeral_of_isDigit {cs : List Char} (some_digit : cs ≠ [])
    (h : ∀ c ∈ cs, c.isDigit = true) : Numeral cs (cs.map fun c ↦ c.toNat - '0'.toNat) := by
  refine numeral_of_map some_digit ?_
  rw [List.map_map]
  exact List.map_congr_left fun c hc ↦ decimalValue?_of_isDigit (h c hc)

/-- The digits of a number stand for it. -/
theorem ofDigits_toDigits (n : Nat) :
    ofDigits ((Nat.toDigits 10 n).map fun c ↦ c.toNat - '0'.toNat) = n := by
  rw [ofDigits, List.foldl_map, ← Nat.ofDigitChars_eq_foldl, Nat.ofDigitChars_ten_toDigits]

/-- A number below the limit does not have too many digits. -/
theorem length_toDigits_le {n : Nat} (h : n < writeLimit) :
    (Nat.toDigits 10 n).length ≤ digitLimit := by
  have positive : 0 < digitLimit := by simp [digitLimit]
  unfold writeLimit at h
  -- the limit itself is too large to be computed
  generalize digitLimit = k at h positive ⊢
  exact Nat.toDigits_length 10 n k positive h

/-- The decimal text of an integer is a minus sign, if it is negative, and digits. -/
theorem toList_repr (i : Int) :
    i.repr.toList = (if 0 ≤ i then [] else ['-']) ++ Nat.toDigits 10 i.natAbs := by
  have digits : i.natAbs.repr.toList = Nat.toDigits 10 i.natAbs := by
    rw [Nat.repr_eq_ofList_toDigits, String.toList_ofList]
  rw [Int.repr_eq_if]
  split
  · next nonneg =>
    have value : i.toNat = i.natAbs := by omega
    rw [value, digits, List.nil_append]
  · next neg =>
    have value : (-i).toNat = i.natAbs := by omega
    rw [value, String.toList_append, digits]
    rfl

/-- The sign of the decimal text is that of the integer. -/
theorem signed_repr (i : Int) : Signed i.natAbs (if 0 ≤ i then [] else ['-']) i := by
  split
  · next nonneg =>
    obtain ⟨n, rfl⟩ := Int.eq_ofNat_of_zero_le nonneg
    exact .bare
  · next neg =>
    obtain ⟨n, rfl⟩ : ∃ n : Nat, i = -n := ⟨i.natAbs, by omega⟩
    simpa using .minus

/-- The decimal text of an integer that is not too large spells it, also with white space around
it. -/
theorem spells_of_padded_repr {i : Int} (h : i.natAbs < writeLimit) {before after : String}
    (padded : ∀ c ∈ before.toList, isPadding c = true)
    (padded_after : ∀ c ∈ after.toList, isPadding c = true) :
    Spells (before ++ i.repr ++ after) i := by
  have short : (Nat.toDigits 10 i.natAbs).length ≤ digitLimit := length_toDigits_le h
  have digits : ∀ c ∈ Nat.toDigits 10 i.natAbs, c.isDigit = true := fun _ hc ↦
    Nat.isDigit_of_mem_toDigits (by decide) (by decide) hc
  refine ⟨before.toList, if 0 ≤ i then [] else ['-'], _, after.toList, _, ?_, padded, ?_,
    numeral_of_isDigit Nat.toDigits_ne_nil digits, ?_, padded_after⟩
  · rw [String.toList_append, String.toList_append, toList_repr]
    simp only [List.append_assoc]
  · rw [ofDigits_toDigits]
    exact signed_repr i
  · exact (List.length_map _).trans_le short

end QueueAck.Text
