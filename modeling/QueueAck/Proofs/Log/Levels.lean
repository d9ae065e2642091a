import QueueAck.Log.Level
import QueueAck.Proofs.Named
import QueueAck.Proofs.Text.Numerals
import QueueAck.Proofs.Text.Words

/-!
# The texts that select a level

A text selects a level as a number or by a name (`Selects`), and reading accepts exactly these texts
(`readLevel_eq_ok_iff`). A name has no digits, so that no text is both, and a number with a sign, an
underscore or white space is neither (`level_grammar`).
-/

namespace QueueAck.Log

open Text

/-- A text selects a level. -/
inductive Selects (s : String) : Int → Prop where
  /-- As a number: decimal digits of any script, and not too many of them. -/
  | number (digits : List Nat) (some_digit : s ≠ "")
    (values : s.toList.map decimalValue? = digits.map some) (within : digits.length ≤ 4300) :
    Selects s (Nat.ofDigits 10 digits.reverse : Nat)
  /-- By a name, in any letter case and with white space around it. -/
  | name {name : String} {level : Int} (named : (name, level) ∈ namedLevels)
    (same : upper (trim s) = name) : Selects s level

/-- A text with a digit, and with a sign, an underscore or white space. -/
structure Adorned (s : String) : Prop where
  /-- There is a digit. -/
  digit : ∃ c ∈ s.toList, isDigit c = true
  /-- There is something else that numbers are written with. -/
  ornament : ∃ c ∈ s.toList, c = '+' ∨ c = '-' ∨ c = '_' ∨ isBlank c = true

variable {s name : String} {level : Int} {f : Failure}

/-- A text that selects no level is refused for its value. -/
theorem kind_of_readLevel_eq_error {s : String} (h : readLevel s = .error f) :
    f.kind = "ValueError" := by
  unfold readLevel at h
  split at h
  · obtain ⟨_, -, rfl⟩ := mapError_eq_error_iff.mp h
    rfl
  · cases named : namedLevels.lookup (Text.upper (Text.trim s)) with
    | none =>
      simp only [named, Except.error.injEq] at h
      exact h ▸ rfl
    | some level => simp [named] at h

/-! ### Numbers -/

/-- A text that is made of digits spells an integer when they are decimal and not too many. -/
theorem spells_iff_of_isDigit (some_digit : s ≠ "") (digits : ∀ c ∈ s.toList, isDigit c = true) :
    Spells s level ↔ ∃ ds : List Nat, s.toList.map decimalValue? = ds.map some ∧
      ds.length ≤ 4300 ∧ level = (Nat.ofDigits 10 ds.reverse : Nat) := by
  constructor
  · rintro ⟨before, sign, numeral, after, ds, text, padded, signed, run, within, padded_after⟩
    rw [text] at digits
    have solid {cs : List Char} (part : ∀ c ∈ cs, isDigit c = true)
        (padded : ∀ c ∈ cs, isPadding c = true) : cs = [] := by
      refine List.eq_nil_iff_forall_not_mem.mpr fun c hc ↦ ?_
      have blank : isBlank c = true := (Bool.and_eq_true_iff.mp (padded c hc)).1
      cases blank.symm.trans (isBlank_of_isDigit (part c hc))
    obtain rfl : before = [] := solid (fun c hc ↦ digits c (by simp [hc])) padded
    obtain rfl : after = [] := solid (fun c hc ↦ digits c (by simp [hc])) padded_after
    have joined : '_' ∉ numeral := fun h ↦ absurd (digits '_' (by simp [h])) (by decide)
    cases signed with
    | bare =>
      refine ⟨ds, ?_, within, congrArg Nat.cast (ofDigits_eq ds)⟩
      rw [text, List.nil_append, List.nil_append, List.append_nil, run.map_decimalValue? joined]
    | plus => exact absurd (digits '+' (by simp)) (by decide)
    | minus => exact absurd (digits '-' (by simp)) (by decide)
  · rintro ⟨ds, values, within, rfl⟩
    have nonempty : s.toList ≠ [] := mt String.toList_eq_nil_iff.mp some_digit
    refine ⟨[], [], s.toList, [], ds, by simp, by simp, ?_, numeral_of_map nonempty values, within,
      by simp⟩
    rw [← ofDigits_eq]
    exact .bare

/-- What has decimal values is made of digits. -/
theorem isDigit_of_map {cs : List Char} {ds : List Nat}
    (values : cs.map decimalValue? = ds.map some) : ∀ c ∈ cs, isDigit c = true := by
  intro c hc
  have value : decimalValue? c ∈ ds.map some := values ▸ List.mem_map_of_mem hc
  obtain ⟨d, -, value⟩ := List.mem_map.mp value
  simp [isDigit, isDecimalDigit, ← value]

/-- The decimal text of a number selects it. -/
theorem selects_repr {n : Nat} (short : n.repr.length ≤ 4300) : Selects n.repr n := by
  let digits := (Nat.toDigits 10 n).map fun c ↦ c.toNat - '0'.toNat
  have text : n.repr.toList = Nat.toDigits 10 n := by
    rw [Nat.repr_eq_ofList_toDigits, String.toList_ofList]
  have some_digit : n.repr ≠ "" := fun h ↦
    Nat.toDigits_ne_nil (text.symm.trans (String.toList_eq_nil_iff.mpr h))
  have values : n.repr.toList.map decimalValue? = digits.map some := by
    rw [text, List.map_map]
    exact List.map_congr_left fun c hc ↦
      decimalValue?_of_isDigit (Nat.isDigit_of_mem_toDigits (by decide) (by decide) hc)
  have within : digits.length ≤ 4300 := by
    rwa [List.length_map, ← text, String.length_toList]
  have value : Nat.ofDigits 10 digits.reverse = n := by rw [← ofDigits_eq, ofDigits_toDigits]
  have selects := Selects.number digits some_digit values within
  rwa [value] at selects

/-! ### Names -/

/-- Each name has one level. -/
theorem lookup_namedLevels_iff :
    namedLevels.lookup name = some level ↔ (name, level) ∈ namedLevels :=
  lookup_eq_some_iff (by decide)

/-- The names are made of letters. -/
theorem isAlpha_of_named (named : (name, level) ∈ namedLevels) :
    name.toList ≠ [] ∧ ∀ c ∈ name.toList, c.isAlpha = true := by
  have letters : namedLevels.all (fun p ↦ !p.1.toList.isEmpty && p.1.toList.all Char.isAlpha) := by
    decide
  simpa using List.all_eq_true.mp letters _ named

/-- A text that is read as a name has no digits. -/
theorem isDigit_of_named (named : (name, level) ∈ namedLevels) (same : upper (trim s) = name) :
    ∀ c ∈ s.toList, isDigit c = false := by
  intro c hc
  rw [← Bool.not_eq_true]
  intro digit
  have kept : c ∈ name.toList := same ▸ mem_upper_trim_of_isDigit digit hc
  cases digit.symm.trans (isDigit_of_isAlpha ((isAlpha_of_named named).2 c kept))

/-- A name in any ASCII letter case, with white space around it, selects its level. -/
theorem selects_of_toUpper {before word after : String} (named : (name, level) ∈ namedLevels)
    (same : word.toList.map Char.toUpper = name.toList)
    (blank : ∀ c ∈ before.toList, isBlank c = true)
    (blank_after : ∀ c ∈ after.toList, isBlank c = true) :
    Selects (before ++ word ++ after) level := by
  obtain ⟨some_letter, letters⟩ := isAlpha_of_named named
  have plain : ∀ c ∈ name.toList, Plain c := fun c hc ↦ plain_of_isAlpha (letters c hc)
  exact .name named (upper_trim_of_toUpper some_letter plain blank blank_after same)

/-! ### Reading -/

/-- Reading a text accepts exactly one that selects a level. -/
theorem readLevel_eq_ok_iff : readLevel s = .ok level ↔ Selects s level := by
  unfold readLevel
  split
  · next made =>
    obtain ⟨some_digit, made⟩ := made
    have digits : ∀ c ∈ s.toList, isDigit c = true := List.all_eq_true.mp made
    rw [mapError_eq_ok_iff, readInteger_eq_ok_iff, spells_iff_of_isDigit some_digit digits]
    constructor
    · rintro ⟨ds, values, within, rfl⟩
      exact .number ds some_digit values within
    · intro selects
      cases selects with
      | number ds _ values within => exact ⟨ds, values, within, rfl⟩
      | name named same =>
        obtain ⟨c, hc⟩ := List.exists_mem_of_ne_nil _ (mt String.toList_eq_nil_iff.mp some_digit)
        cases (digits c hc).symm.trans (isDigit_of_named named same c hc)
  · next other =>
    constructor
    · intro read
      cases found : namedLevels.lookup (upper (trim s)) with
      | none => simp [found] at read
      | some named =>
        rw [found] at read
        obtain rfl := Except.ok.inj read
        exact .name (lookup_namedLevels_iff.mp found) rfl
    · intro selects
      cases selects with
      | number ds some_digit values within =>
        exact absurd ⟨some_digit, List.all_eq_true.mpr (isDigit_of_map values)⟩ other
      | name named same => rw [same, lookup_namedLevels_iff.mpr named]

/-- A text with a digit and something else selects nothing. -/
theorem readLevel_of_mixed {c d : Char} (hc : c ∈ s.toList) (digit : isDigit c = true)
    (hd : d ∈ s.toList) (other : isDigit d = false) : readLevel s = .error (.unknownLevel s) := by
  unfold readLevel
  rw [if_neg fun made ↦ by cases other.symm.trans (List.all_eq_true.mp made.2 d hd)]
  cases found : namedLevels.lookup (upper (trim s)) with
  | none => rfl
  | some level =>
    cases digit.symm.trans (isDigit_of_named (lookup_namedLevels_iff.mp found) rfl c hc)

/-- An adorned number selects nothing. -/
theorem Adorned.readLevel_eq (h : Adorned s) : readLevel s = .error (.unknownLevel s) := by
  obtain ⟨c, hc, digit⟩ := h.digit
  obtain ⟨d, hd, ornament⟩ := h.ornament
  refine readLevel_of_mixed hc digit hd ?_
  rcases ornament with rfl | rfl | rfl | blank
  · decide
  · decide
  · decide
  · rw [← Bool.not_eq_true]
    intro digit
    cases blank.symm.trans (isBlank_of_isDigit digit)

/-- A level that is selected is not negative. -/
theorem Selects.nonneg (h : Selects s level) : 0 ≤ level := by
  have named_nonneg : ∀ p ∈ namedLevels, 0 ≤ p.2 := by decide
  cases h with
  | number => exact Int.natCast_nonneg _
  | name named => exact named_nonneg _ named

/-- Reading a level. It is found exactly when the text selects it, and all other texts are refused
for their value. So a number with at most 4300 digits is read back from its decimal text, and the
name of a level in any ASCII letter case and with white space around it; a number with a sign, an
underscore or white space is refused; and a level is never negative. -/
theorem level_grammar :
    (∀ s level, readLevel s = .ok level ↔ Selects s level) ∧
    (∀ s f, readLevel s = .error f → f.kind = "ValueError") ∧
    (∀ n : Nat, n.repr.length ≤ 4300 → readLevel n.repr = .ok n) ∧
    (∀ name level before word after, (name, level) ∈ namedLevels →
      word.toList.map Char.toUpper = name.toList →
      (∀ c ∈ before.toList, isBlank c = true) → (∀ c ∈ after.toList, isBlank c = true) →
      readLevel (before ++ word ++ after) = .ok level) ∧
    (∀ s, Adorned s → readLevel s = .error (.unknownLevel s)) ∧
    (∀ s level, readLevel s = .ok level → 0 ≤ level) := by
  refine ⟨fun s level ↦ readLevel_eq_ok_iff, fun s f ↦ kind_of_readLevel_eq_error, fun n short ↦ ?_,
    fun name level before word after named same blank blank_after ↦ ?_,
    fun s ↦ Adorned.readLevel_eq, fun s level read ↦ ?_⟩
  · exact readLevel_eq_ok_iff.mpr (selects_repr short)
  · exact readLevel_eq_ok_iff.mpr (selects_of_toUpper named same blank blank_after)
  · exact (readLevel_eq_ok_iff.mp read).nonneg

/-- Digits of another script are read, and so is a name in mixed letters between two kinds of white
space. A negative number is refused. -/
theorem level_grammar_mixed :
    readLevel "٤٢" = .ok 42 ∧ readLevel ("\u2003" ++ "wArNing" ++ "\n") = .ok 30 ∧
      readLevel "-10" = .error (.unknownLevel "-10") := by
  obtain ⟨accepted, -, -, named, adorned, -⟩ := level_grammar
  refine ⟨(accepted _ _).mpr ?_, ?_, adorned _ ?_⟩
  · exact .number [4, 2] (by decide) (by decide) (by decide)
  · exact named "WARNING" 30 _ _ _ (by decide) (by decide) (by simp; decide) (by simp; decide)
  · exact ⟨⟨'1', by decide, by decide⟩, ⟨'-', by decide, .inr (.inl rfl)⟩⟩

end QueueAck.Log
