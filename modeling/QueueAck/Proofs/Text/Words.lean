import Mathlib
import QueueAck.Text.Classes
import QueueAck.Text.Case

/-!
# Words with white space around them

The longest run of characters of a kind at the front of a list are those in front of a rest that
does not start with one (`takeWhile_run`, `dropWhile_run`). So white space around a word is trimmed
(`trim_padded`), and a word in any ASCII letter case, with white space around it, is read as the one
in small letters (`lower_trim_of_toLower`) or in capitals (`upper_trim_of_toUpper`). Digits have no
letter case: one that stands in a text stands in what is read as well
(`mem_upper_trim_of_isDigit`).
-/

namespace QueueAck.Text

section Runs

variable {α : Type} {p : α → Bool} {run rest : List α}

/-- What follows the run is left. -/
theorem dropWhile_run (kind : ∀ c ∈ run, p c = true) (ends : ∀ c ∈ rest.head?, p c = false) :
    (run ++ rest).dropWhile p = rest := by
  rw [List.dropWhile_append_of_pos kind]
  cases rest with
  | nil => rfl
  | cons c cs => exact List.dropWhile_cons_of_neg (by simp [ends c rfl])

/-- The run is taken. -/
theorem takeWhile_run (kind : ∀ c ∈ run, p c = true) (ends : ∀ c ∈ rest.head?, p c = false) :
    (run ++ rest).takeWhile p = run := by
  rw [List.takeWhile_append_of_pos kind]
  cases rest with
  | nil => exact List.append_nil run
  | cons c cs => rw [List.takeWhile_cons_of_neg (by simp [ends c rfl]), List.append_nil]

end Runs

/-- White space around a word is trimmed. -/
theorem trim_padded {before word after : String} (some_letter : word.toList ≠ [])
    (blank : ∀ c ∈ before.toList, isBlank c = true)
    (solid : ∀ c ∈ word.toList, isBlank c = false)
    (blank_after : ∀ c ∈ after.toList, isBlank c = true) :
    trim (before ++ word ++ after) = word := by
  have front : (before.toList ++ (word.toList ++ after.toList)).dropWhile isBlank =
      word.toList ++ after.toList := by
    refine dropWhile_run blank fun c hc ↦ solid c ?_
    rw [List.head?_append_of_ne_nil _ some_letter] at hc
    exact List.mem_of_mem_head? hc
  have back : (after.toList.reverse ++ word.toList.reverse).dropWhile isBlank =
      word.toList.reverse :=
    dropWhile_run (fun c hc ↦ blank_after c (List.mem_reverse.mp hc)) fun c hc ↦
      solid c (List.mem_reverse.mp (List.mem_of_mem_head? hc))
  rw [trim, String.toList_append, String.toList_append, trimChars, List.append_assoc, front,
    List.reverse_append, back, List.reverse_reverse, String.ofList_toList]

/-- A plain character is ASCII and no white space. -/
abbrev Plain (c : Char) : Prop := c.toNat < 0x80 ∧ isBlank c = false

private theorem toNat_of_isAlpha {c : Char} (h : c.isAlpha = true) :
    'A'.toNat ≤ c.toNat ∧ c.toNat ≤ 'z'.toNat := by
  simp only [Char.isAlpha, Char.isUpper, Char.isLower, ge_iff_le, Bool.or_eq_true,
    Bool.and_eq_true, decide_eq_true_eq] at h
  change ('A'.toNat ≤ c.toNat ∧ c.toNat ≤ 'Z'.toNat) ∨
    ('a'.toNat ≤ c.toNat ∧ c.toNat ≤ 'z'.toNat) at h
  rcases h with ⟨lower, upper⟩ | ⟨lower, upper⟩
  · exact ⟨lower, upper.trans (by decide)⟩
  · exact ⟨.trans (by decide) lower, upper⟩

/-- ASCII letters are plain. -/
theorem plain_of_isAlpha {c : Char} (h : c.isAlpha = true) : Plain c := by
  have apart : ∀ r ∈ blankRanges, r.2 < 'A'.toNat ∨ 'z'.toNat < r.1 := by decide
  have last : 'z'.toNat < 0x80 := by decide
  have bounds := toNat_of_isAlpha h
  refine ⟨by omega, ?_⟩
  rw [← Bool.not_eq_true, isBlank, Ranges.has_eq_true_iff]
  rintro ⟨r, hr, lower, upper⟩
  have hr := apart r hr
  omega

/-- A map that moves letters only leads to plain characters from plain ones only. -/
private theorem plain_of_map {f : Char → Char} {word value : List Char}
    (moves : ∀ c, c.isAlpha = true ∨ f c = c) (plain : ∀ c ∈ value, Plain c)
    (same : word.map f = value) : ∀ c ∈ word, Plain c := by
  intro c hc
  rcases moves c with letter | kept
  · exact plain_of_isAlpha letter
  · exact kept ▸ plain _ (same ▸ List.mem_map_of_mem hc)

private theorem trim_of_map {f : Char → Char} {before word after value : String}
    (moves : ∀ c, c.isAlpha = true ∨ f c = c) (some_letter : value.toList ≠ [])
    (plain : ∀ c ∈ value.toList, Plain c) (same : word.toList.map f = value.toList)
    (blank : ∀ c ∈ before.toList, isBlank c = true)
    (blank_after : ∀ c ∈ after.toList, isBlank c = true) :
    trim (before ++ word ++ after) = word := by
  have nonempty : word.toList ≠ [] := fun h ↦ some_letter (by rw [← same, h, List.map_nil])
  exact trim_padded nonempty blank (fun c hc ↦ (plain_of_map moves plain same c hc).2) blank_after

private theorem toLower_moves (c : Char) : c.isAlpha = true ∨ c.toLower = c := by
  by_cases capital : c.isUpper = true
  · exact .inl (by simp [Char.isAlpha, capital])
  · exact .inr (Char.toLower_eq_of_not_isUpper capital)

private theorem toUpper_moves (c : Char) : c.isAlpha = true ∨ c.toUpper = c := by
  by_cases small : c.isLower = true
  · exact .inl (by simp [Char.isAlpha, small])
  · exact .inr (Char.toUpper_eq_of_not_isLower small)

section Word

variable {before word after value : String} (some_letter : value.toList ≠ [])
  (plain : ∀ c ∈ value.toList, Plain c) (blank : ∀ c ∈ before.toList, isBlank c = true)
  (blank_after : ∀ c ∈ after.toList, isBlank c = true)

include some_letter plain blank blank_after

/-- A word in any ASCII letter case, with white space around it, is read as the word in small
letters, which are plain. -/
theorem lower_trim_of_toLower (same : word.toList.map Char.toLower = value.toList) :
    lower (trim (before ++ word ++ after)) = value := by
  rw [trim_of_map toLower_moves some_letter plain same blank blank_after,
    lower_of_forall_lt fun c hc ↦ (plain_of_map toLower_moves plain same c hc).1, same,
    String.ofList_toList]

/-- A word in any ASCII letter case, with white space around it, is read as the word in capitals,
which are plain. -/
theorem upper_trim_of_toUpper (same : word.toList.map Char.toUpper = value.toList) :
    upper (trim (before ++ word ++ after)) = value := by
  rw [trim_of_map toUpper_moves some_letter plain same blank blank_after,
    upper_of_forall_lt fun c hc ↦ (plain_of_map toUpper_moves plain same c hc).1, same,
    String.ofList_toList]

end Word

/-! ### Digits -/

/-- All digits, those without a decimal value among them. -/
private def digitRanges : Ranges := zeroDigits.map (fun z ↦ (z, z + 9)) ++ otherDigitRanges

private theorem exists_range_of_isDigit {c : Char} (h : isDigit c = true) :
    ∃ r ∈ digitRanges, r.1 ≤ c.toNat ∧ c.toNat ≤ r.2 := by
  rcases Bool.or_eq_true_iff.mp h with decimal | other
  · obtain ⟨d, value⟩ := Option.isSome_iff_exists.mp decimal
    obtain ⟨z, found, -⟩ := Option.map_eq_some_iff.mp value
    have bounds := List.find?_some found
    simp only [Bool.and_eq_true, decide_eq_true_eq] at bounds
    exact ⟨(z, z + 9),
      List.mem_append_left _ (List.mem_map_of_mem (List.mem_of_find?_eq_some found)),
      bounds.1, Nat.le_of_lt_succ bounds.2⟩
  · obtain ⟨r, hr, bounds⟩ := Ranges.has_eq_true_iff.mp other
    exact ⟨r, List.mem_append_right _ hr, bounds⟩

/-- Digits are no white space. -/
theorem isBlank_of_isDigit {c : Char} (h : isDigit c = true) : isBlank c = false := by
  have apart : ∀ r ∈ digitRanges, ∀ b ∈ blankRanges, r.2 < b.1 ∨ b.2 < r.1 := by decide +kernel
  obtain ⟨r, hr, lower, upper⟩ := exists_range_of_isDigit h
  rw [← Bool.not_eq_true, isBlank, Ranges.has_eq_true_iff]
  rintro ⟨b, hb, least, last⟩
  have hrb := apart r hr b hb
  omega

/-- ASCII letters are no digits. -/
theorem isDigit_of_isAlpha {c : Char} (h : c.isAlpha = true) : isDigit c = false := by
  have apart : ∀ r ∈ digitRanges, r.2 < 'A'.toNat ∨ 'z'.toNat < r.1 := by decide +kernel
  have bounds := toNat_of_isAlpha h
  rw [← Bool.not_eq_true]
  intro digit
  obtain ⟨r, hr, lower, upper⟩ := exists_range_of_isDigit digit
  have hr := apart r hr
  omega

/-- Digits have no letter case. -/
theorem capital_of_isDigit {c : Char} (h : isDigit c = true) : capital c = [c] := by
  have expansions : ∀ r ∈ digitRanges, ∀ e ∈ capitalExpansions, e.1 < r.1 ∨ r.2 < e.1 := by
    decide +kernel
  have runs : ∀ r ∈ digitRanges, ∀ s ∈ capitalRuns, r.2 < s.first ∨ s.last < r.1 := by
    decide +kernel
  by_cases ascii : c.toNat < 0x80
  · have caseless : ¬c.isLower = true := fun small ↦ by
      cases h.symm.trans (isDigit_of_isAlpha (c := c) (by simp [Char.isAlpha, small]))
    rw [capital_of_lt ascii, Char.toUpper_eq_of_not_isLower caseless]
  · obtain ⟨r, hr, lower, upper⟩ := exists_range_of_isDigit h
    refine capital_of_unmoved (Nat.not_lt.mp ascii) (fun e he same ↦ ?_) fun s hs ↦ ?_
    · have hre := expansions r hr e he
      omega
    · have hrs := runs r hr s hs
      rw [← Bool.not_eq_true, CaseRun.has]
      simp only [Bool.and_eq_true, decide_eq_true_eq]
      omega

/-- Trimming leaves what is no white space. -/
theorem mem_trimChars {cs : List Char} {c : Char} (solid : isBlank c = false) (hc : c ∈ cs) :
    c ∈ trimChars cs := by
  have left {cs : List Char} (hc : c ∈ cs) : c ∈ cs.dropWhile isBlank := by
    rw [← List.takeWhile_append_dropWhile (p := isBlank) (l := cs)] at hc
    refine (List.mem_append.mp hc).resolve_left fun taken ↦ ?_
    cases solid.symm.trans (List.mem_takeWhile_imp taken)
  exact List.mem_reverse.mpr (left (List.mem_reverse.mpr (left hc)))

/-- A digit of a text is in its capital form, also when white space around it is trimmed. -/
theorem mem_upper_trim_of_isDigit {s : String} {c : Char} (digit : isDigit c = true)
    (hc : c ∈ s.toList) : c ∈ (upper (trim s)).toList := by
  have kept : c ∈ trimChars s.toList := mem_trimChars (isBlank_of_isDigit digit) hc
  have same : c ∈ capital c := by
    rw [capital_of_isDigit digit]
    exact List.mem_singleton_self c
  rw [upper, trim, String.toList_ofList, String.toList_ofList]
  exact List.mem_flatMap.mpr ⟨c, kept, same⟩

end QueueAck.Text
