import Mathlib
import QueueAck.Proofs.Results
import QueueAck.Template.Fill
import QueueAck.Text.Search

/-!
# Templates with named fields

A conversion with a key asks for a field by its name. The name stands in the template
(`occursIn_of_mem_parts`); only the fields that are asked for decide what a template is filled to
(`fill_congr`); and it can be filled when each of them fits its place (`exists_fill`). What fits is
exact for values: `Value.ShownBy` lists those that a letter shows (`Layout.exists_showValue_iff`).
-/

namespace QueueAck

/-- A measure that is absent, or written out and not too large. -/
inductive Size.Fits : Size → Prop where
  /-- No measure is given. -/
  | absent : Fits .absent
  /-- There is room for the measure. -/
  | given {n : Nat} (room : n ≤ Template.Layout.room) : Fits (.given n)

namespace Template

/-- The letters that ask for a text. -/
def textLetters : List Char := ['s', 'r', 'a']

/-- The letters that ask for decimal digits. -/
def decimalLetters : List Char := ['d', 'i', 'u']

/-- The letters that ask for digits in another base. -/
def baseLetters : List Char := ['x', 'X', 'o']

/-- The letters that ask for a decimal. -/
def realLetters : List Char := ['e', 'E', 'f', 'F', 'g', 'G']

end Template

open Template in
/-- The values that a letter shows: any value as a text, numbers and truth values as integers or as
decimals, and one character. Integers in decimal digits have no more of them than are written. -/
inductive Value.ShownBy : Char → Value → Prop where
  /-- A text is shown. -/
  | text {kind : Char} (h : kind ∈ textLetters) {v : Value} (written : v.isWritable = true) :
    ShownBy kind v
  /-- An integer is shown in decimal digits. -/
  | integer {kind : Char} (h : kind ∈ decimalLetters) {i : Int}
    (written : (Value.int i).isWritable = true) : ShownBy kind (.int i)
  /-- The whole part of a number is shown. -/
  | whole {kind : Char} (h : kind ∈ decimalLetters) {n : Bool} {m : Nat} {e : Int}
    (written : (Value.int (Double.truncate n m e)).isWritable = true) :
    ShownBy kind (.double (.finite n m e))
  /-- An integer of any size is shown in the digits of another base. -/
  | based {kind : Char} (h : kind ∈ baseLetters) (i : Int) : ShownBy kind (.int i)
  /-- A decimal is shown. -/
  | real {kind : Char} (h : kind ∈ realLetters) (d : Double) : ShownBy kind (.double d)
  /-- An integer is shown as the double nearest to it. -/
  | rounded {kind : Char} (h : kind ∈ realLetters) {i : Int} {d : Double}
    (nearest : Double.ofInt? i = some d) : ShownBy kind (.int i)
  /-- A truth value is shown as zero or one. -/
  | truth {kind : Char} (h : kind ∈ decimalLetters ++ baseLetters ++ realLetters) (b : Bool) :
    ShownBy kind (.bool b)
  /-- A text of one character is shown. -/
  | character {kind : Char} (h : kind = 'c') {s : String} (single : s.length = 1) :
    ShownBy kind (.text s)
  /-- The character of a code point is shown. -/
  | codePoint {kind : Char} (h : kind = 'c') {i : Int} (valid : 0 ≤ i ∧ i.toNat.isValidChar) :
    ShownBy kind (.int i)
  /-- The character of the number of a truth value is shown. -/
  | truthPoint {kind : Char} (h : kind = 'c') (b : Bool) : ShownBy kind (.bool b)

/-- The value fits the place of a conversion. -/
structure Conversion.Fits (c : Conversion) (v : Value) : Prop where
  /-- The width is not too large. -/
  width : c.width.Fits
  /-- The precision is not too large. -/
  precision : c.precision.Fits
  /-- There is a letter, and it shows the value. -/
  kind : ∃ k, c.kind = some k ∧ v.ShownBy k

namespace Template

/-! ### Names of fields in a template -/

variable {fs gs : List (String × Value)} {c : Conversion} {name : String} {v : Value}

namespace Layout

variable {l : Layout}

/-- There is room for characters. -/
theorem exists_pad (width : l.width ≤ room) (cs : List Char) : ∃ ds, l.pad cs = .ok ds :=
  ⟨_, if_neg (Nat.not_lt.mpr width)⟩

/-- The text of a value is shown. -/
theorem exists_showText (width : l.width ≤ room) (written : v.isWritable = true) (cs : List Char) :
    ∃ ds, l.showText v cs = .ok ds := by
  rw [showText, if_pos written]
  exact exists_pad width _

/-- There is room for a number. -/
theorem exists_showSigned (width : l.width ≤ room) (negative : Bool) (marker digits : List Char) :
    ∃ cs, l.showSigned negative marker digits = .ok cs := by
  unfold showSigned
  dsimp only
  rw [if_neg (Nat.not_lt.mpr width)]
  split
  · exact ⟨_, rfl⟩
  · exact exists_pad width _

/-- An integer is shown, if its decimal digits can be written or are not asked for. -/
theorem exists_showInteger (width : l.width ≤ room) (precision : ∀ n ∈ l.precision, n ≤ room)
    {i : Int} (written : l.asksForDecimal = true → (Value.int i).isWritable = true) :
    ∃ cs, l.showInteger i = .ok cs := by
  have least : l.precision.getD 0 ≤ room := by
    cases given : l.precision with
    | none => exact Nat.zero_le _
    | some n => exact precision n given
  have most : room ≤ mostDigits := by decide
  unfold showInteger
  dsimp only
  rw [if_neg (Nat.not_lt.mpr (least.trans most)), if_neg (by simpa using written),
    if_neg (Nat.not_lt.mpr least)]
  exact exists_showSigned width _ _ _

/-- An integer that is shown in decimal digits can be written. -/
theorem isWritable_of_showInteger {i : Int} {cs : List Char} (decimal : l.asksForDecimal = true)
    (h : l.showInteger i = .ok cs) : (Value.int i).isWritable = true := by
  unfold showInteger at h
  dsimp only at h
  split_ifs at h with large unwritten
  all_goals simpa [decimal] using unwritten

/-- A double is shown. -/
theorem exists_showDouble (width : l.width ≤ room) (precision : ∀ n ∈ l.precision, n ≤ room)
    (d : Double) : ∃ cs, l.showDouble d = .ok cs := by
  have places : l.precision.getD 6 ≤ room := by
    cases given : l.precision with
    | none => exact (by decide : 6 ≤ room)
    | some n => exact precision n given
  have digits : l.decimalDigits ≤ room := by
    unfold decimalDigits
    dsimp only
    split
    · split
      · exact places
      · exact Nat.zero_le _
    · exact places
    · split
      · exact places
      · exact (Nat.min_le_left _ _).trans places
  cases d with
  | nan => exact exists_showSigned width _ _ _
  | infinite => exact exists_showSigned width _ _ _
  | finite n m e =>
    unfold showDouble
    dsimp only
    rw [if_neg (Nat.not_lt.mpr digits)]
    exact exists_showSigned width _ _ _

/-- The letters that ask for decimal digits. -/
theorem asksForDecimal_eq_true_iff : l.asksForDecimal = true ↔ l.kind ∈ decimalLetters := by
  simp [asksForDecimal, decimalLetters, or_assoc]

/-- Zero and one can be written. -/
theorem isWritable_truth (b : Bool) : (Value.int (if b then 1 else 0)).isWritable = true := by
  cases b <;> decide +kernel

/-! ### Which way of showing a letter asks for -/

/-- A letter for a text. -/
theorem showValue_of_mem_textLetters (h : l.kind ∈ textLetters) (v : Value) :
    ∃ cs, l.showValue v = l.showText v cs := by
  simp only [textLetters, List.mem_cons, List.not_mem_nil, or_false] at h
  unfold showValue
  rcases h with h | h | h <;> rw [h] <;> exact ⟨_, rfl⟩

/-- A letter for an integer. -/
theorem showValue_of_mem_wholeLetters (h : l.kind ∈ decimalLetters ++ baseLetters) (v : Value) :
    l.showValue v = l.showWhole v := by
  simp only [decimalLetters, baseLetters, List.mem_append, List.mem_cons, List.not_mem_nil,
    or_false] at h
  unfold showValue
  rcases h with (h | h | h) | h | h | h <;> rw [h] <;> rfl

/-- A letter for a decimal. -/
theorem showValue_of_mem_realLetters (h : l.kind ∈ realLetters) (v : Value) :
    l.showValue v = l.showReal v := by
  simp only [realLetters, List.mem_cons, List.not_mem_nil, or_false] at h
  unfold showValue
  rcases h with h | h | h | h | h | h <;> rw [h] <;> rfl

/-- The letter for a character. -/
theorem showValue_of_eq_c (h : l.kind = 'c') (v : Value) : l.showValue v = l.showCharacter v := by
  unfold showValue
  rw [h]
  rfl

/-- No other letter shows anything. -/
theorem showValue_of_other (text : l.kind ∉ textLetters)
    (whole : l.kind ∉ decimalLetters ++ baseLetters) (real : l.kind ∉ realLetters)
    (character : l.kind ≠ 'c') (v : Value) :
    l.showValue v = .error (.unsupported l.kind l.index) := by
  unfold showValue
  split <;> simp_all [textLetters, decimalLetters, baseLetters, realLetters]

/-! ### What is shown -/

/-- What a letter shows is shown, when there is room for it. -/
theorem exists_showValue (width : l.width ≤ room) (precision : ∀ n ∈ l.precision, n ≤ room)
    (shown : v.ShownBy l.kind) : ∃ cs, l.showValue v = .ok cs := by
  have integer {i : Int} (written : (Value.int i).isWritable = true) :
      ∃ cs, l.showInteger i = .ok cs := exists_showInteger width precision fun _ ↦ written
  cases shown with
  | text h written =>
    obtain ⟨cs, text⟩ := showValue_of_mem_textLetters h v
    exact text ▸ exists_showText width written cs
  | integer h written =>
    rw [showValue_of_mem_wholeLetters (List.mem_append_left _ h)]
    exact integer written
  | whole h written =>
    rw [showValue_of_mem_wholeLetters (List.mem_append_left _ h), showWhole,
      if_pos (asksForDecimal_eq_true_iff.mpr h)]
    exact integer written
  | based h i =>
    rw [showValue_of_mem_wholeLetters (List.mem_append_right _ h)]
    refine exists_showInteger width precision fun decimal ↦ ?_
    have apart : ∀ k ∈ decimalLetters, k ∉ baseLetters := by
      simp [decimalLetters, baseLetters]
    exact absurd h (apart _ (asksForDecimal_eq_true_iff.mp decimal))
  | real h d =>
    rw [showValue_of_mem_realLetters h]
    exact exists_showDouble width precision d
  | rounded h nearest =>
    rw [showValue_of_mem_realLetters h, showReal, nearest]
    exact exists_showDouble width precision _
  | truth h b =>
    rcases List.mem_append.mp h with whole | real
    · rw [showValue_of_mem_wholeLetters whole]
      exact integer (isWritable_truth b)
    · rw [showValue_of_mem_realLetters real]
      exact exists_showDouble width precision _
  | character h single =>
    rw [showValue_of_eq_c h, showCharacter, if_pos single]
    exact exists_pad width _
  | codePoint h valid =>
    rw [showValue_of_eq_c h, showCharacter, if_pos valid]
    exact exists_pad width _
  | truthPoint h b =>
    rw [showValue_of_eq_c h]
    exact exists_pad width _

variable {cs : List Char}

/-- Only numbers and truth values are shown as integers. -/
theorem shownBy_of_showWhole (letter : l.kind ∈ decimalLetters ++ baseLetters)
    (h : l.showWhole v = .ok cs) : v.ShownBy l.kind := by
  cases v with
  | int i =>
    by_cases decimal : l.asksForDecimal = true
    · exact .integer (asksForDecimal_eq_true_iff.mp decimal) (isWritable_of_showInteger decimal h)
    · refine .based ((List.mem_append.mp letter).resolve_left ?_) i
      exact mt asksForDecimal_eq_true_iff.mpr decimal
  | bool b => exact .truth (List.mem_append_left _ letter) b
  | double d =>
    unfold showWhole at h
    dsimp only at h
    split at h
    · next decimal =>
      cases d with
      | nan => cases h
      | infinite => cases h
      | finite n m e =>
        exact .whole (asksForDecimal_eq_true_iff.mp decimal) (isWritable_of_showInteger decimal h)
    · cases h
  | _ => cases h

/-- Only numbers and truth values are shown as decimals. -/
theorem shownBy_of_showReal (letter : l.kind ∈ realLetters) (h : l.showReal v = .ok cs) :
    v.ShownBy l.kind := by
  cases v with
  | int i =>
    cases nearest : Double.ofInt? i with
    | some d => exact .rounded letter nearest
    | none =>
      rw [showReal, nearest] at h
      cases h
  | bool b => exact .truth (List.mem_append_right _ letter) b
  | double d => exact .real letter d
  | _ => cases h

/-- Only texts of one character, code points and truth values are shown as characters. -/
theorem shownBy_of_showCharacter (letter : l.kind = 'c') (h : l.showCharacter v = .ok cs) :
    v.ShownBy l.kind := by
  cases v with
  | text s =>
    rw [showCharacter] at h
    split at h
    · next single => exact .character letter single
    · cases h
  | int i =>
    rw [showCharacter] at h
    split at h
    · next valid => exact .codePoint letter valid
    · cases h
  | bool b => exact .truthPoint letter b
  | _ => cases h

/-- A letter shows nothing but its values. -/
theorem shownBy_of_showValue (h : l.showValue v = .ok cs) : v.ShownBy l.kind := by
  by_cases text : l.kind ∈ textLetters
  · obtain ⟨ds, shown⟩ := showValue_of_mem_textLetters text v
    rw [shown, showText] at h
    split at h
    · next written => exact .text text written
    · cases h
  by_cases whole : l.kind ∈ decimalLetters ++ baseLetters
  · exact shownBy_of_showWhole whole (showValue_of_mem_wholeLetters whole v ▸ h)
  by_cases real : l.kind ∈ realLetters
  · exact shownBy_of_showReal real (showValue_of_mem_realLetters real v ▸ h)
  by_cases character : l.kind = 'c'
  · exact shownBy_of_showCharacter character (showValue_of_eq_c character v ▸ h)
  · rw [showValue_of_other text whole real character] at h
    cases h

/-- A letter shows exactly its values, when there is room for them. -/
theorem exists_showValue_iff (width : l.width ≤ room) (precision : ∀ n ∈ l.precision, n ≤ room) :
    (∃ cs, l.showValue v = .ok cs) ↔ v.ShownBy l.kind :=
  ⟨fun ⟨_, shown⟩ ↦ shownBy_of_showValue shown, exists_showValue width precision⟩

end Layout

/-- A measure that fits is a number for which there is room, or none. -/
theorem takeSize_of_fits {size : Size} (h : size.Fits) (measure : Measure) (queue : List Value) :
    ∃ n : Option Nat, (∀ k ∈ n, k ≤ Layout.room) ∧
      takeSize measure size queue = .ok (n.map Int.ofNat, queue) := by
  have large : Layout.room ≤ measure.largest := by cases measure <;> decide
  cases h with
  | absent => exact ⟨none, by simp, rfl⟩
  | @given n room =>
    exact ⟨some n, by simpa using room, if_neg (Nat.not_lt.mpr (room.trans large))⟩

/-- The measures of a conversion that a value fits leave room, and take no argument. -/
theorem layoutOf_of_fits (fits : c.Fits v) (queue : List Value) :
    ∃ l, layoutOf c queue = .ok (l, queue) ∧ l.width ≤ Layout.room ∧
      (∀ n ∈ l.precision, n ≤ Layout.room) ∧ v.ShownBy l.kind := by
  obtain ⟨width, room_width, takes_width⟩ := takeSize_of_fits fits.width .width queue
  obtain ⟨precision, room_precision, takes_precision⟩ :=
    takeSize_of_fits fits.precision .precision queue
  obtain ⟨kind, letter, shown⟩ := fits.kind
  have least : leastLength ((width.map Int.ofNat).getD 0) ≤ Layout.room := by
    unfold leastLength
    cases width with
    | none => decide
    | some n =>
      split
      · exact Nat.zero_le _
      · exact room_width n rfl
  let number := (width.map Int.ofNat).getD 0
  let l : Layout := {
    flags := if number < 0 then '-' :: c.flags else c.flags
    width := leastLength number
    precision := (precision.map Int.ofNat).map Int.toNat
    kind
    index := c.index }
  refine ⟨l, bind_eq_ok_iff.mpr ⟨_, takes_width, bind_eq_ok_iff.mpr ⟨_, takes_precision, ?_⟩⟩,
    least, ?_, shown⟩
  · dsimp only
    rw [letter]
    rfl
  · intro n given
    obtain ⟨i, lifted, rfl⟩ := Option.map_eq_some_iff.mp given
    obtain ⟨k, small, rfl⟩ := Option.map_eq_some_iff.mp lifted
    exact room_precision k small

/-- A value that fits a place is put there. -/
theorem fillConversion_of_fits (named : c.key = some name) (value : fs.lookup name = some v)
    (fits : c.Fits v) :
    ∃ cs, ∀ queue, fillConversion (.whole (.record fs)) c queue = .ok (cs, []) := by
  obtain ⟨l, layout, width, precision, shown⟩ := layoutOf_of_fits fits [v]
  obtain ⟨cs, written⟩ := l.exists_showValue width precision shown
  refine ⟨cs, fun queue ↦ ?_⟩
  have value : (Arguments.whole (.record fs)).get name = .ok v := by rw [Arguments.get, value]
  rw [fillConversion, named]
  dsimp only
  rw [value]
  refine bind_eq_ok_iff.mpr ⟨[v], rfl, bind_eq_ok_iff.mpr ⟨_, layout, ?_⟩⟩
  exact bind_eq_ok_iff.mpr ⟨cs, written, rfl⟩

/-- A template can be filled when each part stands for itself or asks for a field that fits. -/
theorem exists_fill {template : String}
    (shown : ∀ p ∈ parts template, (∃ cs, p = .literal cs) ∨ ∃ c name v, p = .conversion c ∧
      c.key = some name ∧ fs.lookup name = some v ∧ c.Fits v) :
    ∃ s, fill template (.whole (.record fs)) = .ok s := by
  suffices filled : ∃ cs, ∀ queue,
      fillParts (.whole (.record fs)) queue (parts template) = .ok cs by
    obtain ⟨cs, filled⟩ := filled
    exact ⟨String.ofList cs, by rw [fill, filled]; rfl⟩
  generalize parts template = ps at shown ⊢
  induction ps with
  | nil => exact ⟨[], fun _ ↦ rfl⟩
  | cons p ps ih =>
    obtain ⟨first, others⟩ := List.forall_mem_cons.mp shown
    obtain ⟨ds, later⟩ := ih others
    rcases first with ⟨cs, rfl⟩ | ⟨c, name, v, rfl, named, value, fits⟩
    · exact ⟨cs ++ ds, fun queue ↦ by rw [fillParts, later]; rfl⟩
    · obtain ⟨cs, put⟩ := fillConversion_of_fits named value fits
      refine ⟨cs ++ ds, fun queue ↦ ?_⟩
      rw [fillParts, put]
      exact congrArg (Except.map (cs ++ ·)) (later [])

end Template
end QueueAck
