import QueueAck.Text.CaseTable

/-!
# Letter case

The full case maps of a text: one letter may become several, and a sigma at the end of a word has
a small form of its own. On ASCII both maps move the letters by 32 and keep all else.
-/

namespace QueueAck.Text

private def moved (rs : List CaseRun) (n : Nat) : Nat :=
  match rs.find? (·.has n) with
  | some r => (n + r.shift).toNat
  | none => n

/-- The capital form of one character. -/
def capital (c : Char) : List Char :=
  if c.toNat < 0x80 then [c.toUpper]
  else match capitalExpansions.find? (·.1 == c.toNat) with
    | some e => e.2.map Char.ofNat
    | none => [Char.ofNat (moved capitalRuns c.toNat)]

/-- The capital form of one character as one character. The Greek letters with a small iota below
have one with the iota beside it; any other character without one stays as it is. -/
def singleCapital (c : Char) : Char :=
  let n := c.toNat
  match capital c with
  | [d] => d
  | _ =>
    if (0x1f80 ≤ n ∧ n < 0x1fb0) ∧ n % 16 < 8 then Char.ofNat (n + 8)
    else if n = 0x1fb3 ∨ n = 0x1fc3 ∨ n = 0x1ff3 then Char.ofNat (n + 9)
    else c

/-- The small form of one character that does not look at its neighbours. -/
def small (c : Char) : List Char :=
  if c.toNat < 0x80 then [c.toLower]
  else if c.toNat = 0x130 then ['i', '\u0307']
  else [Char.ofNat (moved smallRuns c.toNat)]

private def nextCased (cs : List Char) : Bool :=
  match cs.dropWhile caseIgnorableRanges.has with
  | c :: _ => casedRanges.has c
  | [] => false

/-- True when a sigma stands at the end of a word: a cased letter comes before it, none after it,
marks aside. The characters before it are given nearest first. -/
def endsWord (before after : List Char) : Bool := nextCased before && !nextCased after

private def smallChars (before : List Char) : List Char → List Char
  | [] => []
  | c :: after =>
    (if c = 'Σ' then [if endsWord before after then 'ς' else 'σ'] else small c)
      ++ smallChars (c :: before) after

/-- The text in small letters. -/
def lower (s : String) : String := String.ofList (smallChars [] s.toList)

/-- The text in capital letters. -/
def upper (s : String) : String := String.ofList (s.toList.flatMap capital)

/-- On ASCII the capital form is the plain one. -/
theorem capital_of_lt {c : Char} (h : c.toNat < 0x80) : capital c = [c.toUpper] := if_pos h

/-- Beyond ASCII a character that the tables do not move is its own capital form. -/
theorem capital_of_unmoved {c : Char} (h : 0x80 ≤ c.toNat)
    (expansions : ∀ e ∈ capitalExpansions, e.1 ≠ c.toNat)
    (runs : ∀ r ∈ capitalRuns, r.has c.toNat = false) : capital c = [c] := by
  have expanded : capitalExpansions.find? (·.1 == c.toNat) = none :=
    List.find?_eq_none.2 fun e he => by simpa using expansions e he
  have run : capitalRuns.find? (·.has c.toNat) = none :=
    List.find?_eq_none.2 fun r hr => by simp [runs r hr]
  rw [capital, if_neg (Nat.not_lt.2 h), expanded]
  simp only [moved, run, Char.ofNat_toNat]

/-- On ASCII the small form is the plain one. -/
theorem small_of_lt {c : Char} (h : c.toNat < 0x80) : small c = [c.toLower] := if_pos h

/-- An ASCII text in capital letters has each of its letters in capital form. -/
theorem upper_of_forall_lt {s : String} (h : ∀ c ∈ s.toList, c.toNat < 0x80) :
    upper s = String.ofList (s.toList.map Char.toUpper) := by
  have plain : s.toList.map capital = s.toList.map fun c => [c.toUpper] :=
    List.map_congr_left fun c hc => capital_of_lt (h c hc)
  rw [upper, List.map_eq_flatMap, List.flatMap, List.flatMap, plain]

private theorem smallChars_of_forall_lt (before : List Char) {cs : List Char}
    (h : ∀ c ∈ cs, c.toNat < 0x80) : smallChars before cs = cs.map Char.toLower := by
  induction cs generalizing before with
  | nil => rfl
  | cons c cs ih =>
    obtain ⟨first, others⟩ := List.forall_mem_cons.1 h
    have plain : c ≠ 'Σ' := by
      rintro rfl
      exact absurd first (by decide)
    rw [smallChars, if_neg plain, small_of_lt first, ih _ others]
    rfl

/-- An ASCII text in small letters has each of its letters in small form. -/
theorem lower_of_forall_lt {s : String} (h : ∀ c ∈ s.toList, c.toNat < 0x80) :
    lower s = String.ofList (s.toList.map Char.toLower) := by
  rw [lower, smallChars_of_forall_lt [] h]

/-- A ligature has two capitals, a dotless letter one. -/
example : "ﬁ".toList.flatMap capital = ['F', 'I'] ∧ "ı".toList.flatMap capital = ['I'] := by
  decide +kernel

/-- A sigma is final only at the end of a word. -/
example : smallChars [] "ΣΑΣ Σ".toList = "σας σ".toList := by decide +kernel

end QueueAck.Text
