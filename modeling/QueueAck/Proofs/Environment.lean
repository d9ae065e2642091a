import Mathlib
import QueueAck.Factory
import QueueAck.Proofs.Text.Numerals
import QueueAck.Proofs.Text.Words

/-!
# Configuration by the environment

What the variables of an environment have to look like for a factory to be made of them, said about
their texts. `Environment.Gives` is the integer that a variable gives, `Environment.Configures` the
factory that an environment describes, and `Environment.Refused` the first check that it does not
pass. A factory is made exactly when it is described, and everything else is reported as an error of
the configuration (`environment_exact`).
-/

namespace QueueAck

variable {κ : Type}

namespace Environment

variable {env : Environment} {name : String} {default i : Int}

/-- The integer that a variable gives: the one that its text spells, or a default when it is not
set. -/
def Gives (env : Environment) (name : String) (default i : Int) : Prop :=
  match env.get? name with
  | none => i = default
  | some s => Text.Spells s i

/-- A text that is not empty is the value of the variable. -/
theorem nonEmpty?_eq_some_iff {s : String} :
    env.nonEmpty? name = some s ↔ env.get? name = some s ∧ s ≠ "" := by
  rw [nonEmpty?, Option.filter_eq_some_iff]
  simp

/-- The integer of a variable is read exactly when the variable gives it. -/
theorem integer_eq_ok_iff : env.integer name default = .ok i ↔ env.Gives name default i := by
  unfold integer Gives
  cases env.get? name with
  | none => exact ⟨fun h ↦ (Except.ok.inj h).symm, fun h ↦ congrArg Except.ok h.symm⟩
  | some s => exact mapError_eq_ok_iff.trans Text.readInteger_eq_ok_iff

/-- A variable whose integer is not read has a text that spells none. -/
theorem exists_of_integer_eq_error {f : Failure} (h : env.integer name default = .error f) :
    ∃ s fault, env.get? name = some s ∧ (∀ i, ¬Text.Spells s i) ∧
      f = .unreadableInteger s fault := by
  unfold integer at h
  cases given : env.get? name with
  | none => simp [given] at h
  | some s =>
    rw [given] at h
    obtain ⟨fault, refused, rfl⟩ := mapError_eq_error_iff.mp h
    refine ⟨s, fault, rfl, fun i spells ↦ ?_, rfl⟩
    cases refused.symm.trans (Text.readInteger_eq_ok_iff.mpr spells)

/-- The text that is looked up among the values of the retry modes. -/
def modeText (env : Environment) : String :=
  Text.lower (Text.trim ((env.get? Factory.modeVariable).getD RetryMode.defaultDelay.value))

/-- The three texts that are read are in order: that of the mode, that of the delay and that of the
prefetch size. -/
structure Reads (env : Environment) (mode : RetryMode) (delay prefetchSize : Int) : Prop where
  /-- The mode is selected by its value. -/
  mode : env.modeText = mode.value
  /-- The delay is given, or zero. -/
  delay : env.Gives Factory.delayVariable 0 delay
  /-- The prefetch size is given, or one. -/
  prefetchSize : env.Gives Factory.prefetchVariable 1 prefetchSize

/-- The factory is the one that the environment describes. -/
structure Configures (env : Environment) (f : Factory κ) : Prop
    extends Reads env f.policy.mode f.policy.delay f.prefetchSize where
  /-- The prefetch size is positive. -/
  positive : 1 ≤ f.prefetchSize
  /-- The region is given by a text that is not empty. -/
  regionName : ∀ s, f.regionName = some s ↔ env.get? Factory.regionVariable = some s ∧ s ≠ ""
  /-- So is the address. -/
  endpointUrl : ∀ s, f.endpointUrl = some s ↔ env.get? Factory.endpointVariable = some s ∧ s ≠ ""
  /-- There is no client yet. -/
  client : f.client = none
  /-- There is no client configuration. -/
  config : f.config = none

/-- The first check that the environment does not pass, and the failure of that check, if it has one
of its own. -/
inductive Refused (env : Environment) : Option Failure → Prop where
  /-- The text of the mode selects none. -/
  | mode (unknown : ∀ m : RetryMode, env.modeText ≠ m.value) :
    Refused env (some (.unknownMode env.modeText))
  /-- The mode is selected, and the text of the delay spells no integer. -/
  | delay {m : RetryMode} {s : String} {fault : Text.IntegerFault} (mode : env.modeText = m.value)
    (given : env.get? Factory.delayVariable = some s) (unread : ∀ i, ¬Text.Spells s i) :
    Refused env (some (.unreadableInteger s fault))
  /-- The mode is selected, the delay is given, and the text of the prefetch size spells no
  integer. -/
  | prefetchSize {m : RetryMode} {d : Int} {s : String} {fault : Text.IntegerFault}
    (mode : env.modeText = m.value) (delay : env.Gives Factory.delayVariable 0 d)
    (given : env.get? Factory.prefetchVariable = some s) (unread : ∀ i, ¬Text.Spells s i) :
    Refused env (some (.unreadableInteger s fault))
  /-- All texts are read, and the prefetch size is not positive. -/
  | size {m : RetryMode} {d p : Int} (reads : env.Reads m d p) (small : p < 1) : Refused env none

/-- The variable is set to a word with white space around it, as far as `pad` counts as such. -/
def Holds (env : Environment) (name : String) (pad : Char → Bool) (word : String) : Prop :=
  ∃ before after : String, env.get? name = some (before ++ word ++ after) ∧
    (∀ c ∈ before.toList, pad c = true) ∧ ∀ c ∈ after.toList, pad c = true

/-- A variable that is set to the decimal text of an integer gives it. -/
theorem Holds.gives (h : env.Holds name Text.isPadding i.repr)
    (bound : i.natAbs < Text.writeLimit) : env.Gives name default i := by
  obtain ⟨before, after, given, padded, padded_after⟩ := h
  rw [Gives, given]
  exact Text.spells_of_padded_repr bound padded padded_after

/-- The mode is selected by its value in any letter case. -/
theorem Holds.modeText {mode : RetryMode} {word : String}
    (h : env.Holds Factory.modeVariable Text.isBlank word)
    (letters : word.toList.map Char.toLower = mode.value.toList) :
    env.modeText = mode.value := by
  obtain ⟨before, after, given, blank, blank_after⟩ := h
  have some_letter : mode.value.toList ≠ [] := by cases mode <;> decide
  have plain : mode.value.toList.all (fun c ↦ c.toNat < 0x80 && !Text.isBlank c) = true := by
    cases mode <;> decide
  rw [Environment.modeText, given]
  refine Text.lower_trim_of_toLower some_letter (fun c hc ↦ ?_) blank blank_after letters
  simpa using List.all_eq_true.mp plain c hc

end Environment

namespace Factory

variable {env : Environment} {m : RetryMode} {d p : Int}

/-- A mode is read exactly when the text, trimmed and in small letters, is its value. -/
theorem readMode_eq_ok_iff {text : String} :
    readMode text = .ok m ↔ Text.lower (Text.trim text) = m.value := by
  rw [← RetryMode.ofValue?_eq_some_iff, readMode]
  cases RetryMode.ofValue? (Text.lower (Text.trim text)) <;> simp

/-- A mode that is not read has the value of none. -/
theorem of_readMode_eq_error {text : String} {f : Failure} (h : readMode text = .error f) :
    (∀ m : RetryMode, Text.lower (Text.trim text) ≠ m.value) ∧
      f = .unknownMode (Text.lower (Text.trim text)) := by
  refine ⟨fun m selects ↦ ?_, ?_⟩
  · cases h.symm.trans (readMode_eq_ok_iff.mpr selects)
  · unfold readMode at h
    cases found : RetryMode.ofValue? (Text.lower (Text.trim text)) with
    | none => simpa [found] using h.symm
    | some m => simp [found] at h

/-- The settings are read exactly when the three texts are in order. -/
theorem readSettings_eq_ok_iff : readSettings env = .ok (m, d, p) ↔ env.Reads m d p := by
  unfold readSettings
  constructor
  · intro h
    obtain ⟨m', mode, h⟩ := bind_eq_ok_iff.mp h
    obtain ⟨d', delay, h⟩ := bind_eq_ok_iff.mp h
    obtain ⟨p', size, h⟩ := bind_eq_ok_iff.mp h
    cases h
    exact ⟨readMode_eq_ok_iff.mp mode, Environment.integer_eq_ok_iff.mp delay,
      Environment.integer_eq_ok_iff.mp size⟩
  · rintro ⟨mode, delay, size⟩
    refine bind_eq_ok_iff.mpr ⟨m, readMode_eq_ok_iff.mpr mode, ?_⟩
    refine bind_eq_ok_iff.mpr ⟨d, Environment.integer_eq_ok_iff.mpr delay, ?_⟩
    exact bind_eq_ok_iff.mpr ⟨p, Environment.integer_eq_ok_iff.mpr size, rfl⟩

/-- Settings that are not read are refused by the first text that is not in order. -/
theorem of_readSettings_eq_error {f : Failure} (h : readSettings env = .error f) :
    env.Refused (some f) := by
  unfold readSettings at h
  rcases bind_eq_error_iff.mp h with mode | ⟨m, mode, h⟩
  · obtain ⟨unknown, rfl⟩ := of_readMode_eq_error mode
    exact .mode unknown
  have mode := readMode_eq_ok_iff.mp mode
  rcases bind_eq_error_iff.mp h with delay | ⟨d, delay, h⟩
  · obtain ⟨s, fault, given, unread, rfl⟩ := Environment.exists_of_integer_eq_error delay
    exact .delay mode given unread
  have delay := Environment.integer_eq_ok_iff.mp delay
  rcases bind_eq_error_iff.mp h with size | ⟨p, -, h⟩
  · obtain ⟨s, fault, given, unread, rfl⟩ := Environment.exists_of_integer_eq_error size
    exact .prefetchSize mode delay given unread
  · cases h

/-- The factory of settings that were read. -/
theorem ofEnvironment_of_reads (h : env.Reads m d p) :
    (ofEnvironment env : Except Failure (Factory κ)) = checked {
      regionName := env.nonEmpty? regionVariable
      endpointUrl := env.nonEmpty? endpointVariable
      prefetchSize := p
      policy := ⟨m, d⟩ } := by
  rw [ofEnvironment, readSettings_eq_ok_iff.mpr h]

/-- Settings that are read, with a positive prefetch size, make a factory that has them. -/
theorem exists_ofEnvironment_of_reads (h : env.Reads m d p) (positive : 1 ≤ p) :
    ∃ f : Factory κ, ofEnvironment env = .ok f ∧ f.policy = ⟨m, d⟩ ∧ f.prefetchSize = p := by
  rw [ofEnvironment_of_reads h, checked, if_neg (Int.not_le.mpr positive)]
  exact ⟨_, rfl, rfl, rfl⟩

/-- A factory is made exactly when the environment describes it. -/
theorem ofEnvironment_eq_ok_iff {f : Factory κ} :
    ofEnvironment env = .ok f ↔ env.Configures f := by
  constructor
  · intro h
    cases read : readSettings env with
    | error e => simp [ofEnvironment, read] at h
    | ok settings =>
      obtain ⟨m, d, p⟩ := settings
      have reads := readSettings_eq_ok_iff.mp read
      rw [ofEnvironment_of_reads reads, checked] at h
      split at h
      · cases h
      · next positive =>
        cases h
        exact ⟨reads, Int.not_le.mp positive, fun s ↦ Environment.nonEmpty?_eq_some_iff,
          fun s ↦ Environment.nonEmpty?_eq_some_iff, rfl, rfl⟩
  · intro h
    have region : env.nonEmpty? regionVariable = f.regionName :=
      Option.ext fun s ↦ Environment.nonEmpty?_eq_some_iff.trans (h.regionName s).symm
    have endpoint : env.nonEmpty? endpointVariable = f.endpointUrl :=
      Option.ext fun s ↦ Environment.nonEmpty?_eq_some_iff.trans (h.endpointUrl s).symm
    rw [ofEnvironment_of_reads h.toReads, checked, if_neg (Int.not_le.mpr h.positive), region,
      endpoint, ← h.client, ← h.config]

/-- A failure is reported as one of the configuration, and is that of the first check that the
environment does not pass. -/
theorem of_ofEnvironment_eq_error {f : Failure}
    (h : (ofEnvironment env : Except Failure (Factory κ)) = .error f) :
    f.kind = "ConfigurationError" ∧ env.Refused f.cause? := by
  cases read : readSettings env with
  | error e =>
    rw [ofEnvironment, read] at h
    cases h
    exact ⟨rfl, of_readSettings_eq_error read⟩
  | ok settings =>
    obtain ⟨m, d, p⟩ := settings
    have reads := readSettings_eq_ok_iff.mp read
    rw [ofEnvironment_of_reads reads, checked] at h
    split at h
    · next small =>
      cases h
      exact ⟨rfl, .size reads (Int.lt_add_one_of_le small)⟩
    · cases h

end Factory

namespace Environment

variable {env : Environment}

/-- A refusal has no failure of its own exactly when the three texts are in order. -/
theorem Refused.eq_none_iff {cause? : Option Failure} (h : env.Refused cause?) :
    cause? = none ↔ ∃ m d p, env.Reads m d p := by
  cases h with
  | mode unknown => exact iff_of_false (by simp) fun ⟨m, d, p, reads⟩ ↦ unknown m reads.mode
  | delay mode given unread =>
    refine iff_of_false (by simp) fun ⟨m, d, p, reads⟩ ↦ unread d ?_
    simpa only [Gives, given] using reads.delay
  | prefetchSize mode delay given unread =>
    refine iff_of_false (by simp) fun ⟨m, d, p, reads⟩ ↦ unread p ?_
    simpa only [Gives, given] using reads.prefetchSize
  | size reads small => exact iff_of_true rfl ⟨_, _, _, reads⟩

/-- The failure of a refusal is about a value. -/
theorem Refused.kind {cause : Failure} (h : env.Refused (some cause)) :
    cause.kind = "ValueError" := by
  cases h <;> rfl

end Environment

namespace Factory

variable {env : Environment}

/-- An environment makes a factory exactly when its settings are read and allow for one message at
least. -/
theorem exists_ofEnvironment_iff :
    (∃ f : Factory κ, ofEnvironment env = .ok f) ↔ ∃ m d p, env.Reads m d p ∧ 1 ≤ p := by
  constructor
  · rintro ⟨f, made⟩
    have described := ofEnvironment_eq_ok_iff.mp made
    exact ⟨_, _, _, described.toReads, described.positive⟩
  · rintro ⟨m, d, p, reads, positive⟩
    obtain ⟨f, made, -⟩ := exists_ofEnvironment_of_reads (κ := κ) reads positive
    exact ⟨f, made⟩

end Factory

/-- A factory is made of an environment exactly when the environment describes it, and some factory
is exactly when the texts of the mode, the delay and the prefetch size are in order and the size is
positive. Otherwise the failure is one of the configuration, that of the first check which is not
passed: its cause is about a value when one of the texts is not in order, and it has none when only
the size is too small. In particular, every mode, delay and positive size is given by its text: the
mode in any letter case, and each with white space around it. -/
theorem environment_exact (env : Environment) :
    (∀ f : Factory κ, Factory.ofEnvironment env = .ok f ↔ env.Configures f) ∧
    ((∃ f : Factory κ, Factory.ofEnvironment env = .ok f) ↔ ∃ m d p, env.Reads m d p ∧ 1 ≤ p) ∧
    (∀ g, (Factory.ofEnvironment env : Except Failure (Factory κ)) = .error g →
      g.kind = "ConfigurationError" ∧ env.Refused g.cause? ∧
      (g.cause? = none ↔ ∃ m d p, env.Reads m d p) ∧
      ∀ cause, g.cause? = some cause → cause.kind = "ValueError") ∧
    ∀ (mode : RetryMode) (delay size : Int) (word : String), delay.natAbs < Text.writeLimit →
      1 ≤ size → size.natAbs < Text.writeLimit →
      word.toList.map Char.toLower = mode.value.toList →
      env.Holds Factory.modeVariable Text.isBlank word →
      env.Holds Factory.delayVariable Text.isPadding delay.repr →
      env.Holds Factory.prefetchVariable Text.isPadding size.repr →
      ∃ f : Factory κ, Factory.ofEnvironment env = .ok f ∧ f.policy = ⟨mode, delay⟩ ∧
        f.prefetchSize = size := by
  refine ⟨fun f ↦ Factory.ofEnvironment_eq_ok_iff, Factory.exists_ofEnvironment_iff, ?_, ?_⟩
  · intro g failed
    obtain ⟨kind, refused⟩ := Factory.of_ofEnvironment_eq_error failed
    exact ⟨kind, refused, refused.eq_none_iff, fun cause blamed ↦ (blamed ▸ refused).kind⟩
  · intro mode delay size word short positive short_size letters held_mode held_delay held_size
    have reads : env.Reads mode delay size :=
      ⟨held_mode.modeText letters, held_delay.gives short, held_size.gives short_size⟩
    exact Factory.exists_ofEnvironment_of_reads reads positive

/-- A mode in mixed letter case between blanks, a negative delay, and a size with a line break make
a factory; an empty region counts as none. -/
theorem factory_of_padded_environment :
    let env : Environment := [(Factory.modeVariable, "\tExplicit_DELAY "),
      (Factory.delayVariable, "-5"), (Factory.prefetchVariable, "3\n"),
      (Factory.regionVariable, "")]
    ∃ f : Factory Unit, Factory.ofEnvironment env = .ok f ∧ f.policy = ⟨.explicitDelay, -5⟩ ∧
      f.prefetchSize = 3 ∧ f.regionName = none := by
  intro env
  obtain ⟨described, -, -, given⟩ := environment_exact (κ := Unit) env
  have short : Int.natAbs (-5) < Text.writeLimit := by decide +kernel
  have short_size : Int.natAbs 3 < Text.writeLimit := by decide +kernel
  have mode : env.Holds Factory.modeVariable Text.isBlank "Explicit_DELAY" :=
    ⟨"\t", " ", rfl, List.all_eq_true.mp (by decide), List.all_eq_true.mp (by decide)⟩
  have delay : env.Holds Factory.delayVariable Text.isPadding (-5 : Int).repr :=
    ⟨"", "", rfl, List.all_eq_true.mp (by decide), List.all_eq_true.mp (by decide)⟩
  have size : env.Holds Factory.prefetchVariable Text.isPadding (3 : Int).repr :=
    ⟨"", "\n", rfl, List.all_eq_true.mp (by decide), List.all_eq_true.mp (by decide)⟩
  obtain ⟨f, made, policy, size⟩ :=
    given .explicitDelay (-5) 3 _ short (by decide) short_size (by decide) mode delay size
  refine ⟨f, made, policy, size, Option.eq_none_iff_forall_ne_some.mpr fun s region ↦ ?_⟩
  obtain ⟨held, nonempty⟩ := (((described f).mp made).regionName s).mp region
  exact nonempty (Option.some.inj held).symm

end QueueAck
