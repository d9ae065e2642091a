import Mathlib
import QueueAck.Factory
import QueueAck.Proofs.Named

/-!
# Factories of given arguments

What has to be wrong with the arguments of a call for no factory to be made of them, and which
factory is made of all others. `Arguments.Offends` says what is wrong with the type, the place or
the name of an argument; all of it is reported together, in an order that does not depend on values
(`Arguments.Reports`). Only arguments with nothing wrong are looked at again, for a prefetch size
that is not positive (`Arguments.Starved`), and a factory holds what is left (`Arguments.Holds`,
`arguments_exact`).
-/

namespace QueueAck

variable {κ : Type}

/-- The arguments of a call. -/
structure Arguments (κ : Type) where
  /-- The values that are given without a keyword. -/
  positional : List (Argument κ) := []
  /-- The values that are given with one, in the order of the call. -/
  keywords : List (String × Argument κ) := []
  /-- A call gives each keyword once. -/
  distinct : (keywords.map Prod.fst).Nodup := by decide

namespace Parameter

/-- The values that a parameter takes; a retry mode is a text as well. -/
def Takes : Parameter → Argument κ → Prop
  | .regionName, a | .endpointUrl, a =>
    a = .value .null ∨ (∃ s, a = .value (.text s)) ∨ ∃ m, a = .value (.mode m)
  | .retryMode, a => ∃ m, a = .value (.mode m)
  | .retryDelay, a | .prefetchSize, a => ∃ i, a = .value (.int i)
  | .sqsClient, _ => True
  | .clientConfig, a => a = .value .null ∨ ∃ c, a = .config c

/-- What is held of a value that a parameter takes: nothing of an absent one, and of a retry mode
its text where a text is asked for. -/
def settle : Parameter → Argument κ → Option (Argument κ)
  | _, .value .null => none
  | .regionName, .value (.mode m) | .endpointUrl, .value (.mode m) => some (.value (.text m.value))
  | _, a => some a

/-- What is held of a parameter without a value. -/
def fallback : Parameter → Option (Argument κ)
  | .retryMode => some (.value (.mode .defaultDelay))
  | .retryDelay => some (.value (.int 0))
  | .prefetchSize => some (.value (.int 1))
  | .regionName | .endpointUrl | .sqsClient | .clientConfig => none

/-- A value fits a parameter exactly when the parameter takes it. -/
theorem fits_iff_takes {p : Parameter} {a : Argument κ} : a.fits p = true ↔ p.Takes a := by
  cases p <;> rcases a with v | c | k <;> try cases v
  all_goals simp [Argument.fits, Takes, Argument.optionalText?, Argument.mode?, Argument.integer?,
    Argument.optionalConfig?, Value.asText?]

/-- A keyword selects no parameter exactly when it names none. -/
theorem ofName?_eq_none_iff {name : String} :
    ofName? name = none ↔ ∀ p : Parameter, p.name ≠ name := by
  rw [ofName?, List.find?_eq_none]
  exact ⟨fun h p ↦ by simpa using h p p.mem_all, fun h p _ ↦ by simpa using h p⟩

end Parameter

namespace Factory

variable {f g : Factory κ} {keywords : List (String × Argument κ)} {p : Parameter} {a : Argument κ}

/-- What a factory holds of a parameter. -/
def held (f : Factory κ) : Parameter → Option (Argument κ)
  | .regionName => f.regionName.map fun s ↦ .value (.text s)
  | .endpointUrl => f.endpointUrl.map fun s ↦ .value (.text s)
  | .retryMode => some (.value (.mode f.policy.mode))
  | .retryDelay => some (.value (.int f.policy.delay))
  | .prefetchSize => some (.value (.int f.prefetchSize))
  | .sqsClient => f.client
  | .clientConfig => f.config.map .config

/-- A factory is nothing but what it holds. -/
theorem eq_of_held (same : ∀ p, f.held p = g.held p) : f = g := by
  have text : Function.Injective fun s ↦ (Argument.value (.text s) : Argument κ) :=
    fun s t h ↦ by simpa using h
  have config : Function.Injective (Argument.config : ClientConfig → Argument κ) :=
    fun c d h ↦ by simpa using h
  have region := Option.map_injective text (same .regionName)
  have endpoint := Option.map_injective text (same .endpointUrl)
  have mode : f.policy.mode = g.policy.mode := by simpa [held] using same .retryMode
  have delay : f.policy.delay = g.policy.delay := by simpa [held] using same .retryDelay
  have size : f.prefetchSize = g.prefetchSize := by simpa [held] using same .prefetchSize
  have options := Option.map_injective config (same .clientConfig)
  have client : f.client = g.client := same .sqsClient
  -- no field is left over: the policy is its mode and its delay
  obtain ⟨_, _, _, ⟨_, _⟩, _, _⟩ := f
  obtain ⟨_, _, _, ⟨_, _⟩, _, _⟩ := g
  cases region; cases endpoint; cases mode; cases delay; cases size; cases options; cases client
  rfl

/-- A value that a parameter takes is held. -/
theorem held_ofKeywords (given : keywords.lookup p.name = some a) (takes : p.Takes a) :
    (ofKeywords keywords).held p = p.settle a := by
  cases p <;> simp only [held, ofKeywords, given, Option.bind_some]
  case regionName | endpointUrl =>
    rcases takes with rfl | ⟨s, rfl⟩ | ⟨m, rfl⟩ <;> rfl
  case retryMode | retryDelay | prefetchSize =>
    obtain ⟨x, rfl⟩ := takes
    rfl
  case sqsClient =>
    rcases a with v | c | k
    · cases v <;> rfl
    · rfl
    · rfl
  case clientConfig =>
    rcases takes with rfl | ⟨c, rfl⟩ <;> rfl

/-- Without a value there is a fallback. -/
theorem held_ofKeywords_of_lookup_eq_none (absent : keywords.lookup p.name = none) :
    (ofKeywords keywords).held p = p.fallback := by
  cases p <;> simp only [held, ofKeywords, absent] <;> rfl

end Factory

/-- The kinds of faults, in the order in which they are reported. -/
def ArgumentFault.stage : ArgumentFault → Nat
  | .repeated _ => 0
  | .wrongType _ => 1
  | .unexpectedPosition _ => 2
  | .unexpectedKeyword _ => 3

namespace Arguments

variable {args : Arguments κ} {fault later : ArgumentFault} {fs gs : List ArgumentFault}

/-- What is wrong with the type, the place or the name of an argument. -/
inductive Offends (args : Arguments κ) : ArgumentFault → Prop where
  /-- The keyword that names the factory itself is given. -/
  | repeated {a : Argument κ} (given : ("self", a) ∈ args.keywords) :
    Offends args (.repeated "self")
  /-- A parameter is given a value that it does not take. -/
  | wrongType {p : Parameter} {a : Argument κ} (given : (p.name, a) ∈ args.keywords)
    (refused : ¬p.Takes a) : Offends args (.wrongType p)
  /-- A value is given without a keyword. -/
  | unexpectedPosition {i : Nat} (given : i < args.positional.length) :
    Offends args (.unexpectedPosition (i + 1))
  /-- A keyword names no parameter, nor the factory itself. -/
  | unexpectedKeyword {name : String} {a : Argument κ} (given : (name, a) ∈ args.keywords)
    (unknown : ∀ p : Parameter, p.name ≠ name) (other : name ≠ "self") :
    Offends args (.unexpectedKeyword name)

/-- The place of a fault among those of its kind: parameters as in the signature, positions as they
are counted, keywords as in the call. -/
def place (args : Arguments κ) : ArgumentFault → Nat
  | .repeated _ => 0
  | .wrongType p => Parameter.all.idxOf p
  | .unexpectedPosition n => n
  | .unexpectedKeyword name => (args.keywords.map Prod.fst).idxOf name

/-- A fault is reported before another one. -/
def Before (args : Arguments κ) (fault later : ArgumentFault) : Prop :=
  fault.stage < later.stage ∨ fault.stage = later.stage ∧ args.place fault < args.place later

/-- The faults are those of the arguments, each of them once and in order. -/
structure Reports (args : Arguments κ) (fs : List ArgumentFault) : Prop where
  /-- All that is wrong is reported, and nothing else. -/
  mem_iff : ∀ fault, fault ∈ fs ↔ args.Offends fault
  /-- The order is that of the kinds, and within a kind that of the places. -/
  ordered : fs.Pairwise args.Before

/-- Nothing is wrong with the types, the places and the names. -/
def Sound (args : Arguments κ) : Prop := ∀ fault, ¬args.Offends fault

/-- A prefetch size is given that is not positive. -/
def Starved (args : Arguments κ) : Prop :=
  ∃ size : Int, size ≤ 0 ∧ (Parameter.prefetchSize.name, .value (.int size)) ∈ args.keywords

/-- The factory holds the values that are given, and fallbacks for all others. -/
structure Holds (args : Arguments κ) (f : Factory κ) : Prop where
  /-- Each value that is given is held. -/
  given : ∀ p a, (p.name, a) ∈ args.keywords → f.held p = p.settle a
  /-- Parameters without a value have their fallbacks. -/
  absent : ∀ p : Parameter, p.name ∉ args.keywords.map Prod.fst → f.held p = p.fallback

/-! ### Reports -/

/-- Of two faults only one comes before the other. -/
theorem Before.asymm (h : args.Before fault later) : ¬args.Before later fault := by
  unfold Before at h ⊢
  omega

instance : Std.Asymm args.Before := ⟨fun _ _ before ↦ before.asymm⟩

/-- There is one report. -/
theorem Reports.unique (hf : args.Reports fs) (hg : args.Reports gs) : fs = gs :=
  hf.ordered.eq_of_mem_iff hg.ordered fun fault ↦ (hf.mem_iff fault).trans (hg.mem_iff fault).symm

/-- Only sound arguments have an empty one. -/
theorem Reports.eq_nil_iff (h : args.Reports fs) : fs = [] ↔ args.Sound := by
  rw [List.eq_nil_iff_forall_not_mem]
  exact forall_congr' fun fault ↦ not_congr (h.mem_iff fault)

/-! ### The faults that are found -/

/-- The factory itself is named by its keyword. -/
theorem mem_repeatedKeywords_iff : fault ∈ Factory.repeatedKeywords args.keywords ↔
    ∃ a, ("self", a) ∈ args.keywords ∧ fault = .repeated "self" := by
  rw [Factory.repeatedKeywords, List.mem_map]
  constructor
  · rintro ⟨⟨name, a⟩, found, rfl⟩
    obtain ⟨given, receiver⟩ := List.mem_filter.mp found
    obtain rfl : name = "self" := eq_of_beq receiver
    exact ⟨a, given, rfl⟩
  · rintro ⟨a, given, rfl⟩
    exact ⟨("self", a), List.mem_filter.mpr ⟨given, rfl⟩, rfl⟩

/-- A parameter has a value of the wrong type when it does not take the value. -/
theorem mem_wrongTypes_iff : fault ∈ Factory.wrongTypes args.keywords ↔
    ∃ (p : Parameter) (a : Argument κ),
      (p.name, a) ∈ args.keywords ∧ ¬p.Takes a ∧ fault = .wrongType p := by
  rw [Factory.wrongTypes, List.mem_map]
  constructor
  · rintro ⟨p, found, rfl⟩
    have unfit := (List.mem_filter.mp found).2
    cases looked_up : args.keywords.lookup p.name with
    | none => simp [looked_up] at unfit
    | some a =>
      have refused : a.fits p = false := by simpa [looked_up] using unfit
      refine ⟨p, a, (lookup_eq_some_iff args.distinct).mp looked_up, fun takes ↦ ?_, rfl⟩
      cases refused.symm.trans (Parameter.fits_iff_takes.mpr takes)
  · rintro ⟨p, a, given, refused, rfl⟩
    refine ⟨p, List.mem_filter.mpr ⟨p.mem_all, ?_⟩, rfl⟩
    rw [(lookup_eq_some_iff args.distinct).mpr given]
    simpa using mt Parameter.fits_iff_takes.mp refused

/-- Positions are counted from one. -/
theorem mem_unexpectedPositions_iff {n : Nat} : fault ∈ Factory.unexpectedPositions n ↔
    ∃ i < n, fault = .unexpectedPosition (i + 1) := by
  simp only [Factory.unexpectedPositions, List.mem_map, List.mem_range, eq_comm]

/-- A keyword is unexpected when it names no parameter, nor the factory itself. -/
theorem mem_unexpectedKeywords_iff : fault ∈ Factory.unexpectedKeywords args.keywords ↔
    ∃ (name : String) (a : Argument κ), (name, a) ∈ args.keywords ∧
      (∀ p : Parameter, p.name ≠ name) ∧ name ≠ "self" ∧ fault = .unexpectedKeyword name := by
  rw [Factory.unexpectedKeywords, List.mem_map]
  constructor
  · rintro ⟨⟨name, a⟩, found, rfl⟩
    obtain ⟨given, unknown⟩ := List.mem_filter.mp found
    rw [Bool.and_eq_true, Option.isNone_iff_eq_none, bne_iff_ne] at unknown
    exact ⟨name, a, given, Parameter.ofName?_eq_none_iff.mp unknown.1, unknown.2, rfl⟩
  · rintro ⟨name, a, given, unknown, other, rfl⟩
    refine ⟨(name, a), List.mem_filter.mpr ⟨given, ?_⟩, rfl⟩
    rw [Bool.and_eq_true, Option.isNone_iff_eq_none, bne_iff_ne]
    exact ⟨Parameter.ofName?_eq_none_iff.mpr unknown, other⟩

/-- The faults that are found are those of the arguments. -/
theorem mem_faults_iff :
    fault ∈ Factory.faults args.positional.length args.keywords ↔ args.Offends fault := by
  rw [Factory.faults, List.mem_append, List.mem_append, List.mem_append, mem_repeatedKeywords_iff,
    mem_wrongTypes_iff, mem_unexpectedPositions_iff, mem_unexpectedKeywords_iff]
  constructor
  · rintro (((⟨a, given, rfl⟩ | ⟨p, a, given, refused, rfl⟩) | ⟨i, given, rfl⟩) |
      ⟨name, a, given, unknown, other, rfl⟩)
    · exact .repeated given
    · exact .wrongType given refused
    · exact .unexpectedPosition given
    · exact .unexpectedKeyword given unknown other
  · intro offends
    cases offends with
    | repeated given => exact .inl (.inl (.inl ⟨_, given, rfl⟩))
    | wrongType given refused => exact .inl (.inl (.inr ⟨_, _, given, refused, rfl⟩))
    | unexpectedPosition given => exact .inl (.inr ⟨_, given, rfl⟩)
    | unexpectedKeyword given unknown other => exact .inr ⟨_, _, given, unknown, other, rfl⟩

/-- The factory itself is named once. -/
theorem pairwise_repeatedKeywords (args : Arguments κ) :
    (Factory.repeatedKeywords args.keywords).Pairwise args.Before := by
  have names : args.keywords.Pairwise fun k l ↦ k.1 ≠ l.1 := List.pairwise_map.mp args.distinct
  refine List.pairwise_map.mpr (List.pairwise_filter.mpr (names.imp ?_))
  intro k l other hk hl
  -- two keywords for the factory would be one keyword given twice
  exact absurd ((eq_of_beq hk).trans (eq_of_beq hl).symm) other

/-- Parameters come as in the signature. -/
theorem pairwise_wrongTypes (args : Arguments κ) :
    (Factory.wrongTypes args.keywords).Pairwise args.Before := by
  have signature : Parameter.all.Nodup := by decide
  refine List.pairwise_map.mpr (List.Pairwise.filter _ ?_)
  exact (pairwise_idxOf signature).imp fun less ↦ .inr ⟨rfl, less⟩

/-- Positions come as they are counted. -/
theorem pairwise_unexpectedPositions (args : Arguments κ) (n : Nat) :
    (Factory.unexpectedPositions n).Pairwise args.Before := by
  refine List.pairwise_map.mpr (List.pairwise_lt_range.imp ?_)
  exact fun less ↦ .inr ⟨rfl, Nat.succ_lt_succ less⟩

/-- Keywords come as in the call. -/
theorem pairwise_unexpectedKeywords (args : Arguments κ) :
    (Factory.unexpectedKeywords args.keywords).Pairwise args.Before := by
  have call := List.pairwise_map.mp (pairwise_idxOf args.distinct)
  refine List.pairwise_map.mpr (List.Pairwise.filter _ ?_)
  exact call.imp fun less ↦ .inr ⟨rfl, less⟩

/-- Faults of lower kinds come before others. -/
theorem pairwise_append_of_stage (first : fs.Pairwise args.Before)
    (second : gs.Pairwise args.Before)
    (lower : ∀ fault ∈ fs, ∀ later ∈ gs, fault.stage < later.stage) :
    (fs ++ gs).Pairwise args.Before :=
  List.pairwise_append.mpr ⟨first, second, fun fault hf later hl ↦ .inl (lower fault hf later hl)⟩

/-- The faults are found in order. -/
theorem pairwise_faults (args : Arguments κ) :
    (Factory.faults args.positional.length args.keywords).Pairwise args.Before := by
  have of_receiver : ∀ fault ∈ Factory.repeatedKeywords args.keywords, fault.stage = 0 :=
    List.forall_mem_map.mpr fun _ _ ↦ rfl
  have of_type : ∀ fault ∈ Factory.wrongTypes args.keywords, fault.stage = 1 :=
    List.forall_mem_map.mpr fun _ _ ↦ rfl
  have of_position :
      ∀ fault ∈ Factory.unexpectedPositions args.positional.length, fault.stage = 2 :=
    List.forall_mem_map.mpr fun _ _ ↦ rfl
  have of_keyword : ∀ fault ∈ Factory.unexpectedKeywords args.keywords, fault.stage = 3 :=
    List.forall_mem_map.mpr fun _ _ ↦ rfl
  have types := pairwise_append_of_stage args.pairwise_repeatedKeywords args.pairwise_wrongTypes
    (by grind)
  have positions := pairwise_append_of_stage types
    (args.pairwise_unexpectedPositions args.positional.length) (by grind)
  exact pairwise_append_of_stage positions args.pairwise_unexpectedKeywords (by grind)

/-- All faults of the arguments are found. -/
theorem reports_faults (args : Arguments κ) :
    args.Reports (Factory.faults args.positional.length args.keywords) :=
  ⟨fun _ ↦ mem_faults_iff, args.pairwise_faults⟩

/-! ### The factory that is made -/

variable {f g : Factory κ}

/-- Sound arguments give parameters what these take. -/
theorem Sound.takes {p : Parameter} {a : Argument κ} (sound : args.Sound)
    (given : (p.name, a) ∈ args.keywords) : p.Takes a := by
  by_contra refused
  exact sound _ (.wrongType given refused)

/-- They describe a factory that holds them. -/
theorem holds_ofKeywords (sound : args.Sound) : args.Holds (Factory.ofKeywords args.keywords) where
  given _ _ given :=
    Factory.held_ofKeywords ((lookup_eq_some_iff args.distinct).mpr given) (sound.takes given)
  absent _ absent := Factory.held_ofKeywords_of_lookup_eq_none (lookup_eq_none_iff.mpr absent)

/-- One factory holds the arguments. -/
theorem Holds.unique (hf : args.Holds f) (hg : args.Holds g) : f = g := by
  refine Factory.eq_of_held fun p ↦ ?_
  cases found : args.keywords.lookup p.name with
  | some a =>
    have given := (lookup_eq_some_iff args.distinct).mp found
    rw [hf.given p a given, hg.given p a given]
  | none =>
    have absent := lookup_eq_none_iff.mp found
    rw [hf.absent p absent, hg.absent p absent]

/-- A delay that is given is held, whatever its sign. -/
theorem Holds.delay {delay : Int} (h : args.Holds f)
    (given : (Parameter.retryDelay.name, .value (.int delay)) ∈ args.keywords) :
    f.policy.delay = delay := by
  simpa [Factory.held, Parameter.settle] using h.given _ _ given

/-- A prefetch size that is given is held. -/
theorem Holds.prefetchSize {size : Int} (h : args.Holds f)
    (given : (Parameter.prefetchSize.name, .value (.int size)) ∈ args.keywords) :
    f.prefetchSize = size := by
  simpa [Factory.held, Parameter.settle] using h.given _ _ given

/-- Only a prefetch size that is given is not positive. -/
theorem Holds.prefetchSize_le_iff (h : args.Holds f) (sound : args.Sound) :
    f.prefetchSize ≤ 0 ↔ args.Starved := by
  constructor
  · intro small
    cases found : args.keywords.lookup Parameter.prefetchSize.name with
    | some a =>
      have given := (lookup_eq_some_iff args.distinct).mp found
      obtain ⟨size, rfl⟩ := sound.takes given
      exact ⟨size, h.prefetchSize given ▸ small, given⟩
    | none =>
      have one : f.prefetchSize = 1 := by
        simpa [Factory.held, Parameter.fallback] using h.absent _ (lookup_eq_none_iff.mp found)
      omega
  · rintro ⟨size, small, given⟩
    rwa [h.prefetchSize given]

/-- Arguments are refused for all their faults, or for their prefetch size when they have none, or a
factory is made of them. -/
theorem make_cases (args : Arguments κ) :
    let made := Factory.make args.positional.length args.keywords
    (¬args.Sound ∧
      made = .error (.arguments (Factory.faults args.positional.length args.keywords))) ∨
    (args.Sound ∧ args.Starved ∧ made = .error .prefetchSize) ∨
    (args.Sound ∧ ¬args.Starved ∧ made = .ok (Factory.ofKeywords args.keywords)) := by
  intro made
  have found := args.reports_faults.eq_nil_iff
  by_cases sound : args.Sound
  · have small := (holds_ofKeywords sound).prefetchSize_le_iff sound
    have checked : made = (Factory.ofKeywords args.keywords).checked := by
      unfold made Factory.make
      rw [found.mpr sound]
    rw [checked, Factory.checked]
    by_cases starved : args.Starved
    · exact .inr (.inl ⟨sound, starved, if_pos (small.mpr starved)⟩)
    · exact .inr (.inr ⟨sound, starved, if_neg (mt small.mp starved)⟩)
  · refine .inl ⟨sound, ?_⟩
    unfold made Factory.make
    split
    · next none_found => exact absurd (found.mp none_found) sound
    · rfl

/-- Arguments are refused for their types, places and names with the report of all that is wrong. -/
theorem make_eq_error_arguments_iff {e : Failure} :
    Factory.make args.positional.length args.keywords = .error e ∧ e.kind = "ValidationError" ↔
      ∃ fs, fs ≠ [] ∧ args.Reports fs ∧ e = .arguments fs := by
  have unreported (sound : args.Sound) :
      ¬∃ fs, fs ≠ [] ∧ args.Reports fs ∧ e = .arguments fs := by
    rintro ⟨fs, some_fault, reports, -⟩
    exact some_fault (reports.eq_nil_iff.mpr sound)
  rcases args.make_cases with ⟨unsound, made⟩ | ⟨sound, -, made⟩ | ⟨sound, -, made⟩
  · rw [made]
    constructor
    · rintro ⟨same, -⟩
      cases same
      exact ⟨_, mt args.reports_faults.eq_nil_iff.mp unsound, args.reports_faults, rfl⟩
    · rintro ⟨fs, -, reports, rfl⟩
      rw [reports.unique args.reports_faults]
      exact ⟨rfl, rfl⟩
  · refine iff_of_false ?_ (unreported sound)
    rintro ⟨refused, kind⟩
    cases made.symm.trans refused
    exact absurd kind (by decide)
  · refine iff_of_false ?_ (unreported sound)
    rintro ⟨refused, -⟩
    cases made.symm.trans refused

/-- A failure of the configuration is one of the prefetch size. -/
theorem exists_make_eq_error_iff :
    (∃ e, Factory.make args.positional.length args.keywords = .error e ∧
      e.kind = "ConfigurationError") ↔ args.Sound ∧ args.Starved := by
  rcases args.make_cases with ⟨unsound, made⟩ | ⟨sound, starved, made⟩ | ⟨sound, fed, made⟩
  · refine iff_of_false ?_ fun h ↦ unsound h.1
    rintro ⟨e, refused, kind⟩
    cases made.symm.trans refused
    have other : "ValidationError" ≠ "ConfigurationError" := by decide
    exact other kind
  · exact iff_of_true ⟨_, made, rfl⟩ ⟨sound, starved⟩
  · refine iff_of_false ?_ fun h ↦ fed h.2
    rintro ⟨e, refused, -⟩
    cases made.symm.trans refused

/-- A factory is made exactly when nothing is wrong, and it is the one that holds the arguments. -/
theorem make_eq_ok_iff :
    Factory.make args.positional.length args.keywords = .ok f ↔
      args.Sound ∧ ¬args.Starved ∧ args.Holds f := by
  rcases args.make_cases with ⟨unsound, made⟩ | ⟨sound, starved, made⟩ | ⟨sound, fed, made⟩
  · exact iff_of_false (by simp [made]) fun h ↦ unsound h.1
  · exact iff_of_false (by simp [made]) fun h ↦ h.2.1 starved
  · rw [made]
    constructor
    · intro same
      cases same
      exact ⟨sound, fed, holds_ofKeywords sound⟩
    · rintro ⟨-, -, holds⟩
      rw [holds.unique (holds_ofKeywords sound)]

end Arguments

/-- A factory is made in two stages. Its arguments are refused for their types, places and names
exactly when one of them offends, with the one report in which each fault comes once and in order,
whatever the prefetch size. When none does, they are refused exactly for a prefetch size that is not
positive. All others make a factory, and it holds the given values and the fallbacks, also a delay
below zero. -/
theorem arguments_exact (args : Arguments κ) :
    let made := Factory.make args.positional.length args.keywords
    ((∃ e, made = .error e ∧ e.kind = "ValidationError") ↔ ∃ fault, args.Offends fault) ∧
    (∀ e, made = .error e ∧ e.kind = "ValidationError" ↔
      ∃ fs, fs ≠ [] ∧ args.Reports fs ∧ e = .arguments fs) ∧
    ((∃ e, made = .error e ∧ e.kind = "ConfigurationError") ↔ args.Sound ∧ args.Starved) ∧
    ((∃ f, made = .ok f) ↔ args.Sound ∧ ¬args.Starved) ∧
    (∀ f, made = .ok f ↔ args.Sound ∧ ¬args.Starved ∧ args.Holds f) ∧
    ∀ f, made = .ok f → ∀ delay : Int, delay < 0 →
      (Parameter.retryDelay.name, .value (.int delay)) ∈ args.keywords →
      f.policy.delay = delay := by
  refine ⟨?_, fun e ↦ Arguments.make_eq_error_arguments_iff, Arguments.exists_make_eq_error_iff, ?_,
    fun f ↦ Arguments.make_eq_ok_iff, ?_⟩
  · constructor
    · rintro ⟨e, refused⟩
      obtain ⟨fs, some_fault, reports, -⟩ := Arguments.make_eq_error_arguments_iff.mp refused
      obtain ⟨fault, found⟩ := List.exists_mem_of_ne_nil fs some_fault
      exact ⟨fault, (reports.mem_iff fault).mp found⟩
    · rintro ⟨fault, offends⟩
      have found := (args.reports_faults.mem_iff fault).mpr offends
      exact ⟨_, Arguments.make_eq_error_arguments_iff.mpr
        ⟨_, List.ne_nil_of_mem found, args.reports_faults, rfl⟩⟩
  · constructor
    · rintro ⟨f, made⟩
      obtain ⟨sound, fed, -⟩ := Arguments.make_eq_ok_iff.mp made
      exact ⟨sound, fed⟩
    · rintro ⟨sound, fed⟩
      exact ⟨_, Arguments.make_eq_ok_iff.mpr ⟨sound, fed, Arguments.holds_ofKeywords sound⟩⟩
  · intro f made delay _ given
    obtain ⟨-, -, holds⟩ := Arguments.make_eq_ok_iff.mp made
    exact holds.delay given

/-- One of each fault, given in another order than they are reported in, and a prefetch size that is
not positive. -/
private def mistaken : Arguments Unit where
  positional := [.value .null, .value (.int 3)]
  keywords := [("zz", .value .null), ("retry_delay", .value (.bool true)),
    ("self", .value (.int 2)), ("prefetch_size", .value (.int 0)), ("aa", .config {}),
    ("region_name", .value (.int 5))]

/-- A prefetch size below zero, and nothing wrong beside it. -/
private def starving : Arguments Unit where
  keywords := [("sqs_client", .client ()), ("prefetch_size", .value (.int (-3)))]

/-- A delay below zero, and a retry mode in the place of a text. -/
private def patient : Arguments Unit where
  keywords := [("retry_delay", .value (.int (-5))), ("region_name", .value (.mode .queueDelay))]

/-- Every fault is reported although the prefetch size is too small as well; with nothing else
wrong that is the failure; and a delay below zero is kept. -/
theorem arguments_exact_of_each :
    mistaken.Reports [.repeated "self", .wrongType .regionName, .wrongType .retryDelay,
      .unexpectedPosition 1, .unexpectedPosition 2, .unexpectedKeyword "zz",
      .unexpectedKeyword "aa"] ∧ mistaken.Starved ∧
    starving.Sound ∧ starving.Starved ∧
    patient.Sound ∧ ¬patient.Starved ∧
    ∃ f, Factory.make 0 patient.keywords = .ok f ∧ patient.Holds f ∧ f.policy.delay = -5 ∧
      f.regionName = some "queue_delay" := by
  obtain ⟨-, reported, -⟩ := arguments_exact mistaken
  obtain ⟨-, -, configured, -⟩ := arguments_exact starving
  obtain ⟨-, -, -, -, made, kept⟩ := arguments_exact patient
  obtain ⟨fs, -, reports, same⟩ := (reported _).mp ⟨rfl, rfl⟩
  obtain ⟨sound, starved⟩ := configured.mp ⟨.prefetchSize, rfl, rfl⟩
  let f := Factory.ofKeywords patient.keywords
  obtain ⟨patient_sound, fed, holds⟩ := (made f).mp rfl
  have delay := kept f rfl (-5) (by decide) List.mem_cons_self
  cases same
  exact ⟨reports, ⟨0, by decide, by simp [mistaken, Parameter.name]⟩, sound, starved, patient_sound,
    fed, f, rfl, holds, delay, rfl⟩

/-- The keyword that names the factory itself is no parameter, yet it is reported, and before a
parameter of the wrong type. -/
theorem receiver_reported_first :
    let keywords : List (String × Argument Unit) :=
      [("self", .value (.int 2)), ("retry_mode", .value (.int 1))]
    (∀ p : Parameter, p.name ≠ "self") ∧
    ∃ fs, Factory.make 0 keywords = .error (.arguments fs) ∧
      fs.map ArgumentFault.location = [.text "self", .text "retry_mode"] ∧
      ¬fs.Pairwise fun fault later ↦ (∃ p : Parameter, later.location = .text p.name) →
        ∃ p : Parameter, fault.location = .text p.name := by
  intro keywords
  have no_parameter : ∀ p : Parameter, p.name ≠ "self" := fun p ↦ by cases p <;> decide
  refine ⟨no_parameter, _, rfl, rfl, fun ordered ↦ ?_⟩
  obtain ⟨p, same⟩ := (List.pairwise_cons.mp ordered).1 _ List.mem_cons_self ⟨.retryMode, rfl⟩
  exact no_parameter p (Value.text.inj same).symm

end QueueAck
