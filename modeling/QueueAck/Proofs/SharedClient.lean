import QueueAck.Factory
import QueueAck.Proofs.Numbering

/-!
# The client that a factory shares

A factory that holds no client asks a provider for one whenever it is called, until it is given one;
all its connections have that client. `FactoryCall.Lawful` says what one call comes to, and
`client_shared` what that means for any calls one after the other: half of the credentials changes
nothing, a failure leaves the factory as it was, and a client that is held stays the only one.
-/

namespace QueueAck

variable {κ : Type}

/-- The credentials that a call on a factory is given. -/
structure Credentials where
  /-- The first half. -/
  accessKeyId : Option String := none
  /-- The second half. -/
  secretAccessKey : Option String := none
deriving DecidableEq, Repr

/-- One half is given and the other one is not. -/
inductive Credentials.Half : Credentials → Prop where
  /-- The second half is missing. -/
  | first (id : String) : Half ⟨some id, none⟩
  /-- The first half is missing. -/
  | second (secret : String) : Half ⟨none, some secret⟩

/-- Half of the credentials is given exactly when one part is missing and the other one is not. -/
theorem Credentials.half_iff {c : Credentials} :
    c.Half ↔ c.accessKeyId.isNone ≠ c.secretAccessKey.isNone := by
  obtain ⟨_ | id, _ | secret⟩ := c
  · exact ⟨nofun, fun h ↦ absurd rfl h⟩
  · exact ⟨fun _ ↦ nofun, fun _ ↦ .second secret⟩
  · exact ⟨fun _ ↦ nofun, fun _ ↦ .first id⟩
  · exact ⟨nofun, fun h ↦ absurd rfl h⟩

/-- The kinds of failure that blame the configuration of a new client: an unacceptable value, a
region in the wrong form among them, or no region. -/
def configurationKinds : List String :=
  ["ValueError", "ValidationError", "InvalidRegionError", "NoRegionError"]

/-- How a failure to make a client is passed on. -/
structure Failure.PassedOn (f g : Failure) : Prop where
  /-- One that blames the configuration is the cause of an error of the configuration. -/
  blames : f.kind ∈ configurationKinds → g.kind = "ConfigurationError" ∧ g.cause? = some f
  /-- Any other one is left as it is. -/
  other : f.kind ∉ configurationKinds → g = f

/-- A call on a factory, with what it found and what it left. -/
structure FactoryCall (κ : Type) where
  /-- The credentials that were given. -/
  credentials : Credentials
  /-- The factory before the call. -/
  before : Factory κ
  /-- The state before the call. -/
  start : World (List ClientRequest)
  /-- What the call returned, or the failure with which it ended. -/
  outcome : Except Failure (Connection (Argument κ))
  /-- The factory after the call. -/
  after : Factory κ
  /-- The state after the call. -/
  finish : World (List ClientRequest)

section Provider

variable (answer : List ClientRequest → ClientRequest → Except Failure κ)

/-- A provider of clients that keeps the requests which it gets. Its answer may depend on all of
them. -/
def provider (request : ClientRequest) : Action (List ClientRequest) κ :=
  Action.ofBackend fun made ↦ (answer made request, made ++ [request])

/-- Calls a factory. -/
def Factory.call (f : Factory κ) (c : Credentials) (w : World (List ClientRequest)) :
    FactoryCall κ :=
  let r := (f.connect (provider answer) c.accessKeyId c.secretAccessKey).apply w
  { credentials := c
    before := f
    start := w
    outcome := r.1.bind Prod.snd
    after := match r.1 with
      | .ok p => p.1
      | .error _ => f
    finish := r.2 }

/-- The calls on a factory with one credentials after the other. A failed call does not keep the
caller from going on. -/
def Factory.history (f : Factory κ) : List Credentials → World (List ClientRequest) →
    List (FactoryCall κ)
  | [], _ => []
  | c :: cs, w =>
    let x := f.call answer c w
    x :: x.after.history cs x.finish

end Provider

namespace FactoryCall

/-- The request for a client with the credentials of the call. -/
def request (x : FactoryCall κ) : ClientRequest :=
  x.before.clientRequest x.credentials.accessKeyId x.credentials.secretAccessKey

/-- The call opens a connection with a client: it has the policy and the prefetch size of the
factory and a new source of identifiers that starts at zero. A prefetch size that is too large to be
written lets the call fail. -/
structure Opens (x : FactoryCall κ) (client : Argument κ) : Prop where
  /-- The connection, when the prefetch size can be written. -/
  opened : x.before.prefetchSize.natAbs < Text.writeLimit →
    x.outcome = .ok ⟨client, some x.before.policy, x.before.prefetchSize,
      .own x.start.generators⟩ ∧
    x.finish.counters (.own x.start.generators) = 0 ∧
    x.finish.generators = x.start.generators + 1
  /-- The failure, when it cannot. -/
  refused : Text.writeLimit ≤ x.before.prefetchSize.natAbs →
    x.outcome = .error .unprintableInteger

/-- What a call on a factory comes to. -/
structure Lawful (answer : List ClientRequest → ClientRequest → Except Failure κ)
    (x : FactoryCall κ) : Prop where
  /-- Half of the credentials is refused, and nothing is asked for or changed. -/
  half : x.credentials.Half → x.outcome = .error .halfCredentials ∧
    Failure.halfCredentials.kind = "ConfigurationError" ∧ x.after = x.before ∧ x.finish = x.start
  /-- Otherwise a factory that holds a client opens a connection with it and asks for no other. -/
  held : ¬x.credentials.Half → ∀ client, x.before.client = some client →
    x.Opens client ∧ x.after = x.before ∧ x.finish.outside = x.start.outside
  /-- One that holds none asks for one, with the credentials of the call. It keeps the client that
  it is given, and is left as it was when it is given none. -/
  asked : ¬x.credentials.Half → x.before.client = none →
    x.finish.outside = x.start.outside ++ [x.request] ∧
    match answer x.start.outside x.request with
    | .ok k =>
      x.Opens (.client k) ∧ x.after = { x.before with client := some (.client k) }
    | .error f => x.after = x.before ∧ ∃ g, x.outcome = .error g ∧ f.PassedOn g

/-- The call asks for no client, and the connection that it returns, if any, has the one that the
factory holds. -/
structure Reuses (x : FactoryCall κ) (client : Argument κ) : Prop where
  /-- The factory holds the client. -/
  before : x.before.client = some client
  /-- It goes on to hold it. -/
  after : x.after.client = some client
  /-- Nothing is asked for. -/
  outside : x.finish.outside = x.start.outside
  /-- The connection has it. -/
  outcome : ∀ c, x.outcome = .ok c → c.client = client

/-- One call is the next one after another. -/
structure Continues (x y : FactoryCall κ) : Prop where
  /-- It is made on the factory that the earlier one left. -/
  factory : y.before = x.after
  /-- It is made in the state that the earlier one left. -/
  state : y.start = x.finish

end FactoryCall

/-! ### Failures of the provider -/

/-- A failure is of a kind of the library, or of a plain kind, unless it comes from outside. -/
theorem Failure.kind_of_outside?_eq_none {f : Failure} (h : f.outside? = none) :
    f.kind ∈ ["SQSMessagingException", "ConfigurationError", "BackendCallError",
      "PartialBatchFailure", "ValidationError"] ∨ ∃ k : PlainKind, f.kind = k.name := by
  cases f with
  | outside | outsideFrom => cases h
  | unnamedEntry | repeatedArgument | unknownOption | notComparable => exact .inr ⟨.type, rfl⟩
  | unknownLevel | unreadableInteger | unprintableInteger | unknownMode | unknownAttribute
  | formatWithoutFields => exact .inr ⟨.value, rfl⟩
  | protectedAttribute => exact .inr ⟨.key, rfl⟩
  | misuse | template | stamp => exact .inr ⟨_, rfl⟩
  | _ => exact .inl (by simp [kind])

/-- An error from outside blames the configuration exactly when it says that a value is not
acceptable or that there is no region. -/
theorem OutsideError.kind_mem_iff (e : OutsideError) : e.kind ∈ configurationKinds ↔
    (Failure.outside e).isValue = true ∨ (Failure.outside e).isNoRegion = true := by
  cases e with
  | plain k message =>
    cases k <;> simp [configurationKinds, kind, PlainKind.name, Failure.isValue, Failure.isNoRegion,
      Failure.outside?]
  | messaging | configuration | backendCall =>
    simp [configurationKinds, kind, Failure.isValue, Failure.isNoRegion, Failure.outside?]
  | sqs e =>
    cases e <;> simp [configurationKinds, kind, SqsError.kind, Failure.isValue, Failure.isNoRegion,
      Failure.outside?]
  | pubSub e =>
    cases e with
    | refused status message =>
      cases status <;> simp [configurationKinds, kind, PubSubError.kind, PubSubStatus.name,
        Failure.isValue, Failure.isNoRegion, Failure.outside?]
    | failedCall | other | retriesEnded =>
      simp [configurationKinds, kind, PubSubError.kind, Failure.isValue, Failure.isNoRegion,
        Failure.outside?]

/-- A failure blames the configuration exactly when it says that a value is not acceptable or that
there is no region. -/
theorem Failure.kind_mem_iff (f : Failure) :
    f.kind ∈ configurationKinds ↔ f.isValue = true ∨ f.isNoRegion = true := by
  cases h : f.outside? with
  | some e =>
    cases f with
    | outside e => exact e.kind_mem_iff
    | outsideFrom e cause => exact e.kind_mem_iff
    | _ => cases h
  | none =>
    have hv : f.isValue = (f.kind == PlainKind.value.name || f.kind == "ValidationError") := by
      simp only [isValue, h]
    have hn : f.isNoRegion = false := by simp only [isNoRegion, h]
    rw [hv, hn]
    rcases kind_of_outside?_eq_none h with hk | ⟨k, hk⟩
    · simp only [List.mem_cons, List.not_mem_nil, or_false] at hk
      rcases hk with hk | hk | hk | hk | hk <;> rw [hk] <;> decide
    · rw [hk]
      cases k <;> decide

/-- The failure that a factory reports passes the failure of its provider on. -/
theorem Factory.passedOn_clientFailure (f : Failure) : f.PassedOn (clientFailure f) where
  blames h := by
    unfold clientFailure
    by_cases hv : f.isValue = true
    · rw [if_pos hv]
      exact ⟨rfl, rfl⟩
    · rw [if_neg hv, if_pos ((f.kind_mem_iff.mp h).resolve_left hv)]
      exact ⟨rfl, rfl⟩
  other h := by
    rw [Failure.kind_mem_iff, not_or] at h
    unfold clientFailure
    rw [if_neg h.1, if_neg h.2]

/-! ### One call -/

namespace Factory

variable {ε : Type} (f : Factory κ)

/-- A connection is opened when the prefetch size can be written. -/
theorem apply_openConnection_of_lt (client : Argument κ) (w : World ε)
    (h : f.prefetchSize.natAbs < Text.writeLimit) :
    ∃ w', (f.openConnection client).apply w =
        (.ok ⟨client, some f.policy, f.prefetchSize, .own w.generators⟩, w') ∧
      w'.counters (.own w.generators) = 0 ∧ w'.generators = w.generators + 1 ∧
      w'.outside = w.outside := by
  unfold openConnection
  rw [decimalText_of_lt h]
  exact ⟨_, rfl, World.counters_setCounter_self _ _ _, rfl, rfl⟩

/-- A prefetch size that cannot be written is the end of the attempt. -/
theorem apply_openConnection_of_le (client : Argument κ) (w : World ε)
    (h : Text.writeLimit ≤ f.prefetchSize.natAbs) :
    (f.openConnection client).apply w = (.error .unprintableInteger, w) := by
  unfold openConnection
  rw [decimalText_of_le h]
  rfl

/-- An attempt to open a connection has nothing to do with the service. -/
theorem outside_openConnection (client : Argument κ) (w : World ε) :
    ((f.openConnection client).apply w).2.outside = w.outside ∧
      w.generators ≤ ((f.openConnection client).apply w).2.generators := by
  rcases Nat.lt_or_ge f.prefetchSize.natAbs Text.writeLimit with h | h
  · obtain ⟨w', hr, -, hg, ho⟩ := f.apply_openConnection_of_lt client w h
    rw [hr]
    exact ⟨ho, hg ▸ Nat.le_succ _⟩
  · rw [f.apply_openConnection_of_le client w h]
    exact ⟨rfl, le_rfl⟩

variable (answer : List ClientRequest → ClientRequest → Except Failure κ) {c : Credentials}
  (w : World (List ClientRequest))

/-- Half of the credentials is refused before anything else is done. -/
theorem call_of_half (h : c.Half) :
    f.call answer c w = ⟨c, f, w, .error .halfCredentials, f, w⟩ := by
  unfold call connect
  rw [if_pos (Credentials.half_iff.mp h)]
  rfl

/-- With a client, a call comes to the attempt to open a connection. -/
theorem call_of_obtained (h : ¬c.Half) {client : Argument κ} {w' : World (List ClientRequest)}
    (ho : (f.obtainClient (provider answer) c.accessKeyId c.secretAccessKey).apply w =
      (.ok client, w')) :
    f.call answer c w = ⟨c, f, w, ((f.openConnection client).apply w').1,
      { f with client := some client }, ((f.openConnection client).apply w').2⟩ := by
  unfold call connect
  rw [if_neg (mt Credentials.half_iff.mpr h), Action.apply_bind, Action.apply_attempt, ho]
  rfl

/-- A factory that holds a client opens a connection with it. -/
theorem call_of_held (h : ¬c.Half) {client : Argument κ} (hc : f.client = some client) :
    f.call answer c w = ⟨c, f, w, ((f.openConnection client).apply w).1, f,
      ((f.openConnection client).apply w).2⟩ := by
  have hf : { f with client := some client } = f := by rw [← hc]
  have ho : (f.obtainClient (provider answer) c.accessKeyId c.secretAccessKey).apply w =
      (.ok client, w) := by
    unfold obtainClient
    rw [hc]
    rfl
  rw [f.call_of_obtained answer w h ho, hf]

/-- A factory that holds no client asks the provider for one. -/
theorem apply_obtainClient_of_none (hc : f.client = none) :
    (f.obtainClient (provider answer) c.accessKeyId c.secretAccessKey).apply w =
      (match answer w.outside (f.clientRequest c.accessKeyId c.secretAccessKey) with
        | .ok k => .ok (.client k)
        | .error e => .error (clientFailure e),
      { w with outside := w.outside ++ [f.clientRequest c.accessKeyId c.secretAccessKey] }) := by
  unfold obtainClient provider
  rw [hc, Action.apply_bind, Action.apply_attempt, Action.apply_ofBackend]
  cases answer w.outside (f.clientRequest c.accessKeyId c.secretAccessKey) <;> rfl

/-- A factory that is given none fails. -/
theorem call_of_denied (h : ¬c.Half) {e : Failure} {w' : World (List ClientRequest)}
    (ho : (f.obtainClient (provider answer) c.accessKeyId c.secretAccessKey).apply w =
      (.error e, w')) :
    f.call answer c w = ⟨c, f, w, .error e, f, w'⟩ := by
  unfold call connect
  rw [if_neg (mt Credentials.half_iff.mpr h), Action.apply_bind, Action.apply_attempt, ho]
  rfl

end Factory

/-- An attempt to open a connection, from a state with as many sources of identifiers, opens one. -/
theorem FactoryCall.opens_of_attempt {x : FactoryCall κ} {client : Argument κ}
    {w : World (List ClientRequest)}
    (hx : (x.before.openConnection client).apply w = (x.outcome, x.finish))
    (hg : w.generators = x.start.generators) : x.Opens client where
  opened h := by
    obtain ⟨w', hr, hn, hs, -⟩ := x.before.apply_openConnection_of_lt client w h
    obtain ⟨ho, rfl⟩ := Prod.mk.inj (hr.symm.trans hx)
    rw [← hg]
    exact ⟨ho.symm, hn, hs⟩
  refused h := by
    rw [x.before.apply_openConnection_of_le client w h] at hx
    exact (Prod.mk.inj hx).1.symm

namespace Factory

variable (f : Factory κ) (answer : List ClientRequest → ClientRequest → Except Failure κ)
  (c : Credentials) (w : World (List ClientRequest))

/-- A call on a factory comes to what the rules say. -/
theorem lawful_call : (f.call answer c w).Lawful answer where
  half (h : c.Half) := by
    rw [f.call_of_half answer w h]
    exact ⟨rfl, rfl, rfl, rfl⟩
  held (h : ¬c.Half) client (hc : f.client = some client) := by
    rw [f.call_of_held answer w h hc]
    exact ⟨FactoryCall.opens_of_attempt rfl rfl, rfl, (f.outside_openConnection client w).1⟩
  asked (h : ¬c.Half) (hc : f.client = none) := by
    have ho := f.apply_obtainClient_of_none answer (c := c) w hc
    change _ ∧ match answer w.outside (f.clientRequest c.accessKeyId c.secretAccessKey) with
      | .ok k => _
      | .error e => _
    cases ha : answer w.outside (f.clientRequest c.accessKeyId c.secretAccessKey) with
    | ok k =>
      rw [ha] at ho
      rw [f.call_of_obtained answer w h ho]
      exact ⟨(f.outside_openConnection _ _).1, FactoryCall.opens_of_attempt rfl rfl, rfl⟩
    | error e =>
      rw [ha] at ho
      rw [f.call_of_denied answer w h ho]
      exact ⟨rfl, rfl, _, rfl, passedOn_clientFailure e⟩

/-- No call gives a source of identifiers back. -/
theorem generators_le_call : w.generators ≤ (f.call answer c w).finish.generators := by
  by_cases h : c.Half
  · rw [f.call_of_half answer w h]
  · cases hc : f.client with
    | some client =>
      rw [f.call_of_held answer w h hc]
      exact (f.outside_openConnection client w).2
    | none =>
      have ho := f.apply_obtainClient_of_none answer (c := c) w hc
      cases ha : answer w.outside (f.clientRequest c.accessKeyId c.secretAccessKey) with
      | ok k =>
        rw [ha] at ho
        rw [f.call_of_obtained answer w h ho]
        exact (f.outside_openConnection (.client k) { w with
          outside := w.outside ++ [f.clientRequest c.accessKeyId c.secretAccessKey] }).2
      | error e =>
        rw [ha] at ho
        rw [f.call_of_denied answer w h ho]

end Factory

namespace FactoryCall

variable {answer : List ClientRequest → ClientRequest → Except Failure κ} {x : FactoryCall κ}

/-- A connection that a call opens has the client and a new source of identifiers. -/
theorem Opens.eq_of_ok {client : Argument κ} (h : x.Opens client) {c : Connection (Argument κ)}
    (hc : x.outcome = .ok c) :
    c = ⟨client, some x.before.policy, x.before.prefetchSize, .own x.start.generators⟩ ∧
      x.finish.generators = x.start.generators + 1 := by
  rcases Nat.lt_or_ge x.before.prefetchSize.natAbs Text.writeLimit with hp | hp
  · obtain ⟨ho, -, hg⟩ := h.opened hp
    exact ⟨Except.ok.inj (hc.symm.trans ho), hg⟩
  · cases hc.symm.trans (h.refused hp)

/-- A call that returns a connection has opened it. -/
theorem Lawful.opens_of_ok (h : x.Lawful answer) {c : Connection (Argument κ)}
    (hc : x.outcome = .ok c) : ∃ client, x.Opens client ∧ x.after.client = some client := by
  by_cases hh : x.credentials.Half
  · cases hc.symm.trans (h.half hh).1
  · cases hb : x.before.client with
    | some client =>
      obtain ⟨ho, ha, -⟩ := h.held hh client hb
      exact ⟨client, ho, ha ▸ hb⟩
    | none =>
      obtain ⟨-, ho⟩ := h.asked hh hb
      split at ho
      · exact ⟨_, ho.1, by rw [ho.2]⟩
      · obtain ⟨-, g, hg, -⟩ := ho
        cases hc.symm.trans hg

/-- A factory that holds a client before a call goes on to share it. -/
theorem Lawful.reuses (h : x.Lawful answer) {client : Argument κ}
    (hb : x.before.client = some client) : x.Reuses client := by
  have ⟨ha, ho⟩ : x.after = x.before ∧ x.finish.outside = x.start.outside := by
    by_cases hh : x.credentials.Half
    · obtain ⟨-, -, ha, hw⟩ := h.half hh
      exact ⟨ha, congrArg World.outside hw⟩
    · exact (h.held hh client hb).2
  refine ⟨hb, ha ▸ hb, ho, fun c hc ↦ ?_⟩
  obtain ⟨client', hopens, hclient⟩ := h.opens_of_ok hc
  rw [ha, hb] at hclient
  rw [(hopens.eq_of_ok hc).1, Option.some.inj hclient]

/-- Calls with half of the credentials do not stand between two others. -/
theorem continues_of_half {between rest : List (FactoryCall κ)} {y : FactoryCall κ}
    (hc : (x :: (between ++ y :: rest)).IsChain Continues)
    (hl : ∀ z ∈ between, z.Lawful answer) (hh : ∀ z ∈ between, z.credentials.Half) :
    x.Continues y := by
  induction between generalizing x with
  | nil => exact (List.isChain_cons_cons.mp hc).1
  | cons z between ih =>
    obtain ⟨hxz, hc⟩ := List.isChain_cons_cons.mp hc
    obtain ⟨-, -, ha, hf⟩ := (hl z List.mem_cons_self).half (hh z List.mem_cons_self)
    have hzy := ih hc (fun u hu ↦ hl u (List.mem_cons_of_mem z hu))
      fun u hu ↦ hh u (List.mem_cons_of_mem z hu)
    exact ⟨hzy.factory.trans (ha.trans hxz.factory), hzy.state.trans (hf.trans hxz.state)⟩

end FactoryCall

/-! ### Any calls one after the other -/

namespace Factory

variable (f : Factory κ) (answer : List ClientRequest → ClientRequest → Except Failure κ)
  (cs : List Credentials) (w : World (List ClientRequest))

@[simp] theorem history_nil : f.history answer [] w = [] := rfl

@[simp] theorem history_cons (c : Credentials) :
    f.history answer (c :: cs) w = f.call answer c w ::
      (f.call answer c w).after.history answer cs (f.call answer c w).finish := rfl

/-- A history has the calls that were made. -/
theorem map_credentials_history : (f.history answer cs w).map FactoryCall.credentials = cs := by
  induction cs generalizing f w with
  | nil => rfl
  | cons c cs ih =>
    rw [history_cons, List.map_cons, ih]
    rfl

/-- A history starts with the factory and the state that it is about. -/
theorem head_history : ∀ x ∈ (f.history answer cs w).head?, x.before = f ∧ x.start = w := by
  cases cs with
  | nil => simp
  | cons c cs =>
    rw [history_cons, List.head?_cons]
    rintro x ⟨⟩
    exact ⟨rfl, rfl⟩

/-- Each call of a history is made on what the one before has left. -/
theorem isChain_history : (f.history answer cs w).IsChain FactoryCall.Continues := by
  induction cs generalizing f w with
  | nil => exact .nil
  | cons c cs ih =>
    rw [history_cons]
    refine List.isChain_cons.mpr ⟨fun y hy ↦ ?_, ih _ _⟩
    obtain ⟨hf, hs⟩ := head_history _ _ _ _ y hy
    exact ⟨hf, hs⟩

/-- All calls of a history come to what the rules say. -/
theorem lawful_history : ∀ x ∈ f.history answer cs w, x.Lawful answer := by
  induction cs generalizing f w with
  | nil => simp
  | cons c cs ih =>
    rw [history_cons]
    exact List.forall_mem_cons.mpr ⟨f.lawful_call answer c w, ih _ _⟩

/-- A client that is held is shared by all calls. -/
theorem reuses_history {client : Argument κ} (h : f.client = some client) :
    ∀ y ∈ f.history answer cs w, y.Reuses client := by
  induction cs generalizing f w with
  | nil => simp
  | cons c cs ih =>
    rw [history_cons]
    have hc : (f.call answer c w).Reuses client := (f.lawful_call answer c w).reuses h
    exact List.forall_mem_cons.mpr ⟨hc, ih _ _ hc.after⟩

/-- The sources of identifiers that there were are there during all calls. -/
theorem generators_le_history : ∀ y ∈ f.history answer cs w, w.generators ≤ y.start.generators := by
  induction cs generalizing f w with
  | nil => simp
  | cons c cs ih =>
    rw [history_cons]
    refine List.forall_mem_cons.mpr ⟨le_rfl, fun y hy ↦ ?_⟩
    exact (f.generators_le_call answer c w).trans (ih _ _ y hy)

/-- A client that a call leaves the factory with is shared by all later ones. -/
theorem pairwise_reuses_history : (f.history answer cs w).Pairwise fun x y ↦
    ∀ client, x.after.client = some client → y.Reuses client := by
  induction cs generalizing f w with
  | nil => exact .nil
  | cons c cs ih =>
    rw [history_cons]
    exact .cons (fun y hy client h ↦ reuses_history _ answer cs _ h y hy) (ih _ _)

/-- Two calls return connections with different sources of identifiers. -/
theorem pairwise_generator_history : (f.history answer cs w).Pairwise fun x y ↦
    ∀ a b, x.outcome = .ok a → y.outcome = .ok b → a.generator ≠ b.generator := by
  induction cs generalizing f w with
  | nil => exact .nil
  | cons c cs ih =>
    rw [history_cons]
    refine .cons (fun y hy a b ha hb hab ↦ ?_) (ih _ _)
    obtain ⟨_, hx, -⟩ := (f.lawful_call answer c w).opens_of_ok ha
    obtain ⟨_, hy', -⟩ := (lawful_history _ answer cs _ y hy).opens_of_ok hb
    obtain ⟨rfl, hn⟩ := hx.eq_of_ok ha
    obtain ⟨rfl, -⟩ := hy'.eq_of_ok hb
    -- the later source has a number that was not given away when the earlier call had ended
    have hle := generators_le_history _ answer cs _ y hy
    have heq := GeneratorId.own.inj hab
    omega

/-- After a call that leaves the factory without a client, the next one whose credentials are not
half given asks for one, with its own credentials. -/
theorem asks_again_history {before between rest : List (FactoryCall κ)} {x y : FactoryCall κ}
    (h : f.history answer cs w = before ++ x :: (between ++ y :: rest))
    (hx : x.after.client = none) (hb : ∀ z ∈ between, z.credentials.Half)
    (hy : ¬y.credentials.Half) :
    y.start = x.finish ∧ y.finish.outside = y.start.outside ++ [y.request] := by
  have hl := f.lawful_history answer cs w
  have hc := f.isChain_history answer cs w
  rw [h] at hl hc
  have hxy : x.Continues y :=
    FactoryCall.continues_of_half hc.right_of_append (fun z hz ↦ hl z (by simp [hz])) hb
  have hn : y.before.client = none := by rw [hxy.factory, hx]
  exact ⟨hxy.state, ((hl y (by simp)).asked hy hn).1⟩

end Factory

/-- Calls on a factory one after the other share its client. Each comes to what the rules say, in
the state and on the factory that the one before has left; a factory that holds a client from the
start or after some call gives it to all later connections and asks for no other; as long as it
holds none, each call asks whose credentials are not half given; and no two connections share a
source of identifiers. -/
theorem client_shared (answer : List ClientRequest → ClientRequest → Except Failure κ)
    (f : Factory κ) (cs : List Credentials) (w : World (List ClientRequest)) :
    let history := f.history answer cs w
    history.map FactoryCall.credentials = cs ∧
    (∀ x ∈ history.head?, x.before = f ∧ x.start = w) ∧
    history.IsChain FactoryCall.Continues ∧
    (∀ x ∈ history, x.Lawful answer) ∧
    (∀ client, f.client = some client → ∀ y ∈ history, y.Reuses client) ∧
    (history.Pairwise fun x y ↦ ∀ client, x.after.client = some client → y.Reuses client) ∧
    (∀ (before between rest : List (FactoryCall κ)) (x y : FactoryCall κ),
      history = before ++ x :: (between ++ y :: rest) → x.after.client = none →
      (∀ z ∈ between, z.credentials.Half) → ¬y.credentials.Half →
      y.start = x.finish ∧ y.finish.outside = y.start.outside ++ [y.request]) ∧
    history.Pairwise fun x y ↦
      ∀ a b, x.outcome = .ok a → y.outcome = .ok b → a.generator ≠ b.generator := by
  intro history
  refine ⟨f.map_credentials_history answer cs w, f.head_history answer cs w,
    f.isChain_history answer cs w, f.lawful_history answer cs w, ?_,
    f.pairwise_reuses_history answer cs w, ?_, f.pairwise_generator_history answer cs w⟩
  · exact fun client h ↦ f.reuses_history answer cs w h
  · exact fun before between rest x y h ↦ f.asks_again_history answer cs w h

/-- A provider that fails once. Half of the credentials is refused before and after; the third call
tries again, and the last one has its client although it gives other credentials. -/
example :
    let answer := fun (made : List ClientRequest) (_ : ClientRequest) ↦
      if made.isEmpty then .error (.outside (.sqs .noRegion)) else (.ok 7 : Except Failure Nat)
    let history := ({} : Factory Nat).history answer
      [{ accessKeyId := some "a" }, {}, { secretAccessKey := some "b" }, {}, ⟨some "c", some "d"⟩]
      { outside := [] }
    (history.map fun x ↦ (x.outcome.toOption.map Connection.generator, x.finish.outside.length)) =
      [(none, 0), (none, 1), (none, 1), (some (.own 0), 2), (some (.own 1), 2)] := by
  decide +kernel

end QueueAck
