import QueueAck.Proofs.SharedClient

/-!
# The options of the client that a factory asks for

A factory asks for its client with the options of the caller; only the user agent has the name of
the library added to it (`ClientConfig.Extends`). However often the factory has to ask, it asks with
the same options, and those of the caller stay as they are: nothing is added twice
(`client_options`).
-/

namespace QueueAck

namespace ClientConfig

/-- Options with which a client is made for a caller. -/
structure Extends (own made : ClientConfig) : Prop where
  /-- All other options are those of the caller. -/
  others : ∀ option, option ≠ "user_agent_extra" → made.get? option = own.get? option
  /-- Without a user agent of the caller, or with an empty one, it is that of the library. -/
  plain : (∀ v, own.get? "user_agent_extra" = some v → v.isTruthy = false) →
    made.get? "user_agent_extra" = some (.text "SQSPythonMessagingClient/0.1.0")
  /-- Otherwise that of the library follows the caller's, after one space. -/
  joined : ∀ v, own.get? "user_agent_extra" = some v → v.isTruthy = true →
    made.get? "user_agent_extra" =
      some (.text (v.toText ++ " " ++ "SQSPythonMessagingClient/0.1.0"))

/-- An option that is merged in wins. -/
theorem get?_merge_self (c : ClientConfig) (option : String) (v : Value) :
    (c.merge ⟨[(option, v)]⟩).get? option = some v :=
  Context.lookup_put_self c.given option v

/-- Other options are kept when one is merged in. -/
theorem get?_merge_of_ne (c : ClientConfig) {option other : String} (v : Value)
    (h : other ≠ option) : (c.merge ⟨[(option, v)]⟩).get? other = c.get? other :=
  Context.lookup_put_of_ne c.given v h

/-- The configuration of a client extends that of the caller. -/
theorem extends_forClient (c : Option ClientConfig) : (c.getD {}).Extends (forClient c) where
  others option h := get?_merge_of_ne _ _ h
  plain empty := by
    refine (get?_merge_self _ _ _).trans (congrArg (some ∘ Value.text) ?_)
    cases given : (c.getD {}).get? userAgentOption with
    | none => rfl
    | some v => rw [userAgentWith, empty v given]; rfl
  joined v given truthy := by
    refine (get?_merge_self _ _ _).trans (congrArg (some ∘ Value.text) ?_)
    rw [show (c.getD {}).get? userAgentOption = some v from given, userAgentWith, if_pos truthy]
    rfl

end ClientConfig

variable {κ : Type} {answer : List ClientRequest → ClientRequest → Except Failure κ}

/-- What a call on a factory does with the options of the caller. -/
structure FactoryCall.KeepsOptions (own : Option ClientConfig) (made : ClientConfig)
    (x : FactoryCall κ) : Prop where
  /-- The factory has them. -/
  before : x.before.config = own
  /-- It goes on to have them. -/
  after : x.after.config = own
  /-- The request of a call that asks for a client has these options. -/
  asked : ¬x.credentials.Half → x.before.client = none →
    ∃ request, x.finish.outside = x.start.outside ++ [request] ∧ request.config = made
  /-- Other calls make no request. -/
  silent : x.credentials.Half ∨ x.before.client ≠ none → x.finish.outside = x.start.outside

namespace FactoryCall

variable {own : Option ClientConfig} {made : ClientConfig} {x : FactoryCall κ}

/-- All requests of a call have the same options. -/
theorem KeepsOptions.requests (h : x.KeepsOptions own made) :
    ∃ requests : List ClientRequest, x.finish.outside = x.start.outside ++ requests ∧
      ∀ request ∈ requests, request.config = made := by
  by_cases asks : ¬x.credentials.Half ∧ x.before.client = none
  · obtain ⟨request, sent, config⟩ := h.asked asks.1 asks.2
    exact ⟨[request], sent, by simpa using config⟩
  · refine ⟨[], ?_, by simp⟩
    rw [List.append_nil]
    exact h.silent (by tauto)

/-- A call that follows the rules keeps the options of its factory. -/
theorem Lawful.keepsOptions (h : x.Lawful answer) (config : x.before.config = own) :
    x.KeepsOptions own (.forClient own) where
  before := config
  after := by
    by_cases half : x.credentials.Half
    · rw [(h.half half).2.2.1, config]
    · cases held : x.before.client with
      | some client => rw [(h.held half client held).2.1, config]
      | none =>
        have asked := (h.asked half held).2
        split at asked
        · rw [asked.2, ← config]
        · rw [asked.1, config]
  asked half none := ⟨x.request, (h.asked half none).1, congrArg ClientConfig.forClient config⟩
  silent idle := by
    by_cases half : x.credentials.Half
    · rw [(h.half half).2.2.2]
    · obtain ⟨client, held⟩ := Option.ne_none_iff_exists'.mp (idle.resolve_left half)
      exact (h.held half client held).2.2

end FactoryCall

namespace Factory

variable (f : Factory κ) (answer) (cs : List Credentials) (w : World (List ClientRequest))

/-- All calls of a history keep the options of the factory. -/
theorem keepsOptions_history :
    ∀ x ∈ f.history answer cs w, x.KeepsOptions f.config (.forClient f.config) := by
  induction cs generalizing f w with
  | nil => simp
  | cons c cs ih =>
    rw [history_cons]
    have first : (f.call answer c w).KeepsOptions f.config (.forClient f.config) :=
      (f.lawful_call answer c w).keepsOptions rfl
    refine List.forall_mem_cons.mpr ⟨first, ?_⟩
    have later := ih (f.call answer c w).after (f.call answer c w).finish
    rwa [first.after] at later

/-- All requests since the start of a history have the same options. -/
theorem requests_history : ∀ x ∈ f.history answer cs w,
    ∃ requests : List ClientRequest, x.finish.outside = w.outside ++ requests ∧
      ∀ request ∈ requests, request.config = .forClient f.config := by
  induction cs generalizing f w with
  | nil => simp
  | cons c cs ih =>
    rw [history_cons]
    have first : (f.call answer c w).KeepsOptions f.config (.forClient f.config) :=
      (f.lawful_call answer c w).keepsOptions rfl
    obtain ⟨sent, made, alike⟩ := first.requests
    refine List.forall_mem_cons.mpr ⟨⟨sent, made, alike⟩, fun x hx ↦ ?_⟩
    obtain ⟨later, outside, others⟩ := ih _ _ x hx
    rw [first.after] at others
    refine ⟨sent ++ later, ?_, List.forall_mem_append.mpr ⟨alike, others⟩⟩
    rw [outside, made, List.append_assoc]
    rfl

end Factory

/-- Calls on a factory one after the other, with a provider that may fail as often as it likes.
There are options that extend those of the caller, and whenever the factory asks for a client, it is
with these; it asks once in each call that it holds no client for, and the options of the caller are
the same before and after. -/
theorem client_options (answer : List ClientRequest → ClientRequest → Except Failure κ)
    (f : Factory κ) (cs : List Credentials) (w : World (List ClientRequest)) :
    let history := f.history answer cs w
    ∃ made, (f.config.getD {}).Extends made ∧
      (∀ x ∈ history, x.KeepsOptions f.config made) ∧
      (∀ x ∈ history, ∃ requests : List ClientRequest,
        x.finish.outside = w.outside ++ requests ∧
        ∀ request ∈ requests, request.config = made) :=
  ⟨.forClient f.config, ClientConfig.extends_forClient f.config,
    f.keepsOptions_history answer cs w, f.requests_history answer cs w⟩

/-- A factory whose caller gives a user agent and one more option. -/
private def ordersFactory : Factory Nat where
  config := some ⟨[("user_agent_extra", .text "orders-worker"), ("read_timeout", .int 70)]⟩

/-- A provider that fails twice. -/
private def failingTwice (made : List ClientRequest) (_ : ClientRequest) : Except Failure Nat :=
  if made.length < 2 then .error (.outside (.sqs .noRegion)) else .ok 7

/-- The name of the library is added once in each of three attempts, and the other option is
kept. -/
theorem client_options_failing_twice :
    ∃ x ∈ ordersFactory.history failingTwice [{}, {}, {}] { outside := [] },
      x.finish.outside.map
          (fun r ↦ (r.config.get? "user_agent_extra", r.config.get? "read_timeout"))
        = List.replicate 3
          (some (.text "orders-worker SQSPythonMessagingClient/0.1.0"), some (.int 70)) ∧
      x.after.config = ordersFactory.config := by
  obtain ⟨made, extended, kept, sent⟩ :=
    client_options failingTwice ordersFactory [{}, {}, {}] { outside := [] }
  let x := (ordersFactory.history failingTwice [{}, {}, {}] { outside := [] })[2]
  have mem : x ∈ ordersFactory.history failingTwice [{}, {}, {}] { outside := [] } :=
    List.getElem_mem _
  obtain ⟨requests, outside, alike⟩ := sent x mem
  have three : requests.length = 3 := (congrArg List.length outside).symm.trans (by decide +kernel)
  refine ⟨x, mem, ?_, (kept x mem).after⟩
  rw [outside]
  refine List.map_eq_replicate_iff.mpr ?_ |>.trans (congrArg (List.replicate · _) three)
  intro request hr
  rw [alike request hr, extended.joined _ rfl rfl, extended.others _ (by decide)]
  rfl

end QueueAck
