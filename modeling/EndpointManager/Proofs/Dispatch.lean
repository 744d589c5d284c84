import EndpointManager.Model.System

/-!
# The dispatch loop's gate

`handler_call_admitted`: the loop calls a handler only for a message that has passed
every check of the iteration, in the form the source performs it (`Admitted`), and then
once, its exception answered by one failure notice; for every other message the
iteration's outcome does not depend on what the handlers do.

`untimed_command_ends_loop`: a message without a timestamp is not a protocol error the
loop survives. `abs(now - server_cmd_ts)` raises `TypeError` outside every `try`, and
`start()` shuts the manager down.

`command_continues`: when every fork succeeds, the message carries a timestamp that
`datetime.fromtimestamp` accepts, and its `kwargs` is a `dict`, the iteration returns to
the loop head, and it ends in one of three ways: nothing to do, the handler returned, or
exactly one failure-notice child was forked and recorded.
-/

namespace EndpointManager

open Json

/-- What the loop has checked about a message whose body is the object `kvs` when it calls
handler `h` with `(user, args, kwargs)`. -/
structure Admitted (cfg : Config) (m : Manager) (now : Int) (msg : Message)
    (kvs : List (String × Json)) (h : Handler) (user : Passwd) (args kwargs : Json) : Prop where
  json : msg.contentType = some "application/json" ∧ msg.body = .ok (.obj kvs)
  identityKeys : (lookup kvs "globus_effective_identity").isSome ∧
    (lookup kvs "globus_identity_set").isSome ∧ (lookup kvs "globus_username").isSome
  fresh : ∃ ts, msg.timestamp = some ts ∧ (now - ts).natAbs ≤ 180
  method : ∃ c, lookup kvs "command" = some (.str c) ∧ validMethodName c = true ∧
    Handler.ofName c = some h
  arguments : args = (lookup kvs "args").getD (.arr []) ∧ kwargs = (lookup kvs "kwargs").getD (.obj [])
  /-- Without a mapper, or with parent identities: the manager's own user, for a command one
  of whose identities has a `sub` among the parent identities. -/
  trusted : m.identityMapper = none ∨ m.parentIdentities ≠ [] →
    user = cfg.muUser ∧ ∃ idSet idents ident sub, lookup kvs "globus_identity_set" = some idSet ∧
      idSet.iter = .ok idents ∧ ident ∈ idents ∧ ident.getItem "sub" = .ok sub ∧
      ∃ q ∈ m.parentIdentities, pyEq q sub = true
  /-- Otherwise: the local user the mapper names for the identity set. -/
  mapped : ∀ mapper, m.identityMapper = some mapper → m.parentIdentities = [] →
    ∃ idSet name, lookup kvs "globus_identity_set" = some idSet ∧ mapper idSet = .ok (some name) ∧
      name ≠ "" ∧ getpwnam m.passwd name = some user

/-- A plan to call handler `h` is made only for a message that has passed every check. -/
theorem admitted_of_invoke {cfg : Config} {m : Manager} {now : Int} {msg : Message} {h : Handler}
    {user : Passwd} {args kwargs : Json} (hp : commandPlan cfg m now msg = .invoke h user args kwargs) :
    ∃ kvs, Admitted cfg m now msg kvs h user args kwargs := by
  obtain ⟨c, ts, idSet, hc, hts, hle, hid, hu, hh, rfl, rfl⟩ := commandPlan_eq_invoke hp
  obtain ⟨hct, kvs, hb, rfl⟩ := decodeCommand_eq_ok hc
  obtain ⟨he, hi, hn⟩ := identitySetOf_eq_ok hid
  obtain ⟨htr, hmap⟩ := localUser_eq_some hu
  obtain ⟨name, hcmd, hv, ho⟩ := commandHandler_eq_some hh
  have hl : lookup kvs "command" = some (.str name) := by
    cases hl : lookup kvs "command" <;> simp only [hl, Option.getD_none, Option.getD_some] at hcmd
    · cases hcmd
    · rw [hcmd]
  refine ⟨kvs, ⟨hct, hb⟩, ⟨he, by rw [hi]; rfl, hn⟩, ⟨ts, hts, hle⟩, ⟨name, hl, hv, ho⟩,
    ⟨rfl, rfl⟩, fun hm => ?_, fun mapper hm hpi => ?_⟩
  · obtain ⟨rfl, subs, hs, hmeets⟩ := htr hm
    obtain ⟨q, hq, sub, hsub, heq⟩ := meets_eq_true.1 hmeets
    obtain ⟨idents, ident, hit, hmem, hget⟩ := mem_subs hs hsub
    exact ⟨rfl, idSet, idents, ident, sub, hi, hit, hmem, hget, q, hq, heq⟩
  · obtain ⟨name, h₁, h₂, h₃⟩ := hmap mapper hm hpi
    exact ⟨idSet, name, hi, h₁, h₂, h₃⟩

/-- The gate, over the iteration's run and whatever the `cmd_*` methods do. Either the
iteration calls none of them: its outcome is the same for every choice of methods. Or it
calls one, once, with a user, arguments and `kwargs` that have passed every check
(`Admitted`), and answers the method's exception with one failure notice. -/
theorem handler_call_admitted {cfg : Config} {env : Env} {msg : Message} {m : Manager}
    {call : Handler → Passwd → Json → Json → PyM Unit} {r : EStateM.Result PyExc Manager Unit}
    (hr : (eventLoopCommandWith cfg env msg call).run m = r) :
    (∀ call', (eventLoopCommandWith cfg env msg call').run m = r) ∨
    ∃ kvs h user args kwargs, Admitted cfg m env.now msg kvs h user args kwargs ∧
      r = match (call h user args kwargs).run m with
        | .ok _ m' => .ok () m'
        | .error _ m' => (sendFailureNotice env kwargs).run m' := by
  subst hr
  by_cases hp : ∃ h user args kwargs, commandPlan cfg m env.now msg = .invoke h user args kwargs
  · obtain ⟨h, user, args, kwargs, hp⟩ := hp
    obtain ⟨kvs, hadm⟩ := admitted_of_invoke hp
    exact .inr ⟨kvs, h, user, args, kwargs, hadm, eventLoopCommandWith_of_invoke hp⟩
  · push_neg at hp
    exact .inl fun call' => eventLoopCommandWith_of_not_invoke hp call' call

/-- The sample manager in its loop, with parent identities `{A}`. -/
def sampleLoop : Manager := eventLoopStart sampleConfig sampleInit (.ok identitiesA)

theorem handler_call_admitted_sample :
    (∀ call', (eventLoopCommandWith sampleConfig ⟨1000, .always⟩ (startMessage (.str "ep1") (.arr []) 1000)
        call').run sampleLoop =
      (eventLoopCommand sampleConfig ⟨1000, .always⟩ (startMessage (.str "ep1") (.arr []) 1000)).run
        sampleLoop) ∨
    ∃ kvs h user args kwargs, Admitted sampleConfig sampleLoop 1000 (startMessage (.str "ep1") (.arr []) 1000)
        kvs h user args kwargs ∧
      (eventLoopCommand sampleConfig ⟨1000, .always⟩ (startMessage (.str "ep1") (.arr []) 1000)).run
          sampleLoop =
        match (runHandler sampleConfig ⟨1000, .always⟩ h user args kwargs).run sampleLoop with
        | .ok _ m' => .ok () m'
        | .error _ m' => (sendFailureNotice ⟨1000, .always⟩ kwargs).run m' :=
  handler_call_admitted rfl

/-- A decodable message without a timestamp ends the loop: the iteration raises
`TypeError`, and the main thread goes to the shutdown sequence. -/
theorem untimed_command_ends_loop {cfg : Config} {env : Env} {m : Manager} {msg : Message}
    {c : Command} (hpc : m.pc = .body) (hc : decodeCommand msg = .ok c)
    (ht : msg.timestamp = none) :
    step cfg m (.command msg env) = some { m with pc := .shutdown } := by
  have hp : commandPlan cfg m env.now msg = .raise .typeError := by
    simp only [commandPlan, hc, ht]
  simp only [step, hpc, if_true, eventLoopCommand, eventLoopCommandWith, run_bind, run_get, hp, run_throw]

/-- `cmd_start_endpoint` for `ep1` from identity `A`, without a timestamp. -/
def untimedStart : Message := { startMessage (.str "ep1") (.arr []) 1000 with timestamp := none }

theorem untimed_command_ends_loop_sample :
    step sampleConfig { sampleLoop with pc := .body } (.command untimedStart ⟨1000, .ofList [100]⟩) =
      some { sampleLoop with pc := .shutdown } :=
  untimed_command_ends_loop rfl rfl rfl

/-- How an iteration that returned left the manager: as it was, as the handler left it, or
with one more failure-notice child, forked and recorded after a refusal or after the
handler raised. -/
def Continued (cfg : Config) (env : Env) (m : Manager) (msg : Message) (m' : Manager) : Prop :=
  m' = m ∨
  (∃ h u args kw, commandPlan cfg m env.now msg = .invoke h u args kw ∧
    (runHandler cfg env h u args kw).run m = .ok () m') ∨
  ∃ m₀ p, (((∃ kw, commandPlan cfg m env.now msg = .reject kw) ∧ m₀ = m) ∨
      ∃ h u args kw e, commandPlan cfg m env.now msg = .invoke h u args kw ∧
        (runHandler cfg env h u args kw).run m = .error e m₀) ∧
    env.fork.next (unreapedPids m₀.procs) = some p ∧
    m' = { m₀ with
      procs := m₀.procs ++ [(⟨p, .failureNotice, .running⟩ : Proc)]
      children := m₀.children.setItem p ⟨toString p, none⟩ }

/-- When every fork succeeds, a decodable message carries a timestamp both it and the
clock can be printed at, and its `kwargs` is a `dict`, the iteration returns to the loop
head: it did nothing, or the handler returned, or exactly one failure-notice child was
forked and recorded. -/
theorem command_continues {cfg : Config} {env : Env} {m : Manager} {msg : Message}
    (hpc : m.pc = .body) (hfork : ∀ held, (env.fork.next held).isSome)
    (hmsg : ∀ c, decodeCommand msg = .ok c → ∃ ts kvs, msg.timestamp = some ts ∧
      cfg.inDatetimeRange ts = true ∧ cfg.inDatetimeRange env.now = true ∧ c.kwargs = .obj kvs) :
    ∃ m', (eventLoopCommand cfg env msg).run m = .ok () m' ∧
      step cfg m (.command msg env) = some { m' with pc := .head } ∧ Continued cfg env m msg m' := by
  have hnotice : ∀ m₀ c, decodeCommand msg = .ok c → ∃ p, env.fork.next (unreapedPids m₀.procs) = some p ∧
      (sendFailureNotice env c.kwargs).run m₀ = .ok ()
        { m₀ with
          procs := m₀.procs ++ [(⟨p, .failureNotice, .running⟩ : Proc)]
          children := m₀.children.setItem p ⟨toString p, none⟩ } := by
    intro m₀ c hc
    obtain ⟨-, kvs, -, -, -, hkw⟩ := hmsg c hc
    obtain ⟨p, hp⟩ := Option.isSome_iff_exists.1 (hfork (unreapedPids m₀.procs))
    exact ⟨p, hp, hkw ▸ sendFailureNotice_obj hp⟩
  suffices h : ∃ m', (eventLoopCommand cfg env msg).run m = .ok () m' ∧
      Continued cfg env m msg m' by
    obtain ⟨m', hr, hm'⟩ := h
    exact ⟨m', hr, by simp only [step, hpc, if_true, hr], hm'⟩
  cases hplan : commandPlan cfg m env.now msg with
  | skip =>
    refine ⟨m, ?_, .inl rfl⟩
    simp only [eventLoopCommand, eventLoopCommandWith, run_bind, run_get, hplan, run_pure]
  | raise e =>
    obtain ⟨c, hc, hout⟩ := commandPlan_eq_raise hplan
    obtain ⟨ts, -, hts, h₁, h₂, -⟩ := hmsg c hc
    have := hout ts hts
    rw [h₁, h₂] at this
    cases this
  | reject kw =>
    obtain ⟨c, hc, rfl⟩ := commandPlan_eq_reject hplan
    obtain ⟨p, hp, hn⟩ := hnotice m c hc
    refine ⟨_, ?_, .inr (.inr ⟨m, p, .inl ⟨⟨_, hplan⟩, rfl⟩, hp, rfl⟩)⟩
    simp only [eventLoopCommand, eventLoopCommandWith, run_bind, run_get, hplan, hn]
  | invoke h u args kw =>
    obtain ⟨c, -, -, hc, -, -, -, -, -, -, rfl⟩ := commandPlan_eq_invoke hplan
    rw [eventLoopCommand_of_invoke hplan]
    cases hrun : (runHandler cfg env h u args c.kwargs).run m with
    | ok x m' => exact ⟨m', rfl, .inr (.inl ⟨h, u, args, c.kwargs, hplan, hrun⟩)⟩
    | error e m₀ =>
      obtain ⟨p, hp, hn⟩ := hnotice m₀ c hc
      exact ⟨_, hn, .inr (.inr ⟨m₀, p, .inr ⟨h, u, args, c.kwargs, e, hplan, hrun⟩, hp, rfl⟩)⟩

theorem command_continues_sample :
    ∃ m', (eventLoopCommand sampleConfig ⟨1000, .always⟩ (startMessage (.str "ep1") (.arr []) 1000)).run
        { sampleLoop with pc := .body } = .ok () m' ∧
      step sampleConfig { sampleLoop with pc := .body }
        (.command (startMessage (.str "ep1") (.arr []) 1000) ⟨1000, .always⟩) =
        some { m' with pc := .head } ∧
      Continued sampleConfig ⟨1000, .always⟩ { sampleLoop with pc := .body }
        (startMessage (.str "ep1") (.arr []) 1000) m' :=
  command_continues rfl (fun _ => rfl) fun c hc => by
    cases hc
    exact ⟨1000, _, rfl, rfl, rfl, rfl⟩

end EndpointManager
