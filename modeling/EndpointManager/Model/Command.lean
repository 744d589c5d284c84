import EndpointManager.Model.Launch

/-!
# One command through `_event_loop`

After a message is dequeued and acknowledged, `_event_loop` decodes it, checks its
timestamp against the wall clock, reads the identity fields, resolves the local user,
validates the method name and calls the handler. Each failed check logs, sends a
failure notice when it has a `kwargs` to send it with, and `continue`s. Two statements
are outside every `try`: `abs(now - server_cmd_ts)` and the `datetime.fromtimestamp`
calls of the stale-command message, so an exception there leaves `_event_loop`.

None of the checks changes the manager: they read the message, the clock, the mapper,
the parent identities and the password database. `commandPlan` is their outcome, in
the source's order, and `eventLoopCommand` carries it out.
-/

namespace EndpointManager

/-- A dequeued message: `props.content_type`, `props.timestamp`, and `json.loads(body)`
(an exception when the bytes are not JSON). -/
structure Message where
  contentType : Option String
  timestamp : Option Nat
  body : Except PyExc Json

/-- What the first `try` of the iteration reads from a JSON body. -/
structure Command where
  cmdMsg : Json
  command : Json
  args : Json
  kwargs : Json

/-- The deserialization `try` (lines 556-570). -/
def decodeCommand (msg : Message) : Except PyExc Command := do
  if msg.contentType ≠ some "application/json" then throw .valueError
  let cmdMsg ← msg.body
  let command ← cmdMsg.get "command" .null
  let args ← cmdMsg.get "args" (.arr [])
  let kwargs ← cmdMsg.get "kwargs" (.obj [])
  pure ⟨cmdMsg, command, args, kwargs⟩

/-- The identity fields (lines 586-594), read in order; the identity set. -/
def identitySetOf (cmdMsg : Json) : Except PyExc Json := do
  let _ ← cmdMsg.getItem "globus_effective_identity"
  let identitySet ← cmdMsg.getItem "globus_identity_set"
  let _ ← cmdMsg.getItem "globus_username"
  pure identitySet

/-- The local user a command runs as (lines 601-672), or `none` when it is refused.
Without a mapper, or with parent identities, the command must share an identity with the
manager's own login and runs as the manager's user; otherwise the mapper names a local
user, who must exist. -/
def localUser (cfg : Config) (m : Manager) (identitySet : Json) : Option Passwd :=
  match m.identityMapper, m.parentIdentities with
  | some mapper, [] =>
    match mapper identitySet with
    | .ok (some name) => if name.isEmpty then none else getpwnam m.passwd name
    | _ => none
  | _, _ =>
    let cmdIdentities := match identitySet.subs with
      | .ok subs => subs
      | .error _ => []
    if Json.meets m.parentIdentities cmdIdentities then some cfg.muUser else none

/-- The `cmd_*` methods of `EndpointManager`. -/
inductive Handler where
  | cmdStartEndpoint
  deriving DecidableEq, Repr

/-- `getattr(self, name, None)` for a name of the form `cmd_...`. -/
def Handler.ofName : String → Option Handler
  | "cmd_start_endpoint" => some .cmdStartEndpoint
  | _ => none

/-- `re.compile(r"^cmd_[A-Za-z][0-9A-Za-z_]{0,99}$").match(s)`. Without `re.MULTILINE`,
`$` matches at the end and also just before a final newline. -/
def validMethodName (s : String) : Bool :=
  match s.toList with
  | 'c' :: 'm' :: 'd' :: '_' :: c :: rest =>
    let rest := if rest.getLast? = some '\n' then rest.dropLast else rest
    c.isAlpha && rest.all (fun c => c.isAlphanum || c == '_') && rest.length ≤ 99
  | _ => false

/-- The checks of the last `try` (lines 675-680): the handler it calls, or `none` when it
raises first (`InvalidCommandError`, or `TypeError` from `re.match` on a non-`str`). -/
def commandHandler (command : Json) : Option Handler :=
  if command.truthy then
    match command.asStr? with
    | some c => if validMethodName c then Handler.ofName c else none
    | none => none
  else none

/-- The outcome of the checks: nothing to do (undecodable), an exception that leaves the
loop, a failure notice with the command's `kwargs`, or a handler call. -/
inductive Plan where
  | skip
  | raise (e : PyExc)
  | reject (kwargs : Json)
  | invoke (handler : Handler) (user : Passwd) (args kwargs : Json)

/-- The checks of one iteration, in the source's order, at wall-clock time `now`. -/
def commandPlan (cfg : Config) (m : Manager) (now : Int) (msg : Message) : Plan :=
  match decodeCommand msg with
  | .error _ => .skip
  | .ok c =>
    match msg.timestamp with
    | none => .raise .typeError
    | some ts =>
      if 180 < (now - ts).natAbs then
        if cfg.inDatetimeRange ts && cfg.inDatetimeRange now then .reject c.kwargs
        else .raise .overflowError
      else
        match identitySetOf c.cmdMsg with
        | .error _ => .reject c.kwargs
        | .ok identitySet =>
          match localUser cfg m identitySet with
          | none => .reject c.kwargs
          | some user =>
            match commandHandler c.command with
            | some h => .invoke h user c.args c.kwargs
            | none => .reject c.kwargs

/-- `command_func(local_user_rec, command_args, command_kwargs)` -/
def runHandler (cfg : Config) (env : Env) : Handler → Passwd → Json → Json → PyM Unit
  | .cmdStartEndpoint => cmdStartEndpoint cfg env

/-- The iteration of `_event_loop` for one dequeued message, from line 556 to the
`continue` or the end of the body, with `call` for `command_func(...)`: the method that
`getattr(self, command, None)` finds, which the loop calls but does not define. An
exception of the result leaves the loop. -/
def eventLoopCommandWith (cfg : Config) (env : Env) (msg : Message)
    (call : Handler → Passwd → Json → Json → PyM Unit) : PyM Unit := do
  match commandPlan cfg (← get) env.now msg with
  | .skip => pure ()
  | .raise e => throw e
  | .reject kwargs => sendFailureNotice env kwargs
  | .invoke h user args kwargs =>
    try call h user args kwargs
    catch _ => sendFailureNotice env kwargs

/-- The iteration with the manager's own `cmd_*` methods. -/
def eventLoopCommand (cfg : Config) (env : Env) (msg : Message) : PyM Unit :=
  eventLoopCommandWith cfg env msg (runHandler cfg env)

/-! ## What each check establishes -/

section Checks

open Json

theorem decodeCommand_eq_ok {msg : Message} {c : Command} (h : decodeCommand msg = .ok c) :
    msg.contentType = some "application/json" ∧ ∃ kvs, msg.body = .ok (.obj kvs) ∧
      c = ⟨.obj kvs, (lookup kvs "command").getD .null, (lookup kvs "args").getD (.arr []),
        (lookup kvs "kwargs").getD (.obj [])⟩ := by
  by_cases hc : msg.contentType = some "application/json"
  · refine ⟨hc, ?_⟩
    rcases hb : msg.body with e | v
    · simp [decodeCommand, hc, hb, bind, Except.bind, pure, Except.pure] at h
    · cases v <;> simp [decodeCommand, hc, hb, Json.get, bind, Except.bind, pure, Except.pure] at h
      exact ⟨_, rfl, h.symm⟩
  · simp [decodeCommand, hc, throw, throwThe, MonadExceptOf.throw, bind, Except.bind] at h

theorem identitySetOf_eq_ok {kvs : List (String × Json)} {idSet : Json}
    (h : identitySetOf (.obj kvs) = .ok idSet) :
    (lookup kvs "globus_effective_identity").isSome ∧ lookup kvs "globus_identity_set" = some idSet ∧
      (lookup kvs "globus_username").isSome := by
  unfold identitySetOf getItem at h
  cases h₁ : lookup kvs "globus_effective_identity" <;>
    cases h₂ : lookup kvs "globus_identity_set" <;>
    cases h₃ : lookup kvs "globus_username" <;> simp only [h₁, h₂, h₃] at h <;> cases h; simp

theorem localUser_eq_some {cfg : Config} {m : Manager} {idSet : Json} {user : Passwd}
    (h : localUser cfg m idSet = some user) :
    ((m.identityMapper = none ∨ m.parentIdentities ≠ []) →
      user = cfg.muUser ∧ ∃ subs, idSet.subs = .ok subs ∧ meets m.parentIdentities subs = true) ∧
    (∀ mapper, m.identityMapper = some mapper → m.parentIdentities = [] →
      ∃ name, mapper idSet = .ok (some name) ∧ name ≠ "" ∧ getpwnam m.passwd name = some user) := by
  unfold localUser at h
  split at h
  · rename_i mapper hm hp
    refine ⟨fun h' => by simp [hm, hp] at h', fun mapper' hm' _ => ?_⟩
    rw [hm] at hm'; cases hm'
    split at h
    · rename_i name hname
      split at h
      · cases h
      · exact ⟨name, hname, by simpa [String.isEmpty_iff] using ‹¬name.isEmpty = true›, h⟩
    · cases h
  · rename_i hnot
    refine ⟨fun _ => ?_, fun mapper hm hp => (hnot mapper hm hp).elim⟩
    cases hs : idSet.subs with
    | error e => simp [hs, meets] at h
    | ok subs =>
      simp only [hs] at h
      split at h
      · cases h; exact ⟨rfl, subs, rfl, ‹_›⟩
      · cases h

theorem commandHandler_eq_some {command : Json} {h : Handler} (hc : commandHandler command = some h) :
    ∃ c, command = .str c ∧ validMethodName c = true ∧ Handler.ofName c = some h := by
  cases command with
  | str c =>
    simp only [commandHandler, asStr?] at hc
    repeat' split at hc
    all_goals first | cases hc | exact ⟨c, rfl, ‹_›, hc⟩
  | _ => simp [commandHandler, asStr?] at hc

theorem commandPlan_eq_invoke {cfg : Config} {m : Manager} {now : Int} {msg : Message} {h : Handler}
    {user : Passwd} {args kwargs : Json} (hp : commandPlan cfg m now msg = .invoke h user args kwargs) :
    ∃ c ts idSet, decodeCommand msg = .ok c ∧ msg.timestamp = some ts ∧ (now - ts).natAbs ≤ 180 ∧
      identitySetOf c.cmdMsg = .ok idSet ∧ localUser cfg m idSet = some user ∧
      commandHandler c.command = some h ∧ args = c.args ∧ kwargs = c.kwargs := by
  unfold commandPlan at hp
  repeat' split at hp
  all_goals cases hp
  exact ⟨_, _, _, ‹_›, ‹_›, by omega, ‹_›, ‹_›, ‹_›, rfl, rfl⟩

theorem commandPlan_eq_raise {cfg : Config} {m : Manager} {now : Int} {msg : Message} {e : PyExc}
    (hp : commandPlan cfg m now msg = .raise e) :
    ∃ c, decodeCommand msg = .ok c ∧
      ∀ ts, msg.timestamp = some ts → (cfg.inDatetimeRange ts && cfg.inDatetimeRange now) = false := by
  unfold commandPlan at hp
  split at hp
  · cases hp
  · refine ⟨_, ‹_›, fun ts hts => ?_⟩
    rw [hts] at hp
    simp only at hp
    repeat' split at hp
    all_goals cases hp
    exact Bool.eq_false_iff.2 ‹_›

theorem commandPlan_eq_reject {cfg : Config} {m : Manager} {now : Int} {msg : Message} {kw : Json}
    (hp : commandPlan cfg m now msg = .reject kw) :
    ∃ c, decodeCommand msg = .ok c ∧ kw = c.kwargs := by
  unfold commandPlan at hp
  split at hp
  · cases hp
  · refine ⟨_, ‹_›, ?_⟩
    repeat' split at hp
    all_goals cases hp; try rfl

/-- A message that does not deserialize is logged and dropped: the iteration changes
nothing and sends no failure notice. -/
theorem eventLoopCommand_of_undecodable {cfg : Config} {env : Env} {m : Manager} {msg : Message}
    {e : PyExc} (h : decodeCommand msg = .error e) : (eventLoopCommand cfg env msg).run m = .ok () m := by
  simp only [eventLoopCommand, eventLoopCommandWith, run_bind, run_get, commandPlan, h, run_pure]

example : decodeCommand ⟨some "text/plain", some 0, .ok (.obj [])⟩ = .error .valueError := rfl

/-- A message the checks admit: one call of the method they chose, and one failure notice
if it raised. -/
theorem eventLoopCommandWith_of_invoke {cfg : Config} {env : Env} {m : Manager} {msg : Message}
    {h : Handler} {user : Passwd} {args kwargs : Json} {call : Handler → Passwd → Json → Json → PyM Unit}
    (hp : commandPlan cfg m env.now msg = .invoke h user args kwargs) :
    (eventLoopCommandWith cfg env msg call).run m =
      match (call h user args kwargs).run m with
      | .ok _ m' => .ok () m'
      | .error _ m' => (sendFailureNotice env kwargs).run m' := by
  simp only [eventLoopCommandWith, run_bind, run_get, hp, run_tryCatch]
  cases (call h user args kwargs).run m <;> rfl

theorem eventLoopCommand_of_invoke {cfg : Config} {env : Env} {m : Manager} {msg : Message}
    {h : Handler} {user : Passwd} {args kwargs : Json}
    (hp : commandPlan cfg m env.now msg = .invoke h user args kwargs) :
    (eventLoopCommand cfg env msg).run m =
      match (runHandler cfg env h user args kwargs).run m with
      | .ok _ m' => .ok () m'
      | .error _ m' => (sendFailureNotice env kwargs).run m' :=
  eventLoopCommandWith_of_invoke hp

/-- Any other message: the iteration calls no method, so its run is the same whatever the
methods do. -/
theorem eventLoopCommandWith_of_not_invoke {cfg : Config} {env : Env} {m : Manager} {msg : Message}
    (hp : ∀ h user args kwargs, commandPlan cfg m env.now msg ≠ .invoke h user args kwargs)
    (call call' : Handler → Passwd → Json → Json → PyM Unit) :
    (eventLoopCommandWith cfg env msg call).run m = (eventLoopCommandWith cfg env msg call').run m := by
  simp only [eventLoopCommandWith, run_bind, run_get]
  split
  · rfl
  · rfl
  · rfl
  · exact absurd ‹_› (hp _ _ _ _)

end Checks

section Cases

variable {cfg : Config} {env : Env} {msg : Message} {m : Manager}

/-- An iteration changes nothing, sends one failure notice, or calls the handler the checks
chose and then, if the handler raised, sends one failure notice. -/
theorem eventLoopCommand_cases {r : EStateM.Result PyExc Manager Unit}
    (h : (eventLoopCommand cfg env msg).run m = r) :
    resultState r = m ∨
    (∃ kw, resultState r = resultState ((sendFailureNotice env kw).run m)) ∨
    ∃ u args kw, commandPlan cfg m env.now msg = .invoke .cmdStartEndpoint u args kw ∧
      (resultState r = resultState ((cmdStartEndpoint cfg env u args kw).run m) ∨
      resultState r = resultState ((sendFailureNotice env kw).run
        (resultState ((cmdStartEndpoint cfg env u args kw).run m)))) := by
  unfold eventLoopCommand eventLoopCommandWith at h
  simp only [run_bind, run_get] at h
  split at h
  · simp only [run_pure] at h; subst h; exact .inl rfl
  · simp only [run_throw] at h; subst h; exact .inl rfl
  · exact .inr (.inl ⟨_, by rw [h]⟩)
  · rename_i hd u args kw hplan
    cases hd
    refine .inr (.inr ⟨u, args, kw, hplan, ?_⟩)
    simp only [run_tryCatch, runHandler] at h
    split at h <;> rename_i heq <;> rw [← h] <;> simp [heq, resultState]

/-- What every `cmd_start_endpoint` and every `send_failure_notice` keep, an iteration
keeps. -/
theorem eventLoopCommand_preserves {P : Manager → Prop}
    (hc : ∀ {m : Manager} {u : Passwd} {args kw : Json} {r : EStateM.Result PyExc Manager Unit},
      P m → (cmdStartEndpoint cfg env u args kw).run m = r → P (resultState r))
    (hf : ∀ {m : Manager} {kw : Json} {r : EStateM.Result PyExc Manager Unit},
      P m → (sendFailureNotice env kw).run m = r → P (resultState r))
    {r : EStateM.Result PyExc Manager Unit} (hm : P m) (h : (eventLoopCommand cfg env msg).run m = r) :
    P (resultState r) := by
  rcases eventLoopCommand_cases h with h | ⟨kw, h⟩ | ⟨u, args, kw, -, h | h⟩ <;> rw [h]
  · exact hm
  · exact hf hm rfl
  · exact hc hm rfl
  · exact hf (hc hm rfl) rfl

theorem eventLoopCommand_extends {r : EStateM.Result PyExc Manager Unit}
    (h : (eventLoopCommand cfg env msg).run m = r) : Extends m (resultState r) := by
  rcases eventLoopCommand_cases h with h | ⟨kw, h⟩ | ⟨u, args, kw, -, h | h⟩ <;> rw [h]
  · exact .refl m
  · exact sendFailureNotice_extends rfl
  · exact cmdStartEndpoint_extends rfl
  · exact (cmdStartEndpoint_extends rfl).trans (sendFailureNotice_extends rfl)

end Cases

end EndpointManager
