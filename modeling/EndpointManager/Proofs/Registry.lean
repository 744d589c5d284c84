import EndpointManager.Model.System

/-!
# What `_children` holds

`RegistryInv` collects the facts about the registry that hold in every reachable state:

* each record describes a child the manager forked and has not reaped, under the child's
  pid (`records_describe`): a user-endpoint record names the user and the `ep_name` the
  child was forked for, a failure-notice record is a failure-notice child's and is named
  by its pid. So every key is an unreaped child;
* no two user-endpoint records share a name (`names_unique`): `cmd_start_endpoint`
  forks only when no record at all has the requested name;
* when `_allow_same_user` is off, no user endpoint was ever forked, and none is
  registered, for the manager's own uid or user name (`procs_other_user`,
  `records_other_user`): the same-user check sits on the only path to the fork, and a
  revival calls `cmd_start_endpoint` again with the refreshed passwd entry.

Not every unreaped child has a record: `forked_child_unrecorded`.

`RegistryInv.cmdStartEndpoint` and `RegistryInv.sendFailureNotice` are the two forking
methods; `RegistryInv.preserved` is every action; `reachable_registryInv` the induction.
-/

namespace EndpointManager

/-- Record `rec` describes the child `q`. -/
def Describes (rec : UserEndpointRecord) (q : Proc) : Prop :=
  (∀ u, rec.localUserInfo = some u → q.kind = .userEndpoint u (.str rec.epName)) ∧
  (rec.localUserInfo = none → q.kind = .failureNotice ∧ rec.epName = toString q.pid)

/-- The registry facts of a reachable state. -/
structure RegistryInv (cfg : Config) (m : Manager) : Prop where
  records_describe : ∀ p rec, (p, rec) ∈ m.children.pairs →
    ∃ q ∈ m.procs, q.pid = p ∧ q.status ≠ .reaped ∧ Describes rec q
  names_unique : ∀ p q r r', (p, r) ∈ m.children.pairs → (q, r') ∈ m.children.pairs →
    r.localUserInfo.isSome → r'.localUserInfo.isSome → r.epName = r'.epName → p = q
  procs_other_user : cfg.allowSameUser = false →
    ∀ p ∈ m.procs, ∀ u v, p.kind = .userEndpoint u v → ¬ SameUser cfg u
  records_other_user : cfg.allowSameUser = false →
    ∀ pr ∈ m.children.pairs, ∀ u, pr.2.localUserInfo = some u → ¬ SameUser cfg u

namespace RegistryInv

variable {cfg : Config} {env : Env} {m : Manager}

/-- The invariant reads only `_children` and the process table. -/
theorem of_eq {m' : Manager} (hi : RegistryInv cfg m) (hc : m'.children = m.children)
    (hp : m'.procs = m.procs) : RegistryInv cfg m' := by
  obtain ⟨h₁, h₂, h₃, h₄⟩ := hi
  exact ⟨hc ▸ hp ▸ h₁, hc ▸ h₂, hp ▸ h₃, hc ▸ h₄⟩

theorem init (cfg : Config) (mapper : Option Mapper) (passwd : List Passwd) (clock : Nat) :
    RegistryInv cfg (Manager.init cfg mapper passwd clock) :=
  ⟨by simp [Manager.init], by simp [Manager.init], by simp [Manager.init], by simp [Manager.init]⟩

/-- A fork that is not recorded. -/
theorem fork (hi : RegistryInv cfg m) (p : Nat) (k : ChildKind)
    (hk : cfg.allowSameUser = false → ∀ u v, k = .userEndpoint u v → ¬ SameUser cfg u) :
    RegistryInv cfg { m with procs := m.procs ++ [(⟨p, k, .running⟩ : Proc)] } := by
  refine ⟨fun a r hr => ?_, hi.names_unique, fun ha q hq u v hv => ?_, hi.records_other_user⟩
  · obtain ⟨q, hq, hd⟩ := hi.records_describe a r hr
    exact ⟨q, List.mem_append_left _ hq, hd⟩
  · rcases List.mem_append.1 hq with hq | hq
    · exact hi.procs_other_user ha q hq u v hv
    · rw [List.mem_singleton.1 hq] at hv
      exact hk ha u v hv

/-- A fork recorded under its pid with a record `rec` that describes it, whose user, if
any, passes the same-user check and whose name, if it is a user endpoint's, no record
has. -/
theorem forkRecord (hi : RegistryInv cfg m) (p : Nat) (k : ChildKind) (rec : UserEndpointRecord)
    (hk : cfg.allowSameUser = false → ∀ u v, k = .userEndpoint u v → ¬ SameUser cfg u)
    (hd : Describes rec ⟨p, k, .running⟩)
    (hrec : cfg.allowSameUser = false → ∀ u, rec.localUserInfo = some u → ¬ SameUser cfg u)
    (hname : rec.localUserInfo.isSome →
      ∀ pr ∈ m.children.pairs, pr.2.localUserInfo.isSome → pr.2.epName ≠ rec.epName) :
    RegistryInv cfg
      { m with
        procs := m.procs ++ [(⟨p, k, .running⟩ : Proc)]
        children := m.children.setItem p rec } := by
  have hf := hi.fork p k hk
  refine ⟨fun a r ha => ?_, fun a b r r' ha hb hr hr' hn => ?_, hf.procs_other_user,
    fun hs pr hpr u hu => ?_⟩
  · rcases PyDict.mem_setItem.1 ha with ⟨rfl, rfl⟩ | ⟨-, ha⟩
    · exact ⟨_, List.mem_append_right _ (List.mem_singleton_self _), rfl, by simp, hd⟩
    · exact hf.records_describe a r ha
  · rcases PyDict.mem_setItem.1 ha with ⟨ha₁, ha₂⟩ | ⟨-, ha₂⟩ <;>
      rcases PyDict.mem_setItem.1 hb with ⟨hb₁, hb₂⟩ | ⟨-, hb₂⟩
    · exact ha₁.trans hb₁.symm
    · subst ha₂; exact absurd hn.symm (hname hr (b, r') hb₂ hr')
    · subst hb₂; exact absurd hn (hname hr' (a, r) ha₂ hr)
    · exact hi.names_unique a b r r' ha₂ hb₂ hr hr' hn
  · obtain ⟨a, r⟩ := pr
    rcases PyDict.mem_setItem.1 hpr with ⟨rfl, rfl⟩ | ⟨-, hpr⟩
    · exact hrec hs u hu
    · exact hi.records_other_user hs _ hpr u hu

theorem cmdStartEndpoint (hi : RegistryInv cfg m) {u : Passwd} {args kwargs : Json}
    {r : EStateM.Result PyExc Manager Unit}
    (hr : (EndpointManager.cmdStartEndpoint cfg env u args kwargs).run m = r) :
    RegistryInv cfg (resultState r) := by
  rcases cmdStartEndpoint_cases hr with h | ⟨p, rec, -, -, h⟩ |
      ⟨v, p, -, hfree, hsame, -, h | ⟨n, rfl, h⟩⟩ <;> rw [h]
  · exact hi
  · exact hi.of_eq rfl rfl
  · exact hi.fork p _ fun ha u' v' hk => by cases hk; exact hsame ha
  · refine hi.forkRecord p _ _ (fun ha u' v' hk => by cases hk; exact hsame ha)
      ⟨fun u' hu => by cases hu; rfl, fun hu => by cases hu⟩
      (fun ha u' hu => by cases hu; exact hsame ha) fun _ pr hpr _ heq => ?_
    have := hfree pr hpr
    simp [namedBy, Json.asStr?, heq] at this

theorem sendFailureNotice (hi : RegistryInv cfg m) {kwargs : Json}
    {r : EStateM.Result PyExc Manager Unit}
    (hr : (EndpointManager.sendFailureNotice env kwargs).run m = r) :
    RegistryInv cfg (resultState r) := by
  rcases sendFailureNotice_cases hr with h | ⟨p, -, h | h⟩ <;> rw [h]
  · exact hi
  · exact hi.fork p _ fun _ u v hk => by cases hk
  · exact hi.forkRecord p _ _ (fun _ u v hk => by cases hk)
      ⟨fun u hu => (by cases hu), fun _ => ⟨rfl, rfl⟩⟩ (fun _ u hu => by cases hu)
      fun hs => by simp at hs

theorem eventLoopCommand (hi : RegistryInv cfg m) {msg : Message}
    {r : EStateM.Result PyExc Manager Unit}
    (hr : (EndpointManager.eventLoopCommand cfg env msg).run m = r) :
    RegistryInv cfg (resultState r) :=
  eventLoopCommand_preserves (fun hi hr => hi.cmdStartEndpoint hr) (fun hi hr => hi.sendFailureNotice hr)
    hi hr

/-- Collecting the exited child `pid` and dropping its record. -/
theorem reaped (hi : RegistryInv cfg m) (pid : Nat) :
    RegistryInv cfg
      { m with
        procs := markReaped m.procs pid
        children := (m.children.pop pid).2 } := by
  refine ⟨fun a r ha => ?_, fun a b r r' ha hb => hi.names_unique a b r r'
      (PyDict.mem_pop.1 ha).2 (PyDict.mem_pop.1 hb).2, fun ha q hq u v hv => ?_,
    fun ha pr hpr => hi.records_other_user ha pr (PyDict.mem_pop.1 hpr).2⟩
  · obtain ⟨hne, ha⟩ := PyDict.mem_pop.1 ha
    obtain ⟨q, hq, rfl, hu, hd⟩ := hi.records_describe _ r ha
    exact ⟨_, mem_setStatuses.2 ⟨q, hq, rfl⟩, rfl, by simpa [hne] using hu, hd⟩
  · obtain ⟨q', hq', rfl⟩ := mem_setStatuses.1 hq
    exact hi.procs_other_user ha q' hq' u v hv

theorem waitForChildrenReap (hi : RegistryInv cfg m) {pid : Nat} {rc : Int}
    {r : EStateM.Result PyExc Manager Unit}
    (hr : (EndpointManager.waitForChildrenReap cfg env pid rc).run
      { m with procs := markReaped m.procs pid } = r) :
    RegistryInv cfg (resultState r) := by
  have h₁ := hi.reaped pid
  rcases waitForChildrenReap_cases hr with ⟨x, rfl⟩ | ⟨x, rfl⟩ | ⟨a, -, -, -, h⟩
  · exact h₁
  · exact h₁.of_eq rfl rfl
  · refine reviveChild_preserves (fun hi hr => hi.cmdStartEndpoint hr) ?_ h
    exact h₁.of_eq rfl rfl

/-- A status change that reaps nothing. -/
theorem setStatuses (hi : RegistryInv cfg m) {g : Proc → ProcStatus}
    (hg : ∀ p ∈ m.procs, (g p = .reaped ↔ p.status = .reaped)) :
    RegistryInv cfg { m with procs := EndpointManager.setStatuses m.procs g } := by
  refine ⟨fun a r ha => ?_, hi.names_unique, fun ha q hq u v hv => ?_, hi.records_other_user⟩
  · obtain ⟨q, hq, rfl, hu, hd⟩ := hi.records_describe a r ha
    exact ⟨_, mem_setStatuses.2 ⟨q, hq, rfl⟩, rfl, fun h => hu ((hg q hq).1 h), hd⟩
  · obtain ⟨q', hq', rfl⟩ := mem_setStatuses.1 hq
    exact hi.procs_other_user ha q' hq' u v hv

theorem preserved (hi : RegistryInv cfg m) {a : Action} {m' : Manager}
    (hs : EndpointManager.step cfg m a = some m') : RegistryInv cfg m' := by
  cases a with
  | reap pid env =>
    obtain ⟨-, -, -, -, rfl⟩ := step_reap hs
    exact hi.waitForChildrenReap rfl
  | command msg env =>
    obtain ⟨-, pc', -, rfl⟩ := step_command hs
    exact (hi.eventLoopCommand rfl).of_eq rfl rfl
  | _ =>
    obtain ⟨hc, -, -, g, hg, hp⟩ := step_frame hs (fun _ _ h => by cases h) fun _ _ h => by cases h
    exact (hi.setStatuses fun p _ => hg p).of_eq hc hp

end RegistryInv

theorem reachable_registryInv {cfg : Config} {m : Manager} (h : Reachable cfg m) :
    RegistryInv cfg m := by
  induction h with
  | init mapper passwd clock => exact .init cfg mapper passwd clock
  | step a _ hs ih => exact ih.preserved hs

/-! ## The registry in every reachable state -/

section Reachable

variable {cfg : Config} {m : Manager}

/-- Every record of `_children` stands under the pid of a child the manager forked and has
not reaped, and says what that child is: a user-endpoint record gives the user and the
`ep_name` the child was started for, a record with no user is a failure notice's, named by
its pid. -/
theorem children_records_describe (h : Reachable cfg m) :
    ∀ p rec, (p, rec) ∈ m.children.pairs → ∃ q ∈ m.procs, q.pid = p ∧ q.status ≠ .reaped ∧
      (∀ u, rec.localUserInfo = some u → q.kind = .userEndpoint u (.str rec.epName)) ∧
      (rec.localUserInfo = none → q.kind = .failureNotice ∧ rec.epName = toString p) := by
  intro p rec hr
  obtain ⟨q, hq, rfl, hs, hd⟩ := (reachable_registryInv h).records_describe p rec hr
  exact ⟨q, hq, rfl, hs, hd⟩

/-- The converse fails: `' '.join(proc_args)` raises after the fork when an argument is
not a `str`. The sample manager receives a start for `ep1` with `args = [1]`; the child
100 is forked and never recorded, the failure notice takes pid 101, and the loop goes on. -/
def startUnjoinable : List Action :=
  [.identities (.ok identitiesA), .loopTest,
    .command (startMessage (.str "ep1") (.arr [.num 1]) 1000) ⟨1000, .ofList [100, 101]⟩]

theorem children_records_describe_sample :
    ∃ m, run sampleConfig sampleInit startUnjoinable = some m ∧ m.children.keys = [101] ∧
      ∀ p rec, (p, rec) ∈ m.children.pairs → ∃ q ∈ m.procs, q.pid = p ∧ q.status ≠ .reaped ∧
        (∀ u, rec.localUserInfo = some u → q.kind = .userEndpoint u (.str rec.epName)) ∧
        (rec.localUserInfo = none → q.kind = .failureNotice ∧ rec.epName = toString p) :=
  ⟨_, rfl, rfl, children_records_describe
    (sampleInit_reachable.run (show run sampleConfig sampleInit startUnjoinable = some _ from rfl))⟩

theorem forked_child_unrecorded :
    ∃ m, run sampleConfig sampleInit startUnjoinable = some m ∧ m.pc = .head ∧
      100 ∈ unreapedPids m.procs ∧ 100 ∉ m.children.keys ∧ m.children.keys = [101] :=
  ⟨_, rfl, rfl, by decide, by decide, rfl⟩

/-- No two user-endpoint records share an `ep_name`. -/
theorem userRecords_names_unique (h : Reachable cfg m) :
    ∀ p q r r', (p, r) ∈ m.children.pairs → (q, r') ∈ m.children.pairs →
      r.localUserInfo.isSome → r'.localUserInfo.isSome → r.epName = r'.epName → p = q :=
  (reachable_registryInv h).names_unique

/-- With `_allow_same_user` off, no user endpoint is ever forked, and none is registered,
with the manager's uid or user name. -/
theorem userEndpoints_other_user (hs : cfg.allowSameUser = false) (h : Reachable cfg m) :
    (∀ p ∈ m.procs, ∀ u v, p.kind = .userEndpoint u v →
      u.pwUid ≠ cfg.muUser.pwUid ∧ u.pwName ≠ cfg.muUser.pwName) ∧
    (∀ pr ∈ m.children.pairs, ∀ u, pr.2.localUserInfo = some u →
      u.pwUid ≠ cfg.muUser.pwUid ∧ u.pwName ≠ cfg.muUser.pwName) := by
  have hi := reachable_registryInv h
  have hne : ∀ u, ¬ SameUser cfg u → u.pwUid ≠ cfg.muUser.pwUid ∧ u.pwName ≠ cfg.muUser.pwName :=
    fun u hu => ⟨fun h => hu (.inr h), fun h => hu (.inl h)⟩
  exact ⟨fun p hp u v hk => hne u (hi.procs_other_user hs p hp u v hk),
    fun pr hpr u hu => hne u (hi.records_other_user hs pr hpr u hu)⟩

end Reachable

/-- The sample manager starts `ep1` and `ep2`. -/
def startTwo : List Action :=
  [.identities (.ok identitiesA), .loopTest,
    .command (startMessage (.str "ep1") (.arr []) 1000) ⟨1000, .ofList [100]⟩, .loopTest,
    .command (startMessage (.str "ep2") (.arr []) 1000) ⟨1000, .ofList [101]⟩]

theorem userRecords_names_unique_sample :
    ∃ m, run sampleConfig sampleInit startTwo = some m ∧ m.children.keys = [100, 101] ∧
      ∀ p q r r', (p, r) ∈ m.children.pairs → (q, r') ∈ m.children.pairs →
        r.localUserInfo.isSome → r'.localUserInfo.isSome → r.epName = r'.epName → p = q :=
  ⟨_, rfl, rfl, userRecords_names_unique
    (sampleInit_reachable.run (show run sampleConfig sampleInit startTwo = some _ from rfl))⟩

/-- A privileged manager run by `root`, whose mapper maps every identity set to `alice`. -/
def rootConfig : Config where
  muUser := ⟨"root", 0, 0⟩
  allowSameUser := false
  privileged := true
  gracePeriod := 30
  inDatetimeRange := sampleConfig.inDatetimeRange

/-- `rootConfig`'s manager after `__init__`. -/
def rootInit : Manager :=
  Manager.init rootConfig (some fun _ => .ok (some "alice")) [⟨"root", 0, 0⟩, ⟨"alice", 1001, 1001⟩] 0

/-- `rootConfig`'s manager starts `ep1` for the identity `A`, mapped to `alice`. -/
def rootStart : List Action :=
  [.identities (.error .lookupError), .loopTest,
    .command (startMessage (.str "ep1") (.arr []) 1000) ⟨1000, .ofList [100]⟩]

theorem userEndpoints_other_user_root :
    ∃ m, run rootConfig rootInit rootStart = some m ∧
      m.children.keys = [100] ∧
      (∀ p ∈ m.procs, ∀ u v, p.kind = .userEndpoint u v →
        u.pwUid ≠ rootConfig.muUser.pwUid ∧ u.pwName ≠ rootConfig.muUser.pwName) ∧
      (∀ pr ∈ m.children.pairs, ∀ u, pr.2.localUserInfo = some u →
        u.pwUid ≠ rootConfig.muUser.pwUid ∧ u.pwName ≠ rootConfig.muUser.pwName) :=
  ⟨_, rfl, rfl, userEndpoints_other_user rfl ((Reachable.init _ _ _).run
    (show run rootConfig rootInit rootStart = some _ from rfl))⟩

end EndpointManager
