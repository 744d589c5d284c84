import EndpointManager.Model.Init
import EndpointManager.Model.System

/-!
# A manager without uid-change privileges runs endpoints as itself

`__init__` sets an identity mapper only when the process may change uid
(`managerInit_eq_ok_of`, `identityMapperOf_eq_ok`). Without a mapper, `_event_loop` runs every command as
`self._mu_user`, and `_revive_child` re-reads the passwd entry of the uid it cached, so
every user endpoint such a manager forks or registers, in every state it reaches, has the
manager's own uid (`unprivileged_endpoints_own_uid`).

`OwnUid` is the invariant: user endpoints, their records and the cached start arguments
all carry the manager's uid. Every step from a state without a mapper keeps it
(`OwnUid.preserved`), and no step installs a mapper where there was none.
-/

namespace EndpointManager

/-- `__init__` of the sample deployment: an unprivileged process run by `gcmu`, no
`reg_info` given, and a registration that answers with both queues. -/
def sampleInputs : InitInputs where
  uid := 1000
  passwd := [⟨"gcmu", 1000, 1000⟩]
  privileged := false
  uidPrivileged := false
  loopPrivileged := false
  forceMuAllowSameUser := false
  gracePeriod := 30
  inDatetimeRange := sampleConfig.inDatetimeRange
  identityMappingConfigPath := none
  endpointUuid := none
  regInfo := none
  register := .ok (.obj [("endpoint_id", .str "6f1c"),
    ("command_queue_info", .obj [("connection_url", .str "amqps://cq"), ("queue", .str "cq")]),
    ("result_queue_info", .obj [("connection_url", .str "amqps://rq"), ("queue", .str "rq"),
      ("queue_publish_kwargs", .obj [])])])
  uuidParses _ := true
  loadMapper := .otherError

/-- Every user endpoint, record and cached start carries the manager's uid. -/
structure OwnUid (cfg : Config) (m : Manager) : Prop where
  procs_own : ∀ p ∈ m.procs, ∀ u v, p.kind = .userEndpoint u v → u.pwUid = cfg.muUser.pwUid
  records_own : ∀ pr ∈ m.children.pairs, ∀ u, pr.2.localUserInfo = some u →
    u.pwUid = cfg.muUser.pwUid
  cache_own : ∀ l ∈ m.cache.links, l.2.1.userRecord.pwUid = cfg.muUser.pwUid

namespace OwnUid

variable {cfg : Config} {env : Env} {m m' : Manager}

/-- The invariant reads the kinds of the children, the records and the cache. -/
theorem of_eq (hi : OwnUid cfg m) (hp : ∀ q ∈ m'.procs, ∃ p ∈ m.procs, q.kind = p.kind)
    (hc : ∀ pr ∈ m'.children.pairs, pr ∈ m.children.pairs)
    (hk : ∀ l ∈ m'.cache.links, l ∈ m.cache.links) : OwnUid cfg m' where
  procs_own q hq u v hv := by
    obtain ⟨p, hp, hk⟩ := hp q hq
    exact hi.procs_own p hp u v (hk ▸ hv)
  records_own pr hpr := hi.records_own pr (hc pr hpr)
  cache_own l hl := hi.cache_own l (hk l hl)

theorem setStatuses (hi : OwnUid cfg m) (g : Proc → ProcStatus) :
    OwnUid cfg { m with procs := EndpointManager.setStatuses m.procs g } :=
  hi.of_eq (fun q hq => by obtain ⟨p, hp, rfl⟩ := mem_setStatuses.1 hq; exact ⟨p, hp, rfl⟩)
    (fun _ h => h) fun _ h => h

theorem init (cfg : Config) (mapper : Option Mapper) (passwd : List Passwd) (clock : Nat) :
    OwnUid cfg (Manager.init cfg mapper passwd clock) :=
  ⟨by simp [Manager.init], by simp [Manager.init, PyDict.empty], by simp [Manager.init]⟩

/-- A fork of a child that is not a user endpoint of another uid. -/
theorem fork (hi : OwnUid cfg m) (p : Nat) (k : ChildKind)
    (hk : ∀ u v, k = .userEndpoint u v → u.pwUid = cfg.muUser.pwUid) :
    OwnUid cfg { m with procs := m.procs ++ [(⟨p, k, .running⟩ : Proc)] } where
  procs_own q hq u v hv := by
    rcases List.mem_append.1 hq with hq | hq
    · exact hi.procs_own q hq u v hv
    · rw [List.mem_singleton.1 hq] at hv
      exact hk u v hv
  records_own := hi.records_own
  cache_own := hi.cache_own

/-- `cmd_start_endpoint` for a user with the manager's uid. -/
theorem cmdStartEndpoint (hi : OwnUid cfg m) {u : Passwd} {args kwargs : Json}
    {r : EStateM.Result PyExc Manager Unit} (hu : u.pwUid = cfg.muUser.pwUid)
    (hr : (EndpointManager.cmdStartEndpoint cfg env u args kwargs).run m = r) :
    OwnUid cfg (resultState r) := by
  rcases cmdStartEndpoint_cases hr with h | ⟨p, rec, -, -, h⟩ | ⟨v, p, -, -, -, -, h | ⟨n, -, h⟩⟩ <;>
    rw [h]
  · exact hi
  · refine ⟨hi.procs_own, hi.records_own, fun l hl => ?_⟩
    rcases TTLCache.mem_setItem hl with rfl | ⟨-, hl⟩
    · exact hu
    · exact hi.cache_own l hl
  · exact hi.fork p _ fun u' v' hk => by cases hk; exact hu
  · refine ⟨(hi.fork p _ fun u' v' hk => by cases hk; exact hu).procs_own, fun pr hpr u' hu' => ?_,
      hi.cache_own⟩
    obtain ⟨a, r'⟩ := pr
    rcases PyDict.mem_setItem.1 hpr with ⟨rfl, rfl⟩ | ⟨-, hpr⟩
    · cases hu'; exact hu
    · exact hi.records_own _ hpr u' hu'

theorem sendFailureNotice (hi : OwnUid cfg m) {kwargs : Json}
    {r : EStateM.Result PyExc Manager Unit}
    (hr : (EndpointManager.sendFailureNotice env kwargs).run m = r) :
    OwnUid cfg (resultState r) := by
  rcases sendFailureNotice_cases hr with h | ⟨p, -, h | h⟩ <;> rw [h]
  · exact hi
  · exact hi.fork p _ fun _ _ hk => by cases hk
  · refine ⟨(hi.fork p _ fun _ _ hk => by cases hk).procs_own, fun pr hpr u hu => ?_, hi.cache_own⟩
    obtain ⟨a, r'⟩ := pr
    rcases PyDict.mem_setItem.1 hpr with ⟨rfl, rfl⟩ | ⟨-, hpr⟩
    · cases hu
    · exact hi.records_own _ hpr u hu

/-- Without a mapper, the loop runs every command as the manager's own user. -/
theorem eventLoopCommand (hi : OwnUid cfg m) (hmap : m.identityMapper = none) {msg : Message}
    {r : EStateM.Result PyExc Manager Unit}
    (hr : (EndpointManager.eventLoopCommand cfg env msg).run m = r) :
    OwnUid cfg (resultState r) := by
  rcases eventLoopCommand_cases hr with h | ⟨kw, h⟩ | ⟨u, args, kw, hplan, h | h⟩ <;> rw [h]
  · exact hi
  · exact hi.sendFailureNotice rfl
  all_goals
    obtain ⟨c, ts, idSet, -, -, -, -, hu, -⟩ := commandPlan_eq_invoke hplan
    obtain ⟨rfl, -⟩ := (localUser_eq_some hu).1 (.inl hmap)
  · exact hi.cmdStartEndpoint rfl rfl
  · exact (hi.cmdStartEndpoint rfl rfl).sendFailureNotice rfl

/-- A revival re-reads the passwd entry of the uid it cached. -/
theorem reviveChild (hi : OwnUid cfg m) {a : StartArgs} {r : EStateM.Result PyExc Manager Unit}
    (ha : a.userRecord.pwUid = cfg.muUser.pwUid)
    (hr : (EndpointManager.reviveChild cfg env a).run m = r) : OwnUid cfg (resultState r) := by
  rcases reviveChild_cases hr with ⟨x, rfl⟩ | ⟨u, r', hu, hr', x, rfl⟩
  · exact hi
  · exact show OwnUid cfg (resultState r') from hi.cmdStartEndpoint ((getpwuid_pwUid hu).trans ha) hr'

theorem waitForChildrenReap (hi : OwnUid cfg m) {pid : Nat} {rc : Int}
    {r : EStateM.Result PyExc Manager Unit}
    (hr : (EndpointManager.waitForChildrenReap cfg env pid rc).run m = r) :
    OwnUid cfg (resultState r) := by
  have h₁ : OwnUid cfg { m with children := (m.children.pop pid).2 } :=
    hi.of_eq (fun q hq => ⟨q, hq, rfl⟩) (fun pr hpr => (PyDict.mem_pop.1 hpr).2) fun _ h => h
  have h₂ : OwnUid cfg
      { m with children := (m.children.pop pid).2, cache := (m.cache.pop m.clock pid).2 } :=
    h₁.of_eq (fun q hq => ⟨q, hq, rfl⟩) (fun _ h => h) fun l hl => TTLCache.mem_links_pop hl
  rcases waitForChildrenReap_cases hr with ⟨x, rfl⟩ | ⟨x, rfl⟩ | ⟨a, -, ha, -, h⟩
  · exact h₁
  · exact h₂
  · obtain ⟨⟨e, he, -⟩, -⟩ := TTLCache.pop_eq_some (Prod.ext ha rfl : m.cache.pop m.clock pid =
      (some a, (m.cache.pop m.clock pid).2))
    exact h₂.reviveChild (hi.cache_own _ he) h

theorem preserved (hi : OwnUid cfg m) (hmap : m.identityMapper = none) {a : Action}
    (hs : step cfg m a = some m') : OwnUid cfg m' := by
  cases a with
  | reap pid env =>
    obtain ⟨-, -, -, -, rfl⟩ := step_reap hs
    exact (hi.setStatuses _).waitForChildrenReap rfl
  | command msg env =>
    obtain ⟨-, pc', -, rfl⟩ := step_command hs
    exact (hi.eventLoopCommand hmap rfl).of_eq (fun q hq => ⟨q, hq, rfl⟩) (fun _ h => h) fun _ h => h
  | _ =>
    obtain ⟨hc, hk, -, g, -, hp⟩ := step_frame hs (fun _ _ h => by cases h) fun _ _ h => by cases h
    exact (hi.setStatuses g).of_eq (fun q hq => ⟨q, hp ▸ hq, rfl⟩) (fun _ h => hc ▸ h) fun _ h => hk ▸ h

end OwnUid

/-- A manager that may not change uid starts without a mapper, so `OwnUid` holds in
every state it reaches, for the uid the process runs as. -/
theorem OwnUid.of_managerInit {i : InitInputs} {cfg : Config} {mapper : Option Mapper}
    {clock : Nat} {acts : List Action} {m : Manager}
    (hi : managerInit i = .ok (cfg, mapper)) (hu : i.uidPrivileged = false)
    (hr : run cfg (Manager.init cfg mapper i.passwd clock) acts = some m) :
    OwnUid cfg m ∧ cfg.muUser.pwUid = i.uid := by
  obtain ⟨hmu, -, -, -, hm⟩ := managerInit_eq_ok_of hi
  have hnone : mapper = none := Option.not_isSome_iff_eq_none.1 (by
    rw [(identityMapperOf_eq_ok hm).1, hu]; exact Bool.false_ne_true)
  have hrun : m.identityMapper = none ∧ OwnUid cfg m :=
    @run_preserves cfg (fun m => m.identityMapper = none ∧ OwnUid cfg m)
      (fun ⟨hm, ho⟩ hs => ⟨(step_identityMapper hs).2 hm, ho.preserved hm hs⟩) _ _ _
      ⟨hnone, .init cfg mapper i.passwd clock⟩ hr
  exact ⟨hrun.2, getpwuid_pwUid hmu⟩

/-- A manager whose process may not change uid starts without an identity mapper, and
whatever then happens, every user endpoint it has forked and every record it keeps has
the uid the manager runs as. -/
theorem unprivileged_endpoints_own_uid {i : InitInputs} {cfg : Config} {mapper : Option Mapper}
    {clock : Nat} {acts : List Action} {m : Manager}
    (hi : managerInit i = .ok (cfg, mapper)) (hu : i.uidPrivileged = false)
    (hr : run cfg (Manager.init cfg mapper i.passwd clock) acts = some m) :
    (∀ p ∈ m.procs, ∀ u v, p.kind = .userEndpoint u v → u.pwUid = i.uid) ∧
    (∀ pr ∈ m.children.pairs, ∀ u, pr.2.localUserInfo = some u → u.pwUid = i.uid) := by
  obtain ⟨ho, huid⟩ := OwnUid.of_managerInit hi hu hr
  exact ⟨fun p hp u v hk => (ho.procs_own p hp u v hk).trans huid,
    fun pr hpr u hu => (ho.records_own pr hpr u hu).trans huid⟩

/-- The sample manager starts `ep1` for identity `A`. -/
def startEp1 : List Action :=
  [.identities (.ok identitiesA), .loopTest,
    .command (startMessage (.str "ep1") (.arr []) 1000) ⟨1000, .ofList [100]⟩]

theorem unprivileged_endpoints_own_uid_sample :
    ∃ m, run sampleConfig (Manager.init sampleConfig none sampleInputs.passwd 0) startEp1 = some m ∧
      m.children.keys = [100] ∧
      (∀ p ∈ m.procs, ∀ u v, p.kind = .userEndpoint u v → u.pwUid = sampleInputs.uid) ∧
      (∀ pr ∈ m.children.pairs, ∀ u, pr.2.localUserInfo = some u → u.pwUid = sampleInputs.uid) :=
  ⟨_, rfl, rfl, unprivileged_endpoints_own_uid
    (show managerInit sampleInputs = .ok (sampleConfig, none) from rfl) rfl
    (show run sampleConfig (Manager.init sampleConfig none sampleInputs.passwd 0) startEp1 = some _
      from rfl)⟩

end EndpointManager
