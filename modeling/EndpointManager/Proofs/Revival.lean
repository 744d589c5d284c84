import EndpointManager.Model.System

/-!
# Revivals and reused pids

`_cached_cmd_start_args` is keyed by pid alone, and only a clean exit (`rc == 0`) pops an
entry. An entry cached against a user endpoint that then exits with another code stays
until it expires, and its key is then no key of `_children`. If the kernel hands the
same pid to the next fork, the clean exit of that other child revives the first
endpoint from the stale entry (`stale_revival_after_pid_reuse`).

What does hold (`reap_revival_entry`): a revival replays an entry that was stored less
than `mu_child_ep_grace_period_s` before the reap, and the reap consumes it, so an entry
revives at most once. `CacheInv` carries the timing: the cache's `ttl` is the grace
period, and no entry expires later than a grace period from now, since each was stored at
a time the clock has since reached or passed.
-/

namespace EndpointManager

/-- The sample manager starts `ep1` as pid 100, receives a second start for `ep1` (cached
against pid 100), and pid 100 exits with code 1 and is reaped; a stale command then gets a
failure notice, which the kernel forks as pid 100 again. -/
def reusePid100 : List Action :=
  [.identities (.ok identitiesA), .loopTest,
    .command (startMessage (.str "ep1") (.arr []) 1000) ⟨1000, .ofList [100]⟩, .loopTest,
    .command (startMessage (.str "ep1") (.arr []) 1000) ⟨1000, .ofList [101]⟩,
    .childExit 100 1, .sigchld, .loopTest, .reap 100 ⟨1000, .ofList [101]⟩, .drained,
    .command (startMessage (.str "ep2") (.arr []) 0) ⟨1000, .ofList [100]⟩]

/-- The failure notice exits cleanly and is reaped. -/
def reapNotice100 : List Action :=
  [.childExit 100 0, .sigchld, .loopTest, .reap 100 ⟨1000, .ofList [101]⟩]

/-- The cache keeps an entry for pid 100 while pid 100 is a failure notice; reaping that
notice revives `ep1` from the entry as pid 101. -/
theorem stale_revival_after_pid_reuse :
    ∃ m m', run sampleConfig sampleInit reusePid100 = some m ∧
      m.children.pairs = [(100, ⟨"100", none⟩)] ∧ m.cache.keys = [100] ∧
      run sampleConfig m reapNotice100 = some m' ∧
      m'.children.pairs = [(101, ⟨"ep1", some sampleConfig.muUser⟩)] ∧ m'.procs.length = 3 :=
  ⟨_, _, rfl, rfl, rfl, rfl, rfl, rfl⟩

/-- The timing and size facts of the revival cache. -/
structure CacheInv (cfg : Config) (m : Manager) : Prop where
  ttl_eq : m.cache.ttl = cfg.gracePeriod
  maxsize_eq : m.cache.maxsize = 32768
  expiry_le : ∀ l ∈ m.cache.links, l.2.2 ≤ m.clock + cfg.gracePeriod

namespace CacheInv

variable {cfg : Config} {env : Env} {m m' : Manager}

/-- The invariant reads only the cache and the clock, and a later clock keeps it. -/
theorem of_clock_le (hi : CacheInv cfg m) (hc : m'.cache = m.cache) (hk : m.clock ≤ m'.clock) :
    CacheInv cfg m' :=
  ⟨hc ▸ hi.ttl_eq, hc ▸ hi.maxsize_eq, fun l hl => by have := hi.expiry_le l (hc ▸ hl); omega⟩

theorem of_eq (hi : CacheInv cfg m) (hc : m'.cache = m.cache) (hk : m'.clock = m.clock) :
    CacheInv cfg m' :=
  hi.of_clock_le hc (Nat.le_of_eq hk.symm)

theorem init (cfg : Config) (mapper : Option Mapper) (passwd : List Passwd) (clock : Nat) :
    CacheInv cfg (Manager.init cfg mapper passwd clock) :=
  ⟨rfl, rfl, fun l hl => by simp [Manager.init] at hl⟩

/-- `c[p] = a` now: the new entry expires a grace period from now. -/
theorem setItem (hi : CacheInv cfg m) (p : Nat) (a : StartArgs) :
    CacheInv cfg { m with cache := m.cache.setItem m.clock p a } := by
  refine ⟨by simpa using hi.ttl_eq, by simpa using hi.maxsize_eq, fun l hl => ?_⟩
  rcases TTLCache.mem_setItem hl with rfl | ⟨-, hl⟩
  · simp [hi.ttl_eq]
  · exact hi.expiry_le l hl

theorem pop (hi : CacheInv cfg m) (pid : Nat) :
    CacheInv cfg { m with cache := (m.cache.pop m.clock pid).2 } :=
  ⟨by simpa using hi.ttl_eq, by simpa using hi.maxsize_eq,
    fun l hl => hi.expiry_le l (TTLCache.mem_links_pop hl)⟩

theorem cmdStartEndpoint (hi : CacheInv cfg m) {u : Passwd} {args kwargs : Json}
    {r : EStateM.Result PyExc Manager Unit}
    (hr : (EndpointManager.cmdStartEndpoint cfg env u args kwargs).run m = r) :
    CacheInv cfg (resultState r) := by
  rcases cmdStartEndpoint_cases hr with h | ⟨p, rec, -, -, h⟩ | ⟨v, p, -, -, -, -, h | ⟨n, -, h⟩⟩ <;>
    rw [h]
  · exact hi
  · exact hi.setItem p _
  · exact hi.of_eq rfl rfl
  · exact hi.of_eq rfl rfl

theorem sendFailureNotice (hi : CacheInv cfg m) {kwargs : Json}
    {r : EStateM.Result PyExc Manager Unit}
    (hr : (EndpointManager.sendFailureNotice env kwargs).run m = r) : CacheInv cfg (resultState r) := by
  rcases sendFailureNotice_cases hr with h | ⟨p, -, h | h⟩ <;> rw [h]
  · exact hi
  · exact hi.of_eq rfl rfl
  · exact hi.of_eq rfl rfl

theorem waitForChildrenReap (hi : CacheInv cfg m) {pid : Nat} {rc : Int}
    {r : EStateM.Result PyExc Manager Unit}
    (hr : (EndpointManager.waitForChildrenReap cfg env pid rc).run m = r) :
    CacheInv cfg (resultState r) := by
  rcases waitForChildrenReap_cases hr with ⟨x, rfl⟩ | ⟨x, rfl⟩ | ⟨a, -, -, -, h⟩
  · exact hi.of_eq rfl rfl
  · exact (hi.pop pid).of_eq rfl rfl
  · refine reviveChild_preserves (fun hi hr => hi.cmdStartEndpoint hr) ?_ h
    exact (hi.pop pid).of_eq rfl rfl

theorem preserved (hi : CacheInv cfg m) {a : Action} (hs : step cfg m a = some m') :
    CacheInv cfg m' := by
  cases a with
  | reap pid env =>
    obtain ⟨-, -, -, -, rfl⟩ := step_reap hs
    refine CacheInv.waitForChildrenReap ?_ rfl
    exact hi.of_eq rfl rfl
  | command msg env =>
    obtain ⟨-, pc', -, rfl⟩ := step_command hs
    have h : CacheInv cfg (resultState ((eventLoopCommand cfg env msg).run m)) :=
      eventLoopCommand_preserves (fun hi hr => hi.cmdStartEndpoint hr)
        (fun hi hr => hi.sendFailureNotice hr) hi rfl
    exact h.of_eq rfl rfl
  | _ =>
    obtain ⟨-, hc, hk, -⟩ := step_frame hs (fun _ _ h => by cases h) fun _ _ h => by cases h
    exact hi.of_clock_le hc hk

end CacheInv

theorem reachable_cacheInv {cfg : Config} {m : Manager} (h : Reachable cfg m) : CacheInv cfg m := by
  induction h with
  | init mapper passwd clock => exact .init cfg mapper passwd clock
  | step a _ hs ih => exact ih.preserved hs

/-- `_cached_cmd_start_args` never holds more than the 32768 entries it was created for:
`__setitem__` evicts the least recently set entry while a new key would not fit. -/
theorem cache_size_le {cfg : Config} {m : Manager} (h : Reachable cfg m) :
    m.cache.links.length ≤ 32768 :=
  (reachable_cacheInv h).maxsize_eq ▸ m.cache.size_le

theorem cache_size_le_sample :
    ∃ m, run sampleConfig sampleInit reusePid100 = some m ∧ m.cache.keys = [100] ∧
      m.cache.links.length ≤ 32768 :=
  ⟨_, rfl, rfl, cache_size_le
    (sampleInit_reachable.run (show run sampleConfig sampleInit reusePid100 = some _ from rfl))⟩

/-- A revival caches nothing under a pid that has no record and no entry. -/
theorem reviveChild_not_mem_cache {cfg : Config} {env : Env} {a : StartArgs} {m : Manager}
    {pid : Nat} {r : EStateM.Result PyExc Manager Unit} (hc : pid ∉ m.cache.keys)
    (hk : pid ∉ m.children.keys) (h : (reviveChild cfg env a).run m = r) :
    pid ∉ (resultState r).cache.keys := by
  rcases reviveChild_cases h with ⟨x, rfl⟩ | ⟨u, r', -, hr', x, rfl⟩
  · exact hc
  · show pid ∉ (resultState r').cache.keys
    rcases cmdStartEndpoint_cases hr' with h | ⟨q, rec, hq, -, h⟩ | ⟨v, p, -, -, -, -, h | ⟨n, -, h⟩⟩ <;>
      rw [h]
    · exact hc
    · intro hm
      rcases TTLCache.mem_keys_setItem hm with rfl | hm
      · exact hk (PyDict.mem_keys.2 ⟨rec, hq⟩)
      · exact hc hm
    · exact hc
    · exact hc

/-- When a reap of `pid` revives from the arguments `a` (a clean exit, a live entry, a
manager that is not stopping), `a` was stored less than a grace period before the reap,
the reap replays it through `_revive_child`, and no entry for `pid` is left afterwards:
the entry revives once. -/
theorem reap_revival_entry {cfg : Config} {m m' : Manager} {pid : Nat} {env : Env}
    {a : StartArgs} (h : Reachable cfg m) (hs : step cfg m (.reap pid env) = some m')
    (hrc : exitCodeOf m.procs pid = some 0) (hstop : m.timeToStop = false)
    (ha : (m.cache.pop m.clock pid).1 = some a) :
    (∃ e, (pid, a, e) ∈ m.cache.links ∧ m.clock < e ∧ e ≤ m.clock + cfg.gracePeriod) ∧
    m' = resultState ((reviveChild cfg env a).run
      { m with
        procs := markReaped m.procs pid
        children := (m.children.pop pid).2
        cache := (m.cache.pop m.clock pid).2 }) ∧
    pid ∉ m'.cache.keys := by
  obtain ⟨-, rc, -, hrc', rfl⟩ := step_reap hs
  rw [hrc] at hrc'
  cases hrc'
  obtain ⟨⟨e, he, hlt⟩, hlinks⟩ := TTLCache.pop_eq_some (Prod.ext ha rfl : m.cache.pop m.clock pid =
    (some a, (m.cache.pop m.clock pid).2))
  have hrev : (waitForChildrenReap cfg env pid 0).run { m with procs := markReaped m.procs pid } =
      (reviveChild cfg env a).run
        { m with
          procs := markReaped m.procs pid
          children := (m.children.pop pid).2
          cache := (m.cache.pop m.clock pid).2 } :=
    waitForChildrenReap_revive ha hstop
  refine ⟨⟨e, he, hlt, (reachable_cacheInv h).expiry_le _ he⟩, by rw [hrev], ?_⟩
  rw [hrev]
  refine reviveChild_not_mem_cache ?_ (fun hm => (PyDict.mem_keys_pop.1 hm).1 rfl) rfl
  intro hm
  obtain ⟨l, hl, hlk⟩ := List.mem_map.1 hm
  rw [hlinks] at hl
  exact of_decide_eq_true (List.mem_filter.1 hl).2 hlk

/-- The sample manager starts `ep1` as pid 100 and receives a second start for `ep1`,
cached against pid 100; pid 100 then exits cleanly and the loop head sends the main thread
into `wait_for_children`. -/
def cachedThenExit : List Action :=
  [.identities (.ok identitiesA), .loopTest,
    .command (startMessage (.str "ep1") (.arr []) 1000) ⟨1000, .ofList [100]⟩, .loopTest,
    .command (startMessage (.str "ep1") (.arr []) 1000) ⟨1000, .ofList [101]⟩,
    .childExit 100 0, .sigchld, .loopTest]

theorem reap_revival_entry_sample :
    ∃ m m', run sampleConfig sampleInit cachedThenExit = some m ∧
      step sampleConfig m (.reap 100 ⟨1000, .ofList [101]⟩) = some m' ∧
      (∃ e, (100, ⟨sampleConfig.muUser, .arr [], .obj [("name", .str "ep1")]⟩, e) ∈ m.cache.links ∧
        m.clock < e ∧ e ≤ m.clock + sampleConfig.gracePeriod) ∧
      m' = resultState ((reviveChild sampleConfig ⟨1000, .ofList [101]⟩
          ⟨sampleConfig.muUser, .arr [], .obj [("name", .str "ep1")]⟩).run
        { m with
          procs := markReaped m.procs 100
          children := (m.children.pop 100).2
          cache := (m.cache.pop m.clock 100).2 }) ∧
      100 ∉ m'.cache.keys :=
  ⟨_, _, rfl, rfl, reap_revival_entry
    (sampleInit_reachable.run (show run sampleConfig sampleInit cachedThenExit = some _ from rfl))
    rfl rfl rfl rfl⟩

end EndpointManager
