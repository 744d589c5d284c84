import EndpointManager.Model.System

/-!
# Starting endpoints by name

`cmd_start_endpoint` looks the requested name up among all records of `_children`,
failure notices included, whose `ep_name` is the decimal string of their own pid
(`cmdStartEndpoint_named`). So `N` starts, of any users and arguments, for `N` distinct
names that no record has yet add `N` user-endpoint records (`startEach_records`); but a name equal to the pid of a live
failure-notice child is taken for a running endpoint, and the start is only cached
(`failureNotice_blocks_start`).
-/

namespace EndpointManager

open Json

/-- `N` start commands `(user_record, args, kwargs)`, handled with no reap in between. -/
def startEach (cfg : Config) (env : Env) (calls : List (Passwd × Json × Json)) : PyM Unit :=
  calls.forM fun c => cmdStartEndpoint cfg env c.1 c.2.1 c.2.2

/-- A fork and its record keep every record's pid an unreaped child's. -/
theorem keys_unreaped_fork {d : PyDict Nat UserEndpointRecord} {procs : List Proc} {p : Nat}
    {k : ChildKind} {r : UserEndpointRecord} (hkeys : ∀ q ∈ d.keys, q ∈ unreapedPids procs) :
    ∀ q ∈ (d.setItem p r).keys, q ∈ unreapedPids (procs ++ [(⟨p, k, .running⟩ : Proc)]) := by
  intro q hq
  rw [unreapedPids_append_running]
  rcases PyDict.mem_keys_setItem.1 hq with rfl | hq
  · exact List.mem_append_right _ (List.mem_singleton_self _)
  · exact List.mem_append_left _ (hkeys q hq)

/-- A new record named `n` leaves the names of `ns` free if `n` is not one of them. -/
theorem epNames_free_setItem {d : PyDict Nat UserEndpointRecord} {p : Nat} {n : String}
    {u : Option Passwd} {ns : List String} (hpk : p ∉ d.keys) (hn : n ∉ ns)
    (hfree : ∀ n' ∈ ns, ∀ pr ∈ d.pairs, pr.2.epName ≠ n') :
    ∀ n' ∈ ns, ∀ pr ∈ (d.setItem p ⟨n, u⟩).pairs, pr.2.epName ≠ n' := by
  intro n' hn' pr hpr
  rw [PyDict.setItem_pairs_of_not_mem hpk] at hpr
  rcases List.mem_append.1 hpr with hpr | hpr
  · exact hfree n' hn' pr hpr
  · rw [List.mem_singleton.1 hpr]
    rintro rfl
    exact hn hn'

/-- `N` starts, of any users, arguments and keyword arguments, whose `kwargs` name `N`
distinct non-empty names that no record has, add `N` user-endpoint records, one per name in
order, when every fork succeeds, every `args` is one `' '.join` accepts, and every user
passes the same-user check. -/
theorem startEach_records {cfg : Config} {env : Env} {calls : List (Passwd × Json × Json)}
    {names : List String} {m : Manager} (hkeys : ∀ k ∈ m.children.keys, k ∈ unreapedPids m.procs)
    (hfork : ∀ held, (env.fork.next held).isSome)
    (hnames : List.Forall₂ (fun c n => startName c.2.2 = .ok (.str n)) calls names)
    (hargs : ∀ c ∈ calls, ∃ tail, (startArgsOf c.2.1).iter = .ok tail ∧ joinable tail = true)
    (hsame : ∀ c ∈ calls, cfg.allowSameUser = false → ¬ SameUser cfg c.1)
    (hnd : names.Nodup) (hne : ∀ n ∈ names, n ≠ "")
    (hfree : ∀ n ∈ names, ∀ pr ∈ m.children.pairs, pr.2.epName ≠ n) :
    ∃ m', (startEach cfg env calls).run m = .ok () m' ∧
      m'.children.pairs.map (·.2) =
        m.children.pairs.map (·.2) ++ List.zipWith (fun c n => ⟨n, some c.1⟩) calls names := by
  induction hnames generalizing m with
  | nil => exact ⟨m, rfl, by simp⟩
  | @cons c n calls names hn _ ih =>
    obtain ⟨p, hp⟩ := Option.isSome_iff_exists.1 (hfork (unreapedPids m.procs))
    have hnone : m.children.pairs.find? (fun pr => pr.2.epName = n) = none :=
      List.find?_eq_none.2 fun pr hpr => by simpa using hfree n (List.mem_cons_self _ _) pr hpr
    have h₁ := cmdStartEndpoint_named hn (hne n (List.mem_cons_self _ _))
      (hargs c (List.mem_cons_self _ _)) (hsame c (List.mem_cons_self _ _)) hp
    rw [hnone] at h₁
    have hpk : p ∉ m.children.keys := fun hk => env.fork.fresh _ p hp (hkeys p hk)
    obtain ⟨m', hr, hm'⟩ := @ih { m with
        procs := m.procs ++ [(⟨p, .userEndpoint c.1 (.str n), .running⟩ : Proc)]
        children := m.children.setItem p ⟨n, some c.1⟩ } (keys_unreaped_fork hkeys)
      (fun c' hc' => hargs c' (List.mem_cons_of_mem _ hc'))
      (fun c' hc' => hsame c' (List.mem_cons_of_mem _ hc'))
      (List.nodup_cons.1 hnd).2 (fun n' hn' => hne n' (List.mem_cons_of_mem _ hn'))
      (epNames_free_setItem hpk (List.nodup_cons.1 hnd).1
        fun n' hn' => hfree n' (List.mem_cons_of_mem _ hn'))
    refine ⟨m', ?_, ?_⟩
    · change (cmdStartEndpoint cfg env c.1 c.2.1 c.2.2 >>= fun _ => startEach cfg env calls).run m = _
      rw [run_bind, h₁]
      exact hr
    · rw [hm', PyDict.setItem_pairs_of_not_mem hpk]
      simp

/-- Two users: the manager's own and `alice`, one with arguments and options. -/
def sampleStarts : List (Passwd × Json × Json) :=
  [(sampleConfig.muUser, .arr [], .obj [("name", .str "ep1")]),
    (⟨"alice", 1001, 1001⟩, .arr [.str "--debug"],
      .obj [("name", .str "ep2"), ("user_opts", .obj [("workers", .num 4)])])]

theorem startEach_records_sample :
    ∃ m', (startEach sampleConfig ⟨1000, .always⟩ sampleStarts).run sampleInit = .ok () m' ∧
      m'.children.pairs.map (·.2) = sampleInit.children.pairs.map (·.2) ++
        List.zipWith (fun c n => ⟨n, some c.1⟩) sampleStarts ["ep1", "ep2"] :=
  startEach_records (fun k hk => (List.not_mem_nil k hk).elim) (fun _ => rfl)
    (.cons rfl (.cons rfl .nil))
    (fun c hc => by
      simp only [sampleStarts, List.mem_cons, List.mem_singleton, List.not_mem_nil, or_false] at hc
      rcases hc with rfl | rfl <;> exact ⟨_, rfl, rfl⟩)
    (fun _ _ h => by cases h) (by decide) (by decide) fun _ _ pr hpr => (List.not_mem_nil pr hpr).elim

/-- The sample manager answers a stale command with a failure notice, forked as pid 1234
and recorded under the name `"1234"`; a start for an endpoint named `"1234"` then forks
nothing and is cached against the failure notice's pid. -/
def staleThenStart1234 : List Action :=
  [.identities (.ok identitiesA), .loopTest,
    .command (startMessage (.str "ep0") (.arr []) 0) ⟨1000, .ofList [1234]⟩, .loopTest,
    .command (startMessage (.str "1234") (.arr []) 1000) ⟨1000, .ofList [1235]⟩]

theorem failureNotice_blocks_start :
    ∃ m, run sampleConfig sampleInit staleThenStart1234 = some m ∧
      m.children.pairs = [(1234, ⟨"1234", none⟩)] ∧ m.procs.length = 1 ∧ m.cache.keys = [1234] :=
  ⟨_, rfl, rfl, rfl, rfl⟩

end EndpointManager
