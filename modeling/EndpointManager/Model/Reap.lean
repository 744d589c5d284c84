import EndpointManager.Model.Launch

/-!
# Reaping children: `wait_for_children` and `_revive_child`

`wait_for_children` clears `_wait_for_child`, then loops on `waitpid(-1, WNOHANG)`. For
each child it collects, it drops the child's record and, on a clean exit (`rc == 0`),
pops the arguments cached against the pid. Unless the manager is stopping, it passes
them to `_revive_child`, which re-reads the user's passwd entry and calls
`cmd_start_endpoint` again. Only the clean-exit branch touches the cache: an entry
cached against a child that exits with another code stays until it expires.

`waitForChildrenReap` is one pass of that loop; the `waitpid` that precedes it is a
step of the kernel (`EndpointManager.Model.System`).
-/

namespace EndpointManager

/-- `EndpointManager._revive_child(uep_record, cmd_start_args)`; the record is only
logged. -/
def reviveChild (cfg : Config) (env : Env) (a : StartArgs) : PyM Unit := do
  match getpwuid (← get).passwd a.userRecord.pwUid with
  | none => pure ()
  | some updatedRec =>
    try cmdStartEndpoint cfg env updatedRec a.args a.kwargs
    catch _ => pure ()

/-- The body of the `while pid > 0` loop of `wait_for_children` for the child `pid`,
collected with exit code `rc`. -/
def waitForChildrenReap (cfg : Config) (env : Env) (pid : Nat) (rc : Int) : PyM Unit := do
  let m ← get
  set { m with children := (m.children.pop pid).2 }
  if rc = 0 then
    let m ← get
    let (cmdStartArgs, cache) := m.cache.pop m.clock pid
    set { m with cache := cache }
    if !m.timeToStop then
      match cmdStartArgs with
      | some a => reviveChild cfg env a
      | none => pure ()

/-! ## What reaping can do -/

section Cases

variable {cfg : Config} {env : Env} {m : Manager}

/-- `_revive_child` never raises; it changes nothing or does what one
`cmd_start_endpoint` call with the refreshed passwd entry does. -/
theorem reviveChild_cases {a : StartArgs} {r : EStateM.Result PyExc Manager Unit}
    (h : (reviveChild cfg env a).run m = r) :
    (∃ x, r = .ok x m) ∨
    ∃ u r', getpwuid m.passwd a.userRecord.pwUid = some u ∧
      (cmdStartEndpoint cfg env u a.args a.kwargs).run m = r' ∧
      ∃ x, r = .ok x (resultState r') := by
  unfold reviveChild at h
  simp only [run_bind, run_get] at h
  split at h
  · simp only [run_pure] at h; exact .inl ⟨_, h.symm⟩
  · rename_i u hu
    refine .inr ⟨u, _, hu, rfl, ?_⟩
    simp only [run_tryCatch] at h
    split at h <;> rename_i heq <;> simp only [heq, resultState, run_pure] at h ⊢ <;>
      exact ⟨_, h.symm⟩

/-- What every `cmd_start_endpoint` keeps, a revival keeps. -/
theorem reviveChild_preserves {P : Manager → Prop}
    (hc : ∀ {m : Manager} {u : Passwd} {args kw : Json} {r : EStateM.Result PyExc Manager Unit},
      P m → (cmdStartEndpoint cfg env u args kw).run m = r → P (resultState r))
    {a : StartArgs} {r : EStateM.Result PyExc Manager Unit} (hm : P m)
    (h : (reviveChild cfg env a).run m = r) : P (resultState r) := by
  rcases reviveChild_cases h with ⟨x, rfl⟩ | ⟨u, r', -, hr', x, rfl⟩
  · exact hm
  · exact show P (resultState r') from hc hm hr'

/-- One pass of the reaping loop drops the record of `pid`; on a clean exit it also pops
the cache entry of `pid`, and when that entry is live and the manager is not stopping it
revives from it. -/
theorem waitForChildrenReap_cases {pid : Nat} {rc : Int} {r : EStateM.Result PyExc Manager Unit}
    (h : (waitForChildrenReap cfg env pid rc).run m = r) :
    let m₁ := { m with children := (m.children.pop pid).2 }
    let m₂ := { m₁ with cache := (m.cache.pop m.clock pid).2 }
    (∃ x, r = .ok x m₁) ∨ (∃ x, r = .ok x m₂) ∨
    ∃ a, rc = 0 ∧ (m.cache.pop m.clock pid).1 = some a ∧ m.timeToStop = false ∧
      (reviveChild cfg env a).run m₂ = r := by
  intro m₁ m₂
  unfold waitForChildrenReap at h
  simp only [run_bind, run_get, run_set] at h
  split at h
  · rename_i hrc
    simp only [run_bind, run_get, run_set] at h
    split at h
    · rename_i hstop
      split at h
      · rename_i a ha
        exact .inr (.inr ⟨a, hrc, ha, by simpa using hstop, h⟩)
      · simp only [run_pure] at h; exact .inr (.inl ⟨_, h.symm⟩)
    · simp only [run_pure] at h; exact .inr (.inl ⟨_, h.symm⟩)
  · simp only [run_pure] at h; exact .inl ⟨_, h.symm⟩

/-- A clean exit, a live entry and a manager that is not stopping: the reap revives. -/
theorem waitForChildrenReap_revive {pid : Nat} {a : StartArgs}
    (ha : (m.cache.pop m.clock pid).1 = some a) (hstop : m.timeToStop = false) :
    (waitForChildrenReap cfg env pid 0).run m =
      (reviveChild cfg env a).run
        { m with children := (m.children.pop pid).2, cache := (m.cache.pop m.clock pid).2 } := by
  cases hpop : m.cache.pop m.clock pid with
  | mk x c =>
    rw [hpop] at ha
    cases ha
    unfold waitForChildrenReap
    simp only [run_bind, run_get, run_set, if_true, hpop, hstop, Bool.not_false]

theorem reviveChild_extends {a : StartArgs} {r : EStateM.Result PyExc Manager Unit}
    (h : (reviveChild cfg env a).run m = r) : (∃ x m', r = .ok x m') ∧ Extends m (resultState r) := by
  rcases reviveChild_cases h with ⟨x, rfl⟩ | ⟨u, r', -, hr', x, rfl⟩
  · exact ⟨⟨x, m, rfl⟩, .refl m⟩
  · exact ⟨⟨x, _, rfl⟩, show Extends m (resultState r') from cmdStartEndpoint_extends hr'⟩

/-- The reaping loop's body never raises, and changes only the tables and the children
it forks. -/
theorem waitForChildrenReap_extends {pid : Nat} {rc : Int} {r : EStateM.Result PyExc Manager Unit}
    (h : (waitForChildrenReap cfg env pid rc).run m = r) :
    (∃ x m', r = .ok x m') ∧ Extends m (resultState r) := by
  have h₂ : Extends m
      { m with children := (m.children.pop pid).2, cache := (m.cache.pop m.clock pid).2 } :=
    ⟨(m.children.pop pid).2, (m.cache.pop m.clock pid).2, [], by simp, by simp⟩
  rcases waitForChildrenReap_cases h with ⟨x, rfl⟩ | ⟨x, rfl⟩ | ⟨a, -, -, -, hr⟩
  · exact ⟨⟨x, _, rfl⟩, (m.children.pop pid).2, m.cache, [], by simp, by simp⟩
  · exact ⟨⟨x, _, rfl⟩, h₂⟩
  · obtain ⟨hok, hext⟩ := reviveChild_extends hr
    exact ⟨hok, h₂.trans hext⟩

end Cases

end EndpointManager
