import Mathlib.Data.List.Basic
import EndpointManager.Model.Ids

/-!
# The forked child of `cmd_start_endpoint`

From `pid == 0` on (lines 829-1043) `cmd_start_endpoint` runs in the child: one `try`
around a straight-line pipeline of calls, with `exit_code += 1` between groups of them,
from `exit_code = 70`. If a call raises, the `except` sends the failure notice without
forking, and the `finally`'s `sys.exit(exit_code)` overrides the `sys.exit()` of
`send_failure_notice`: the child exits with the `exit_code` reached. If no call raises,
`os.execvpe` replaces the process with the endpoint.

The exit code depends only on where the `exit_code += 1` statements stand, so each
group is given by its calls that can raise; log calls and plain assignments are left out
and count as part of the group they stand in. `os.initgroups` stands for an exception
other than the `PermissionError` its `except` ignores.

* `runSteps`: the pipeline up to `os.execvpe`, in `Except`: the code a raise exits with,
  or the code reached.
* `childEnd`: the whole child; `childEnd_execd_iff` and `runSteps_eq_error` say which
  calls ran and what code a raise gives.
* `childOf`: the child from the manager's ids, where the test on the ids and the two id
  calls are computed (`dropIds`) and every other call is an input; `execIds` the ids and
  capabilities the endpoint runs with (`execIds_root`, `execIds_holding_own`).
-/

namespace EndpointManager

/-- A statement of the child's pipeline, as far as its exit code is concerned. -/
inductive ChildStmt where
  /-- A call that may raise out of the `try`. -/
  | call (name : String)
  /-- `exit_code += 1` -/
  | bump
  deriving DecidableEq, Repr

/-- How the child ends: the endpoint's image replaced it, or `sys.exit(code)`. -/
inductive ChildEnd where
  | execd
  | exit (code : Nat)
  deriving DecidableEq, Repr

/-- The statements from `exit_code = 70` to `os.execvpe` (lines 832-1039). `changeIds` is
`(os.getuid(), os.getgid()) != (uid, gid)`: only then does the child drop to the user's
groups, gid and uid. -/
def childPipeline (changeIds : Bool) : List ChildStmt :=
  [.call "imports", .call "setup_logging", .call "load_user_config_template",
    .call "os.environ.update", .call "os.chdir(root)", .bump] ++
  (if changeIds then
    [.call "os.initgroups", .bump, .call "os.setresgid", .bump, .call "os.setresuid", .bump]
  else []) ++
  [.call "CapState.set_current", .call "set_no_new_privs", .call "shutil.which",
    .call "os.setsid", .bump,
    .call "os.umask", .bump,
    .call "os.chdir(wd)", .bump,
    .call "setproctitle", .call "ensure_compute_dir", .call "mkdir",
    .call "render_config_user_template", .call "json.dumps", .bump,
    .call "os.open(os.devnull)", .bump,
    .call "os.pipe", .call "fcntl.fcntl", .call "stdin size check", .bump,
    .call "os.dup2(read_handle, 0)", .call "os.close(read_handle)", .bump,
    .call "os.fdopen(null_fd)", .call "os.dup2(null_fd, 1)", .bump,
    .call "os.dup2(null_fd, 2)", .call "null_f.close", .bump,
    .call "stdin_pipe.write", .bump,
    .call "resource.getrlimit", .bump,
    .call "os.closerange", .bump]

/-- The pipeline from `exit_code = code`, where `raises n` says the call `n` raises: the
code a raise exits with (`.error`), or the code reached (`.ok`). -/
def runSteps (raises : String → Bool) : List ChildStmt → Nat → Except Nat Nat
  | [], code => .ok code
  | .call n :: rest, code => if raises n then .error code else runSteps raises rest code
  | .bump :: rest, code => runSteps raises rest (code + 1)

/-- The child: the pipeline, then `os.execvpe`. The `exit_code += 1` after it runs only if
`execvpe` returns without raising, which it does not. -/
def childEnd (changeIds : Bool) (raises : String → Bool) : ChildEnd :=
  match runSteps raises (childPipeline changeIds) 70 with
  | .error code => .exit code
  | .ok code => if raises "os.execvpe" then .exit code else .execd

/-- The `exit_code += 1` statements of a stretch of the pipeline. -/
def bumps : List ChildStmt → Nat
  | [] => 0
  | .call _ :: rest => bumps rest
  | .bump :: rest => bumps rest + 1

/-- The calls of a stretch of the pipeline, in order. -/
def callsOf : List ChildStmt → List String
  | [] => []
  | .call n :: rest => n :: callsOf rest
  | .bump :: rest => callsOf rest

@[simp] theorem bumps_append (s t : List ChildStmt) : bumps (s ++ t) = bumps s + bumps t := by
  induction s with
  | nil => simp [bumps]
  | cons x s ih => rw [List.cons_append]; cases x <;> simp only [bumps, ih]; omega

@[simp] theorem callsOf_append (s t : List ChildStmt) : callsOf (s ++ t) = callsOf s ++ callsOf t := by
  induction s with
  | nil => rfl
  | cons x s ih => cases x <;> simp [callsOf, ih]

theorem bumps_childPipeline (changeIds : Bool) :
    bumps (childPipeline changeIds) = if changeIds then 16 else 13 := by
  cases changeIds <;> rfl

section Run

variable {raises : String → Bool}

/-- A stretch whose calls all return adds its `exit_code += 1` statements. -/
theorem runSteps_eq_ok {stmts : List ChildStmt} {code c : Nat} :
    runSteps raises stmts code = .ok c ↔
      (∀ n ∈ callsOf stmts, raises n = false) ∧ c = code + bumps stmts := by
  induction stmts generalizing code with
  | nil =>
    simp only [runSteps, callsOf, bumps, Except.ok.injEq, List.not_mem_nil, false_implies,
      implies_true, true_and, Nat.add_zero]
    exact eq_comm
  | cons x rest ih =>
    cases x with
    | call n =>
      cases hn : raises n <;> simp [runSteps, callsOf, bumps, hn, ih]
    | bump =>
      simp only [runSteps, callsOf, bumps, ih]
      rw [show code + 1 + bumps rest = code + (bumps rest + 1) by omega]

/-- A raise exits with the code of the group of the first call that raises: `70` plus
the `exit_code += 1` statements before it. -/
theorem runSteps_eq_error {stmts : List ChildStmt} {code c : Nat}
    (h : runSteps raises stmts code = .error c) :
    ∃ pre n rest, stmts = pre ++ .call n :: rest ∧ (∀ m ∈ callsOf pre, raises m = false) ∧
      raises n = true ∧ c = code + bumps pre := by
  induction stmts generalizing code with
  | nil => cases h
  | cons x rest ih =>
    cases x with
    | call n =>
      simp only [runSteps] at h
      split at h
      · cases h
        exact ⟨[], n, rest, rfl, by simp [callsOf], ‹_›, by simp [bumps]⟩
      · obtain ⟨pre, n', rest', rfl, hpre, hn', rfl⟩ := ih h
        refine ⟨.call n :: pre, n', rest', rfl, ?_, hn', by simp [bumps]⟩
        simpa [callsOf, ‹¬raises n = true›] using hpre
    | bump =>
      obtain ⟨pre, n', rest', rfl, hpre, hn', rfl⟩ := ih h
      exact ⟨.bump :: pre, n', rest', rfl, hpre, hn', by simp only [bumps]; omega⟩

/-- Conversely, the first call that raises decides the code. -/
theorem runSteps_first_raise {pre rest : List ChildStmt} {n : String} {code : Nat}
    (hpre : ∀ m ∈ callsOf pre, raises m = false) (hn : raises n = true) :
    runSteps raises (pre ++ .call n :: rest) code = .error (code + bumps pre) := by
  induction pre generalizing code with
  | nil => simp [runSteps, hn, bumps]
  | cons x pre ih =>
    cases x with
    | call m =>
      have hm : raises m = false := hpre m (List.mem_cons_self _ _)
      rw [List.cons_append]
      simp only [runSteps, hm, Bool.false_eq_true, if_false, bumps]
      exact ih fun k hk => hpre k (List.mem_cons_of_mem _ hk)
    | bump =>
      rw [List.cons_append]
      simp only [runSteps, bumps]
      rw [ih hpre]
      congr 1
      omega

/-- A pipeline run in two stretches: the second starts from the code the first reached. -/
theorem runSteps_append {s t : List ChildStmt} {code : Nat} :
    runSteps raises (s ++ t) code = runSteps raises s code >>= runSteps raises t := by
  induction s generalizing code with
  | nil => rfl
  | cons x s ih =>
    cases x with
    | call n =>
      cases hn : raises n
      · simpa [runSteps, hn] using ih
      · simp [runSteps, hn]; rfl
    | bump => exact ih

/-- A raise exits with at most the code the whole stretch would reach. -/
theorem runSteps_error_le {stmts : List ChildStmt} {code c : Nat}
    (h : runSteps raises stmts code = .error c) : c ≤ code + bumps stmts := by
  obtain ⟨pre, n, rest, rfl, -, -, rfl⟩ := runSteps_eq_error h
  simp only [bumps_append, bumps]
  omega

end Run

/-- The child becomes the endpoint exactly when no call of the pipeline raises and
`os.execvpe` does not either. -/
theorem childEnd_execd_iff {changeIds : Bool} {raises : String → Bool} :
    childEnd changeIds raises = .execd ↔
      (∀ n ∈ callsOf (childPipeline changeIds), raises n = false) ∧ raises "os.execvpe" = false := by
  unfold childEnd
  cases hr : runSteps raises (childPipeline changeIds) 70 with
  | error c =>
    obtain ⟨pre, n, rest, hp, hpre, hn, -⟩ := runSteps_eq_error hr
    simp only [reduceCtorEq, false_iff, not_and]
    intro hall
    have := hall n (by rw [hp]; simp [callsOf])
    rw [hn] at this
    cases this
  | ok c =>
    have hall := (runSteps_eq_ok.1 hr).1
    cases hx : raises "os.execvpe"
    · simpa using hall
    · simp

/-! ## The child's ids

The child starts with the manager's ids and capabilities. `(os.getuid(), os.getgid()) !=
(uid, gid)` reads the real ids, `os.setresgid(gid, gid, gid)` then `os.setresuid(uid, uid,
uid)` set all three of each or raise, and `pyprctl.CapState().set_current()` empties every
capability set. The supplementary groups of `os.initgroups` are not modelled. -/

/-- `(os.getuid(), os.getgid()) != (uid, gid)` in a child with ids `c`. -/
def changesIds (c : Creds) (uid gid : Nat) : Bool := c.ruid != uid || c.rgid != gid

/-- The privilege drop (lines 889-921) from ids `c`: the ids after
`os.setresgid(gid, gid, gid)` and `os.setresuid(uid, uid, uid)`, or the call that
raised. -/
def dropIds (c : Creds) (uid gid : Nat) : Except String Creds :=
  match setresgid c gid gid gid with
  | none => .error "os.setresgid"
  | some c' =>
    match setresuid c' uid uid uid with
    | none => .error "os.setresuid"
    | some c'' => .ok c''

/-- The child's calls from ids `c`: the two id calls raise as `dropIds` says, every other
call as `raises` says. -/
def idRaises (c : Creds) (uid gid : Nat) (raises : String → Bool) (n : String) : Bool :=
  if n = "os.setresgid" ∨ n = "os.setresuid" then
    match dropIds c uid gid with
    | .error m => m == n
    | .ok _ => false
  else raises n

/-- The child of a manager with ids `c`, for a user with `uid` and `gid`. -/
def childOf (c : Creds) (uid gid : Nat) (raises : String → Bool) : ChildEnd :=
  childEnd (changesIds c uid gid) (idRaises c uid gid raises)

/-- `pyprctl.CapState().set_current()`: every capability set emptied. -/
def Creds.dropCaps (c : Creds) : Creds := { c with permitted := .empty, effective := .empty }

/-- The ids the endpoint runs with when the child execs: the drop's, when the ids had to
change, with no capability left. -/
def execIds (c : Creds) (uid gid : Nat) : Except String Creds :=
  (if changesIds c uid gid then dropIds c uid gid else .ok c).map Creds.dropCaps

section Drop

variable {c : Creds} {uid gid : Nat} {raises : String → Bool}

/-- Only the two id calls can fail the drop. -/
theorem dropIds_error {m : String} (h : dropIds c uid gid = .error m) :
    m = "os.setresgid" ∨ m = "os.setresuid" := by
  unfold dropIds at h
  repeat' split at h
  all_goals cases h
  · exact .inl rfl
  · exact .inr rfl

/-- A child that execs has been through its drop: the endpoint runs with `execIds`. -/
theorem childOf_execd (h : childOf c uid gid raises = .execd) : ∃ c', execIds c uid gid = .ok c' := by
  unfold execIds
  cases hc : changesIds c uid gid
  · exact ⟨_, rfl⟩
  · simp only [childOf, hc] at h
    obtain ⟨hall, -⟩ := childEnd_execd_iff.1 h
    cases hd : dropIds c uid gid with
    | ok c' => exact ⟨_, rfl⟩
    | error m =>
      have hm := dropIds_error hd
      have hr := hall m (by rcases hm with rfl | rfl <;> simp [childPipeline, callsOf])
      simp [idRaises, hm, hd] at hr

end Drop

/-- Root's drop never raises, and leaves the capabilities the kernel gives the user's
uid. -/
theorem dropIds_root (g uid gid : Nat) : dropIds (.uniform 0 g) uid gid = .ok (.uniform uid gid) := by
  simp only [dropIds, setresgid_all, setresuid_all]
  by_cases hu : uid = 0 <;>
    simp [Creds.uniform, Creds.holding, Caps.ofUid, Creds.withUids, capsAfterUid, hu]

/-- A child of root runs the endpoint with all of the user's ids and no capability,
whether or not it had to change them. -/
theorem execIds_root (g uid gid : Nat) : execIds (.uniform 0 g) uid gid = .ok (.holding uid gid .empty) := by
  unfold execIds
  split
  · rw [dropIds_root]; rfl
  · next h =>
    simp only [changesIds, Creds.uniform, Creds.holding, Bool.or_eq_true, bne_iff_ne, ne_eq, not_or,
      Decidable.not_not] at h
    rw [← h.1, ← h.2]
    rfl

/-- A child of a manager of the user's own uid execs exactly when the user's gid is the
manager's or the manager holds `CAP_SETGID`, and then runs the endpoint with the user's
gid and no capability. -/
theorem execIds_holding_own (u g gid : Nat) (caps : Caps) :
    execIds (.holding u g caps) u gid =
      if gid = g ∨ caps.setgid = true then .ok (.holding u gid .empty) else .error "os.setresgid" := by
  by_cases hg : gid = g
  · subst hg
    simp [execIds, changesIds, Creds.holding, Creds.dropCaps, Except.map]
  · by_cases hc : caps.setgid = true <;>
      simp [execIds, changesIds, dropIds, setresgid_all, setresuid_all, Creds.holding, Creds.dropCaps,
        Creds.withUids, capsAfterUid, hg, Ne.symm hg, hc, Except.map]

end EndpointManager
