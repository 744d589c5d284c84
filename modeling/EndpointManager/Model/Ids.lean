import Mathlib.Data.List.Basic

/-!
# The process's uids, gids and capabilities

The manager changes its ids in two places: the child of `cmd_start_endpoint` drops to the
user's for good, and the shutdown passes of `start()` switch to each record's user and
back. `setresuid` and `setresgid` follow setresuid(2) and capabilities(7):

* a process with `CAP_SETUID` in its effective set may set any uid, another only one of
  its current real, effective or saved uids; `-1` leaves an id as it is; otherwise the call
  raises `PermissionError`, and a value below `-1` raises `OverflowError`. `CAP_SETGID`
  does the same for gids;
* a uid change moves the capability sets (`capsAfterUid`): leaving uid `0` in all three
  uids clears the permitted and the effective set, leaving effective uid `0` clears the
  effective set, and taking effective uid `0` fills it from the permitted set. A gid
  change moves nothing.

The kernel gives a process of uid `0` every capability and a process of another uid none
(`Creds.uniform`); a process of another uid may still hold `CAP_SETUID` or `CAP_SETGID`,
from file capabilities or the ambient set (`Creds.holding`). Only these two capabilities
are modelled: they are the ones the id calls test.
-/

namespace EndpointManager

/-- `CAP_SETUID` and `CAP_SETGID`, as one capability set holds them. -/
structure Caps where
  setuid : Bool
  setgid : Bool
  deriving DecidableEq, Repr

/-- The empty set. -/
@[simps]
def Caps.empty : Caps := ⟨false, false⟩

/-- The capabilities the kernel gives a process of uid `u` that runs a file without file
capabilities: all for root, none otherwise. -/
def Caps.ofUid (u : Nat) : Caps := if u = 0 then ⟨true, true⟩ else .empty

/-- The process's real, effective and saved uids and gids, and its permitted and effective
capability sets. -/
structure Creds where
  ruid : Nat
  euid : Nat
  suid : Nat
  rgid : Nat
  egid : Nat
  sgid : Nat
  permitted : Caps
  effective : Caps
  deriving DecidableEq, Repr

/-- The ids of a process that has not changed them, real, effective and saved all `u` and
`g`, holding `caps`. -/
@[simps]
def Creds.holding (u g : Nat) (caps : Caps) : Creds := ⟨u, u, u, g, g, g, caps, caps⟩

/-- The same with the capabilities the kernel gives uid `u`. -/
def Creds.uniform (u g : Nat) : Creds := .holding u g (.ofUid u)

/-- Whether setresuid(2) lets a process set an id to `arg`, given its current real,
effective and saved ids and whether it holds the capability in effect. -/
def idPermitted (privileged : Bool) (r e s : Nat) (arg : Int) : Bool :=
  arg = -1 || (0 ≤ arg && (privileged || arg = r || arg = e || arg = s))

@[simp] theorem idPermitted_keep (p : Bool) (r e s : Nat) : idPermitted p r e s (-1) = true := by
  simp [idPermitted]

@[simp] theorem idPermitted_natCast (p : Bool) (r e s x : Nat) :
    idPermitted p r e s x = (p || decide (x = r) || decide (x = e) || decide (x = s)) := by
  simp [idPermitted, Int.ofNat_nonneg, Int.ofNat_inj]

/-- The id after a call: `-1` keeps it. -/
def newId (arg : Int) (cur : Nat) : Nat := if arg = -1 then cur else arg.toNat

@[simp] theorem newId_keep (cur : Nat) : newId (-1) cur = cur := by simp [newId]

@[simp] theorem newId_natCast (x cur : Nat) : newId x cur = x := by simp [newId]

/-- The permitted and effective sets after the uids of `c` become `r`, `e` and `s`. -/
def capsAfterUid (c : Creds) (r e s : Nat) : Caps × Caps :=
  if (c.ruid = 0 ∨ c.euid = 0 ∨ c.suid = 0) ∧ r ≠ 0 ∧ e ≠ 0 ∧ s ≠ 0 then (.empty, .empty)
  else if c.euid = 0 ∧ e ≠ 0 then (c.permitted, .empty)
  else if c.euid ≠ 0 ∧ e = 0 then (c.permitted, c.permitted)
  else (c.permitted, c.effective)

/-- The uids of `c` set to `r`, `e` and `s`, with the capability sets the kernel leaves. -/
def Creds.withUids (c : Creds) (r e s : Nat) : Creds :=
  { c with
    ruid := r
    euid := e
    suid := s
    permitted := (capsAfterUid c r e s).1
    effective := (capsAfterUid c r e s).2 }

/-- `os.setresuid(r, e, s)`; `none` when it raises. -/
def setresuid (c : Creds) (r e s : Int) : Option Creds :=
  if [r, e, s].all (idPermitted c.effective.setuid c.ruid c.euid c.suid) then
    some (c.withUids (newId r c.ruid) (newId e c.euid) (newId s c.suid))
  else none

/-- `os.setresgid(r, e, s)`; `none` when it raises. -/
def setresgid (c : Creds) (r e s : Int) : Option Creds :=
  if [r, e, s].all (idPermitted c.effective.setgid c.rgid c.egid c.sgid) then
    some { c with rgid := newId r c.rgid, egid := newId e c.egid, sgid := newId s c.sgid }
  else none

/-- Setting the uids a process has moves no capability. -/
theorem capsAfterUid_same (c : Creds) : capsAfterUid c c.ruid c.euid c.suid = (c.permitted, c.effective) := by
  unfold capsAfterUid
  rw [if_neg (by omega), if_neg (by omega), if_neg (by omega)]

@[simp] theorem Creds.withUids_same (c : Creds) : c.withUids c.ruid c.euid c.suid = c := by
  unfold Creds.withUids
  rw [capsAfterUid_same]

@[simp] theorem Creds.holding_withUids (u g : Nat) (caps : Caps) :
    (Creds.holding u g caps).withUids u u u = .holding u g caps :=
  Creds.withUids_same _

/-- The calls of the passes: `-1` everywhere changes nothing, and setting the real and
effective id to a user's id needs the capability or one of the current ids. -/
@[simp] theorem setresuid_keep (c : Creds) : setresuid c (-1) (-1) (-1) = some c := by
  simp [setresuid]

@[simp] theorem setresgid_keep (c : Creds) : setresgid c (-1) (-1) (-1) = some c := by
  simp [setresgid]

theorem setresuid_natCast (c : Creds) (x : Nat) : setresuid c x x (-1) =
    if c.effective.setuid ∨ x = c.ruid ∨ x = c.euid ∨ x = c.suid then
      some (c.withUids x x c.suid) else none := by
  simp [setresuid, or_assoc]

theorem setresgid_natCast (c : Creds) (x : Nat) : setresgid c x x (-1) =
    if c.effective.setgid ∨ x = c.rgid ∨ x = c.egid ∨ x = c.sgid then
      some { c with rgid := x, egid := x } else none := by
  simp [setresgid, or_assoc]

/-- The child's drop sets all three ids at once. -/
theorem setresuid_all (c : Creds) (x : Nat) : setresuid c x x x =
    if c.effective.setuid ∨ x = c.ruid ∨ x = c.euid ∨ x = c.suid then
      some (c.withUids x x x) else none := by
  simp [setresuid, or_assoc]

theorem setresgid_all (c : Creds) (x : Nat) : setresgid c x x x =
    if c.effective.setgid ∨ x = c.rgid ∨ x = c.egid ∨ x = c.sgid then
      some { c with rgid := x, egid := x, sgid := x } else none := by
  simp [setresgid, or_assoc]

/-- An id a process without the capability may set is one it has. -/
theorem newId_of_idPermitted {x : Nat} {r : Int} (h : idPermitted false x x x r = true) :
    newId r x = x := by
  simp only [idPermitted, Bool.false_or, Bool.or_self, Bool.or_eq_true, decide_eq_true_eq,
    Bool.and_eq_true] at h
  unfold newId
  split <;> omega

/-- Without `CAP_SETUID`, a process whose ids are all `u` and `g` can only set its uids
again. -/
theorem setresuid_holding {u g : Nat} {caps : Caps} (hc : caps.setuid = false) {r e s : Int}
    {c : Creds} (h : setresuid (.holding u g caps) r e s = some c) : c = .holding u g caps := by
  simp only [setresuid, Creds.holding, hc, List.all_cons, List.all_nil, Bool.and_true,
    Bool.and_eq_true] at h
  split at h
  · next hp =>
    cases h
    rw [newId_of_idPermitted hp.1, newId_of_idPermitted hp.2.1, newId_of_idPermitted hp.2.2]
    exact Creds.withUids_same _
  · cases h

/-- Without `CAP_SETGID`, a process whose ids are all `u` and `g` can only set its gids
again. -/
theorem setresgid_holding {u g : Nat} {caps : Caps} (hc : caps.setgid = false) {r e s : Int}
    {c : Creds} (h : setresgid (.holding u g caps) r e s = some c) : c = .holding u g caps := by
  simp only [setresgid, Creds.holding, hc, List.all_cons, List.all_nil, Bool.and_true,
    Bool.and_eq_true] at h
  split at h
  · next hp =>
    cases h
    rw [newId_of_idPermitted hp.1, newId_of_idPermitted hp.2.1, newId_of_idPermitted hp.2.2]
    rfl
  · cases h

/-- A process that is not root and has not changed its ids holds no capability the
kernel gave it. -/
theorem Caps.ofUid_of_ne {u : Nat} (hu : u ≠ 0) : Caps.ofUid u = .empty := by
  simp [Caps.ofUid, hu]

theorem setresuid_uniform {u g : Nat} (hu : u ≠ 0) {r e s : Int} {c : Creds}
    (h : setresuid (.uniform u g) r e s = some c) : c = .uniform u g :=
  setresuid_holding (by rw [Caps.ofUid_of_ne hu]; rfl) h

theorem setresgid_uniform {u g : Nat} (hu : u ≠ 0) {r e s : Int} {c : Creds}
    (h : setresgid (.uniform u g) r e s = some c) : c = .uniform u g :=
  setresgid_holding (by rw [Caps.ofUid_of_ne hu]; rfl) h

end EndpointManager
