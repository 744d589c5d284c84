import EndpointManager.Model.Dumps

/-!
# The child's descriptors

Before it execs the endpoint, the child of `cmd_start_endpoint` replaces its standard
descriptors (lines 985-1037): it opens `/dev/null` until it gets a descriptor above `2`,
makes a pipe, checks the stdin document against the pipe's capacity, moves the pipe's read
end to `0` and `/dev/null` to `1` and `2`, writes the document into the pipe, and closes
every descriptor from `3` up to the hard `RLIMIT_NOFILE`.

`Fds` is the descriptor table, each entry with whether it survives `execve`. The calls
follow POSIX: `open(2)` and `pipe(2)` allocate the lowest free descriptors and fail with
`EMFILE` at the soft limit, `dup2(2)` returns its second argument, and Python makes the
descriptors of `os.open` and `os.pipe` non-inheritable (PEP 446) and those of `os.dup2`
inheritable. Nothing reads the pipe before `os.execvpe`, so a write that does not fit
never returns.

* `devnullLoop`: the `while null_fd < 3` loop; each pass fills one of `0`, `1`, `2` or
  leaves, which is its termination measure.
* `openDevnull`, `redirectStdio`: the two stretches of the setup around `os.pipe` and
  the size check.
* `childStdio`: the whole setup, ending with the table and the pipe's bytes at
  `os.execvpe`, or with the call that raised, or blocked.
-/

namespace EndpointManager

/-- What a descriptor of the child refers to. -/
inductive FileObj where
  /-- Whatever the manager had open at this descriptor when it forked. -/
  | inherited (fd : Nat)
  | devnull
  | pipeRead
  | pipeWrite
  deriving DecidableEq, Repr

/-- An open descriptor: its file and whether it survives `execve` (no `FD_CLOEXEC`). -/
structure Desc where
  obj : FileObj
  inheritable : Bool
  deriving DecidableEq, Repr

/-- The child's descriptor table. Every descriptor at or above `top` is closed. -/
structure Fds where
  get : Nat → Option Desc
  top : Nat
  closed_above : ∀ n, top ≤ n → get n = none

namespace Fds

/-- `fd` now refers to `d`. -/
def set (t : Fds) (fd : Nat) (d : Desc) : Fds where
  get n := if n = fd then some d else t.get n
  top := Nat.max t.top (fd + 1)
  closed_above n h := by
    have h₁ := Nat.le_trans (Nat.le_max_left _ _) h
    have h₂ := Nat.le_trans (Nat.le_max_right _ _) h
    simp only [if_neg (show n ≠ fd by omega), t.closed_above n h₁]

/-- `fd` is closed. -/
def close (t : Fds) (fd : Nat) : Fds where
  get n := if n = fd then none else t.get n
  top := t.top
  closed_above n h := by
    simp only [t.closed_above n h, ite_self]

/-- `os.closerange(lo, hi)`: every descriptor from `lo` below `hi` is closed; the errors
of the single closes are ignored. -/
def closeRange (t : Fds) (lo hi : Nat) : Fds where
  get n := if lo ≤ n ∧ n < hi then none else t.get n
  top := t.top
  closed_above n h := by
    simp only [t.closed_above n h, ite_self]

@[simp] theorem get_set (t : Fds) (fd n : Nat) (d : Desc) :
    (t.set fd d).get n = if n = fd then some d else t.get n := rfl

@[simp] theorem get_close (t : Fds) (fd n : Nat) :
    (t.close fd).get n = if n = fd then none else t.get n := rfl

@[simp] theorem get_closeRange (t : Fds) (lo hi n : Nat) :
    (t.closeRange lo hi).get n = if lo ≤ n ∧ n < hi then none else t.get n := rfl

/-- The lowest descriptor not open, searched from `n` for `k` descriptors: what
`open(2)` and `pipe(2)` allocate. -/
def firstFree (t : Fds) : Nat → Nat → Nat
  | 0, n => n
  | k + 1, n => if (t.get n).isNone then n else t.firstFree k (n + 1)

/-- The lowest descriptor not open; every descriptor from `top` on is free. -/
def lowestFree (t : Fds) : Nat := t.firstFree t.top 0

theorem firstFree_spec (t : Fds) (k n : Nat) :
    (∀ m, n ≤ m → m < t.firstFree k n → (t.get m).isSome) ∧
      (t.get (t.firstFree k n) = none ∨ t.firstFree k n = n + k) := by
  induction k generalizing n with
  | zero => exact ⟨fun m h₁ h₂ => absurd h₂ (by simp [firstFree]; omega), .inr rfl⟩
  | succ k ih =>
    unfold firstFree
    split
    · next h => exact ⟨fun m h₁ h₂ => absurd h₂ (by omega), .inl (by simpa using h)⟩
    · next h =>
      obtain ⟨hbelow, hfree⟩ := ih (n + 1)
      refine ⟨fun m h₁ h₂ => ?_, hfree.imp_right fun e => by omega⟩
      rcases Nat.eq_or_lt_of_le h₁ with rfl | h₁
      · exact Option.ne_none_iff_isSome.1 (by simpa using h)
      · exact hbelow m h₁ h₂

theorem get_lowestFree (t : Fds) : t.get t.lowestFree = none := by
  rcases (t.firstFree_spec t.top 0).2 with h | h
  · exact h
  · unfold lowestFree
    rw [h]
    exact t.closed_above _ (by omega)

theorem get_of_lt_lowestFree (t : Fds) {n : Nat} (h : n < t.lowestFree) : (t.get n).isSome :=
  (t.firstFree_spec t.top 0).1 n (Nat.zero_le _) h

/-- Descriptors `0`, `1` and `2` that are closed. -/
def freeStd (t : Fds) : Nat := ((List.range 3).filter fun n => (t.get n).isNone).length

theorem freeStd_set_of_lt (t : Fds) {fd : Nat} (d : Desc) (hfd : fd < 3) (hfree : t.get fd = none) :
    (t.set fd d).freeStd + 1 = t.freeStd := by
  simp only [freeStd, set, show List.range 3 = [0, 1, 2] from rfl]
  rcases (show fd = 0 ∨ fd = 1 ∨ fd = 2 by omega) with rfl | rfl | rfl <;>
    cases h0 : t.get 0 <;> cases h1 : t.get 1 <;> cases h2 : t.get 2 <;> simp_all

theorem freeStd_set_of_ge (t : Fds) {fd : Nat} (d : Desc) (hfd : 3 ≤ fd) :
    (t.set fd d).freeStd = t.freeStd := by
  simp only [freeStd, set]
  congr 1
  refine List.filter_congr fun n hn => ?_
  rw [if_neg (by have := List.mem_range.1 hn; omega)]

end Fds

/-- `os.open(os.devnull, os.O_WRONLY, mode=0o200)`: the lowest free descriptor, not
inheritable; `EMFILE` when it is not below the soft `RLIMIT_NOFILE`. -/
def osOpen (t : Fds) (soft : Nat) : Option (Nat × Fds) :=
  if t.lowestFree < soft then some (t.lowestFree, t.set t.lowestFree ⟨.devnull, false⟩) else none

theorem osOpen_eq_some {t t' : Fds} {soft fd : Nat} (h : osOpen t soft = some (fd, t')) :
    fd = t.lowestFree ∧ fd < soft ∧ t' = t.set fd ⟨.devnull, false⟩ := by
  unfold osOpen at h
  split at h
  · cases h; exact ⟨rfl, ‹_›, rfl⟩
  · cases h

/-- `while null_fd < 3: null_fd = os.open(os.devnull, ...)` (lines 987-989). Each pass
fills one of the descriptors `0`, `1`, `2` or leaves the loop. -/
def devnullLoop (t : Fds) (soft nullFd : Nat) : Option (Nat × Fds) :=
  if nullFd < 3 then
    match _hopen : osOpen t soft with
    | none => none
    | some (fd, t') => devnullLoop t' soft fd
  else some (nullFd, t)
termination_by t.freeStd + if nullFd < 3 then 1 else 0
decreasing_by
  obtain ⟨rfl, -, rfl⟩ := osOpen_eq_some _hopen
  by_cases hfd : t.lowestFree < 3
  · have := t.freeStd_set_of_lt ⟨.devnull, false⟩ hfd t.get_lowestFree
    simp only [hfd, if_true, ‹nullFd < 3›]
    omega
  · have := t.freeStd_set_of_ge ⟨.devnull, false⟩ (Nat.le_of_not_lt hfd)
    simp only [hfd, if_false, ‹nullFd < 3›, if_true]
    omega

/-- `os.pipe()`: the two lowest free descriptors, read end first, neither inheritable;
`EMFILE` unless both are below the soft limit. -/
def osPipe (t : Fds) (soft : Nat) : Option (Nat × Nat × Fds) :=
  let r := t.lowestFree
  let t₁ := t.set r ⟨.pipeRead, false⟩
  let w := t₁.lowestFree
  if w < soft then some (r, w, t₁.set w ⟨.pipeWrite, false⟩) else none

/-- `os.dup2(fd, fd2)`: `fd2` refers to `fd`'s file and is inheritable; `EBADF` when `fd`
is not open or `fd2` is not below the soft limit. Returns `fd2`. -/
def osDup2 (t : Fds) (soft fd fd2 : Nat) : Option (Nat × Fds) :=
  match t.get fd with
  | none => none
  | some d =>
    if fd2 < soft then
      if fd = fd2 then some (fd2, t) else some (fd2, t.set fd2 ⟨d.obj, true⟩)
    else none

/-- `os.close(fd)`, and the close of a file object over `fd`; `EBADF` when it is not
open. -/
def osClose (t : Fds) (fd : Nat) : Option Fds :=
  if (t.get fd).isSome then some (t.close fd) else none

/-- `os.fdopen(fd, "w")` checks that `fd` is open. -/
def osFdopen (t : Fds) (fd : Nat) : Option Unit :=
  if (t.get fd).isSome then some () else none

/-- Lines 971-975: the document the endpoint reads from its stdin, from the command's
`kwargs` and the rendered user config. -/
def stdinDocument (kwargs : Json) (userConfig : String) : Except PyExc String := do
  let amqpCreds ← kwargs.get "amqp_creds" .null
  pure (Json.dumps (.obj [("amqp_creds", amqpCreds), ("config", .str userConfig)]))

/-- Writing `bytes` to a pipe of capacity `cap` holding `buf`, with no reader running:
the write returns only if everything fits. -/
def pipeWrite (cap : Nat) (buf bytes : List UInt8) : Option (List UInt8) :=
  if buf.length + bytes.length ≤ cap then some (buf ++ bytes) else none

/-- How the child's descriptor setup ends short of `os.execvpe`. -/
inductive StdioStop where
  /-- An exception from this call: the `except`, then `sys.exit(exit_code)`. -/
  | raised (call : String)
  /-- `stdin_pipe.write` never returns: the pipe is full and nothing reads it yet. -/
  | blocked
  deriving DecidableEq, Repr

/-- A call that returns `none` when it stops the setup with `e`. -/
def orStop {α : Type} (e : StdioStop) : Option α → Except StdioStop α
  | some a => .ok a
  | none => .error e

/-- `if cond: raise ...` -/
def raiseAt (call : String) (cond : Bool) : Except StdioStop Unit :=
  if cond then .error (.raised call) else .ok ()

/-- Lines 985-989: `os.open(os.devnull)` until the descriptor is above `2`. -/
def openDevnull (t : Fds) (soft : Nat) : Except StdioStop (Nat × Fds) := do
  let (nullFd, t) ← orStop (.raised "os.open(os.devnull)") (osOpen t soft)
  orStop (.raised "os.open(os.devnull)") (devnullLoop t soft nullFd)

/-- Lines 1004-1022: stdin from the pipe's read end, stdout and stderr to `/dev/null`
through the file object over `null_fd`, then the document written into the pipe, whose
write end the `with` closes. -/
def redirectStdio (t : Fds) (soft cap nullFd readHandle writeHandle : Nat) (bytes : List UInt8) :
    Except StdioStop (Fds × List UInt8) := do
  let (fd0, t) ← orStop (.raised "os.dup2(read_handle, 0)") (osDup2 t soft readHandle 0)
  raiseAt "os.dup2(read_handle, 0)" (fd0 != 0)
  let t ← orStop (.raised "os.close(read_handle)") (osClose t readHandle)
  orStop (.raised "os.fdopen(null_fd)") (osFdopen t nullFd)
  let (fd1, t) ← orStop (.raised "os.dup2(null_fd, 1)") (osDup2 t soft nullFd 1)
  raiseAt "os.dup2(null_fd, 1)" (fd1 != 1)
  let (fd2, t) ← orStop (.raised "os.dup2(null_fd, 2)") (osDup2 t soft nullFd 2)
  raiseAt "os.dup2(null_fd, 2)" (fd2 != 2)
  let t ← orStop (.raised "null_f.close") (osClose t nullFd)
  orStop (.raised "stdin_pipe.write") (osFdopen t writeHandle)
  let buf ← orStop .blocked (pipeWrite cap [] bytes)
  let t ← orStop (.raised "stdin_pipe.write") (osClose t writeHandle)
  pure (t, buf)

/-- Lines 985-1037 of `cmd_start_endpoint`'s child, from the descriptors `t` it
inherited: `/dev/null` on a descriptor above `2`, stdin from a new pipe that is checked
against its capacity `cap` (`fcntl(F_GETPIPE_SZ)`), stdout and stderr to `/dev/null`,
the stdin document written into the pipe, and every descriptor from `3` to the hard
`RLIMIT_NOFILE` closed. The descriptor table and the pipe's bytes when `os.execvpe`
runs. -/
def childStdio (t : Fds) (soft hard cap : Nat) (stdinData : String) :
    Except StdioStop (Fds × List UInt8) := do
  let (nullFd, t) ← openDevnull t soft
  let (readHandle, writeHandle, t) ← orStop (.raised "os.pipe") (osPipe t soft)
  let maxBufSize : Int := cap - 256
  raiseAt "stdin size check" (maxBufSize < stdinData.length)
  let (t, buf) ← redirectStdio t soft cap nullFd readHandle writeHandle (utf8 stdinData)
  pure (t.closeRange 3 hard, buf)

/-- The calls of lines 985-1037, under the names the child's pipeline gives them. -/
def stdioCalls : List String :=
  ["os.open(os.devnull)", "os.pipe", "fcntl.fcntl", "stdin size check", "os.dup2(read_handle, 0)",
    "os.close(read_handle)", "os.fdopen(null_fd)", "os.dup2(null_fd, 1)", "os.dup2(null_fd, 2)",
    "null_f.close", "stdin_pipe.write", "resource.getrlimit", "os.closerange"]

/-- Which of the child's calls raise, when its descriptor setup ended with `r` and every
other call raises as `raises` says. A write that blocks raises nothing: the child hangs in
it, an end `childEnd` does not have, so what it says of exits then covers more than the
child does. -/
def stdioRaises (r : Except StdioStop (Fds × List UInt8)) (raises : String → Bool) (n : String) :
    Bool :=
  if n ∈ stdioCalls then
    match r with
    | .error (.raised m) => m == n
    | _ => false
  else raises n

/-- The descriptors the endpoint starts with: those without `FD_CLOEXEC`. -/
def execImage (t : Fds) (n : Nat) : Option FileObj :=
  match t.get n with
  | some d => if d.inheritable then some d.obj else none
  | none => none

/-! ## Inverting the setup -/

theorem except_bind_eq_ok {ε α β : Type} {x : Except ε α} {f : α → Except ε β} {b : β} :
    x >>= f = .ok b ↔ ∃ a, x = .ok a ∧ f a = .ok b := by
  cases x <;> simp [bind, Except.bind]

@[simp] theorem except_ok_bind {ε α β : Type} (a : α) (f : α → Except ε β) :
    (Except.ok a >>= f) = f a := rfl

@[simp] theorem except_error_bind {ε α β : Type} (e : ε) (f : α → Except ε β) :
    (Except.error e >>= f) = .error e := rfl

@[simp] theorem orStop_eq_ok {α : Type} {e : StdioStop} {o : Option α} {a : α} :
    orStop e o = .ok a ↔ o = some a := by
  cases o <;> simp [orStop]

@[simp] theorem raiseAt_eq_ok {c : String} {b : Bool} {u : Unit} : raiseAt c b = .ok u ↔ b = false := by
  cases b <;> simp [raiseAt]

@[simp] theorem orStop_some {α : Type} (e : StdioStop) (a : α) : orStop e (some a) = pure a := rfl

@[simp] theorem orStop_none {α : Type} (e : StdioStop) : orStop e (none : Option α) = .error e := rfl

@[simp] theorem raiseAt_false (c : String) : raiseAt c false = pure () := rfl

@[simp] theorem raiseAt_true (c : String) : raiseAt c true = .error (.raised c) := rfl

end EndpointManager
