import EndpointManager.Model.Json
import EndpointManager.Model.Dict

/-!
# The manager process and its children

The state of `EndpointManager` that its dispatch loop, its reaper and its launcher share,
together with the part of the kernel the manager talks to:

* the attributes of `self` the dispatch loop, the reaper and the launcher read and
  write (`_children`, `_cached_cmd_start_args`, `_wait_for_child`, `_time_to_stop`,
  `_command_stop_event`, `identity_mapper`), and the local `parent_identities` of
  `_event_loop`;
* the children the process has forked (`Proc`): running, exited and not yet reaped
  (a zombie), or reaped. `ChildKind` and the `notified` flag of an exit are not state
  of the program: they record which call forked a child and whether the SIGCHLD handler
  has run since it exited, so that what a run did to each child can be read off its state;
* the monotonic clock, which the cache's expiry reads, and the password database.

Methods run in `PyM`, an `EStateM` over `Manager`: an exception keeps the state as it
was when it was raised, as a Python exception keeps every assignment made before it.
`fork` is `os.fork()` as the parent sees it: a `ForkOracle` gives a positive pid that
no unreaped child holds, or `none` for `OSError`.
-/

namespace EndpointManager

/-! ## Records -/

/-- The fields of `pwd.struct_passwd` the parent process reads. -/
structure Passwd where
  pwName : String
  pwUid : Nat
  pwGid : Nat
  deriving Repr, DecidableEq

/-- `UserEndpointRecord`; `localUserInfo` is `None` for a failure-notice child. The
`arguments` string is only logged and is left out. -/
structure UserEndpointRecord where
  epName : String
  localUserInfo : Option Passwd
  deriving Repr, DecidableEq

/-- `T_CMD_START_ARGS`: the arguments of a `cmd_start_endpoint` call kept for a
revival. -/
structure StartArgs where
  userRecord : Passwd
  args : Json
  kwargs : Json

/-- `identity_mapper.map_identity`: a local user name, `None`, or an exception. -/
abbrev Mapper := Json → Except PyExc (Option String)

/-! ## Children as the kernel sees them -/

/-- Which call forked a child, with the user and the `ep_name` value of a user
endpoint. -/
inductive ChildKind where
  | userEndpoint (user : Passwd) (epName : Json)
  | failureNotice

/-- A child is running, has exited with the code `os.waitstatus_to_exitcode` gives
(`notified`: a SIGCHLD handler has run since), or has been reaped by `waitpid`. -/
inductive ProcStatus where
  | running
  | exited (rc : Int) (notified : Bool)
  | reaped
  deriving DecidableEq

structure Proc where
  pid : Nat
  kind : ChildKind
  status : ProcStatus

/-- Not yet reaped: its pid is still taken. -/
def Proc.unreaped (p : Proc) : Bool := p.status != .reaped

/-- The pids of the children not yet reaped. -/
def unreapedPids (procs : List Proc) : List Nat :=
  (procs.filter Proc.unreaped).map (·.pid)

/-- `os.fork()` in the parent: a positive pid no unreaped child holds, or `none` when
the call raises `OSError`. -/
structure ForkOracle where
  next : List Nat → Option Nat
  fresh : ∀ held p, next held = some p → p ∉ held
  pos : ∀ held p, next held = some p → 0 < p

/-- The first candidate that is positive and free. -/
def ForkOracle.ofList (cands : List Nat) : ForkOracle where
  next held := cands.find? fun p => 0 < p && p ∉ held
  fresh held p h := by
    have := List.find?_some h
    simp only [Bool.and_eq_true, decide_eq_true_eq] at this
    exact this.2
  pos held p h := by
    have := List.find?_some h
    simp only [Bool.and_eq_true, decide_eq_true_eq] at this
    exact this.1

private theorem le_foldr_max {l : List Nat} {x : Nat} (h : x ∈ l) : x ≤ l.foldr Nat.max 0 := by
  induction l with
  | nil => cases h
  | cons a l ih =>
    rcases List.mem_cons.1 h with rfl | h
    · exact Nat.le_max_left _ _
    · exact Nat.le_trans (ih h) (Nat.le_max_right _ _)

/-- A kernel that always has a pid to give: one more than the largest pid held. -/
def ForkOracle.always : ForkOracle where
  next held := some (held.foldr Nat.max 0 + 1)
  fresh held p h := by
    cases h
    exact fun hm => absurd (le_foldr_max hm) (Nat.not_succ_le_self _)
  pos held p h := by cases h; exact Nat.succ_pos _

/-! ## The manager -/

/-- Where the main thread is. `start`, `head`, `drain`, `body` are in `_event_loop`
(before the `while`, at its test, inside `wait_for_children`, after it); the rest are
in `start()` after `_event_loop` returned or raised: before `killpg`, the `while`
loops of the SIGTERM (`0`) and SIGKILL (`1`) passes and their `wait_for_children`. -/
inductive Pc where
  | start
  | head
  | drain
  | body
  | shutdown
  | sweep (pass : Nat)
  | sweepDrain (pass : Nat)
  | done
  deriving DecidableEq

/-- The manager's attributes, its main thread's position and its children. -/
structure Manager where
  children : PyDict Nat UserEndpointRecord
  cache : TTLCache Nat StartArgs
  waitForChild : Bool
  timeToStop : Bool
  commandStop : Bool
  identityMapper : Option Mapper
  parentIdentities : List Json
  pc : Pc
  procs : List Proc
  sigchld : Bool
  clock : Nat
  passwd : List Passwd

/-- Constants of a run: `self._mu_user`, `self._allow_same_user`, the
`is_privileged()` that `_event_loop` tests, `mu_child_ep_grace_period_s`, and when
`datetime.fromtimestamp` accepts a timestamp. `muUser.pwUid` is `os.getuid()`. -/
structure Config where
  muUser : Passwd
  allowSameUser : Bool
  privileged : Bool
  gracePeriod : Nat
  inDatetimeRange : Int → Bool

/-- What the environment answers during one step: `round(time.time())` and `os.fork()`. -/
structure Env where
  now : Int
  fork : ForkOracle

/-- `EndpointManager.__init__`'s tables and flags: no child, an empty
`TTLCache(maxsize=32768, ttl=mu_child_ep_grace_period_s)`. -/
def Manager.init (cfg : Config) (mapper : Option Mapper) (passwd : List Passwd)
    (clock : Nat) : Manager where
  children := .empty
  cache := .empty 32768 cfg.gracePeriod (by decide)
  waitForChild := false
  timeToStop := false
  commandStop := false
  identityMapper := mapper
  parentIdentities := []
  pc := .start
  procs := []
  sigchld := false
  clock := clock
  passwd := passwd

/-! ## Methods -/

/-- A method of the manager. -/
abbrev PyM := EStateM PyExc Manager

/-- `os.fork()` in the parent; `kind` records which call forked. -/
def fork (env : Env) (kind : ChildKind) : PyM Nat := do
  let m ← get
  match env.fork.next (unreapedPids m.procs) with
  | some p =>
    set { m with procs := m.procs ++ [(⟨p, kind, .running⟩ : Proc)] }
    pure p
  | none => throw .osError

/-- `if cond: raise e` -/
def raiseIf (cond : Bool) (e : PyExc) : PyM Unit := if cond then throw e else pure ()

/-! ## Running methods

`x.run m` for the primitives, so that a method's run unfolds one statement at a time. -/

section Run

variable {α β : Type} (m : Manager)

@[simp] theorem run_bind (x : PyM α) (f : α → PyM β) :
    (x >>= f).run m = match x.run m with
      | .ok a m' => (f a).run m'
      | .error e m' => .error e m' := by
  show EStateM.bind x f m = _
  unfold EStateM.bind EStateM.run
  cases x m <;> rfl

@[simp] theorem run_pure (a : α) : (pure a : PyM α).run m = .ok a m := rfl

@[simp] theorem run_get : (get : PyM Manager).run m = .ok m m := rfl

@[simp] theorem run_set (m' : Manager) : (set m' : PyM PUnit).run m = .ok () m' := rfl

@[simp] theorem run_modify (f : Manager → Manager) :
    (modify f : PyM PUnit).run m = .ok () (f m) := rfl

@[simp] theorem run_throw (e : PyExc) : (throw e : PyM α).run m = .error e m := rfl

@[simp] theorem run_liftExcept (x : Except PyExc α) :
    (liftExcept x : PyM α).run m = match x with
      | .ok a => .ok a m
      | .error e => .error e m := by
  cases x <;> rfl

@[simp] theorem run_raiseIf (c : Bool) (e : PyExc) :
    (raiseIf c e).run m = if c then .error e m else .ok () m := by
  unfold raiseIf; split <;> rfl

@[simp] theorem run_tryCatch (x : PyM α) (h : PyExc → PyM α) :
    (tryCatch x h).run m = match x.run m with
      | .ok a m' => .ok a m'
      | .error e m' => (h e).run m' := by
  show EStateM.tryCatch x h m = _
  unfold EStateM.tryCatch EStateM.run
  cases x m <;> rfl

theorem run_fork (env : Env) (kind : ChildKind) : (fork env kind).run m =
    match env.fork.next (unreapedPids m.procs) with
    | some p => .ok p { m with procs := m.procs ++ [(⟨p, kind, .running⟩ : Proc)] }
    | none => .error .osError m := by
  unfold fork
  simp only [run_bind, run_get]
  split <;> rfl

end Run

/-- `pwd.getpwnam(name)` -/
def getpwnam (db : List Passwd) (name : String) : Option Passwd := db.find? (·.pwName = name)

/-- `pwd.getpwuid(uid)` -/
def getpwuid (db : List Passwd) (uid : Nat) : Option Passwd := db.find? (·.pwUid = uid)

theorem getpwuid_pwUid {db : List Passwd} {uid : Nat} {u : Passwd} (h : getpwuid db uid = some u) :
    u.pwUid = uid := by
  simpa using List.find?_some h

end EndpointManager
