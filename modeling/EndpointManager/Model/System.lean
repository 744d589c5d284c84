import EndpointManager.Model.Command
import EndpointManager.Model.Reap

/-!
# The manager as a transition system

`EndpointManager.start` runs `_event_loop` on the main thread and then its shutdown
sequence. Other threads and the kernel act in between: the command subscriber delivers
messages and may set its stop event, children exit, and the Python-level signal handlers
run between two statements of the main thread. `step` is one such action, and its
`Action` argument carries every choice the environment makes: which message arrives,
which pids `fork` returns, which child exits with which code, when the deadline of a
shutdown pass has passed.

The main thread's statements are grouped into steps at the points where what another
actor does can matter:

* `loopTest`: the `while not self._time_to_stop` test and, if `_wait_for_child` is set,
  the first statement of `wait_for_children`, which clears it. A SIGCHLD handler that
  runs between the two acts as if it ran before the test.
* `reap`: one `waitpid` that collects an exited child, and the loop body for it.
  `drained`: the `waitpid` that returns `0` (no exited child) or raises
  `ChildProcessError` (no child at all).
* `command`: one dequeued message handled to the end of the iteration. Its checks read
  nothing another actor writes except the process table, which only gains exits, so
  no interleaving inside it changes its outcome. `pollEmpty`: `queue.Empty`.
  `loopFails`: a collaborator raises inside the loop (the heartbeat publisher, `ack`).
* `stop`: `start()` after `_event_loop`, up to and including
  `os.killpg(os.getpgid(0), signal.SIGTERM)`. That signal goes to the manager's own
  group; Linux delivers a signal a thread sends to its own process to that thread before
  `kill` returns, and CPython runs the Python-level handler at the next instruction
  boundary. So `request_shutdown` has run when `killpg` returns.
* `sweepTest`: the `while self._children and time.time() < deadline` test of a pass and,
  when it holds, the `_wait_for_child = False` that starts `wait_for_children`.
-/

namespace EndpointManager

/-- The environment's choices, one per step. -/
inductive Action where
  | identities (identitySet : Except PyExc Json)
  | loopTest
  | reap (pid : Nat) (env : Env)
  | drained
  | command (msg : Message) (env : Env)
  | pollEmpty
  | loopFails
  | stop
  | sweepTest (deadlinePassed : Bool)
  | childExit (pid : Nat) (rc : Int)
  | sigchld
  | sigterm
  | commandQueueStopped
  | tick (dt : Nat)
  | passwdChanged (db : List Passwd)
  | policyChanged (mapper : Mapper)

/-! ## The kernel's process table -/

/-- Exited and not yet reaped. -/
def Proc.isExited (p : Proc) : Bool :=
  match p.status with
  | .exited _ _ => true
  | _ => false

/-- The exit code `waitpid` reports for the exited child `pid`. -/
def exitCodeOf (procs : List Proc) (pid : Nat) : Option Int :=
  procs.findSome? fun p =>
    if p.pid = pid then
      match p.status with
      | .exited rc _ => some rc
      | _ => none
    else none

/-- Each child takes the status `g` gives it. -/
def setStatuses (procs : List Proc) (g : Proc → ProcStatus) : List Proc :=
  procs.map fun p => { p with status := g p }

/-- The running child `pid` exits with code `rc`. -/
def markExited (procs : List Proc) (pid : Nat) (rc : Int) : List Proc :=
  setStatuses procs fun p =>
    if p.pid = pid ∧ p.status = .running then .exited rc false else p.status

/-- `waitpid` collects the exited child `pid`. -/
def markReaped (procs : List Proc) (pid : Nat) : List Proc :=
  setStatuses procs fun p => if p.pid = pid ∧ p.isExited then .reaped else p.status

/-- A SIGCHLD handler runs: it has now run after every exit so far. -/
def markNotified (procs : List Proc) : List Proc :=
  setStatuses procs fun p =>
    match p.status with
    | .exited rc _ => .exited rc true
    | s => s

theorem mem_setStatuses {procs : List Proc} {g : Proc → ProcStatus} {q : Proc} :
    q ∈ setStatuses procs g ↔ ∃ p ∈ procs, q = { p with status := g p } := by
  simp [setStatuses, eq_comm]

@[simp] theorem setStatuses_status (procs : List Proc) : setStatuses procs (·.status) = procs := by
  simp [setStatuses]

@[simp] theorem length_setStatuses (procs : List Proc) (g : Proc → ProcStatus) :
    (setStatuses procs g).length = procs.length := by
  simp [setStatuses]

/-- A status change that neither reaps nor un-reaps keeps the unreaped pids. -/
theorem unreapedPids_setStatuses {procs : List Proc} {g : Proc → ProcStatus}
    (hg : ∀ p ∈ procs, (g p = .reaped ↔ p.status = .reaped)) :
    unreapedPids (setStatuses procs g) = unreapedPids procs := by
  induction procs with
  | nil => rfl
  | cons p ps ih =>
    have hp := hg p (List.mem_cons_self _ _)
    have hps := ih fun q hq => hg q (List.mem_cons_of_mem _ hq)
    by_cases hr : p.status = .reaped <;>
      simp_all [setStatuses, unreapedPids, Proc.unreaped, List.filter_cons]

@[simp] theorem unreapedPids_append_running (procs : List Proc) (p : Nat) (k : ChildKind) :
    unreapedPids (procs ++ [(⟨p, k, .running⟩ : Proc)]) = unreapedPids procs ++ [p] := by
  simp [unreapedPids, Proc.unreaped, List.filter_append]

theorem unreapedPids_markExited (procs : List Proc) (pid : Nat) (rc : Int) :
    unreapedPids (markExited procs pid rc) = unreapedPids procs :=
  unreapedPids_setStatuses fun p _ => by split <;> simp_all

theorem unreapedPids_markNotified (procs : List Proc) :
    unreapedPids (markNotified procs) = unreapedPids procs :=
  unreapedPids_setStatuses fun p _ => by split <;> simp_all

/-- A status change that neither reaps nor un-reaps a child with pid `k` keeps `k`
unreaped or not. -/
theorem mem_unreapedPids_setStatuses {procs : List Proc} {g : Proc → ProcStatus} {k : Nat}
    (hg : ∀ p ∈ procs, p.pid = k → (g p = .reaped ↔ p.status = .reaped)) :
    k ∈ unreapedPids (setStatuses procs g) ↔ k ∈ unreapedPids procs := by
  simp only [unreapedPids, setStatuses, List.mem_map, List.mem_filter, Proc.unreaped,
    bne_iff_ne, ne_eq]
  constructor
  · rintro ⟨q, ⟨⟨p, hp, rfl⟩, hu⟩, rfl⟩
    exact ⟨p, ⟨hp, fun h => hu ((hg p hp rfl).2 h)⟩, rfl⟩
  · rintro ⟨p, ⟨hp, hu⟩, rfl⟩
    exact ⟨_, ⟨⟨p, hp, rfl⟩, fun h => hu ((hg p hp rfl).1 h)⟩, rfl⟩

/-- Collecting `pid` leaves every other pid as it was. -/
theorem mem_unreapedPids_markReaped {procs : List Proc} {pid k : Nat} (hk : k ≠ pid) :
    k ∈ unreapedPids (markReaped procs pid) ↔ k ∈ unreapedPids procs :=
  mem_unreapedPids_setStatuses fun p _ hp => by simp [hp, hk]

/-! ## The main thread -/

/-- The start of `_event_loop` (lines 495-524). An unprivileged manager needs the
identity set of its own login; without one it stops. -/
def eventLoopStart (cfg : Config) (m : Manager) (identitySet : Except PyExc Json) : Manager :=
  if cfg.privileged then { m with pc := .head }
  else
    match identitySet.bind Json.subs with
    | .ok (i :: ids) => { m with parentIdentities := i :: ids, pc := .head }
    | _ => { m with timeToStop := true, pc := .shutdown }

/-- Where `wait_for_children` returns to. -/
def Pc.afterDrain : Pc → Option Pc
  | .drain => some .body
  | .sweepDrain k => some (.sweep k)
  | _ => none

/-- One action. `none`: the action is not possible in this state. -/
def step (cfg : Config) (m : Manager) : Action → Option Manager
  | .identities ids => if m.pc = .start then some (eventLoopStart cfg m ids) else none
  | .loopTest =>
    if m.pc = .head then
      some (if m.timeToStop then { m with pc := .shutdown }
        else if m.waitForChild then { m with waitForChild := false, pc := .drain }
        else { m with pc := .body })
    else none
  | .reap pid env =>
    match m.pc.afterDrain, exitCodeOf m.procs pid with
    | some back, some rc =>
      match (waitForChildrenReap cfg env pid rc).run { m with procs := markReaped m.procs pid } with
      | .ok _ m' => some m'
      | .error _ m' => some { m' with pc := back }
    | _, _ => none
  | .drained =>
    match m.pc.afterDrain with
    | some back => if m.procs.all (fun p => !p.isExited) then some { m with pc := back } else none
    | none => none
  | .command msg env =>
    if m.pc = .body then
      match (eventLoopCommand cfg env msg).run m with
      | .ok _ m' => some { m' with pc := .head }
      | .error _ m' => some { m' with pc := .shutdown }
    else none
  | .pollEmpty =>
    if m.pc = .body then some { m with timeToStop := m.timeToStop || m.commandStop, pc := .head }
    else none
  | .loopFails => if m.pc = .body then some { m with pc := .shutdown } else none
  | .stop =>
    if m.pc = .shutdown then some { m with commandStop := true, timeToStop := true, pc := .sweep 0 }
    else none
  | .sweepTest deadlinePassed =>
    match m.pc with
    | .sweep k =>
      if !m.children.pairs.isEmpty && !deadlinePassed then
        some { m with waitForChild := false, pc := .sweepDrain k }
      else some { m with pc := if k = 0 then .sweep 1 else .done }
    | _ => none
  | .childExit pid rc =>
    if m.procs.any (fun p => p.pid = pid && p.status = .running) then
      some { m with procs := markExited m.procs pid rc, sigchld := true }
    else none
  | .sigchld =>
    if m.sigchld then
      some { m with waitForChild := true, sigchld := false, procs := markNotified m.procs }
    else none
  | .sigterm => some { m with timeToStop := true }
  | .commandQueueStopped => some { m with commandStop := true }
  | .tick dt => some { m with clock := m.clock + dt }
  | .passwdChanged db => some { m with passwd := db }
  | .policyChanged f => some { m with identityMapper := m.identityMapper.map fun _ => f }

/-! ## The two steps that run methods

`wait_for_children` catches every exception, and its body never raises anyway, so a
reap leaves exactly the state the loop body leaves. -/

section Steps

variable {cfg : Config} {m m' : Manager}

theorem step_reap {pid : Nat} {env : Env} (h : step cfg m (.reap pid env) = some m') :
    ∃ back rc, m.pc.afterDrain = some back ∧ exitCodeOf m.procs pid = some rc ∧
      m' = resultState ((waitForChildrenReap cfg env pid rc).run
        { m with procs := markReaped m.procs pid }) := by
  simp only [step] at h
  split at h
  · rename_i back rc hb hrc
    refine ⟨back, rc, hb, hrc, ?_⟩
    split at h <;> rename_i heq
    · cases h; rw [heq]; rfl
    · obtain ⟨⟨_, _, hok⟩, -⟩ := waitForChildrenReap_extends heq
      cases hok
  · cases h

theorem step_command {msg : Message} {env : Env} (h : step cfg m (.command msg env) = some m') :
    m.pc = .body ∧ ∃ pc', (pc' = .head ∨ pc' = .shutdown) ∧
      m' = { resultState ((eventLoopCommand cfg env msg).run m) with pc := pc' } := by
  simp only [step] at h
  split at h
  · rename_i hpc
    refine ⟨hpc, ?_⟩
    split at h <;> rename_i heq <;> cases h <;> rw [heq]
    · exact ⟨.head, .inl rfl, rfl⟩
    · exact ⟨.shutdown, .inr rfl, rfl⟩
  · cases h

/-- Every other action runs no method of the manager: it leaves `_children` and the cache
alone, moves the clock forward only, and reaps no child. -/
theorem step_frame {a : Action} (h : step cfg m a = some m')
    (hr : ∀ pid env, a ≠ .reap pid env) (hc : ∀ msg env, a ≠ .command msg env) :
    m'.children = m.children ∧ m'.cache = m.cache ∧ m.clock ≤ m'.clock ∧
    ∃ g : Proc → ProcStatus, (∀ p, g p = .reaped ↔ p.status = .reaped) ∧
      m'.procs = setStatuses m.procs g := by
  have hid : ∃ g : Proc → ProcStatus, (∀ p, g p = .reaped ↔ p.status = .reaped) ∧
      m.procs = setStatuses m.procs g := ⟨(·.status), fun _ => Iff.rfl, (setStatuses_status _).symm⟩
  cases a with
  | reap pid env => exact absurd rfl (hr pid env)
  | command msg env => exact absurd rfl (hc msg env)
  | childExit _ _ | sigchld =>
    simp only [step] at h
    split at h <;> cases h
    exact ⟨rfl, rfl, le_refl _, _, fun p => by split <;> simp_all, rfl⟩
  | tick dt => cases h; exact ⟨rfl, rfl, Nat.le_add_right _ _, hid⟩
  | identities ids =>
    simp only [step] at h
    split at h <;> cases h
    unfold eventLoopStart
    repeat' split
    all_goals exact ⟨rfl, rfl, le_refl _, hid⟩
  | _ =>
    simp only [step] at h
    repeat' split at h
    all_goals cases h
    all_goals exact ⟨rfl, rfl, le_refl _, hid⟩

/-- No step installs an identity mapper where there was none, or removes one: the policy
watcher only replaces it. -/
theorem step_identityMapper {a : Action} (h : step cfg m a = some m') :
    m'.identityMapper = none ↔ m.identityMapper = none := by
  cases a with
  | reap pid env =>
    obtain ⟨-, rc, -, -, rfl⟩ := step_reap h
    have he : Extends { m with procs := markReaped m.procs pid } (resultState
        ((waitForChildrenReap cfg env pid rc).run { m with procs := markReaped m.procs pid })) :=
      (waitForChildrenReap_extends rfl).2
    rw [he.identityMapper_eq]
  | command msg env =>
    obtain ⟨-, pc', -, rfl⟩ := step_command h
    show (resultState _).identityMapper = none ↔ _
    rw [(eventLoopCommand_extends rfl).identityMapper_eq]
  | policyChanged f =>
    cases h
    exact Option.map_eq_none'
  | identities ids =>
    simp only [step] at h
    split at h <;> cases h
    unfold eventLoopStart
    repeat' split
    all_goals exact Iff.rfl
  | _ =>
    simp only [step] at h
    repeat' split at h
    all_goals cases h
    all_goals exact Iff.rfl

end Steps

/-- The states `EndpointManager.start` can reach, from any initial mapper, password
database and clock. -/
inductive Reachable (cfg : Config) : Manager → Prop
  | init (mapper : Option Mapper) (passwd : List Passwd) (clock : Nat) :
      Reachable cfg (Manager.init cfg mapper passwd clock)
  | step {m m' : Manager} (a : Action) : Reachable cfg m → step cfg m a = some m' →
      Reachable cfg m'

/-- A run: the actions in order. -/
def run (cfg : Config) (m : Manager) (acts : List Action) : Option Manager :=
  acts.foldlM (step cfg) m

/-- What every step keeps, a run keeps. -/
theorem run_preserves {cfg : Config} {P : Manager → Prop}
    (hP : ∀ {m m' : Manager} {a : Action}, P m → step cfg m a = some m' → P m')
    {m m' : Manager} {acts : List Action} (hm : P m) (h : EndpointManager.run cfg m acts = some m') :
    P m' := by
  induction acts generalizing m with
  | nil => cases h; exact hm
  | cons a acts ih =>
    simp only [EndpointManager.run, List.foldlM_cons] at h
    cases hs : EndpointManager.step cfg m a with
    | none => simp [hs] at h
    | some m₁ => simp only [hs] at h; exact ih (hP hm hs) h

theorem Reachable.run {cfg : Config} {m m' : Manager} {acts : List Action}
    (hm : Reachable cfg m) (h : EndpointManager.run cfg m acts = some m') : Reachable cfg m' :=
  run_preserves (fun h hs => h.step _ hs) hm h

/-! ## A deployment to run the model on

An unprivileged manager run by `gcmu` (uid 1000), whose own login has the single
identity `A`, with the default grace period of 30 s; and the start command the web
service sends for identity `A`. -/

/-- `_allow_same_user` is set because the process is unprivileged; `fromtimestamp`
accepts the years 1 to 9999. -/
def sampleConfig : Config where
  muUser := ⟨"gcmu", 1000, 1000⟩
  allowSameUser := true
  privileged := false
  gracePeriod := 30
  inDatetimeRange t := decide (-62135596800 ≤ t ∧ t ≤ 253402300799)

/-- The identity set `[{"sub": "A"}]`. -/
def identitiesA : Json := .arr [.obj [("sub", .str "A")]]

/-- The manager after `__init__`, with `gcmu` in the password database. -/
def sampleInit : Manager := Manager.init sampleConfig none [⟨"gcmu", 1000, 1000⟩] 0

theorem sampleInit_reachable : Reachable sampleConfig sampleInit := .init _ _ _

/-- `cmd_start_endpoint` with `kwargs = {"name": name}` from identity `A`, stamped `ts`. -/
def startMessage (name args : Json) (ts : Nat) : Message where
  contentType := some "application/json"
  timestamp := some ts
  body := .ok (.obj [("command", .str "cmd_start_endpoint"), ("args", args),
    ("kwargs", .obj [("name", name)]), ("globus_effective_identity", .str "A"),
    ("globus_identity_set", identitiesA), ("globus_username", .str "a")])

end EndpointManager
