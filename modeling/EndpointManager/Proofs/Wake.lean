import EndpointManager.Model.System

/-!
# No child exit is missed by the loop

`set_child_died` only sets `_wait_for_child`; the head of `_event_loop` tests it, and
`wait_for_children` clears it before its first `waitpid`. A child that exits after that
`waitpid` has either been collected by a later one of the same drain, or its SIGCHLD
handler runs after the clear and sets the flag again. So at the loop head no exit whose
handler has run is waiting unflagged (`loopHead_woken`), however exits and handler runs
interleave with the main thread, several exits share one signal, or exits happen during a
revival fork inside the drain.

`WakeInv` is the invariant: before the loop there is no child, and at the head and in
the body of the loop every exit whose handler has run has left the flag set. Inside a
drain it may not hold; `drained` leaves the drain only when no exited child is left.
-/

namespace EndpointManager

/-- Every exited, unreaped child whose SIGCHLD handler has run has left
`_wait_for_child` set. -/
def Woken (m : Manager) : Prop :=
  ∀ p ∈ m.procs, ∀ rc, p.status = .exited rc true → m.waitForChild = true

namespace Woken

variable {m m' : Manager}

/-- Forking and the tables do not matter: new children are running. -/
theorem of_extends (h : Woken m) (he : Extends m m') : Woken m' := by
  obtain ⟨new, hn, hp⟩ := he.procs_eq
  intro p hp' rc hs
  rw [he.waitForChild_eq]
  rw [hp] at hp'
  rcases List.mem_append.1 hp' with hp' | hp'
  · exact h p hp' rc hs
  · rw [hn p hp'] at hs; cases hs

/-- An exit is not yet notified. -/
theorem markExited (h : Woken m) (pid : Nat) (rc : Int) :
    Woken { m with procs := EndpointManager.markExited m.procs pid rc, sigchld := true } := by
  intro q hq rc' hs
  obtain ⟨p, hp, rfl⟩ := mem_setStatuses.1 hq
  simp only at hs
  split at hs
  · cases hs
  · exact h p hp rc' hs

/-- No exited child at all. -/
theorem of_none_exited (h : m.procs.all (fun p => !p.isExited) = true) : Woken m := by
  intro p hp rc hs
  have := List.all_eq_true.1 h p hp
  simp [Proc.isExited, hs] at this

end Woken

/-- The wake-up facts of a reachable state. -/
structure WakeInv (m : Manager) : Prop where
  start_empty : m.pc = .start → m.procs = []
  loop_woken : m.pc = .head ∨ m.pc = .body → Woken m

namespace WakeInv

variable {cfg : Config} {m m' : Manager}

theorem init (cfg : Config) (mapper : Option Mapper) (passwd : List Passwd) (clock : Nat) :
    WakeInv (Manager.init cfg mapper passwd clock) :=
  ⟨fun _ => rfl, fun h => by simp [Manager.init] at h⟩

/-- Once the loop has started, a state whose flag accounts for every notified exit. -/
theorem of_woken (hs : m.pc ≠ .start) (hw : Woken m) : WakeInv m :=
  ⟨fun h => absurd h hs, fun _ => hw⟩

/-- Inside a drain and after the loop the invariant says nothing. -/
theorem of_pc (h₁ : m.pc ≠ .start) (h₂ : m.pc ≠ .head) (h₃ : m.pc ≠ .body) : WakeInv m :=
  ⟨fun h => absurd h h₁, fun h => h.elim (absurd · h₂) (absurd · h₃)⟩

theorem of_procs_nil (h : m.procs = []) : WakeInv m :=
  ⟨fun _ => h, fun _ p hp => by simp [h] at hp⟩

theorem of_eq (hi : WakeInv m) (hpc : m'.pc = m.pc) (hp : m'.procs = m.procs)
    (hw : m'.waitForChild = m.waitForChild) : WakeInv m' where
  start_empty h := hp ▸ hi.start_empty (hpc ▸ h)
  loop_woken h p hp' rc hs := hw ▸ hi.loop_woken (hpc ▸ h) p (hp ▸ hp') rc hs

theorem Pc.afterDrain_ne {pc back : Pc} (h : pc.afterDrain = some back) :
    pc ≠ .start ∧ pc ≠ .head ∧ pc ≠ .body ∧ back ≠ .start := by
  cases pc <;> simp [Pc.afterDrain] at h <;> subst h <;> simp

theorem preserved (hi : WakeInv m) {a : Action} (hs : step cfg m a = some m') : WakeInv m' := by
  cases a with
  | identities ids =>
    simp only [step] at hs
    split at hs <;> cases hs
    refine of_procs_nil ?_
    unfold eventLoopStart
    split
    · exact hi.start_empty ‹_›
    · split <;> exact hi.start_empty ‹_›
  | loopTest =>
    simp only [step] at hs
    split at hs <;> cases hs
    rename_i hpc
    split
    · exact of_pc (by simp) (by simp) (by simp)
    · split
      · exact of_pc (by simp) (by simp) (by simp)
      · exact of_woken (by simp) (hi.loop_woken (.inl hpc))
  | reap pid env =>
    obtain ⟨back, rc, hb, -, rfl⟩ := step_reap hs
    have he : Extends { m with procs := markReaped m.procs pid } (resultState
        ((waitForChildrenReap cfg env pid rc).run { m with procs := markReaped m.procs pid })) :=
      (waitForChildrenReap_extends rfl).2
    obtain ⟨h₁, h₂, h₃, -⟩ := Pc.afterDrain_ne hb
    refine of_pc ?_ ?_ ?_ <;> rw [he.pc_eq] <;> assumption
  | drained =>
    simp only [step] at hs
    split at hs
    · rename_i back hb
      split at hs <;> cases hs
      exact of_woken (Pc.afterDrain_ne hb).2.2.2 (Woken.of_none_exited ‹_›)
    · cases hs
  | command msg env =>
    obtain ⟨hpc, pc', hpc', rfl⟩ := step_command hs
    have hw : Woken (resultState ((eventLoopCommand cfg env msg).run m)) :=
      (hi.loop_woken (.inr hpc)).of_extends (eventLoopCommand_extends rfl)
    exact of_woken (by rcases hpc' with rfl | rfl <;> simp) hw
  | pollEmpty =>
    simp only [step] at hs
    split at hs <;> cases hs
    exact of_woken (by simp) (hi.loop_woken (.inr ‹_›))
  | childExit pid rc =>
    simp only [step] at hs
    split at hs <;> cases hs
    refine ⟨fun h => ?_, fun h => (hi.loop_woken h).markExited pid rc⟩
    simp [EndpointManager.markExited, setStatuses, hi.start_empty h]
  | sigchld =>
    simp only [step] at hs
    split at hs <;> cases hs
    refine ⟨fun h => ?_, fun _ _ _ _ _ => rfl⟩
    simp [markNotified, setStatuses, hi.start_empty h]
  | sigterm | commandQueueStopped | tick _ | passwdChanged _ | policyChanged _ =>
    simp only [step] at hs
    cases hs
    exact hi.of_eq rfl rfl rfl
  | loopFails | stop | sweepTest _ =>
    simp only [step] at hs
    repeat' split at hs
    all_goals first
      | cases hs; exact of_pc (by simp) (by simp) (by simp)
      | cases hs

end WakeInv

theorem reachable_wakeInv {cfg : Config} {m : Manager} (h : Reachable cfg m) : WakeInv m := by
  induction h with
  | init mapper passwd clock => exact .init cfg mapper passwd clock
  | step a _ hs ih => exact ih.preserved hs

/-- At every head of the `_event_loop` loop, a child that has exited, whose SIGCHLD handler
has run, and that has not been reaped, has left `_wait_for_child` set. -/
theorem loopHead_woken {cfg : Config} {m : Manager} (h : Reachable cfg m) (hpc : m.pc = .head) :
    ∀ p ∈ m.procs, ∀ rc, p.status = .exited rc true → m.waitForChild = true :=
  (reachable_wakeInv h).loop_woken (.inl hpc)

/-- The sample manager starts `ep1` as pid 100, which exits, and the SIGCHLD handler runs. -/
def exitAfterStart : List Action :=
  [.identities (.ok identitiesA), .loopTest,
    .command (startMessage (.str "ep1") (.arr []) 1000) ⟨1000, .ofList [100]⟩,
    .childExit 100 0, .sigchld]

theorem loopHead_woken_sample :
    ∃ m, run sampleConfig sampleInit exitAfterStart = some m ∧
      m.pc = .head ∧ (∃ p ∈ m.procs, p.status = .exited 0 true) ∧ m.waitForChild = true :=
  ⟨_, rfl, rfl, ⟨_, List.mem_singleton_self _, rfl⟩,
    loopHead_woken (sampleInit_reachable.run
      (show run sampleConfig sampleInit exitAfterStart = some _ from rfl)) rfl _
      (List.mem_singleton_self _) 0 rfl⟩

end EndpointManager
