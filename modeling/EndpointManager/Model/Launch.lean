import EndpointManager.Model.State

/-!
# Forking children: `cmd_start_endpoint` and `send_failure_notice`

Both methods fork. The parent's half of each is modelled; the child's half ends in
`execvpe` or `_exit` and changes nothing of the parent.

`cmd_start_endpoint` first looks for a record whose `ep_name` equals the requested name.
It compares against every record, failure notices included, whose `ep_name` is the
decimal string of their pid. On a match it only caches its arguments. Otherwise it
checks the user, forks, and then builds the log string `' '.join(proc_args)`. That join
raises `TypeError` in the parent, after the fork and before the record is written, when
the name or an item of `args` is not a `str`. `send_failure_notice` reads
`kwargs.get('name')` after its fork in the same way.

`cmdStartEndpoint_cases` and `sendFailureNotice_cases` say once everything the two
methods can do to the manager. Every later proof about them starts from these.
-/

namespace EndpointManager

open Json

/-- The state a call leaves, whether it returned or raised. -/
def resultState {α : Type} : EStateM.Result PyExc Manager α → Manager
  | .ok _ s => s
  | .error _ s => s

@[simp] theorem resultState_ok {α : Type} (a : α) (s : Manager) :
    resultState (.ok a s : EStateM.Result PyExc Manager α) = s := rfl

@[simp] theorem resultState_error {α : Type} (e : PyExc) (s : Manager) :
    resultState (.error e s : EStateM.Result PyExc Manager α) = s := rfl

/-- `args` after `if not args: args = []`. -/
def startArgsOf (args : Json) : Json := if args.truthy then args else .arr []

/-- `kwargs` after `if not kwargs: kwargs = {}`. -/
def startKwargsOf (kwargs : Json) : Json := if kwargs.truthy then kwargs else .obj []

/-- `ep_name = kwargs.get("name", "")`, after the defaulting of `kwargs`. -/
def startName (kwargs : Json) : Except PyExc Json := (startKwargsOf kwargs).get "name" (.str "")

/-- The condition `cmd_start_endpoint` raises `InvalidUserError` on. -/
def SameUser (cfg : Config) (u : Passwd) : Prop :=
  u.pwName = cfg.muUser.pwName ∨ u.pwUid = cfg.muUser.pwUid

instance (cfg : Config) (u : Passwd) : Decidable (SameUser cfg u) :=
  inferInstanceAs (Decidable (_ ∨ _))

/-- Whether record `pr` answers `r.ep_name == ep_name` for the value `v`. -/
def namedBy (v : Json) (pr : Nat × UserEndpointRecord) : Bool := v.asStr? == some pr.2.epName

/-- `EndpointManager.cmd_start_endpoint(user_record, args, kwargs)` in the parent. -/
def cmdStartEndpoint (cfg : Config) (env : Env) (userRecord : Passwd) (args kwargs : Json) :
    PyM Unit := do
  let args := startArgsOf args
  let kwargs := startKwargsOf kwargs
  let epName ← liftExcept (kwargs.get "name" (.str ""))
  raiseIf (!epName.truthy) .invalidCommandError
  let m ← get
  match m.children.pairs.find? (namedBy epName) with
  | some (p, _) =>
    set { m with cache := m.cache.setItem m.clock p ⟨userRecord, args, kwargs⟩ }
  | none =>
    raiseIf (!cfg.allowSameUser && decide (SameUser cfg userRecord)) .invalidUserError
    let tail ← liftExcept args.iter
    let pid ← fork env (.userEndpoint userRecord epName)
    -- `' '.join(proc_args)` with `proc_args = [..., ep_name, ..., *args]`
    match epName.asStr?, Json.joinable tail with
    | some name, true =>
      modify fun m => { m with children := m.children.setItem pid ⟨name, some userRecord⟩ }
    | _, _ => throw .typeError

/-- `EndpointManager.send_failure_notice(kwargs, ...)` in the parent (`fork=True`). -/
def sendFailureNotice (env : Env) (kwargs : Json) : PyM Unit := do
  let pid ← fork env .failureNotice
  let _ ← liftExcept (kwargs.get "name" .null)
  modify fun m => { m with children := m.children.setItem pid ⟨toString pid, none⟩ }

/-- `m'` differs from `m` at most in `_children` and the cache, and in children forked
since, all still running: what a method of the manager can change. -/
def Extends (m m' : Manager) : Prop :=
  ∃ children cache new, (∀ p ∈ new, p.status = .running) ∧
    m' = { m with children := children, cache := cache, procs := m.procs ++ new }

theorem Extends.refl (m : Manager) : Extends m m := ⟨m.children, m.cache, [], by simp, by simp⟩

theorem Extends.trans {m₁ m₂ m₃ : Manager} (h₁ : Extends m₁ m₂) (h₂ : Extends m₂ m₃) :
    Extends m₁ m₃ := by
  obtain ⟨c₁, k₁, n₁, hn₁, rfl⟩ := h₁
  obtain ⟨c₂, k₂, n₂, hn₂, rfl⟩ := h₂
  exact ⟨c₂, k₂, n₁ ++ n₂, by simp only [List.mem_append]; rintro p (hp | hp) <;> simp_all,
    by simp⟩

theorem Extends.fork {m : Manager} (p : Nat) (k : ChildKind) :
    Extends m { m with procs := m.procs ++ [(⟨p, k, .running⟩ : Proc)] } :=
  ⟨m.children, m.cache, [⟨p, k, .running⟩], by simp, rfl⟩

theorem Extends.pc_eq {m m' : Manager} (h : Extends m m') : m'.pc = m.pc := by
  obtain ⟨_, _, _, _, rfl⟩ := h; rfl

theorem Extends.waitForChild_eq {m m' : Manager} (h : Extends m m') :
    m'.waitForChild = m.waitForChild := by
  obtain ⟨_, _, _, _, rfl⟩ := h; rfl

theorem Extends.timeToStop_eq {m m' : Manager} (h : Extends m m') :
    m'.timeToStop = m.timeToStop := by
  obtain ⟨_, _, _, _, rfl⟩ := h; rfl

theorem Extends.identityMapper_eq {m m' : Manager} (h : Extends m m') :
    m'.identityMapper = m.identityMapper := by
  obtain ⟨_, _, _, _, rfl⟩ := h; rfl

theorem Extends.procs_eq {m m' : Manager} (h : Extends m m') :
    ∃ new, (∀ p ∈ new, p.status = .running) ∧ m'.procs = m.procs ++ new := by
  obtain ⟨_, _, new, hn, rfl⟩ := h; exact ⟨new, hn, rfl⟩

/-! ## What the two methods can do -/

section Cases

variable {cfg : Config} {env : Env} {u : Passwd} {args kwargs : Json} {m : Manager}

theorem namedBy_eq_true {v : Json} {pr : Nat × UserEndpointRecord} (h : namedBy v pr = true) :
    v = .str pr.2.epName := by
  cases v <;> simp_all [namedBy, Json.asStr?]

theorem namedBy_str (n : String) (pr : Nat × UserEndpointRecord) :
    namedBy (.str n) pr = decide (pr.2.epName = n) := by
  simp [namedBy, asStr?, Bool.beq_eq_decide_eq, eq_comm]

/-- `cmd_start_endpoint` either changes nothing (it raised before forking), caches its
arguments under the pid of the first record named `ep_name`, or forks a fresh child
after finding no record of that name and passing the same-user check; the fork is
recorded unless the `' '.join` raised. -/
theorem cmdStartEndpoint_cases {r : EStateM.Result PyExc Manager Unit}
    (h : (cmdStartEndpoint cfg env u args kwargs).run m = r) :
    resultState r = m ∨
    (∃ p rec, (p, rec) ∈ m.children.pairs ∧ startName kwargs = .ok (.str rec.epName) ∧
      resultState r =
        { m with cache := m.cache.setItem m.clock p ⟨u, startArgsOf args, startKwargsOf kwargs⟩ }) ∨
    (∃ v p, startName kwargs = .ok v ∧ (∀ pr ∈ m.children.pairs, namedBy v pr = false) ∧
      (cfg.allowSameUser = false → ¬ SameUser cfg u) ∧
      env.fork.next (unreapedPids m.procs) = some p ∧
      (resultState r = { m with procs := m.procs ++ [(⟨p, .userEndpoint u v, .running⟩ : Proc)] } ∨
       ∃ n, v = .str n ∧ resultState r =
        { m with
          procs := m.procs ++ [(⟨p, .userEndpoint u v, .running⟩ : Proc)]
          children := m.children.setItem p ⟨n, some u⟩ })) := by
  unfold cmdStartEndpoint at h
  simp only [run_bind, run_liftExcept, run_raiseIf, run_get, run_set, run_modify, run_throw,
    run_pure, run_fork] at h
  unfold startName
  cases hv : (startKwargsOf kwargs).get "name" (.str "") with
  | error e => simp only [hv] at h; subst h; exact .inl rfl
  | ok v =>
  simp only [hv] at h
  by_cases ht : v.truthy
  · simp only [ht, Bool.not_true, Bool.false_eq_true, if_false] at h
    cases hf : m.children.pairs.find? (namedBy v) with
    | some pr =>
      obtain ⟨p, rec⟩ := pr
      simp only [hf, run_set] at h
      subst h
      exact .inr (.inl ⟨p, rec, List.mem_of_find?_eq_some hf,
        by rw [namedBy_eq_true (List.find?_some hf)], rfl⟩)
    | none =>
      simp only [hf] at h
      by_cases hs : (!cfg.allowSameUser && decide (SameUser cfg u)) = true
      · simp only [hs, if_true] at h; subst h; exact .inl rfl
      · simp only [run_bind, run_raiseIf, run_liftExcept, run_fork, hs, Bool.false_eq_true,
          if_false] at h
        cases hi : (startArgsOf args).iter with
        | error e => simp only [hi] at h; subst h; exact .inl rfl
        | ok tail =>
          simp only [hi] at h
          cases hp : env.fork.next (unreapedPids m.procs) with
          | none => simp only [hp] at h; subst h; exact .inl rfl
          | some p =>
            simp only [hp] at h
            refine .inr (.inr ⟨v, p, rfl, fun pr hpr => ?_, fun ha => ?_, rfl, ?_⟩)
            · simpa using List.find?_eq_none.1 hf pr hpr
            · simpa [ha] using hs
            · split at h
              · rename_i n hn _
                simp only [run_modify] at h
                subst h
                exact .inr ⟨n, by cases v <;> simp_all [Json.asStr?], rfl⟩
              · simp only [run_throw] at h; subst h; exact .inl rfl
  · simp only [ht, Bool.not_false, if_true] at h; subst h; exact .inl rfl

/-- With a non-empty `str` name, arguments `' '.join` accepts, a user the same-user check
lets through and a fork that succeeds, `cmd_start_endpoint` caches its arguments under the
first record of that name, of either kind, and otherwise forks and records a user
endpoint. -/
theorem cmdStartEndpoint_named {n : String} {p : Nat} (hk : startName kwargs = .ok (.str n))
    (hn : n ≠ "") (hargs : ∃ tail, (startArgsOf args).iter = .ok tail ∧ joinable tail = true)
    (hsame : cfg.allowSameUser = false → ¬ SameUser cfg u)
    (hp : env.fork.next (unreapedPids m.procs) = some p) :
    (cmdStartEndpoint cfg env u args kwargs).run m =
      match m.children.pairs.find? (fun pr => pr.2.epName = n) with
      | some (q, _) =>
        .ok () { m with cache := m.cache.setItem m.clock q ⟨u, startArgsOf args, startKwargsOf kwargs⟩ }
      | none =>
        .ok ()
          { m with
            procs := m.procs ++ [(⟨p, .userEndpoint u (.str n), .running⟩ : Proc)]
            children := m.children.setItem p ⟨n, some u⟩ } := by
  obtain ⟨tail, hi, hj⟩ := hargs
  unfold startName at hk
  have hs : (!cfg.allowSameUser && decide (SameUser cfg u)) = false := by
    cases ha : cfg.allowSameUser <;> simp [hsame, ha]
  have hf : m.children.pairs.find? (namedBy (.str n)) =
      m.children.pairs.find? (fun pr => pr.2.epName = n) := by
    congr 1; funext pr; exact namedBy_str n pr
  unfold cmdStartEndpoint
  simp only [run_bind, run_liftExcept, hk, run_raiseIf, truthy_str.2 hn, Bool.not_true,
    Bool.false_eq_true, if_false, run_get, hf]
  cases hfind : m.children.pairs.find? (fun pr => pr.2.epName = n) with
  | some pr => simp only [run_set]
  | none =>
    simp only [run_bind, run_raiseIf, hs, Bool.false_eq_true, if_false, run_liftExcept, hi,
      run_fork, hp, asStr?_str, hj, run_modify]

/-- `send_failure_notice` either changes nothing (the fork raised) or forks a fresh
child, recorded under its pid unless `kwargs.get` raised. -/
theorem sendFailureNotice_cases {r : EStateM.Result PyExc Manager Unit}
    (h : (sendFailureNotice env kwargs).run m = r) :
    resultState r = m ∨
    ∃ p, env.fork.next (unreapedPids m.procs) = some p ∧
      (resultState r = { m with procs := m.procs ++ [(⟨p, .failureNotice, .running⟩ : Proc)] } ∨
       resultState r =
        { m with
          procs := m.procs ++ [(⟨p, .failureNotice, .running⟩ : Proc)]
          children := m.children.setItem p ⟨toString p, none⟩ }) := by
  unfold sendFailureNotice at h
  simp only [run_bind, run_fork, run_liftExcept, run_modify] at h
  cases hp : env.fork.next (unreapedPids m.procs) with
  | none => simp only [hp] at h; subst h; exact .inl rfl
  | some p =>
    simp only [hp] at h
    refine .inr ⟨p, rfl, ?_⟩
    cases hk : kwargs.get "name" .null <;> simp only [hk, run_modify] at h <;> subst h
    · exact .inl rfl
    · exact .inr rfl

/-- With a `dict` for `kwargs` and a fork that succeeds, the failure notice is forked and
recorded. -/
theorem sendFailureNotice_obj {kvs : List (String × Json)} {p : Nat}
    (hp : env.fork.next (unreapedPids m.procs) = some p) :
    (sendFailureNotice env (.obj kvs)).run m = .ok ()
      { m with
        procs := m.procs ++ [(⟨p, .failureNotice, .running⟩ : Proc)]
        children := m.children.setItem p ⟨toString p, none⟩ } := by
  unfold sendFailureNotice
  simp only [run_bind, run_fork, hp, run_liftExcept, Json.get_obj, run_modify]

theorem cmdStartEndpoint_extends {r : EStateM.Result PyExc Manager Unit}
    (h : (cmdStartEndpoint cfg env u args kwargs).run m = r) : Extends m (resultState r) := by
  rcases cmdStartEndpoint_cases h with h | ⟨p, rec, -, -, h⟩ | ⟨v, p, -, -, -, -, h | ⟨n, -, h⟩⟩ <;>
    rw [h]
  · exact .refl m
  · exact ⟨m.children, m.cache.setItem m.clock p ⟨u, startArgsOf args, startKwargsOf kwargs⟩, [],
      by simp, by simp⟩
  · exact .fork p _
  · exact ⟨_, m.cache, [⟨p, .userEndpoint u v, .running⟩], by simp, rfl⟩

theorem sendFailureNotice_extends {r : EStateM.Result PyExc Manager Unit}
    (h : (sendFailureNotice env kwargs).run m = r) : Extends m (resultState r) := by
  rcases sendFailureNotice_cases h with h | ⟨p, -, h | h⟩ <;> rw [h]
  · exact .refl m
  · exact .fork p _
  · exact ⟨_, m.cache, [⟨p, .failureNotice, .running⟩], by simp, rfl⟩

end Cases

end EndpointManager
