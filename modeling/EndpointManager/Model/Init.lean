import EndpointManager.Model.State

/-!
# `EndpointManager.__init__`

`__init__` fixes what every later step of the manager reads: its own passwd entry, whether
the same user may run endpoints, the identity mapper, and the grace period of the revival
cache. Before that it registers the endpoint, and it ends the process on the way with
`sys.exit` and one of the `os.EX_*` codes, or by re-raising.

`managerInit` follows the source's order of checks (lines 97-302): the manager's passwd
entry, registration and its error codes, the endpoint id, the identity mapper and its
configuration errors, and the shape of the registration data. The collaborators are
inputs (`InitInputs`): what `register_endpoint` and `PosixIdentityMapper` did, and what
the three `is_privileged` calls answered. `identityMapperOf_eq_ok` and
`registrationQueues_eq_ok` say what a manager that starts has passed.
-/

namespace EndpointManager

open Json

/-- What `GC.Client(...).register_endpoint(...)` did. -/
inductive Registration where
  | ok (regInfo : Json)
  /-- `GlobusAPIError` with this HTTP status. -/
  | apiError (httpStatus : Nat)
  /-- `NetworkError` -/
  | networkError

/-- What `PosixIdentityMapper(config.identity_mapping_config_path, ...)` did. -/
inductive MapperLoad where
  | ok (mapper : Mapper)
  | permissionError
  /-- Any other exception. -/
  | otherError

/-- How `__init__` ends the process: `sys.exit(code)`, or an exception it does not catch. -/
inductive InitFailure where
  | exit (code : Nat)
  | raise
  deriving DecidableEq, Repr

/-- What `__init__` reads: the process (`os.getuid()`, the passwd database, the answers of
`is_privileged(self._mu_user)`, `is_privileged(user_privs_only=True)` and the
`is_privileged()` of `_event_loop`), the configuration, the endpoint id on disk or given
(`Endpoint.get_endpoint_id(conf_dir) or endpoint_uuid`), the `reg_info` argument, and
what the collaborators do. `uuidParses v` says whether `uuid.UUID(str(v))` returns. -/
structure InitInputs where
  uid : Nat
  passwd : List Passwd
  privileged : Bool
  uidPrivileged : Bool
  loopPrivileged : Bool
  forceMuAllowSameUser : Bool
  gracePeriod : Nat
  inDatetimeRange : Int → Bool
  identityMappingConfigPath : Option String
  endpointUuid : Option String
  regInfo : Option Json
  register : Registration
  uuidParses : Json → Bool
  loadMapper : MapperLoad

/-- The registration `try` (lines 147-182): `os.EX_UNAVAILABLE` for 409, 423 and 404,
`os.EX_DATAERR` for 400 and 422, `os.EX_TEMPFAIL` for a network error; other API errors
and an empty response (`assert`) propagate. -/
def registerEndpoint : Registration → Except InitFailure Json
  | .ok .null => throw .raise
  | .ok r => pure r
  | .apiError s =>
    if s = 409 ∨ s = 423 ∨ s = 404 then throw (.exit 69)
    else if s = 400 ∨ s = 422 then throw (.exit 65)
    else throw .raise
  | .networkError => throw (.exit 75)

/-- The queue fields the subscriber and the publisher need (lines 233-238). -/
def registrationQueues (regInfo : Json) : Except PyExc Unit := do
  let cqInfo ← regInfo.getItem "command_queue_info"
  let _ ← cqInfo.getItem "connection_url"
  let _ ← cqInfo.getItem "queue"
  let rqInfo ← regInfo.getItem "result_queue_info"
  let _ ← rqInfo.getItem "connection_url"
  let _ ← rqInfo.getItem "queue"
  let _ ← rqInfo.getItem "queue_publish_kwargs"
  pure ()

/-- The identity mapper (lines 199-231): none without uid-change privileges, whatever the
configuration says; with them, a mapping file is required (`os.EX_OSFILE`) and must load
(`os.EX_NOPERM`, `os.EX_CONFIG`). -/
def identityMapperOf (i : InitInputs) : Except InitFailure (Option Mapper) :=
  if !i.uidPrivileged then pure none
  else
    match i.identityMappingConfigPath with
    | none => throw (.exit 72)
    | some path =>
      if path.isEmpty then throw (.exit 72)
      else
        match i.loadMapper with
        | .ok mapper => pure (some mapper)
        | .permissionError => throw (.exit 77)
        | .otherError => throw (.exit 78)

/-- A mapper is set exactly with uid-change privileges, and then from a mapping path. -/
theorem identityMapperOf_eq_ok {i : InitInputs} {mapper : Option Mapper}
    (h : identityMapperOf i = .ok mapper) :
    mapper.isSome = i.uidPrivileged ∧
      (i.uidPrivileged = true → ∃ path, i.identityMappingConfigPath = some path ∧ path ≠ "") := by
  unfold identityMapperOf at h
  cases hu : i.uidPrivileged <;>
    simp only [hu, Bool.not_false, Bool.not_true, if_true, Bool.false_eq_true, if_false] at h
  · cases h; exact ⟨rfl, fun h => by cases h⟩
  · repeat' split at h
    all_goals cases h
    refine ⟨rfl, fun _ => ⟨_, ‹_›, ?_⟩⟩
    rintro rfl
    exact absurd rfl ‹¬"".isEmpty = true›

/-- `EndpointManager.__init__` up to the construction of the subscriber and the
publisher: the run's constants and the identity mapper, or how the process ends. -/
def managerInit (i : InitInputs) : Except InitFailure (Config × Option Mapper) := do
  let muUser ← match getpwuid i.passwd i.uid with
    | some u => pure u
    | none => throw .raise
  let regInfo ← match i.regInfo with
    | some r => if r.truthy then pure r else registerEndpoint i.register
    | none => registerEndpoint i.register
  let upstream ← match regInfo.get "endpoint_id" .null with
    | .ok v => pure v
    | .error _ => throw .raise
  match i.endpointUuid with
  | some u => if !u.isEmpty && !pyEq upstream (.str u) then throw (.exit 70)
  | none => pure ()
  if !i.uuidParses upstream then throw .raise
  let mapper ← identityMapperOf i
  match registrationQueues regInfo with
  | .error _ => throw (.exit 65)
  | .ok () =>
    pure (⟨muUser, !i.privileged || i.forceMuAllowSameUser, i.loopPrivileged, i.gracePeriod,
      i.inDatetimeRange⟩, mapper)

/-- A manager that starts has its own passwd entry, `_allow_same_user` as the privilege
test and the override set it, and the mapper `identityMapperOf` chose. -/
theorem managerInit_eq_ok_of {i : InitInputs} {cfg : Config} {mapper : Option Mapper}
    (h : managerInit i = .ok (cfg, mapper)) :
    getpwuid i.passwd i.uid = some cfg.muUser ∧
    cfg.allowSameUser = (!i.privileged || i.forceMuAllowSameUser) ∧
    cfg.privileged = i.loopPrivileged ∧ cfg.gracePeriod = i.gracePeriod ∧
    identityMapperOf i = .ok mapper := by
  unfold managerInit at h
  simp only [bind, Except.bind, pure, Except.pure] at h
  repeat' split at h
  all_goals try cases h
  all_goals exact ⟨‹_›, rfl, rfl, rfl, ‹_›⟩

end EndpointManager
