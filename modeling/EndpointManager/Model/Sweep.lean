import EndpointManager.Model.Ids
import EndpointManager.Model.State

/-!
# Signalling the children at shutdown

After `os.killpg(os.getpgid(0), signal.SIGTERM)`, `start()` signals every recorded child
twice, `SIGTERM` then `SIGKILL`, reaping between the passes (lines 459-479). For each
record it switches the process's real and effective gid and uid to the record's, sends the
signal to the child's process group, and in a `finally` switches back to the uid and gid
it read with `os.getuid()` and `os.getgid()` before the passes. A failure notice's record
has no user: its `uid` and `gid` are `-1`, which leaves an id unchanged.

The group `os.getpgid(pid)` names is the manager's own unless the child has left it. A
failure-notice child never calls `os.setsid`, so it stays in the manager's group as long
as it is recorded; a user endpoint's child leaves the group at `os.setsid()` (line 943),
and cannot join it again from its new session. Whether that child has got there is an
input (`setsid`). A record is a child not yet reaped, so `os.getpgid` finds it. The
manager may always signal itself, so `killpg` of its own group returns: `SIGTERM` runs
`request_shutdown`, which returns, and `SIGKILL` ends the process in the middle of the
pass. Whether `killpg` of another group returns is an input, as a function of the ids it
runs with.

* `signalTry` is the `try` for one record, and `killpgEnd` its last call;
* `signalChild` adds the `finally`;
* `signalPass` is the inner `for` over the records of `_children`, for one signal.
-/

namespace EndpointManager

/-- `UserEndpointRecord.uid`: the user's uid, `-1` without local user info. -/
def UserEndpointRecord.uid (rec : UserEndpointRecord) : Int :=
  match rec.localUserInfo with
  | some u => u.pwUid
  | none => -1

/-- `UserEndpointRecord.gid`: the user's gid, `-1` without local user info. -/
def UserEndpointRecord.gid (rec : UserEndpointRecord) : Int :=
  match rec.localUserInfo with
  | some u => u.pwGid
  | none => -1

/-- The two passes' signals. -/
inductive Signal
  | sigterm
  | sigkill
  deriving DecidableEq, Repr

/-- What the `try` for one record came to. -/
inductive TryEnd
  /-- The `try` ended, normally or through its `except`: the ids `killpg` ran with if it
  returned, and the ids the calls left. -/
  | returned (sentAs : Option Creds) (ids : Creds)
  /-- `SIGKILL` reached the manager's own group, sent with ids `ids`. -/
  | killed (ids : Creds)
  deriving DecidableEq, Repr

/-- `os.killpg(os.getpgid(pid), signum)` with ids `c`, to the manager's own group when
`own`. -/
def killpgEnd (sig : Signal) (own : Bool) (killOk : Creds → Bool) (c : Creds) : TryEnd :=
  if own then
    match sig with
    | .sigterm => .returned (some c) c
    | .sigkill => .killed c
  else .returned (if killOk c then some c else none) c

/-- The `try` of the inner `for` for one record, from ids `c`: an exception keeps the ids
the calls before it set. -/
def signalTry (c : Creds) (sig : Signal) (own : Bool) (rec : UserEndpointRecord)
    (killOk : Creds → Bool) : TryEnd :=
  match setresgid c rec.gid rec.gid (-1) with
  | none => .returned none c
  | some c' =>
    match setresuid c' rec.uid rec.uid (-1) with
    | none => .returned none c'
    | some c'' => killpgEnd sig own killOk c''

/-- How a pass ended, with the pid and ids of each signal `killpg` sent, in order. -/
inductive PassEnd
  /-- Every record was signalled or skipped; the ids after the last `finally`. -/
  | done (sent : List (Nat × Creds)) (after : Creds)
  /-- A `finally` raised, which nothing in `start()` catches. -/
  | raised (sent : List (Nat × Creds))
  /-- The last signal sent was a `SIGKILL` to the manager's own group. -/
  | killed (sent : List (Nat × Creds))
  deriving DecidableEq, Repr

/-- The signals `sent` before a pass's end. -/
def PassEnd.cons (sent : List (Nat × Creds)) : PassEnd → PassEnd
  | .done s c => .done (sent ++ s) c
  | .raised s => .raised (sent ++ s)
  | .killed s => .killed (sent ++ s)

@[simp] theorem PassEnd.cons_nil (e : PassEnd) : e.cons [] = e := by
  cases e <;> rfl

end EndpointManager
