import Benji.Ceph.World

/-!
# Benji.Ceph.Script — `scripts/ceph.py`

The script's functions in the monad `M = EStateM PyExc Sys`: Python effects outlive an exception,
and so does the `Sys` state here.  `Sys` holds the `World`, two oracles and a ghost log:

* `outcomes`: how each `subprocess_run` call ends, in call order — it runs (and fails only where
  the command fails in the world), it fails first, or the command takes effect and the call fails
  after it (a timeout of `rbd snap create`, an unreadable output of `benji backup`);
* `replies`: for each `post_error` send, the truthiness of what the connected receivers returned;
* `log`: every signal sent and every subprocess call, with the world it ran in and how it ended.

`pyTry` is Python's `try`/`except Exception`/`else`, the body ending in `some v` when it executes
`return v`: `else` runs only when the body completes without returning.
-/

namespace Benji.Ceph

inductive Outcome where
  | ok
  | failBefore
  | failAfter
  deriving DecidableEq, Repr

inductive PyExc where
  | calledProcessError (c : Cmd)
  /-- `reduce()` of an empty sequence with no initial value. -/
  | typeError
  deriving DecidableEq, Repr

/-- The blinker signals of the script, by the names they were created under. -/
inductive Signal where
  | snapshotCreatePre
  | snapshotCreatePostSuccess
  | snapshotCreatePostError
  | backupPre
  | onBackupPostSuccess
  | onBackupPostError
  | restorePre
  | restorePostSuccess
  | restorePostError
  deriving DecidableEq, Repr

/-- How a subprocess call ended; `failed true` when the command took effect before it failed. -/
inductive CallEnd where
  | ok
  | failed (applied : Bool)
  deriving DecidableEq, Repr

inductive Event where
  | signal (s : Signal)
  | call (c : Cmd) (w : World) (e : CallEnd)
  deriving DecidableEq

structure Sys where
  world : World
  outcomes : List Outcome
  replies : List (List Bool)
  log : List Event

abbrev M := EStateM PyExc Sys

/-- The state after a call of `c` that ended with `e` and left the world `w`. -/
def Sys.called (s : Sys) (c : Cmd) (w : World) (e : CallEnd) : Sys :=
  { s with world := w, outcomes := s.outcomes.tail, log := s.log ++ [.call c s.world e] }

/-- The state after a send of `sig`; a `post_error` send also takes its replies. -/
def Sys.sent (s : Sys) (sig : Signal) (replied : Bool) : Sys :=
  { s with replies := if replied then s.replies.tail else s.replies, log := s.log ++ [.signal sig] }

/-- `subprocess_run(cmd)`. -/
def subprocessRun (c : Cmd) : M c.Out := fun s =>
  match c.run s.world, s.outcomes.headD .ok with
  | some (w, out), .ok => .ok out (s.called c w .ok)
  | some (w, _), .failAfter => .error (.calledProcessError c) (s.called c w (.failed true))
  | _, _ => .error (.calledProcessError c) (s.called c s.world (.failed false))

/-- `sig.send(SIGNAL_SENDER, ...)` whose replies are dropped. -/
def send (sig : Signal) : M Unit := fun s => .ok () (s.sent sig false)

/-- `reduce(or_, map(lambda r: bool(r[1]), sig.send(SIGNAL_SENDER, ...)))`. -/
def sendPostError (sig : Signal) : M Bool := fun s =>
  match s.replies.headD [] with
  | [] => .error .typeError (s.sent sig true)
  | r :: rs => .ok (rs.foldl (· || ·) r) (s.sent sig true)

def pyTry {α : Type} (body : M (Option α)) (handler : PyExc → M (Option α))
    (orelse : M (Option α)) : M (Option α) := fun s =>
  match body s with
  | .ok (some v) s' => .ok (some v) s'
  | .ok none s' => orelse s'
  | .error e s' => handler e s'

/-- The `except` branch of the three operations: `raise_exception = reduce(or_, ...)` over the
replies of the `post_error` send, then `raise` when it is truthy. -/
def handlePostError {α : Type} (sig : Signal) (e : PyExc) : M (Option α) := do
  let raiseException ← sendPostError sig
  if raiseException then throw e else pure none

def rbdSnapNamePrefix : String := "b-"

/-- The names of the `b-` snapshots of an `rbd snap ls` listing, oldest first. -/
def benjisSnapshotsOf (rbdSnapLs : List Snapshot) : List String :=
  (rbdSnapLs.filter fun s => startswith s.name rbdSnapNamePrefix).map (·.name)

/-- The shape of `snapshot_create` and `restore`: send `pre`, run one command in a `try`, then
send `post_success` from its `else` or `post_error` from its `except`. -/
def guardedCall (pre postSuccess postError : Signal) (c : Cmd) : M Unit := do
  send pre
  let _ ← pyTry
    (do let _ ← subprocessRun c; pure none)
    (handlePostError postError)
    (do send postSuccess; pure (none : Option Unit))

def snapshotCreate (img : ImageRef) (snapshot : String) : M Unit :=
  guardedCall .snapshotCreatePre .snapshotCreatePostSuccess .snapshotCreatePostError
    (.snapCreate img snapshot)

/-- `backup_initial`; `now` is `datetime.utcnow()` formatted as `%Y-%m-%dT%H:%M:%SZ`. -/
def backupInitial (volume : String) (img : ImageRef) (versionLabels : List (String × String))
    (versionUid : Option String) (now : String) : M Version := do
  let snapshot := rbdSnapNamePrefix ++ now
  snapshotCreate img snapshot
  let stdout ← subprocessRun (.diff img none snapshot)
  subprocessRun (.benjiBackup ⟨snapshot, stdout, none, versionUid, versionLabels, (img, snapshot),
    volume⟩)

def backupDifferential (volume : String) (img : ImageRef) (lastSnapshot baseVersionUid : String)
    (versionLabels : List (String × String)) (versionUid : Option String) (now : String) :
    M Version := do
  let snapshot := rbdSnapNamePrefix ++ now
  snapshotCreate img snapshot
  let stdout ← subprocessRun (.diff img (some lastSnapshot) snapshot)
  let _ ← subprocessRun (.snapRm img lastSnapshot)
  subprocessRun (.benjiBackup ⟨snapshot, stdout, some baseVersionUid, versionUid, versionLabels,
    (img, snapshot), volume⟩)

/-- The `else` branch of `backup` once a `b-` snapshot is found: delete all but the newest, then
back up differentially from it if Benji has a valid version of it, else delete it too and revert
to an initial backup. -/
def backupFromLast (volume : String) (img : ImageRef) (versionLabels : List (String × String))
    (versionUid : Option String) (now : String) (benjisSnapshots : List String) : M Version := do
  benjisSnapshots.dropLast.forM fun snapshot => do
    let _ ← subprocessRun (.snapRm img snapshot)
  let lastSnapshot := benjisSnapshots.getLastD ""
  let benjiLs ← subprocessRun (.benjiLs volume lastSnapshot)
  match benjiLs with
  | base :: _ =>
    backupDifferential volume img lastSnapshot base.uid versionLabels versionUid now
  | [] => do
    let _ ← subprocessRun (.snapRm img lastSnapshot)
    backupInitial volume img versionLabels versionUid now

def backup (volume : String) (img : ImageRef) (versionLabels : List (String × String))
    (versionUid : Option String) (now : String) : M (Option Version) := do
  send .backupPre
  pyTry
    (do
      let rbdSnapLs ← subprocessRun (.snapLs img)
      -- Snapshots are sorted by their ID, so newer snapshots come last
      let benjisSnapshots := benjisSnapshotsOf rbdSnapLs
      let result ← (if benjisSnapshots.length = 0 then
          backupInitial volume img versionLabels versionUid now
        else
          backupFromLast volume img versionLabels versionUid now benjisSnapshots)
      pure (some result))
    (handlePostError .onBackupPostError)
    (do send .onBackupPostSuccess; pure none)

/-- `restore`; the source sends `snapshot_create_pre` first, not `restore_pre`. -/
def restore (versionUid : String) (img : ImageRef) : M Unit :=
  guardedCall .snapshotCreatePre .restorePostSuccess .restorePostError
    (.benjiRestore versionUid img)

end Benji.Ceph
