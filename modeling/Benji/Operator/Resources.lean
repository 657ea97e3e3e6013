import Mathlib.Data.List.Nodup

/-!
# Benji.Operator.Resources — `benji/k8s_operator/resources.py`

Kubernetes objects are Python dicts in the source.  The Job body is a `Job` record; where the
code looks keys up in a dict it does not know the shape of (`derive_job_status`), the dict is a
`Dict` of top-level keys and `Val`s, and `Job.toDict` is the body seen that way: its keys are
`apiVersion`, `kind`, `metadata`, `spec` and `status`.  A `dependantJobs` entry is a
`StatusEntry`: the object reference `update_status_list` writes under `objectReference`, and
the extra keys it merges in after it.

* `updateStatusList`, `deleteFromStatusList`, `buildResourceStatusDependantJobs`: the status list;
* `deriveJobStatus`, `buildDependantJobStatus`: the extra data of an entry;
* `setupManifestLabels`, `trackJobStatus`, `dependantJobsSelector`: the parent labels of a job,
  how an event of the job finds its parent, and which jobs a parent's deletion selects.
-/

namespace Benji.Operator

/-! ### Constants -/

/-- Modelled from the spec: the constants module is not among the sources; a Kubernetes
`JobStatus` field name. -/
def jobStatusStartTime : String := "startTime"

/-- Modelled from the spec: a Kubernetes `JobStatus` field name. -/
def jobStatusCompletionTime : String := "completionTime"

/-- Modelled from the spec: a Kubernetes `JobStatus` field name. -/
def jobStatusFailed : String := "failed"

/-- Modelled from the spec: the key of the derived status in a `dependantJobs` entry. -/
def resourceStatusDependantJobsStatus : String := "status"

/-- Modelled from the spec: the status words of a dependant job. -/
def resourceJobStatusSucceeded : String := "Succeeded"

/-- Modelled from the spec: a status word of a dependant job. -/
def resourceJobStatusFailed : String := "Failed"

/-- Modelled from the spec: a status word of a dependant job. -/
def resourceJobStatusRunning : String := "Running"

/-- Modelled from the spec: a status word of a dependant job. -/
def resourceJobStatusPending : String := "Pending"

/-- Modelled from the spec: the label keys naming a job's parent, three distinct strings. -/
def labelParentKind : String := "operator.benji-backup.me/parent-kind"

/-- Modelled from the spec: a label key naming a job's parent. -/
def labelParentName : String := "operator.benji-backup.me/parent-name"

/-- Modelled from the spec: a label key naming a job's parent. -/
def labelParentNamespace : String := "operator.benji-backup.me/parent-namespace"

/-! ### Dicts -/

/-- A value of a dict the code only looks keys up in: a number, a string, `None`, or a list or
dict that no modelled function reads into. -/
inductive Val where
  | null
  | int (n : Int)
  | str (s : String)
  | obj
  deriving DecidableEq, Repr

abbrev Dict := List (String × Val)

/-- `key in d`. -/
def Dict.has (d : Dict) (k : String) : Bool := d.any (·.1 = k)

/-- `d.get(key, None)`. -/
def Dict.get (d : Dict) (k : String) : Val := ((d.find? (·.1 = k)).map (·.2)).getD .null

inductive PyError where
  | keyError (key : String)
  | runtimeError (message : String)
  /-- `>` between a non-number and `0`. -/
  | typeError
  deriving DecidableEq, Repr

/-- `v > 0`. -/
def Val.gtZero : Val → Except PyError Bool
  | .int n => pure (0 < n)
  | _ => throw .typeError

/-- Labels, `Dict[str, str]`, in insertion order. -/
abbrev Labels := List (String × String)

/-- `labels.get(key)`. -/
def Labels.get? (l : Labels) (k : String) : Option String := (l.find? (·.1 = k)).map (·.2)

/-- `labels[k] = v`: an existing key keeps its place and takes the value, a new key is
appended. -/
def Labels.setItem (l : Labels) (k v : String) : Labels :=
  if l.any (·.1 = k) then l.map fun p => if p.1 = k then (k, v) else p else l ++ [(k, v)]

/-- `labels.update(other)`. -/
def Labels.update (l other : Labels) : Labels := other.foldl (fun acc kv => acc.setItem kv.1 kv.2) l

/-! ### Jobs and the status list -/

/-- The metadata of a Job body that the status list reads.  Its labels are not here:
`track_job_status` gets them as its own argument. -/
structure JobMeta where
  name : String
  «namespace» : String
  uid : String
  deriving DecidableEq, Repr

/-- A Job body as the API returns it. -/
structure Job where
  apiVersion : String
  kind : String
  metadata : JobMeta
  status : Dict
  deriving DecidableEq, Repr

/-- The body as a dict: its top-level keys. -/
def Job.toDict (j : Job) : Dict :=
  [("apiVersion", .str j.apiVersion), ("kind", .str j.kind), ("metadata", .obj), ("spec", .obj),
    ("status", .obj)]

/-- `create_object_ref(resource, include_gvk=False)`. -/
structure ObjectRef where
  name : String
  «namespace» : String
  uid : String
  deriving DecidableEq, Repr

def createObjectRef (j : Job) : ObjectRef := ⟨j.metadata.name, j.metadata.namespace, j.metadata.uid⟩

/-- An entry of `status.dependantJobs`: `{objectReference: ..., **extra}`. -/
structure StatusEntry where
  objectReference : ObjectRef
  extra : Dict
  deriving DecidableEq, Repr

/-- `value['objectReference']['uid']`. -/
def StatusEntry.uid (e : StatusEntry) : String := e.objectReference.uid

/-- The `for`/`else` loop of `update_status_list`: replace the first entry of the job's uid and
`break`, or report that the loop ran out. -/
def replaceFirst (uid : String) (entry : StatusEntry) : List StatusEntry → Option (List StatusEntry)
  | [] => none
  | v :: vs => if v.uid = uid then some (entry :: vs) else (replaceFirst uid entry vs).map (v :: ·)

/-- `{objectReference: create_object_ref(resource, include_gvk=False)}` updated with `extra_data`,
whose keys (`buildDependantJobStatus`) are never `objectReference`. -/
def statusEntry (resource : Job) (extraData : Dict) : StatusEntry :=
  ⟨createObjectRef resource, extraData⟩

def updateStatusList (lst : List StatusEntry) (resource : Job) (extraData : Dict) :
    List StatusEntry :=
  (replaceFirst resource.metadata.uid (statusEntry resource extraData) lst).getD
    (lst ++ [statusEntry resource extraData])

def deleteFromStatusList (lst : List StatusEntry) (resource : Job) : List StatusEntry :=
  lst.filter fun v => !(v.uid = resource.metadata.uid)

/-- `_DependantJobStatus`. -/
structure DependantJobStatus where
  startTime : Val
  completionTime : Val
  status : String
  deriving DecidableEq, Repr

def deriveJobStatus (jobStatus : Dict) : Except PyError DependantJobStatus := do
  let status ←
    if jobStatus.has jobStatusCompletionTime then pure resourceJobStatusSucceeded
    else if jobStatus.has jobStatusStartTime then do
      let failed ← if jobStatus.has jobStatusFailed then (jobStatus.get jobStatusFailed).gtZero
        else pure false
      pure (if failed then resourceJobStatusFailed else resourceJobStatusRunning)
    else pure resourceJobStatusPending
  pure ⟨jobStatus.get jobStatusStartTime, jobStatus.get jobStatusCompletionTime, status⟩

def buildDependantJobStatus (jobStatus : Dict) : Except PyError Dict := do
  let derivedStatus ← deriveJobStatus jobStatus
  pure ((if derivedStatus.startTime ≠ .null then [(jobStatusStartTime, derivedStatus.startTime)]
      else []) ++
    (if derivedStatus.completionTime ≠ .null then
      [(jobStatusCompletionTime, derivedStatus.completionTime)] else []) ++
    [(resourceStatusDependantJobsStatus, .str derivedStatus.status)])

/-- The new `dependantJobs` from the parent's (`none`: the key is missing) and a job event. -/
def buildResourceStatusDependantJobs (dependantJobs : Option (List StatusEntry)) (job : Job)
    (delete : Bool) : Except PyError (List StatusEntry) :=
  if delete then pure (deleteFromStatusList (dependantJobs.getD []) job)
  else do
    let extra ← buildDependantJobStatus job.toDict
    pure (updateStatusList (dependantJobs.getD []) job extra)

/-! ### Parents and their jobs -/

/-- The metadata of the operator's job template that `_setup_manifest` touches. -/
structure ManifestMeta where
  name : Option String
  generateName : Option String
  «namespace» : Option String
  labels : Option Labels
  deriving DecidableEq, Repr

/-- A job manifest: its kind, metadata and the labels of its pod template. -/
structure JobManifest where
  kind : String
  metadata : ManifestMeta
  podLabels : Option Labels
  deriving DecidableEq, Repr

/-- A parent custom resource: its kind, name and namespace (`none`: cluster-scoped). -/
structure ParentBody where
  kind : String
  name : String
  «namespace» : Option String
  deriving DecidableEq, Repr

/-- The labels `_setup_manifest` puts on a job of `parent`. -/
def parentLabels (parentBody : ParentBody) : Labels :=
  [(labelParentKind, parentBody.kind), (labelParentName, parentBody.name)] ++
    match parentBody.namespace with
    | some ns => [(labelParentNamespace, ns)]
    | none => []

def setupManifest (manifest : JobManifest) («namespace» : String) (parentBody : ParentBody)
    (nameOverride : Option String) : Except PyError JobManifest :=
  if manifest.kind ≠ "Job" then throw (.runtimeError ("Unhandled kind: " ++ manifest.kind ++ "."))
  else pure
    { metadata :=
        { name := none
          generateName := some (nameOverride.getD parentBody.name ++ "-")
          «namespace» := some «namespace»
          labels := some ((manifest.metadata.labels.getD []).update (parentLabels parentBody)) }
      podLabels := some ((manifest.podLabels.getD []).update (parentLabels parentBody))
      kind := manifest.kind }

/-- What `track_job_status` does with an event. -/
inductive TrackAction where
  /-- The event is from another namespace. -/
  | ignore
  /-- `delete_namespaced_job`: the job has no or incomplete parent labels. -/
  | deleteStray (name : String)
  /-- `patch_parent` with the new `dependantJobs`. -/
  | patchParent (parentName : String) (parentNamespace : Option String)
      (dependantJobs : List StatusEntry)
  /-- `delete_namespaced_job`: the parent has gone away. -/
  | deleteOrphan (name : String)
  /-- The parent has gone away and the job is being deleted. -/
  | nothing
  deriving DecidableEq, Repr

/-- `track_job_status`; `getParent name namespace` is the parent's `dependantJobs` (`none`
inside: the key is missing), or `none` when `get_parent` answers 404. -/
def trackJobStatus (serviceAccountNamespace : String) (reason name «namespace» : String)
    (labels : Option Labels) (body : Job)
    (getParent : String → Option String → Option (Option (List StatusEntry))) :
    Except PyError TrackAction :=
  if «namespace» ≠ serviceAccountNamespace then pure .ignore
  else if reason ≠ "delete" ∧ labels = none then pure (.deleteStray name)
  else match labels with
    | none => throw (.keyError "labels")
    | some labels =>
      match labels.get? labelParentName with
      | none => pure (.deleteStray name)
      | some parentName =>
        let parentNamespace := labels.get? labelParentNamespace
        match getParent parentName parentNamespace with
        | some status => do
          let dependantJobs ← buildResourceStatusDependantJobs status body (reason == "delete")
          pure (.patchParent parentName parentNamespace dependantJobs)
        | none => pure (if reason ≠ "delete" then .deleteOrphan name else .nothing)

/-- Python's `f'{x}'` of an optional string. -/
def pyFormat : Option String → String
  | some s => s
  | none => "None"

/-- The label selector of `delete_all_dependant_jobs`. -/
def dependantJobsSelector (name : String) («namespace» : Option String) (kind : String) : Labels :=
  [(labelParentKind, kind), (labelParentName, name), (labelParentNamespace, pyFormat «namespace»)]

/-- An equality-based selector `k1=v1,k2=v2,...` selects the labels that have every `ki` with
value `vi`. -/
def Labels.selects (labels selector : Labels) : Bool :=
  selector.all fun kv => labels.get? kv.1 = some kv.2

end Benji.Operator
