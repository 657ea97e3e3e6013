import Benji.Operator.Parent

/-!
# Benji.Operator.Cluster — creating a parent's jobs and deleting them

The Jobs on the API server, `JobResource.__init__`, which creates one for a parent, and
`delete_all_dependant_jobs`, which lists a parent's jobs by label selector and deletes them one
by one (`_delete_dependant_jobs`).  A request can fail with any status (`fault`); otherwise the
server answers as Kubernetes does: `delete_namespaced_job` answers 404 for a name it does not
have, and `create_namespaced_job` answers 409 for one it has.

* `deleteDependantJobs_spec`: from any cluster, whatever fails, the loop deletes the jobs of a
  prefix of its list and no other; it gets through the whole list unless an error other than 404
  escapes, and a job already gone is skipped;
* `deleteAllDependantJobs_selected`: a normal return leaves exactly the jobs the selector does
  not select in the service account's namespace;
* `parent_deletion_removes_own_jobs`: for a namespaced parent, a job `JobResource` created is
  removed exactly when it was created for that parent.
-/

namespace Benji.Operator

/-- `kubernetes.client.rest.ApiException`, by its HTTP status. -/
structure ApiException where
  status : Nat
  deriving DecidableEq, Repr

/-- What escapes an operator function: a Python error or an `ApiException`. -/
inductive OperatorError where
  | py (e : PyError)
  | api (e : ApiException)
  deriving DecidableEq, Repr

/-- A Job on the API server: its namespace, name and labels. -/
structure ClusterJob where
  «namespace» : String
  name : String
  labels : Labels
  deriving DecidableEq, Repr

def ClusterJob.key (j : ClusterJob) : String × String := (j.namespace, j.name)

/-- The Jobs on the API server; a namespace and a name name one job at most. -/
structure Cluster where
  jobs : List ClusterJob
  keys_nodup : (jobs.map ClusterJob.key).Nodup

namespace Cluster

/-- `delete_namespaced_job(namespace=..., name=...)`: a request failing with status `fault`, or
the server's answer: the job of that name is deleted, or 404 when there is none. -/
def deleteNamespacedJob (c : Cluster) (fault : Option Nat) («namespace» name : String) :
    Except ApiException Cluster :=
  match fault with
  | some status => throw ⟨status⟩
  | none =>
    if («namespace», name) ∈ c.jobs.map ClusterJob.key then
      pure ⟨c.jobs.filter (·.key ≠ («namespace», name)),
        c.keys_nodup.sublist ((List.filter_sublist _).map _)⟩
    else throw ⟨404⟩

/-- The name the API server gives a created object: `metadata.name`, or `metadata.generateName`
followed by the random `suffix`. -/
def generatedName (metadata : ManifestMeta) (suffix : String) : Option String :=
  metadata.name.or (metadata.generateName.map (· ++ suffix))

/-- `create_namespaced_job(namespace=..., body=...)`: a request failing with status `fault`, or
the server's answer: 422 when the body has neither a name nor a `generateName`, 400 when its
namespace is another, 409 when the name is taken, else the new job. -/
def createNamespacedJob (c : Cluster) (fault : Option Nat) («namespace» : String)
    (body : JobManifest) (suffix : String) : Except ApiException (Cluster × ClusterJob) :=
  match fault, generatedName body.metadata suffix with
  | some status, _ => throw ⟨status⟩
  | none, none => throw ⟨422⟩
  | none, some name =>
    if body.metadata.namespace.any (· ≠ «namespace») then throw ⟨400⟩
    else if h : («namespace», name) ∈ c.jobs.map ClusterJob.key then throw ⟨409⟩
    else pure (⟨c.jobs ++ [⟨«namespace», name, jobLabels body⟩], by simpa [List.nodup_append] using
      ⟨c.keys_nodup, fun x hx hk => h (List.mem_map.mpr ⟨x, hx, hk⟩)⟩⟩,
      ⟨«namespace», name, jobLabels body⟩)

/-- `list_namespaced_job(namespace=..., label_selector=...).items`. -/
def listNamespacedJob (c : Cluster) («namespace» : String) (labelSelector : Labels) :
    List ClusterJob :=
  c.jobs.filter fun j => j.namespace = «namespace» ∧ j.labels.selects labelSelector

end Cluster

/-- `JobResource(command, parent_body=...)`: the operator's job template (`none`: the
configuration has not been loaded), set up for the parent in the service account's namespace and
created there.  The command and args it writes into the first container are read by no modelled
function. -/
def jobResource (operatorConfig : Option JobManifest) (serviceAccountNamespace : String)
    (parentBody : ParentBody) (fault : Option Nat) (suffix : String) (c : Cluster) :
    Except OperatorError (Cluster × ClusterJob) :=
  match operatorConfig with
  | none => throw (.py (.runtimeError "Operator configuration has not been loaded."))
  | some jobTemplate => do
    let jobManifest ←
      (setupManifest jobTemplate serviceAccountNamespace parentBody none).mapError .py
    (c.createNamespacedJob fault serviceAccountNamespace jobManifest suffix).mapError .api

/-- `_delete_dependant_jobs`: delete the jobs in turn, the request for each failing with the next
fault; a 404 is logged and skipped, any other `ApiException` escapes.  The cluster it leaves, and
the exception that escaped. -/
def deleteDependantJobs : List ClusterJob → List (Option Nat) → Cluster →
    Cluster × Option ApiException
  | [], _, c => (c, none)
  | job :: jobs, faults, c =>
    match c.deleteNamespacedJob (faults.headD none) job.namespace job.name with
    | .ok c' => deleteDependantJobs jobs faults.tail c'
    | .error exception =>
      if exception.status = 404 then deleteDependantJobs jobs faults.tail c else (c, some exception)

/-- `delete_all_dependant_jobs(name=..., namespace=..., kind=...)`: list the jobs its selector
selects in the service account's namespace, the request failing with `listFault`, then delete
them. -/
def deleteAllDependantJobs (serviceAccountNamespace : String) (listFault : Option Nat)
    (faults : List (Option Nat)) (name : String) («namespace» : Option String) (kind : String)
    (c : Cluster) : Cluster × Option ApiException :=
  match listFault with
  | some status => (c, some ⟨status⟩)
  | none => deleteDependantJobs
      (c.listNamespacedJob serviceAccountNamespace (dependantJobsSelector name «namespace» kind))
      faults c

/-! ### The deletion loop -/

section Delete

variable {c c' : Cluster} {fault : Option Nat} {ns name : String}

theorem Cluster.deleteNamespacedJob_ok (h : c.deleteNamespacedJob fault ns name = .ok c') :
    fault = none ∧ (ns, name) ∈ c.jobs.map ClusterJob.key ∧
      c'.jobs = c.jobs.filter (·.key ≠ (ns, name)) := by
  unfold Cluster.deleteNamespacedJob at h
  split at h
  · cases h
  · split at h
    · cases h; exact ⟨rfl, ‹_›, rfl⟩
    · cases h

theorem Cluster.deleteNamespacedJob_error {e : ApiException}
    (h : c.deleteNamespacedJob fault ns name = .error e) :
    fault = some e.status ∨ fault = none ∧ (ns, name) ∉ c.jobs.map ClusterJob.key ∧ e.status = 404 := by
  unfold Cluster.deleteNamespacedJob at h
  split at h
  · cases h; exact .inl rfl
  · split at h
    · cases h
    · cases h; exact .inr ⟨rfl, ‹_›, rfl⟩

/-- Removing one key, then the keys of a list, removes the keys of the longer list. -/
theorem filter_key_cons (l : List ClusterJob) (k : String × String) (ks : List (String × String)) :
    (l.filter (·.key ≠ k)).filter (·.key ∉ ks) = l.filter (·.key ∉ k :: ks) := by
  rw [List.filter_filter]
  congr 1
  funext x
  simp [Bool.and_comm]

/-- What the loop may leave from `c`: the jobs of a prefix `done` of its list are gone, `done` is
the whole list unless an exception escaped, and that exception is not a 404. -/
def LoopResult (jobs : List ClusterJob) (c : Cluster) (r : Cluster × Option ApiException) :
    Prop :=
  ∃ done, done <+: jobs ∧ r.1.jobs = c.jobs.filter (·.key ∉ done.map ClusterJob.key) ∧
    (r.2 = none → done = jobs) ∧ ∀ e, r.2 = some e → e.status ≠ 404

theorem LoopResult.raised {jobs : List ClusterJob} {e : ApiException} (he : e.status ≠ 404) :
    LoopResult jobs c (c, some e) :=
  ⟨[], List.nil_prefix, by simp, nofun, fun _ h => by cases h; exact he⟩

/-- A job passed, whether it was deleted or already gone, joins the prefix. -/
theorem LoopResult.cons {jobs : List ClusterJob} {job : ClusterJob} {c₁ : Cluster}
    {r : Cluster × Option ApiException} (hc : c₁.jobs = c.jobs.filter (·.key ≠ job.key))
    (h : LoopResult jobs c₁ r) : LoopResult (job :: jobs) c r := by
  obtain ⟨done, hp, hj, hn, he⟩ := h
  refine ⟨job :: done, (List.prefix_cons_inj job).mpr hp, ?_, fun h => by rw [hn h], he⟩
  rw [hj, hc, List.map_cons, filter_key_cons]

theorem mem_of_headD_eq {faults : List (Option Nat)} {s : Nat}
    (h : faults.headD none = some s) : some s ∈ faults := by
  cases faults with
  | nil => cases h
  | cons f fs => exact h ▸ List.mem_cons_self _ _

/-- **The deletion loop deletes a prefix of its list**, from any cluster and whichever request
fails, provided a 404 is only the server's: the jobs left are those of the cluster whose name no
job of the prefix has.  It gets through the whole list unless an exception escapes, and that is
never a 404. -/
theorem deleteDependantJobs_spec (jobs : List ClusterJob) (faults : List (Option Nat))
    (c : Cluster) (h404 : some 404 ∉ faults) :
    LoopResult jobs c (deleteDependantJobs jobs faults c) := by
  induction jobs generalizing faults c with
  | nil => exact ⟨[], List.prefix_refl _, by simp [deleteDependantJobs], fun _ => rfl, nofun⟩
  | cons job jobs ih =>
    have ih' := fun c₁ => ih faults.tail c₁ fun h => h404 (List.mem_of_mem_tail h)
    unfold deleteDependantJobs
    split
    · next c' hd => exact (ih' c').cons (Cluster.deleteNamespacedJob_ok hd).2.2
    · next e hd =>
      split
      · next h4 =>
        rcases Cluster.deleteNamespacedJob_error hd with hf | ⟨-, hk, -⟩
        · exact absurd (h4 ▸ mem_of_headD_eq hf) h404
        · refine (ih' c).cons (List.filter_eq_self.mpr fun x hx => ?_).symm
          simp only [decide_eq_true_eq]
          exact fun he => hk (show job.key ∈ _ from he ▸ List.mem_map_of_mem _ hx)
      · exact .raised ‹_›

/-- In a cluster, a job of a list of its jobs is the one job of its name. -/
theorem key_mem_iff {l : List ClusterJob} (hl : l ⊆ c.jobs) {x : ClusterJob} (hx : x ∈ c.jobs) :
    x.key ∈ l.map ClusterJob.key ↔ x ∈ l := by
  refine ⟨fun h => ?_, List.mem_map_of_mem _⟩
  obtain ⟨y, hy, hk⟩ := List.mem_map.mp h
  rwa [List.inj_on_of_nodup_map c.keys_nodup (hl hy) hx hk] at hy

end Delete

section DeleteAll

variable {sa name kind : String} {ns : Option String} {listFault : Option Nat}
  {faults : List (Option Nat)} {c : Cluster}

/-- **`delete_all_dependant_jobs` deletes the jobs its selector selects and no other**: whichever
request fails, provided a 404 is only the server's, the jobs it deleted are a prefix of those it
listed; when nothing escapes, it has deleted every job of the service account's namespace that
the selector selects and kept every other job. -/
theorem deleteAllDependantJobs_selected (h404 : some 404 ∉ faults) :
    (∃ done, done <+: c.listNamespacedJob sa (dependantJobsSelector name ns kind) ∧
      (deleteAllDependantJobs sa listFault faults name ns kind c).1.jobs =
        c.jobs.filter (·.key ∉ done.map ClusterJob.key)) ∧
    ((deleteAllDependantJobs sa listFault faults name ns kind c).2 = none →
      (deleteAllDependantJobs sa listFault faults name ns kind c).1.jobs =
        c.jobs.filter fun j => !(j.namespace = sa ∧
          j.labels.selects (dependantJobsSelector name ns kind))) := by
  cases listFault with
  | some status =>
    exact ⟨⟨[], List.nil_prefix, by simp [deleteAllDependantJobs]⟩, nofun⟩
  | none =>
    obtain ⟨done, hp, hj, hn, -⟩ := deleteDependantJobs_spec
      (c.listNamespacedJob sa (dependantJobsSelector name ns kind)) faults c h404
    refine ⟨⟨done, hp, hj⟩, fun h => ?_⟩
    rw [deleteAllDependantJobs, hj, hn h]
    refine List.filter_congr fun x hx => ?_
    have hk := key_mem_iff (l := c.listNamespacedJob sa (dependantJobsSelector name ns kind))
      (fun _ hy => List.mem_of_mem_filter hy) hx
    simp only [hk]
    simp [Cluster.listNamespacedJob, hx]

/-- Two jobs in the service account's namespace, of two parents in `apps`. -/
def nightlyAndWeekly : Cluster :=
  ⟨[⟨"benji", "nightly-x7k2p", parentLabels namespacedParent⟩,
    ⟨"benji", "weekly-q2m9z", parentLabels ⟨"BenjiBackupSchedule", "weekly", some "apps"⟩⟩],
    by decide⟩

theorem deleteAllDependantJobs_selected_nightlyAndWeekly :
    (∃ done, done <+: nightlyAndWeekly.listNamespacedJob "benji"
        (dependantJobsSelector "nightly" (some "apps") "BenjiBackupSchedule") ∧
      (deleteAllDependantJobs "benji" none [none] "nightly" (some "apps") "BenjiBackupSchedule"
        nightlyAndWeekly).1.jobs = nightlyAndWeekly.jobs.filter (·.key ∉ done.map ClusterJob.key)) ∧
    ((deleteAllDependantJobs "benji" none [none] "nightly" (some "apps") "BenjiBackupSchedule"
        nightlyAndWeekly).2 = none →
      (deleteAllDependantJobs "benji" none [none] "nightly" (some "apps") "BenjiBackupSchedule"
        nightlyAndWeekly).1.jobs =
        nightlyAndWeekly.jobs.filter fun j => !(j.namespace = "benji" ∧
          j.labels.selects (dependantJobsSelector "nightly" (some "apps") "BenjiBackupSchedule"))) :=
  deleteAllDependantJobs_selected (by decide)

end DeleteAll

/-! ### A parent's jobs -/

section Parents

variable {cfg : Option JobManifest} {sa suffix : String} {P P' : ParentBody}
  {fault : Option Nat} {c0 c1 : Cluster} {j : ClusterJob}

theorem Cluster.createNamespacedJob_ok {body : JobManifest} {c' : Cluster}
    (h : c0.createNamespacedJob fault sa body suffix = .ok (c', j)) :
    j.namespace = sa ∧ j.labels = jobLabels body ∧ c'.jobs = c0.jobs ++ [j] := by
  unfold Cluster.createNamespacedJob at h
  split at h
  · cases h
  · cases h
  · split_ifs at h
    cases h
    exact ⟨rfl, rfl, rfl⟩

/-- A job `JobResource` created lives in the service account's namespace, with the labels
`_setup_manifest` gave the template. -/
theorem jobResource_ok (h : jobResource cfg sa P' fault suffix c0 = .ok (c1, j)) :
    ∃ m m', cfg = some m ∧ setupManifest m sa P' none = .ok m' ∧ j.namespace = sa ∧
      j.labels = jobLabels m' := by
  rcases cfg with _ | m
  · cases h
  · rcases hs : setupManifest m sa P' none with e | m'
    · simp [jobResource, hs, Except.mapError, bind, Except.bind] at h
    · rcases hc : c0.createNamespacedJob fault sa m' suffix with e | r
      · simp [jobResource, hs, hc, Except.mapError, bind, Except.bind] at h
      · simp only [jobResource, hs, hc, Except.mapError, bind, Except.bind, Except.ok.injEq] at h
        subst h
        obtain ⟨h1, h2, -⟩ := Cluster.createNamespacedJob_ok hc
        exact ⟨m, m', rfl, hs, h1, h2⟩

/-- The namespace label of a job set up for `P'` names `P'`'s namespace when `P'` is namespaced or
the template has no namespace label. -/
theorem jobLabels_namespace_eq {m m' : JobManifest} {n : String}
    (h : setupManifest m n P' none = .ok m')
    (hP' : P'.namespace.isSome ∨ (jobLabels m).get? labelParentNamespace = none) :
    (jobLabels m').get? labelParentNamespace = P'.namespace := by
  rw [jobLabels_namespace h]
  rcases hP' with hP' | hP'
  · obtain ⟨x, hx⟩ := Option.isSome_iff_exists.mp hP'
    simp [hx]
  · simp [hP']

/-- The selector of a namespaced parent `P` selects a job set up for `P'` exactly when `P'` has
`P`'s kind, name and namespace. -/
theorem selects_iff_same_parent {m m' : JobManifest} {n x : String}
    (h : setupManifest m n P' none = .ok m') (hP : P.namespace = some x)
    (hP' : P'.namespace.isSome ∨ (jobLabels m).get? labelParentNamespace = none) :
    (jobLabels m').selects (dependantJobsSelector P.name P.namespace P.kind) = true ↔
      P'.kind = P.kind ∧ P'.name = P.name ∧ P'.namespace = P.namespace := by
  simp [Labels.selects, dependantJobsSelector, jobLabels_kind h, jobLabels_name h,
    jobLabels_namespace_eq h hP', hP, pyFormat]

/-- **Deleting a namespaced parent removes exactly the jobs created for it.**  Take a job that
`JobResource` created for a parent `P'` and that a later cluster still holds.  When
`delete_all_dependant_jobs` of a namespaced parent `P` returns normally there (a 404 being only
the server's), the job is gone exactly when `P'` has `P`'s kind, name and namespace, provided `P'`
is namespaced or the operator's template carries no parent-namespace label. -/
theorem parent_deletion_removes_own_jobs {c : Cluster} {x : String} {listFault : Option Nat}
    {faults : List (Option Nat)} (hj : jobResource cfg sa P' fault suffix c0 = .ok (c1, j))
    (hc : j ∈ c.jobs) (hP : P.namespace = some x)
    (hP' : P'.namespace.isSome ∨ ∀ m, cfg = some m → (jobLabels m).get? labelParentNamespace = none)
    (h404 : some 404 ∉ faults)
    (hr : (deleteAllDependantJobs sa listFault faults P.name P.namespace P.kind c).2 = none) :
    j ∉ (deleteAllDependantJobs sa listFault faults P.name P.namespace P.kind c).1.jobs ↔
      P'.kind = P.kind ∧ P'.name = P.name ∧ P'.namespace = P.namespace := by
  obtain ⟨m, m', rfl, hs, hns, hl⟩ := jobResource_ok hj
  rw [(deleteAllDependantJobs_selected h404).2 hr, ← selects_iff_same_parent hs hP
    (hP'.imp_right fun h => h m rfl), ← hl]
  simp [hc, hns]

/-- A parent in `apps` next to `namespacedParent`. -/
def weeklyParent : ParentBody := ⟨"BenjiBackupSchedule", "weekly", some "apps"⟩

/-- The job of `namespacedParent` alone. -/
def nightlyOnly : Cluster := ⟨[⟨"benji", "nightly-x7k2p", parentLabels namespacedParent⟩], by decide⟩

/-- A job created for `weeklyParent` next to one of `namespacedParent`: deleting the latter keeps
it. -/
theorem parent_deletion_removes_own_jobs_weekly :
    ∃ c1 j, jobResource (some labelledTemplate) "benji" weeklyParent none "q2m9z" nightlyOnly =
        .ok (c1, j) ∧
      (j ∉ (deleteAllDependantJobs "benji" none [] namespacedParent.name namespacedParent.namespace
          namespacedParent.kind c1).1.jobs ↔
        weeklyParent.kind = namespacedParent.kind ∧ weeklyParent.name = namespacedParent.name ∧
          weeklyParent.namespace = namespacedParent.namespace) := by
  refine ⟨_, _, rfl, ?_⟩
  exact parent_deletion_removes_own_jobs (show jobResource (some labelledTemplate) "benji"
    weeklyParent none "q2m9z" nightlyOnly = _ from rfl) (by decide) rfl (.inl rfl) (by decide)
    (by decide)

end Parents

end Benji.Operator
