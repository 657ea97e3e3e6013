import Benji.Operator.StatusList

/-!
# Benji.Operator.Parent — from a parent's metadata to its job's labels and back

`_setup_manifest` merges the parent labels into whatever labels the template carries
(`dict.update`), and `track_job_status` reads the parent back from the job's labels.  For a
namespaced parent the round trip is exact and `delete_all_dependant_jobs` selects the job
(`track_namespaced_parent`, `selector_selects_namespaced`).  For a cluster-scoped parent no
namespace label is written, so a parent-namespace label of the template survives
(`jobLabels_namespace`), and the selector asks for `parent-namespace=None`, which the job does not
carry (`cluster_scoped_parent_failures`).
-/

namespace Benji.Operator

namespace Labels

variable {l : Labels} {k k' v : String}

/-- Overwriting the values of key `k` keeps every key where it was. -/
theorem find?_map_overwrite (k' : String) :
    (l.map fun p => if p.1 = k then (k, v) else p).find? (·.1 = k') =
      (l.find? (·.1 = k')).map fun p => if p.1 = k then (k, v) else p := by
  have hkey : (fun p : String × String => decide (p.1 = k')) ∘
      (fun p => if p.1 = k then (k, v) else p) = fun p => decide (p.1 = k') := by
    funext p; by_cases hp : p.1 = k <;> simp [hp]
  rw [List.find?_map, hkey]

theorem get?_setItem : (l.setItem k v).get? k' = if k = k' then some v else l.get? k' := by
  unfold setItem get?
  split_ifs with ha hk hk
  · subst hk
    obtain ⟨q, hq, hqk⟩ := List.any_eq_true.mp ha
    obtain ⟨r, hr⟩ : ∃ r, l.find? (·.1 = k) = some r :=
      Option.isSome_iff_exists.mp (List.find?_isSome.mpr ⟨q, hq, hqk⟩)
    have hrk : r.1 = k := by simpa using List.find?_some hr
    rw [find?_map_overwrite, hr]
    simp [hrk]
  · rw [find?_map_overwrite]
    cases h : l.find? (·.1 = k') with
    | none => rfl
    | some r =>
      have hrk : r.1 = k' := by simpa using List.find?_some h
      simp [hrk, Ne.symm hk]
  · subst hk
    have : l.find? (·.1 = k) = none := List.find?_eq_none.mpr fun x hx hxk =>
      ha (List.any_eq_true.mpr ⟨x, hx, hxk⟩)
    simp [List.find?_append, this]
  · simp [List.find?_append, hk]

theorem get?_update (o : Labels) (l : Labels) :
    (l.update o).get? k = ((o.filter (·.1 = k)).getLast?.map (·.2)).or (l.get? k) := by
  induction o generalizing l with
  | nil => simp [update]
  | cons kv o ih =>
    simp only [update, List.foldl_cons] at ih ⊢
    rw [ih, get?_setItem]
    by_cases hk : kv.1 = k
    · rw [List.filter_cons_of_pos (by simpa using hk), List.getLast?_cons]
      cases List.getLast? (o.filter (·.1 = k)) <;> simp [hk]
    · simp [hk]

end Labels

/-! ### `track_job_status` on a labelled job -/

section Track

variable {sa name pn : String} {labels : Labels} {ev : JobEvent}
  {getParent : String → Option String → Option (Option (List StatusEntry))}

/-- **`track_job_status` on a job of its namespace that has a parent-name label**: it looks the
parent up under that name and the namespace label (or `None`), patches it while it exists, and
otherwise deletes the job unless the event is its deletion. -/
theorem trackJobStatus_labelled (hn : labels.get? labelParentName = some pn) :
    trackJobStatus sa ev.reason name sa (some labels) ev.body getParent =
      match getParent pn (labels.get? labelParentNamespace) with
      | some st => .ok (.patchParent pn (labels.get? labelParentNamespace)
          (nextStatusList (st.getD []) ev))
      | none => .ok (if ev.reason ≠ "delete" then .deleteOrphan name else .nothing) := by
  simp only [trackJobStatus, ne_eq, not_true_eq_false, if_false, reduceCtorEq, and_false, hn]
  cases getParent pn (labels.get? labelParentNamespace) with
  | none => rfl
  | some st =>
    have hb : buildResourceStatusDependantJobs st ev.body (ev.reason == "delete") =
        .ok (nextStatusList (st.getD []) ev) := applyJobEvent_eq
    simp only [hb]; rfl

end Track

/-! ### From the parent to the job's labels -/

section RoundTrip

variable {m m' : JobManifest} {n : String} {P : ParentBody} {o : Option String}

/-- The labels of the job `JobResource` creates from manifest `m`. -/
def jobLabels (m : JobManifest) : Labels := m.metadata.labels.getD []

theorem setupManifest_ok (h : setupManifest m n P o = .ok m') :
    m.kind = "Job" ∧ jobLabels m' = (jobLabels m).update (parentLabels P) := by
  unfold setupManifest at h
  split_ifs at h with hk
  cases h
  exact ⟨by simpa using hk, rfl⟩

theorem jobLabels_name (h : setupManifest m n P o = .ok m') :
    (jobLabels m').get? labelParentName = some P.name := by
  rw [(setupManifest_ok h).2, Labels.get?_update]
  cases hP : P.namespace <;>
    simp [parentLabels, hP, labelParentName, labelParentKind, labelParentNamespace]

theorem jobLabels_kind (h : setupManifest m n P o = .ok m') :
    (jobLabels m').get? labelParentKind = some P.kind := by
  rw [(setupManifest_ok h).2, Labels.get?_update]
  cases hP : P.namespace <;>
    simp [parentLabels, hP, labelParentName, labelParentKind, labelParentNamespace]

/-- The namespace label is the parent's, or, for a cluster-scoped parent, whatever the template
carried. -/
theorem jobLabels_namespace (h : setupManifest m n P o = .ok m') :
    (jobLabels m').get? labelParentNamespace =
      P.namespace.or ((jobLabels m).get? labelParentNamespace) := by
  rw [(setupManifest_ok h).2, Labels.get?_update]
  cases hP : P.namespace <;>
    simp [parentLabels, hP, labelParentName, labelParentKind, labelParentNamespace]

/-! ### The round trip -/

variable {sa name : String} {e : JobEvent} {s : Option (List StatusEntry)}
  {getParent : String → Option String → Option (Option (List StatusEntry))}

/-- **Events of a job find its parent** when the parent is namespaced, or the template carries
no parent-namespace label: while the parent exists, `track_job_status` patches it and deletes
nothing. -/
theorem track_namespaced_parent (h : setupManifest m sa P o = .ok m')
    (hP : P.namespace.isSome ∨ (jobLabels m).get? labelParentNamespace = none)
    (hp : getParent P.name P.namespace = some s) :
    trackJobStatus sa e.reason name sa (some (jobLabels m')) e.body getParent =
      .ok (.patchParent P.name P.namespace (nextStatusList (s.getD []) e)) := by
  have hns : (jobLabels m').get? labelParentNamespace = P.namespace := by
    rw [jobLabels_namespace h]
    rcases hP with hP | hP
    · obtain ⟨x, hx⟩ := Option.isSome_iff_exists.mp hP
      simp [hx]
    · simp [hP]
  rw [trackJobStatus_labelled (jobLabels_name h), hns, hp]

/-- **The deletion selector of a namespaced parent selects its jobs.** -/
theorem selector_selects_namespaced {x : String} (h : setupManifest m n P o = .ok m')
    (hP : P.namespace = some x) :
    (jobLabels m').selects (dependantJobsSelector P.name P.namespace P.kind) = true := by
  simp [Labels.selects, dependantJobsSelector, jobLabels_kind h, jobLabels_name h,
    jobLabels_namespace h, hP, pyFormat]

/-- **A cluster-scoped parent's selector misses its jobs**: it asks for `parent-namespace=None`,
and the job carries no such label unless the template did. -/
theorem selector_misses_cluster_scoped (h : setupManifest m n P o = .ok m')
    (hP : P.namespace = none) (ht : (jobLabels m).get? labelParentNamespace ≠ some "None") :
    (jobLabels m').selects (dependantJobsSelector P.name P.namespace P.kind) = false := by
  simp [Labels.selects, dependantJobsSelector, jobLabels_namespace h, hP, pyFormat, ht]

/-- **A stale namespace label orphans the job of a cluster-scoped parent**: the template's
parent-namespace label survives `_setup_manifest`, so `track_job_status` looks the parent up in
that namespace, and when nothing is found there it deletes the job, though its parent exists. -/
theorem track_stale_namespace_label {x : String} (h : setupManifest m sa P o = .ok m')
    (hP : P.namespace = none) (ht : (jobLabels m).get? labelParentNamespace = some x)
    (hg : getParent P.name (some x) = none) (hr : e.reason ≠ "delete") :
    trackJobStatus sa e.reason name sa (some (jobLabels m')) e.body getParent =
      .ok (.deleteOrphan name) := by
  rw [trackJobStatus_labelled (jobLabels_name h), jobLabels_namespace h, hP, ht]
  simp [hg, hr]

end RoundTrip

/-! ### A cluster-scoped parent and a namespaced one -/

/-- A cluster-scoped parent, and a job template that carries a parent-namespace label. -/
def clusterParent : ParentBody := ⟨"BenjiBackupSchedule", "nightly", none⟩

def labelledTemplate : JobManifest :=
  ⟨"Job", ⟨some "benji-job", none, none, some [(labelParentNamespace, "default")]⟩, none⟩

/-- The parent exists, as a cluster-scoped object without `dependantJobs`. -/
def clusterParentLookup (parentName : String) (parentNamespace : Option String) :
    Option (Option (List StatusEntry)) :=
  if parentName = "nightly" ∧ parentNamespace = none then some none else none

/-- The job created for `clusterParent` from `labelledTemplate`, as the API returns it. -/
def clusterJob : Job := ⟨"batch/v1", "Job", ⟨"nightly-x7k2p", "benji", "j7"⟩, []⟩

/-- For `clusterParent` and `labelledTemplate`: the creation event of the job deletes it as an
orphan while the parent exists, and the parent's deletion selector does not select it. -/
theorem cluster_scoped_parent_failures :
    ∃ m', setupManifest labelledTemplate "benji" clusterParent none = .ok m' ∧
      trackJobStatus "benji" "create" "nightly-x7k2p" "benji" (some (jobLabels m')) clusterJob
        clusterParentLookup = .ok (.deleteOrphan "nightly-x7k2p") ∧
      clusterParentLookup clusterParent.name clusterParent.namespace = some none ∧
      (jobLabels m').selects (dependantJobsSelector clusterParent.name clusterParent.namespace
        clusterParent.kind) = false :=
  ⟨_, rfl, track_stale_namespace_label (m := labelledTemplate) (o := none)
    (e := ⟨"create", clusterJob⟩) rfl rfl rfl rfl (by decide),
    by decide, selector_misses_cluster_scoped (m := labelledTemplate) (n := "benji") (o := none) rfl rfl
      (by decide)⟩

/-- A namespaced parent. -/
def namespacedParent : ParentBody := ⟨"BenjiBackupSchedule", "nightly", some "apps"⟩

theorem track_namespaced_parent_labelled_template :
    ∃ m', setupManifest labelledTemplate "benji" namespacedParent none = .ok m' ∧
      (namespacedParent.namespace.isSome ∨
        (jobLabels labelledTemplate).get? labelParentNamespace = none) ∧
      trackJobStatus "benji" "create" "nightly-x7k2p" "benji" (some (jobLabels m')) clusterJob
        (fun _ _ => some none) =
        .ok (.patchParent "nightly" (some "apps") (nextStatusList [] ⟨"create", clusterJob⟩)) :=
  ⟨_, rfl, .inl rfl, track_namespaced_parent (m := labelledTemplate) (P := namespacedParent)
    (o := none) (s := none) (e := ⟨"create", clusterJob⟩) rfl (.inl rfl) rfl⟩

theorem selector_selects_namespaced_labelled_template :
    ∃ m', setupManifest labelledTemplate "benji" namespacedParent none = .ok m' ∧
      namespacedParent.namespace = some "apps" ∧
      (jobLabels m').selects (dependantJobsSelector namespacedParent.name
        namespacedParent.namespace namespacedParent.kind) = true :=
  ⟨_, rfl, rfl, selector_selects_namespaced (m := labelledTemplate) (n := "benji") (o := none) rfl rfl⟩

end Benji.Operator
