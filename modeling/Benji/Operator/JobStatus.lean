import Benji.Operator.Resources

/-!
# Benji.Operator.JobStatus — what `build_dependant_job_status` records for a job

`build_resource_status_dependant_jobs` passes the whole job body to `build_dependant_job_status`,
and `derive_job_status` looks `completionTime`, `startTime` and `failed` up among the body's
top-level keys, where they never are (the commented-out `delete_old_dependant_jobs` passes
`job['status']`).  So every entry it writes says `Pending`, with no times
(`buildDependantJobStatus_toDict`), whatever the job's real status.
-/

namespace Benji.Operator

theorem Job.toDict_has {j : Job} {k : String}
    (h : k ∉ ["apiVersion", "kind", "metadata", "spec", "status"]) : j.toDict.has k = false := by
  simp only [List.mem_cons, List.mem_singleton, not_or] at h
  simp [Job.toDict, Dict.has, Ne.symm h.1, Ne.symm h.2.1, Ne.symm h.2.2.1, Ne.symm h.2.2.2.1,
    Ne.symm h.2.2.2.2.1]

theorem Job.toDict_get {j : Job} {k : String}
    (h : k ∉ ["apiVersion", "kind", "metadata", "spec", "status"]) : j.toDict.get k = .null := by
  simp only [List.mem_cons, List.mem_singleton, not_or] at h
  simp [Job.toDict, Dict.get, Ne.symm h.1, Ne.symm h.2.1, Ne.symm h.2.2.1, Ne.symm h.2.2.2.1,
    Ne.symm h.2.2.2.2.1]

theorem deriveJobStatus_toDict (j : Job) :
    deriveJobStatus j.toDict = .ok ⟨.null, .null, resourceJobStatusPending⟩ := by
  simp [deriveJobStatus, Job.toDict_has, Job.toDict_get, jobStatusCompletionTime,
    jobStatusStartTime]
  rfl

/-- **Every job is recorded as `Pending`, with no start or completion time.** -/
theorem buildDependantJobStatus_toDict (j : Job) :
    buildDependantJobStatus j.toDict =
      .ok [(resourceStatusDependantJobsStatus, .str resourceJobStatusPending)] := by
  simp only [buildDependantJobStatus, deriveJobStatus_toDict]
  rfl

/-- A job that ran and completed. -/
def completedJob : Job :=
  ⟨"batch/v1", "Job", ⟨"backup-pvc-1", "benji", "j1"⟩,
    [("startTime", .str "2026-01-01T00:00:00Z"), ("completionTime", .str "2026-01-01T00:05:00Z"),
      ("succeeded", .int 1)]⟩

/-- For `completedJob`, the entry written into a parent without `dependantJobs` says `Pending`
with no times, where `build_dependant_job_status(job['status'])` says `Succeeded` with both. -/
theorem completedJob_recorded_pending :
    buildResourceStatusDependantJobs none completedJob false =
        .ok [statusEntry completedJob
          [(resourceStatusDependantJobsStatus, .str resourceJobStatusPending)]] ∧
      buildDependantJobStatus completedJob.status =
        .ok [(jobStatusStartTime, .str "2026-01-01T00:00:00Z"),
          (jobStatusCompletionTime, .str "2026-01-01T00:05:00Z"),
          (resourceStatusDependantJobsStatus, .str resourceJobStatusSucceeded)] :=
  ⟨rfl, rfl⟩

end Benji.Operator
