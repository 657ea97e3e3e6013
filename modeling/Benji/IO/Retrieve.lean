import Benji.IO.Close

/-!
# Benji.IO.Retrieve — taking every result back without `close`

After its last `read(block)` the producer can take the results back with `read_get_completed`
alone, without `close()`.  Every step of such a run, of a worker or a retrieval, lowers the weight
of the jobs (`RetrieveStep.jobsWeight_lt`), so every interleaving is finite
(`acc_retrieveStep`).  A state with a job left always has a next step (`retrieve_progress`):
the semaphore never blocks every worker while the producer retrieves.  So a run that cannot go on
has retrieved every job and has every permit back (`retrieval_drains`).
-/

namespace Benji.IO

/-- A step of a run in which the producer neither reads nor closes: a step of a worker, or a
retrieval of `read_get_completed`. -/
def RetrieveStep (N : Nat) (s s' : Engine) : Prop :=
  ReadStep N s s' ∧ s.phase = .reading ∧ s'.phase = .reading ∧
    s'.readFutures.length ≤ s.readFutures.length

section Retrieve

variable {N : Nat} {s s' : Engine}

theorem RetrieveStep.jobsWeight_lt (h : RetrieveStep N s s') :
    jobsWeight s'.readFutures < jobsWeight s.readFutures := by
  obtain ⟨hs, hr, hr', hl⟩ := h
  cases hs with
  | read => simp only [List.length_append, List.length_singleton] at hl; omega
  | close | cancel | drain | shutdown => simp_all
  | dispatch pre post h | acquire pre post h | finish pre post _ h =>
    simp only [h, jobsWeight_append, jobsWeight, JobState.weight]
    omega
  | retrieve pre post j h hj =>
    simp only [h, jobsWeight_append, jobsWeight]
    cases j <;> simp [JobState.weight] at hj ⊢

/-- **No run of worker steps and retrievals is infinite.** -/
theorem acc_retrieveStep (s : Engine) : Acc (fun t u => RetrieveStep N u t) s :=
  Subrelation.accessible (fun h => RetrieveStep.jobsWeight_lt h)
    ((measure fun s : Engine => jobsWeight s.readFutures).wf.apply s)

/-- While reading, a job can always move, as while draining: `retrieve` is the one job step that
looks at the producer's phase, and it allows both. -/
theorem retrieve_progress (hi : ReadInv N s) (hN : 0 < N) (hr : s.phase = .reading)
    (hne : s.readFutures ≠ []) : ∃ s', RetrieveStep N s s' := by
  obtain ⟨_, hs⟩ := draining_progress (s := { s with phase := .draining }) ⟨hi.1, hi.2⟩ hN rfl hne
  cases hs with
  | read h | close h => cases h
  | cancel _ _ _ _ hk => cases hk
  | drain _ h => cases h
  | shutdown _ he => exact absurd he hne
  | dispatch pre post h hfirst hw =>
    exact ⟨_, .dispatch s pre post h hfirst hw, hr, hr, by simp [show s.readFutures = _ from h]⟩
  | acquire pre post h hp =>
    exact ⟨_, .acquire s pre post h hp, hr, hr, by simp [show s.readFutures = _ from h]⟩
  | finish pre post raised h =>
    exact ⟨_, .finish s pre post raised h, hr, hr, by simp [show s.readFutures = _ from h]⟩
  | retrieve pre post j h hj _ =>
    exact ⟨_, .retrieve s pre post j h hj (.inl hr), hr, hr,
      by simp [show s.readFutures = _ from h]⟩

theorem retrieveRun_reading (hr : s.phase = .reading)
    (h : Relation.ReflTransGen (RetrieveStep N) s s') : s'.phase = .reading := by
  induction h with
  | refl => exact hr
  | tail _ step _ => exact step.2.2.1

/-- **Retrieving alone drains the engine.**  From a state of a run in the reading phase, once the
producer stops reading, every interleaving of worker steps with retrievals of
`read_get_completed` is finite, and a state it reaches from which none can go on has no job left
and all `N + READ_QUEUE_LENGTH` permits back in the semaphore. -/
theorem retrieval_drains (hN : 0 < N) (hs : Reachable N s) (hr : s.phase = .reading) :
    Acc (fun t u => RetrieveStep N u t) s ∧
      ∀ s', Relation.ReflTransGen (RetrieveStep N) s s' → (∀ s'', ¬ RetrieveStep N s' s'') →
        s'.readFutures = [] ∧ s'.permits = N + readQueueLength := by
  refine ⟨acc_retrieveStep s, fun s' hrun hstop => ?_⟩
  have hi := readInv_run (hs.trans (hrun.mono fun _ _ h => h.1))
  have he : s'.readFutures = [] := by
    by_contra hne
    obtain ⟨s'', h⟩ := retrieve_progress hi hN (retrieveRun_reading hr hrun) hne
    exact hstop s'' h
  have hp := hi.permits_add_holders
  rw [he, holders_nil, Nat.add_zero] at hp
  exact ⟨he, hp⟩

theorem retrieval_drains_sevenReads :
    0 < 1 ∧ Reachable 1 sevenReads ∧ sevenReads.phase = .reading ∧
      (Acc (fun t u => RetrieveStep 1 u t) sevenReads ∧
        ∀ s', Relation.ReflTransGen (RetrieveStep 1) sevenReads s' →
          (∀ s'', ¬ RetrieveStep 1 s' s'') →
          s'.readFutures = [] ∧ s'.permits = 1 + readQueueLength) :=
  ⟨Nat.one_pos, reads_unbounded 7, rfl, retrieval_drains Nat.one_pos (reads_unbounded 7) rfl⟩

end Retrieve

end Benji.IO
