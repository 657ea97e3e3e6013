import Benji.IO.ReadEngine

/-!
# Benji.IO.Close — `close` ends, whatever the workers do

Once `close()` is called the producer submits nothing more.  Every step from then on, of the
producer or of a worker, lowers `closeMeasure` (`closeMeasure_lt`), so every interleaving of
worker steps with the cancel loop, the drain and `shutdown()` is finite (`acc_of_closing`).  No
such state is stuck before `shutdown()` (`close_progress`): when every worker waits in
`acquire`, the permits they wait for are held by finished jobs the drain can retrieve.  After
`shutdown()` no job is left and every permit is back (`closed_drained`).  `close_drains`
collects these with the permit accounting of `readInv_run`.
-/

namespace Benji.IO

/-- The steps a job has left before it is retrieved. -/
def JobState.weight : JobState → Nat
  | queued => 4
  | waiting => 3
  | running => 2
  | done _ => 1
  | cancelled => 1

/-- The steps the jobs of a list have left. -/
def jobsWeight : List JobState → Nat
  | [] => 0
  | j :: l => j.weight + jobsWeight l

@[simp] theorem jobsWeight_append (l l' : List JobState) :
    jobsWeight (l ++ l') = jobsWeight l + jobsWeight l' := by
  induction l with
  | nil => simp [jobsWeight]
  | cons j l ih => simp [jobsWeight, ih]; omega

/-- The producer steps left, for `n` jobs: the cancel loop, the drain, `shutdown()`. -/
def Phase.weight (n : Nat) : Phase → Nat
  | reading => 0
  | cancelling k => n - k + 2
  | draining => 1
  | closed => 0

/-- What is left of `close`. -/
def closeMeasure (s : Engine) : Nat :=
  jobsWeight s.readFutures + s.phase.weight s.readFutures.length

/-! ### Termination -/

section Termination

variable {N : Nat} {s s' : Engine}

theorem closeMeasure_lt (hs : ReadStep N s s') (hc : s.phase ≠ .reading) :
    s'.phase ≠ .reading ∧ closeMeasure s' < closeMeasure s := by
  cases hs with
  | read h | close h => exact absurd h hc
  | dispatch pre post h | acquire pre post h | finish pre post _ h =>
    refine ⟨hc, ?_⟩
    simp only [closeMeasure, h, jobsWeight_append, jobsWeight, List.length_append,
      List.length_cons, JobState.weight]
    omega
  | retrieve pre post j h hj hp =>
    have hd : s.phase = .draining := hp.resolve_left hc
    refine ⟨by simp [hd], ?_⟩
    cases j <;> simp [closeMeasure, h, hd, Phase.weight, jobsWeight, JobState.weight] at hj ⊢
  | cancel pre post j h hk =>
    refine ⟨by simp, ?_⟩
    simp only [closeMeasure, h, hk, jobsWeight_append, jobsWeight, List.length_append,
      List.length_cons, Phase.weight]
    cases j <;> simp [JobState.weight] <;> omega
  | drain k h => simp [closeMeasure, h, Phase.weight]
  | shutdown h => simp [closeMeasure, h, Phase.weight]

/-- **`close` terminates**: from a state past `close()`, there is no infinite run. -/
theorem acc_of_closing : ∀ (n : Nat) (s : Engine), closeMeasure s < n → s.phase ≠ .reading →
    Acc (fun t u => ReadStep N u t) s
  | 0, _, h, _ => absurd h (Nat.not_lt_zero _)
  | n + 1, s, h, hc => .intro s fun t ht =>
    have ⟨hc', hlt⟩ := closeMeasure_lt ht hc
    acc_of_closing n t (by omega) hc'

end Termination

/-! ### Progress -/

section Progress

variable {N : Nat} {s : Engine}

/-- The first occurrence of `a` in `l`. -/
theorem exists_first_of_mem {a : JobState} : ∀ {l : List JobState}, a ∈ l →
    ∃ pre post, l = pre ++ a :: post ∧ a ∉ pre
  | b :: l, h =>
    if hb : b = a then ⟨[], l, by simp [hb], by simp⟩
    else
      have ⟨pre, post, h1, h2⟩ := exists_first_of_mem (List.mem_of_ne_of_mem (Ne.symm hb) h)
      ⟨b :: pre, post, by simp [h1], by simp [h2, Ne.symm hb]⟩

theorem holders_eq_zero {l : List JobState} (h : ∀ j ∈ l, j.holdsPermit = false) :
    holders l = 0 :=
  List.countP_eq_zero.mpr fun j hj => Bool.eq_false_iff.mp (h j hj)

theorem onWorkers_eq_zero {l : List JobState} (h : ∀ j ∈ l, j.onWorker = false) :
    onWorkers l = 0 :=
  List.countP_eq_zero.mpr fun j hj => Bool.eq_false_iff.mp (h j hj)

/-- While draining, some job can move: a completed one is retrieved, a running one finishes, a
waiting one acquires, or a worker takes the first queued one.  The one state where none can,
every worker waiting with no permit left, would need `N + READ_QUEUE_LENGTH` holders, and
holders are running or completed. -/
theorem draining_progress (hi : ReadInv N s) (hN : 0 < N) (hd : s.phase = .draining)
    (hne : s.readFutures ≠ []) : ∃ s', ReadStep N s s' := by
  by_cases hc : ∃ j ∈ s.readFutures, j.completed
  · obtain ⟨j, hj, hjc⟩ := hc
    obtain ⟨pre, post, h⟩ := List.append_of_mem hj
    exact ⟨_, .retrieve s pre post j h hjc (.inr hd)⟩
  push_neg at hc
  by_cases hr : JobState.running ∈ s.readFutures
  · obtain ⟨pre, post, h⟩ := List.append_of_mem hr
    exact ⟨_, .finish s pre post false h⟩
  have hnone : holders s.readFutures = 0 := holders_eq_zero fun j hj => by
    have := hc j hj
    cases j <;> simp_all
  have hpos : 0 < s.permits := by
    have := hi.permits_add_holders
    simp only [readQueueLength] at this
    omega
  by_cases hw : JobState.waiting ∈ s.readFutures
  · obtain ⟨pre, post, h⟩ := List.append_of_mem hw
    exact ⟨_, .acquire s pre post h hpos⟩
  obtain ⟨j, hj⟩ := List.exists_mem_of_ne_nil _ hne
  have hq : JobState.queued ∈ s.readFutures := by
    have := hc j hj
    cases j <;> simp_all
  obtain ⟨pre, post, h, hfirst⟩ := exists_first_of_mem hq
  have hw0 : onWorkers s.readFutures = 0 := onWorkers_eq_zero fun j hj => by
    cases j <;> simp_all
  exact ⟨_, .dispatch s pre post h hfirst (by omega)⟩

/-- **`close` is never stuck** before `shutdown()`. -/
theorem close_progress (hi : ReadInv N s) (hN : 0 < N) (hc : s.phase ≠ .reading)
    (hcl : s.phase ≠ .closed) : ∃ s', ReadStep N s s' := by
  cases hp : s.phase with
  | reading => exact absurd hp hc
  | closed => exact absurd hp hcl
  | cancelling k =>
    by_cases hk : k < s.readFutures.length
    · have h : s.readFutures = s.readFutures.take k ++ s.readFutures[k] :: s.readFutures.drop (k + 1) := by
        rw [← List.drop_eq_getElem_cons hk, List.take_append_drop]
      have hlen : (s.readFutures.take k).length = k := List.length_take_of_le hk.le
      exact ⟨_, .cancel s _ _ _ h (by rw [hlen, hp])⟩
    · exact ⟨_, .drain s k hp (by omega)⟩
  | draining =>
    by_cases he : s.readFutures = []
    · exact ⟨_, .shutdown s hp he⟩
    · exact draining_progress hi hN hp he

end Progress

/-! ### After `shutdown()` -/

section Closed

variable {N : Nat} {s s' : Engine}

theorem closed_step (hs : ReadStep N s s') (hcl : s'.phase = .closed) (hi : s.phase = .closed →
    s.readFutures = []) : s'.readFutures = [] := by
  cases hs with
  | shutdown _ he => exact he
  | read h | close h => simp [h] at hcl
  | cancel | drain => simp at hcl
  | dispatch pre post h | acquire pre post h | finish pre post _ h =>
    simp [hi hcl] at h
  | retrieve pre post j h _ hp =>
    rcases hp with hp | hp <;> simp [hp] at hcl

/-- No job is left after `shutdown()`. -/
theorem closed_run (hs : Reachable N s) : s.phase = .closed → s.readFutures = [] := by
  induction hs with
  | refl => simp [openR]
  | tail _ step ih => exact fun hcl => closed_step step hcl ih

end Closed

/-- What `close` guarantees from a state of a run. -/
structure CloseRun (N : Nat) (s : Engine) : Prop where
  permits_add_holders : s.permits + holders s.readFutures = N + readQueueLength
  progress : s.phase ≠ .reading → s.phase ≠ .closed → ∃ s', ReadStep N s s'
  terminates : s.phase ≠ .reading → Acc (fun t u => ReadStep N u t) s
  closed_drained : s.phase = .closed → s.readFutures = [] ∧ s.permits = N + readQueueLength

/-- **`close` drains the engine**: along every run, the permits plus the jobs holding one are
`N + READ_QUEUE_LENGTH`; once `close()` is called every interleaving is finite and never stuck
before `shutdown()`, which leaves no job and every permit back in the semaphore. -/
theorem close_drains {N : Nat} {s : Engine} (hN : 0 < N) (hs : Reachable N s) : CloseRun N s where
  permits_add_holders := (readInv_run hs).permits_add_holders
  progress := close_progress (readInv_run hs) hN
  terminates := acc_of_closing _ s (Nat.lt_succ_self _)
  closed_drained hcl := by
    have he := closed_run hs hcl
    have hp := (readInv_run hs).permits_add_holders
    simp only [he, holders_nil, Nat.add_zero] at hp
    exact ⟨he, hp⟩

theorem close_drains_after_seven_reads :
    0 < 1 ∧ Reachable 1 { sevenReads with phase := .cancelling 0 } ∧
      CloseRun 1 { sevenReads with phase := .cancelling 0 } :=
  ⟨Nat.one_pos, (reads_unbounded 7).tail (.close _ rfl),
    close_drains Nat.one_pos ((reads_unbounded 7).tail (.close _ rfl))⟩

end Benji.IO
