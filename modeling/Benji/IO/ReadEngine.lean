import Mathlib.Data.List.Basic
import Mathlib.Logic.Relation

/-!
# Benji.IO.ReadEngine — the asynchronous read engine of `IOBase`

`open_r` starts a `ThreadPoolExecutor` of `simultaneousReads = N` workers, an empty
`_read_futures` and a `BoundedSemaphore(N + READ_QUEUE_LENGTH)`.  `read(block)` submits
`read_with_acquire`, which acquires a permit on the worker and then runs `_read`;
`read_get_completed` (`benji.utils.future_results_as_completed`) retrieves completed jobs and
releases a permit for each one that was not cancelled.  `close` cancels every job, drains the
rest and shuts the executor down.

`ReadStep` is one step of the producer (`read`, a retrieval, a step of `close`) or of a worker.
A job is its position in `_read_futures`: a step on a job splits the list around it.

* `readInv_run`: the permits plus the jobs holding one are always `N + READ_QUEUE_LENGTH`, and
  at most `N` jobs are on workers;
* `reads_unbounded`: `read` never waits, so any number of reads can be outstanding;
* `permit_holders_bounded`: the bound holds for the jobs holding a permit, and once that many
  are held no step takes another; with no retrieval the workers reach that bound
  (`reads_finished`).
-/

namespace Benji.IO

/-- `IOBase.READ_QUEUE_LENGTH`. -/
def readQueueLength : Nat := 5

/-- A job of `_read_futures`. -/
inductive JobState where
  /-- In the executor's queue. -/
  | queued
  /-- On a worker, in `self._read_semaphore.acquire()`. -/
  | waiting
  /-- On a worker, in `self._read(block)`. -/
  | running
  /-- Finished, with data or (`raised`) an exception. -/
  | done (raised : Bool)
  /-- `Future.cancel` succeeded: it was still queued. -/
  | cancelled
  deriving DecidableEq, Repr

namespace JobState

/-- Acquired a permit that no retrieval has released. -/
@[simp] def holdsPermit : JobState → Bool
  | running | done _ => true
  | _ => false

/-- Occupies a worker thread. -/
@[simp] def onWorker : JobState → Bool
  | waiting | running => true
  | _ => false

/-- `Future.done()`: what `as_completed` yields. -/
@[simp] def completed : JobState → Bool
  | done _ | cancelled => true
  | _ => false

end JobState

/-- Where the producer thread is: reading (between `open_r` and `close`), in the cancel loop of
`close` at index `k`, draining `read_get_completed()`, or past `shutdown()`. -/
inductive Phase where
  | reading
  | cancelling (k : Nat)
  | draining
  | closed
  deriving DecidableEq, Repr

/-- The permits of `_read_semaphore`, the jobs of `_read_futures` in submission order, and the
producer's phase. -/
structure Engine where
  permits : Nat
  readFutures : List JobState
  phase : Phase
  deriving DecidableEq, Repr

/-- `open_r`. -/
def openR (simultaneousReads : Nat) : Engine :=
  ⟨simultaneousReads + readQueueLength, [], .reading⟩

def holders (l : List JobState) : Nat := l.countP (·.holdsPermit)

def onWorkers (l : List JobState) : Nat := l.countP (·.onWorker)

/-- One step of the producer or of a worker, for `simultaneousReads = N`. -/
inductive ReadStep (N : Nat) : Engine → Engine → Prop
  /-- `read(block)` with `sync=False`: `executor.submit` appends a queued job, and never waits. -/
  | read (s : Engine) (h : s.phase = .reading) :
      ReadStep N s { s with readFutures := s.readFutures ++ [.queued] }
  /-- A free worker takes the first queued job of the executor's queue. -/
  | dispatch (s : Engine) (pre post : List JobState) (h : s.readFutures = pre ++ .queued :: post)
      (hfirst : JobState.queued ∉ pre) (hw : onWorkers s.readFutures < N) :
      ReadStep N s { s with readFutures := pre ++ .waiting :: post }
  /-- `self._read_semaphore.acquire()` returns. -/
  | acquire (s : Engine) (pre post : List JobState) (h : s.readFutures = pre ++ .waiting :: post)
      (hp : 0 < s.permits) :
      ReadStep N s { s with permits := s.permits - 1, readFutures := pre ++ .running :: post }
  /-- `self._read(block)` returns data or raises. -/
  | finish (s : Engine) (pre post : List JobState) (raised : Bool)
      (h : s.readFutures = pre ++ .running :: post) :
      ReadStep N s { s with readFutures := pre ++ .done raised :: post }
  /-- Modelled from the spec: `benji.utils.future_results_as_completed` is not among the
  sources.  It yields a completed job, in any order: `futures.remove(future)`, and
  `semaphore.release()` unless `future.cancelled()`. -/
  | retrieve (s : Engine) (pre post : List JobState) (j : JobState)
      (h : s.readFutures = pre ++ j :: post) (hj : j.completed)
      (hp : s.phase = .reading ∨ s.phase = .draining) :
      ReadStep N s
        { s with
          permits := if j = .cancelled then s.permits else s.permits + 1
          readFutures := pre ++ post }
  /-- `close()` is called. -/
  | close (s : Engine) (h : s.phase = .reading) : ReadStep N s { s with phase := .cancelling 0 }
  /-- `future.cancel()` on the job at index `k`: it succeeds on a queued job only. -/
  | cancel (s : Engine) (pre post : List JobState) (j : JobState)
      (h : s.readFutures = pre ++ j :: post) (hk : s.phase = .cancelling pre.length) :
      ReadStep N s
        { s with
          readFutures := pre ++ (if j = .queued then .cancelled else j) :: post
          phase := .cancelling (pre.length + 1) }
  /-- The cancel loop is over: `for result in self.read_get_completed()`. -/
  | drain (s : Engine) (k : Nat) (h : s.phase = .cancelling k) (hk : s.readFutures.length ≤ k) :
      ReadStep N s { s with phase := .draining }
  /-- The drain has retrieved every job: `self._read_executor.shutdown()`. -/
  | shutdown (s : Engine) (h : s.phase = .draining) (he : s.readFutures = []) :
      ReadStep N s { s with phase := .closed }

/-- The states of a run after `open_r`. -/
def Reachable (N : Nat) (s : Engine) : Prop := Relation.ReflTransGen (ReadStep N) (openR N) s

/-! ### Counting jobs -/

section Counts

variable {l l' : List JobState} {a : JobState}

@[simp] theorem holders_nil : holders [] = 0 := rfl

@[simp] theorem holders_append : holders (l ++ l') = holders l + holders l' :=
  List.countP_append _ _ _

@[simp] theorem holders_cons : holders (a :: l) = holders l + if a.holdsPermit then 1 else 0 :=
  List.countP_cons _ _ _

@[simp] theorem onWorkers_append : onWorkers (l ++ l') = onWorkers l + onWorkers l' :=
  List.countP_append _ _ _

@[simp] theorem onWorkers_cons : onWorkers (a :: l) = onWorkers l + if a.onWorker then 1 else 0 :=
  List.countP_cons _ _ _

end Counts

/-! ### Permit accounting -/

section Invariant

variable {N : Nat} {s s' : Engine}

/-- **The invariant of the engine**: every permit is in the semaphore or held by a running or
finished job, and at most `N` jobs are on workers. -/
structure ReadInv (N : Nat) (s : Engine) : Prop where
  permits_add_holders : s.permits + holders s.readFutures = N + readQueueLength
  onWorkers_le : onWorkers s.readFutures ≤ N

theorem readInv_openR : ReadInv N (openR N) := ⟨rfl, Nat.zero_le N⟩

theorem readInv_step (hi : ReadInv N s) (hs : ReadStep N s s') : ReadInv N s' := by
  obtain ⟨hp, hw⟩ := hi
  cases hs with
  | read => exact ⟨by simpa using hp, by simpa using hw⟩
  | dispatch pre post h _ hlt =>
    simp only [h, holders_append, holders_cons, onWorkers_append, onWorkers_cons] at hp hlt
    exact ⟨by simpa using hp, by simp at hlt ⊢; omega⟩
  | acquire pre post h hpos =>
    simp only [h, holders_append, holders_cons, onWorkers_append, onWorkers_cons] at hp hw
    exact ⟨by simp at hp ⊢; omega, by simpa using hw⟩
  | finish pre post raised h =>
    simp only [h, holders_append, holders_cons, onWorkers_append, onWorkers_cons] at hp hw
    exact ⟨by simpa using hp, by simp at hw ⊢; omega⟩
  | retrieve pre post j h hj =>
    simp only [h, holders_append, holders_cons, onWorkers_append, onWorkers_cons] at hp hw
    cases j <;> simp at hj hp hw <;> exact ⟨by simp; omega, by simpa using hw⟩
  | close => exact ⟨hp, hw⟩
  | cancel pre post j h =>
    simp only [h, holders_append, holders_cons, onWorkers_append, onWorkers_cons] at hp hw
    cases j <;> simp at hp hw <;> exact ⟨by simp; omega, by simp; omega⟩
  | drain => exact ⟨hp, hw⟩
  | shutdown => exact ⟨hp, hw⟩

theorem readInv_run (hs : Reachable N s) : ReadInv N s := by
  induction hs with
  | refl => exact readInv_openR
  | tail _ step ih => exact readInv_step ih step

/-- Only `acquire` adds a permit holder, and it needs a permit. -/
theorem holders_step (hs : ReadStep N s s') :
    holders s'.readFutures ≤ holders s.readFutures ∨
      0 < s.permits ∧ holders s'.readFutures = holders s.readFutures + 1 := by
  cases hs with
  | read => simp
  | dispatch pre post h | finish pre post _ h => simp [h]
  | acquire pre post h hp => exact .inr ⟨hp, by simp [h]; omega⟩
  | retrieve pre post j h => simp [h]
  | cancel pre post j h => cases j <;> simp [h]
  | close | drain | shutdown => simp

/-- **`BoundedSemaphore.release` never raises `ValueError`**: a retrieval releases a permit only
for a finished job, which holds one, so the semaphore is below its initial value. -/
theorem release_within_bound {pre post : List JobState} {raised : Bool} (hs : Reachable N s)
    (h : s.readFutures = pre ++ .done raised :: post) : s.permits + 1 ≤ N + readQueueLength := by
  have hp := (readInv_run hs).permits_add_holders
  simp only [h, holders_append, holders_cons, JobState.holdsPermit, if_true] at hp
  omega

/-- One read with one worker, finished and not retrieved yet. -/
def oneReadDone : Engine := ⟨readQueueLength, [.done false], .reading⟩

theorem oneReadDone_reachable : Reachable 1 oneReadDone :=
  (((Relation.ReflTransGen.single (.read _ rfl)).tail (.dispatch _ [] [] rfl (by simp) (by decide))).tail
    (.acquire _ [] [] rfl (by decide))).tail (.finish _ [] [] false rfl)

theorem release_within_bound_oneReadDone :
    Reachable 1 oneReadDone ∧ oneReadDone.readFutures = [] ++ .done false :: [] ∧
      oneReadDone.permits + 1 ≤ 1 + readQueueLength :=
  ⟨oneReadDone_reachable, rfl, release_within_bound oneReadDone_reachable
    (show oneReadDone.readFutures = [] ++ .done false :: [] from rfl)⟩

end Invariant

/-! ### Backpressure -/

section Backpressure

variable {N : Nat} {s : Engine}

/-- `read` never waits: `k` reads in a row after `open_r` leave `k` jobs outstanding. -/
theorem reads_unbounded (k : Nat) :
    Reachable N ⟨N + readQueueLength, List.replicate k .queued, .reading⟩ := by
  induction k with
  | zero => exact .refl
  | succ k ih => simpa [List.replicate_succ'] using ih.tail (.read _ rfl)

/-- Seven reads after `open_r` with one worker, and no drain. -/
def sevenReads : Engine := ⟨1 + readQueueLength, List.replicate 7 .queued, .reading⟩

/-- **Seven reads with one worker and no drain**: seven jobs are outstanding, one more than
`N + READ_QUEUE_LENGTH`. -/
theorem outstanding_reads_exceed_bound :
    ¬ ∀ s, Reachable 1 s → s.readFutures.length ≤ 1 + readQueueLength := fun h =>
  absurd (h sevenReads (reads_unbounded 7)) (by decide)

/-- **The bound is on the jobs holding a permit**: at most `N + READ_QUEUE_LENGTH` jobs are
running or finished and not retrieved; `read` is always enabled while reading; and once that
many permits are held, no step takes another, so a worker waits in `acquire` until a retrieval. -/
theorem permit_holders_bounded (hs : Reachable N s) :
    holders s.readFutures ≤ N + readQueueLength ∧
      (s.phase = .reading → ReadStep N s { s with readFutures := s.readFutures ++ [.queued] }) ∧
      (holders s.readFutures = N + readQueueLength →
        ∀ s', ReadStep N s s' → holders s'.readFutures ≤ holders s.readFutures) := by
  have hp := (readInv_run hs).permits_add_holders
  refine ⟨by omega, .read s, fun hfull s' hs' => ?_⟩
  rcases holders_step hs' with h | ⟨hpos, -⟩
  · exact h
  · omega

/-- A worker runs the first queued job to completion: it takes the job, acquires a permit and
finishes `_read`. -/
theorem Reachable.runNext {p : Nat} {D Q : List JobState}
    (hs : Reachable N ⟨p + 1, D ++ .queued :: Q, .reading⟩) (hD : JobState.queued ∉ D)
    (hw : onWorkers (D ++ .queued :: Q) < N) : Reachable N ⟨p, D ++ .done false :: Q, .reading⟩ :=
  ((hs.tail (.dispatch _ D Q rfl hD hw)).tail (.acquire _ D Q rfl (Nat.succ_pos p))).tail
    (.finish _ D Q false rfl)

/-- With no retrieval, the workers can finish `k ≤ N + READ_QUEUE_LENGTH` reads one after
another, each keeping the permit it took. -/
theorem reads_finished (hN : 0 < N) (m : Nat) {k : Nat} (hk : k ≤ N + readQueueLength) :
    Reachable N ⟨N + readQueueLength - k,
      List.replicate k (.done false) ++ List.replicate m .queued, .reading⟩ := by
  induction k generalizing m with
  | zero => exact reads_unbounded m
  | succ k ih =>
    have h := ih (m + 1) (by omega)
    rw [show N + readQueueLength - k = N + readQueueLength - (k + 1) + 1 by omega] at h
    rw [List.replicate_succ', List.append_assoc]
    exact h.runNext (by simp [List.mem_replicate]) (by simpa [onWorkers, List.countP_replicate] using hN)

/-- One worker: six reads finished and not retrieved, holding every permit, and a seventh on
the worker, waiting in `acquire`. -/
def sixDoneOneWaiting : Engine := ⟨0, List.replicate 6 (.done false) ++ [.waiting], .reading⟩

theorem sixDoneOneWaiting_reachable : Reachable 1 sixDoneOneWaiting :=
  (reads_finished Nat.one_pos 1 (k := 6) (by decide)).tail
    (.dispatch _ _ [] rfl (by decide) (by decide))

theorem permit_holders_bounded_sixDone :
    Reachable 1 sixDoneOneWaiting ∧
      (holders sixDoneOneWaiting.readFutures ≤ 1 + readQueueLength ∧
        (sixDoneOneWaiting.phase = .reading → ReadStep 1 sixDoneOneWaiting
          { sixDoneOneWaiting with readFutures := sixDoneOneWaiting.readFutures ++ [.queued] }) ∧
        (holders sixDoneOneWaiting.readFutures = 1 + readQueueLength →
          ∀ s', ReadStep 1 sixDoneOneWaiting s' →
            holders s'.readFutures ≤ holders sixDoneOneWaiting.readFutures)) ∧
      holders sixDoneOneWaiting.readFutures = 1 + readQueueLength :=
  ⟨sixDoneOneWaiting_reachable, permit_holders_bounded sixDoneOneWaiting_reachable, by decide⟩

end Backpressure

end Benji.IO
