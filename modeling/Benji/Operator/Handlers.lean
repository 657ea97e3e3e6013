import Benji.Operator.StatusList

/-!
# Benji.Operator.Handlers — two `track_job_status` handlers on one parent

Two handlers, `false` and `true`, run for events of two jobs with the same parent.  Each reads
the parent (`get_parent`), computes `build_resource_status_dependant_jobs` from the status it
read, and writes the result with `patch_parent`, whose merge patch replaces
`status.dependantJobs` as a whole.  Nothing orders the two read-modify-write sequences, so
`HandlerStep` interleaves their four steps freely.

`handlersInv_run` describes every reachable state by phase: nobody patched, one patched, both
patched.  After both, the parent holds the last patcher's update of the list that handler read,
which is the initial list or the first patcher's result (`handlers_final_entries`); in the
first case the first patcher's entry is lost (`handlers_lose_update`).
-/

namespace Benji.Operator

/-- The parent's `dependantJobs` on the API server, what each handler read (`none`: not yet),
and whether it has patched. -/
structure Handlers where
  parent : List StatusEntry
  read : Bool → Option (List StatusEntry)
  patched : Bool → Bool

/-- Nothing read, nothing patched. -/
def Handlers.init (l : List StatusEntry) : Handlers := ⟨l, fun _ => none, fun _ => false⟩

/-- One step of one handler. -/
inductive HandlerStep (ev : Bool → JobEvent) : Handlers → Handlers → Prop
  | getParent (s : Handlers) (i : Bool) (h : s.read i = none) :
      HandlerStep ev s { s with read := Function.update s.read i (some s.parent) }
  | patchParent (s : Handlers) (i : Bool) (st l : List StatusEntry) (h : s.read i = some st)
      (hp : s.patched i = false) (hl : applyJobEvent st (ev i) = .ok l) :
      HandlerStep ev s { s with parent := l, patched := Function.update s.patched i true }

section Runs

variable {ev : Bool → JobEvent} {l0 : List StatusEntry}

/-- The reachable states, by phase. -/
def HandlersInv (ev : Bool → JobEvent) (l0 : List StatusEntry) (s : Handlers) : Prop :=
  (∀ i, s.patched i = false ∧ (s.read i = none ∨ s.read i = some l0)) ∧ s.parent = l0 ∨
  (∃ i, s.patched i = true ∧ s.patched (!i) = false ∧ s.read i = some l0 ∧
    s.parent = nextStatusList l0 (ev i) ∧
    (s.read (!i) = none ∨ s.read (!i) = some l0 ∨ s.read (!i) = some (nextStatusList l0 (ev i)))) ∨
  (∃ i, s.patched i = true ∧ s.patched (!i) = true ∧
    (s.parent = nextStatusList (nextStatusList l0 (ev !i)) (ev i) ∨
      s.parent = nextStatusList l0 (ev i)))

theorem update_not_self {α : Type} (f : Bool → α) (i : Bool) (a : α) :
    Function.update f i a (!i) = f (!i) :=
  Function.update_noteq (by cases i <;> decide) a f

theorem handlersInv_step {s s' : Handlers} (h : HandlersInv ev l0 s) (hs : HandlerStep ev s s') :
    HandlersInv ev l0 s' := by
  cases hs with
  | getParent j hr =>
    rcases h with ⟨h0, hp⟩ | ⟨i, hi, hni, hri, hp, hrn⟩ | ⟨i, hi, hni, hp⟩
    · refine .inl ⟨fun k => ⟨(h0 k).1, ?_⟩, hp⟩
      by_cases hk : k = j
      · subst hk; simp [hp]
      · simpa [Function.update_noteq hk] using (h0 k).2
    · have hj : j = !i := by cases i <;> cases j <;> simp_all
      subst hj
      refine .inr (.inl ⟨i, hi, hni, ?_, hp, .inr (.inr (by simp [hp]))⟩)
      simpa [update_not_self] using hri
    · exact .inr (.inr ⟨i, hi, hni, hp⟩)
  | patchParent j st l hr hpj hl =>
    rw [applyJobEvent_eq, Except.ok.injEq] at hl
    subst hl
    rcases h with ⟨h0, hp⟩ | ⟨i, hi, hni, hri, hp, hrn⟩ | ⟨i, hi, hni, hp⟩
    · have hst : st = l0 := by simpa [hr] using (h0 j).2
      subst hst
      refine .inr (.inl ⟨j, by simp, by simpa [update_not_self] using (h0 (!j)).1, hr, rfl, ?_⟩)
      rcases (h0 (!j)).2 with h1 | h1 <;> simp [h1]
    · have hj : j = !i := by cases i <;> cases j <;> simp_all
      subst hj
      refine .inr (.inr ⟨!i, by simp, by simpa [update_not_self] using hi, ?_⟩)
      rcases hrn with h1 | h1 | h1 <;> rw [h1] at hr <;> cases hr <;> simp
    · cases j <;> cases i <;> simp_all

theorem handlersInv_run {s : Handlers}
    (hs : Relation.ReflTransGen (HandlerStep ev) (Handlers.init l0) s) : HandlersInv ev l0 s := by
  induction hs with
  | refl => exact .inl ⟨fun _ => ⟨rfl, .inl rfl⟩, rfl⟩
  | tail _ step ih => exact handlersInv_step ih step

/-- **After both handlers patched**, the parent holds the last patcher's update of the list it
read: the first patcher's result, or the initial list.  The last patcher's job has an entry; the
other job has one exactly in the first case or when the parent already had one. -/
def LastPatchWins (ev : Bool → JobEvent) (l0 : List StatusEntry) (s : Handlers) : Prop :=
  ∃ i, (s.parent = nextStatusList (nextStatusList l0 (ev !i)) (ev i) ∨
      s.parent = nextStatusList l0 (ev i)) ∧ (ev i).uid ∈ uids s.parent ∧
    ((ev !i).uid ∈ uids s.parent ↔
      s.parent = nextStatusList (nextStatusList l0 (ev !i)) (ev i) ∨ (ev !i).uid ∈ uids l0)

theorem handlers_final_entries (hd : ∀ i, (ev i).isDelete = false)
    (hu : (ev false).uid ≠ (ev true).uid) {s : Handlers}
    (hs : Relation.ReflTransGen (HandlerStep ev) (Handlers.init l0) s)
    (hfin : s.patched false = true ∧ s.patched true = true) : LastPatchWins ev l0 s := by
  have hne : ∀ i, (ev !i).uid ≠ (ev i).uid := fun i => by cases i <;> simp_all [Ne.symm hu]
  have hmem : ∀ i l, (ev i).uid ∈ uids (nextStatusList l (ev i)) := fun i l => by
    rw [mem_uids_iff_lookup, lookup_nextStatusList]; simp [hd]
  have hkeep : ∀ i l, (ev !i).uid ∈ uids (nextStatusList l (ev i)) ↔ (ev !i).uid ∈ uids l :=
    fun i l => by simp only [mem_uids_iff_lookup, lookup_nextStatusList, if_neg (hne i)]
  rcases handlersInv_run hs with ⟨h0, -⟩ | ⟨i, hi, hni, -⟩ | ⟨i, -, -, hp⟩
  · simp_all [(h0 false).1]
  · cases i <;> simp_all
  · refine ⟨i, hp, ?_, ?_⟩
    · rcases hp with hp | hp <;> rw [hp] <;> exact hmem i _
    · rcases hp with hp | hp <;> rw [hp, hkeep]
      · have := hmem (!i) l0
        simp only [Bool.not_not] at this
        exact ⟨fun _ => .inl rfl, fun _ => this⟩
      · refine ⟨.inr, ?_⟩
        rintro (he | h)
        · have h1 := (hkeep i (nextStatusList l0 (ev !i))).mpr (hmem (!i) l0)
          rwa [← he, hkeep] at h1
        · exact h

/-- Events of two jobs `a` and `b`. -/
def twoJobs (i : Bool) : JobEvent := if i then jobEventOf "create" "b" else jobEventOf "create" "a"

/-- Both handlers read the empty parent, then both patch. -/
def lostUpdate : Handlers :=
  ⟨nextStatusList [] (twoJobs true),
    Function.update (Function.update (fun _ => none) false (some [])) true (some []),
    Function.update (Function.update (fun _ => false) false true) true true⟩

theorem lostUpdate_reachable :
    Relation.ReflTransGen (HandlerStep twoJobs) (Handlers.init []) lostUpdate :=
  .tail (.tail (.tail (.single (.getParent _ false rfl)) (.getParent _ true rfl))
    (.patchParent _ false [] _ rfl rfl rfl)) (.patchParent _ true [] _ rfl rfl rfl)

theorem handlers_final_entries_lostUpdate :
    (∀ i, (twoJobs i).isDelete = false) ∧ (twoJobs false).uid ≠ (twoJobs true).uid ∧
      (lostUpdate.patched false = true ∧ lostUpdate.patched true = true) ∧
      LastPatchWins twoJobs [] lostUpdate :=
  ⟨by decide, by decide, ⟨rfl, rfl⟩,
    handlers_final_entries (by decide) (by decide) lostUpdate_reachable ⟨rfl, rfl⟩⟩

/-- **A lost update**: when both handlers read before either patches, the parent ends with an
entry for job `b` only. -/
theorem handlers_lose_update :
    ¬ ∀ s, Relation.ReflTransGen (HandlerStep twoJobs) (Handlers.init []) s →
      s.patched false = true ∧ s.patched true = true →
      (twoJobs false).uid ∈ uids s.parent ∧ (twoJobs true).uid ∈ uids s.parent := fun h =>
  absurd (h _ lostUpdate_reachable ⟨rfl, rfl⟩).1 (by decide)

end Runs

end Benji.Operator
