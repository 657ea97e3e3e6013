import Benji.Operator.JobStatus

/-!
# Benji.Operator.StatusList — `dependantJobs` is an insertion-ordered map keyed by uid

`lookup l u` is the entry of uid `u`.  One shape lemma per list operation
(`updateStatusList_cases`, `deleteFromStatusList` is a filter), then what each does to the uids,
the lookups and the untouched entries, and last the fold of any event sequence
(`lookup_foldEvents`): a uid's entry is decided by its last event alone.
-/

namespace Benji.Operator

/-- The entry of uid `u`. -/
def lookup (l : List StatusEntry) (u : String) : Option StatusEntry := l.find? (·.uid = u)

/-- The uids of a status list, in order. -/
def uids (l : List StatusEntry) : List String := l.map StatusEntry.uid

section Step

variable {u : String} {e : StatusEntry} {l l' : List StatusEntry} {r : Job} {x : Dict}

@[simp] theorem statusEntry_uid : (statusEntry r x).uid = r.metadata.uid := rfl

theorem mem_uids_iff_lookup : u ∈ uids l ↔ (lookup l u).isSome := by
  simp [uids, lookup, List.find?_isSome]

theorem lookup_eq_none_of_not_mem (h : u ∉ uids l) : lookup l u = none :=
  Option.not_isSome_iff_eq_none.mp (mt mem_uids_iff_lookup.mpr h)

theorem lookup_append (l l' : List StatusEntry) :
    lookup (l ++ l') u = (lookup l u).or (lookup l' u) := List.find?_append

theorem lookup_cons_of_ne (h : e.uid ≠ u) : lookup (e :: l) u = lookup l u := by
  simp [lookup, h]

theorem replaceFirst_eq_none : replaceFirst u e l = none ↔ u ∉ uids l := by
  induction l with
  | nil => simp [replaceFirst, uids]
  | cons v vs ih =>
    by_cases h : v.uid = u
    · simp [replaceFirst, h, uids]
    · simpa [replaceFirst, h, uids, Ne.symm h] using ih

theorem replaceFirst_eq_some (h : replaceFirst u e l = some l') :
    ∃ pre old post, l = pre ++ old :: post ∧ old.uid = u ∧ u ∉ uids pre ∧
      l' = pre ++ e :: post := by
  induction l generalizing l' with
  | nil => simp [replaceFirst] at h
  | cons v vs ih =>
    unfold replaceFirst at h
    split at h
    · cases h; exact ⟨[], v, vs, rfl, ‹_›, by simp [uids], rfl⟩
    · rename_i hv
      obtain ⟨vs', h', rfl⟩ := Option.map_eq_some'.mp h
      obtain ⟨pre, old, post, rfl, ho, hp, rfl⟩ := ih h'
      exact ⟨v :: pre, old, post, rfl, ho, by simp_all [uids, Ne.symm hv], rfl⟩

/-- **What `update_status_list` does**: the first entry of the uid is replaced in place, or the
new entry is appended when there is none. -/
theorem updateStatusList_cases :
    (∃ pre old post, l = pre ++ old :: post ∧ old.uid = r.metadata.uid ∧
      r.metadata.uid ∉ uids pre ∧ updateStatusList l r x = pre ++ statusEntry r x :: post) ∨
    (r.metadata.uid ∉ uids l ∧ updateStatusList l r x = l ++ [statusEntry r x]) := by
  unfold updateStatusList
  cases h : replaceFirst r.metadata.uid (statusEntry r x) l with
  | none => exact .inr ⟨replaceFirst_eq_none.mp h, rfl⟩
  | some l' =>
    obtain ⟨pre, old, post, hl, ho, hp, rfl⟩ := replaceFirst_eq_some h
    exact .inl ⟨pre, old, post, hl, ho, hp, rfl⟩

theorem lookup_updateStatusList :
    lookup (updateStatusList l r x) u =
      if u = r.metadata.uid then some (statusEntry r x) else lookup l u := by
  rcases updateStatusList_cases (l := l) (r := r) (x := x) with
    ⟨pre, old, post, rfl, ho, hp, h⟩ | ⟨hn, h⟩ <;> rw [h, lookup_append]
  · split_ifs with hu
    · subst hu; rw [lookup_eq_none_of_not_mem hp]; simp [lookup]
    · rw [lookup_append, lookup_cons_of_ne (by simpa using Ne.symm hu),
        lookup_cons_of_ne (by rw [ho]; exact Ne.symm hu)]
  · split_ifs with hu
    · subst hu; rw [lookup_eq_none_of_not_mem hn]; simp [lookup]
    · rw [lookup_cons_of_ne (by simpa using Ne.symm hu)]
      simp [lookup]

theorem uids_updateStatusList :
    uids (updateStatusList l r x) =
      if r.metadata.uid ∈ uids l then uids l else uids l ++ [r.metadata.uid] := by
  rcases updateStatusList_cases (l := l) (r := r) (x := x) with
    ⟨pre, old, post, rfl, ho, -, h⟩ | ⟨hn, h⟩ <;> rw [h]
  · rw [if_pos (by simp [uids, ho])]
    simp [uids, ho]
  · rw [if_neg hn]; simp [uids]

/-- Entries of other uids are untouched, and keep their order. -/
theorem filter_updateStatusList :
    (updateStatusList l r x).filter (·.uid ≠ r.metadata.uid) =
      l.filter (·.uid ≠ r.metadata.uid) := by
  rcases updateStatusList_cases (l := l) (r := r) (x := x) with
    ⟨pre, old, post, rfl, ho, -, h⟩ | ⟨-, h⟩ <;> rw [h]
  · simp [List.filter_append, ho]
  · simp [List.filter_append]

theorem uids_deleteFromStatusList :
    uids (deleteFromStatusList l r) = (uids l).filter (· ≠ r.metadata.uid) := by
  simp [uids, deleteFromStatusList, List.filter_map, Function.comp_def]

theorem lookup_deleteFromStatusList :
    lookup (deleteFromStatusList l r) u = if u = r.metadata.uid then none else lookup l u := by
  split_ifs with hu
  · subst hu
    exact lookup_eq_none_of_not_mem (by simp [uids_deleteFromStatusList])
  · simp only [lookup, deleteFromStatusList, List.find?_filter]
    congr 1
    funext v
    by_cases hv : v.uid = u <;> simp [hv, hu, Ne.symm hu]

theorem filter_deleteFromStatusList :
    (deleteFromStatusList l r).filter (·.uid ≠ r.metadata.uid) =
      l.filter (·.uid ≠ r.metadata.uid) := by
  simp [deleteFromStatusList, List.filter_filter]

theorem nodup_updateStatusList (h : (uids l).Nodup) : (uids (updateStatusList l r x)).Nodup := by
  rw [uids_updateStatusList]
  split_ifs with hr
  · exact h
  · exact h.append (List.nodup_singleton _) (by simpa using hr)

theorem nodup_deleteFromStatusList (h : (uids l).Nodup) :
    (uids (deleteFromStatusList l r)).Nodup := by
  rw [uids_deleteFromStatusList]; exact h.filter _

end Step

/-! ### Event sequences -/

/-- A job event as `track_job_status` gets it: its reason and the job body. -/
structure JobEvent where
  reason : String
  body : Job
  deriving DecidableEq, Repr

/-- `reason == 'delete'`. -/
def JobEvent.isDelete (ev : JobEvent) : Bool := ev.reason == "delete"

def JobEvent.uid (ev : JobEvent) : String := ev.body.metadata.uid

/-- One event written into the parent's `dependantJobs`. -/
def applyJobEvent (l : List StatusEntry) (ev : JobEvent) : Except PyError (List StatusEntry) :=
  buildResourceStatusDependantJobs (some l) ev.body ev.isDelete

/-- The events one after another, from the parent's `dependantJobs` (`none`: the key is
missing). -/
def foldJobEvents (dependantJobs : Option (List StatusEntry)) (evs : List JobEvent) :
    Except PyError (List StatusEntry) :=
  evs.foldlM applyJobEvent (dependantJobs.getD [])

/-- The extra data every entry gets (`buildDependantJobStatus_toDict`). -/
def jobExtra : Dict := [(resourceStatusDependantJobsStatus, .str resourceJobStatusPending)]

/-- What one event does, once the extra data is known. -/
def nextStatusList (l : List StatusEntry) (ev : JobEvent) : List StatusEntry :=
  if ev.isDelete then deleteFromStatusList l ev.body else updateStatusList l ev.body jobExtra

/-- The last event of a uid. -/
def lastEvent (evs : List JobEvent) (u : String) : Option JobEvent :=
  (evs.filter (·.uid = u)).getLast?

section Fold

variable {l : List StatusEntry} {ev : JobEvent} {evs : List JobEvent} {u : String}

theorem applyJobEvent_eq : applyJobEvent l ev = .ok (nextStatusList l ev) := by
  unfold applyJobEvent buildResourceStatusDependantJobs nextStatusList
  split_ifs
  · rfl
  · simp only [bind, Except.bind, buildDependantJobStatus_toDict]; rfl

theorem foldlM_applyJobEvent (l : List StatusEntry) :
    evs.foldlM applyJobEvent l = .ok (evs.foldl nextStatusList l) := by
  induction evs generalizing l with
  | nil => rfl
  | cons ev evs ih => simp only [List.foldlM_cons, applyJobEvent_eq, List.foldl_cons, ← ih]; rfl

theorem foldJobEvents_eq (d : Option (List StatusEntry)) :
    foldJobEvents d evs = .ok (evs.foldl nextStatusList (d.getD [])) :=
  foldlM_applyJobEvent _

theorem lookup_nextStatusList :
    lookup (nextStatusList l ev) u =
      if u = ev.uid then (if ev.isDelete then none else some (statusEntry ev.body jobExtra))
      else lookup l u := by
  unfold nextStatusList
  split_ifs <;> simp_all [lookup_deleteFromStatusList, lookup_updateStatusList, JobEvent.uid]

theorem lastEvent_concat :
    lastEvent (evs ++ [ev]) u = if ev.uid = u then some ev else lastEvent evs u := by
  by_cases h : ev.uid = u <;> simp [lastEvent, List.filter_append, h]

/-- **A uid's entry is decided by its last event**: none after a delete, the entry built from
the body otherwise, and the initial one when the uid had no event. -/
theorem lookup_foldl (l : List StatusEntry) :
    lookup (evs.foldl nextStatusList l) u =
      match lastEvent evs u with
      | none => lookup l u
      | some ev => if ev.isDelete then none else some (statusEntry ev.body jobExtra) := by
  induction evs using List.reverseRecOn with
  | nil => rfl
  | append_singleton evs ev ih =>
    rw [List.foldl_append, List.foldl_cons, List.foldl_nil, lookup_nextStatusList,
      lastEvent_concat]
    by_cases h : ev.uid = u
    · simp [h]
    · simp [h, Ne.symm h, ih]

theorem nodup_foldl (l : List StatusEntry) (h : (uids l).Nodup) :
    (uids (evs.foldl nextStatusList l)).Nodup := by
  induction evs generalizing l with
  | nil => exact h
  | cons ev evs ih =>
    refine ih _ ?_
    unfold nextStatusList
    split_ifs
    · exact nodup_deleteFromStatusList h
    · exact nodup_updateStatusList h

theorem lastEvent_eq_none_iff : lastEvent evs u = none ↔ ∀ ev ∈ evs, ev.uid ≠ u := by
  simp [lastEvent, List.getLast?_eq_none_iff, List.filter_eq_nil_iff]

theorem lastEvent_mem {ev : JobEvent} (h : lastEvent evs u = some ev) : ev ∈ evs ∧ ev.uid = u := by
  have := List.mem_of_getLast?_eq_some h
  simpa using this

theorem mem_uids_foldl_iff (l : List StatusEntry) :
    u ∈ uids (evs.foldl nextStatusList l) ↔
      (u ∈ uids l ∨ ∃ ev ∈ evs, ev.uid = u) ∧ ∀ ev, lastEvent evs u = some ev → ev.isDelete = false := by
  rw [mem_uids_iff_lookup, lookup_foldl]
  cases h : lastEvent evs u with
  | none =>
    have := lastEvent_eq_none_iff.mp h
    simp only [mem_uids_iff_lookup]
    exact ⟨fun hl => ⟨.inl hl, by simp⟩, fun ⟨hl, _⟩ => hl.resolve_right fun ⟨ev, hev, hu⟩ =>
      this ev hev hu⟩
  | some ev =>
    obtain ⟨hev, hu⟩ := lastEvent_mem h
    have hex : ∃ ev ∈ evs, ev.uid = u := ⟨ev, hev, hu⟩
    cases hd : ev.isDelete <;> simp [hd, hex]

/-- Entries of other uids than the event's are untouched and keep their order; the event's
entry keeps its place, is appended when new, and goes on a delete. -/
theorem nextStatusList_shape :
    (nextStatusList l ev).filter (·.uid ≠ ev.uid) = l.filter (·.uid ≠ ev.uid) ∧
      uids (nextStatusList l ev) =
        if ev.isDelete then (uids l).filter (· ≠ ev.uid)
        else if ev.uid ∈ uids l then uids l else uids l ++ [ev.uid] := by
  unfold nextStatusList
  split_ifs with hd hm
  · exact ⟨filter_deleteFromStatusList, uids_deleteFromStatusList⟩
  · exact ⟨filter_updateStatusList, (uids_updateStatusList).trans (if_pos hm)⟩
  · exact ⟨filter_updateStatusList, (uids_updateStatusList).trans (if_neg hm)⟩

/-- **`dependantJobs` behaves as an insertion-ordered map keyed by uid** over the event
sequence: the fold succeeds, uids stay distinct, a uid is present iff it was present or had an
event and its last event is not a delete, its entry is then built from that last event alone, and
each event keeps the other entries in order, updates its own in place and appends a new uid. -/
def OrderedMapRun (init : Option (List StatusEntry)) (evs : List JobEvent) : Prop :=
  ∃ l, foldJobEvents init evs = .ok l ∧ (uids l).Nodup ∧
    (∀ u, u ∈ uids l ↔ (u ∈ uids (init.getD []) ∨ ∃ ev ∈ evs, ev.uid = u) ∧
      ∀ ev, lastEvent evs u = some ev → ev.isDelete = false) ∧
    (∀ u ev, lastEvent evs u = some ev → ev.isDelete = false →
      ∃ x, buildDependantJobStatus ev.body.toDict = .ok x ∧
        lookup l u = some (statusEntry ev.body x)) ∧
    (∀ pre ev post, evs = pre ++ ev :: post → ∃ L L', foldJobEvents init pre = .ok L ∧
      foldJobEvents init (pre ++ [ev]) = .ok L' ∧
      L'.filter (·.uid ≠ ev.uid) = L.filter (·.uid ≠ ev.uid) ∧
      uids L' = if ev.isDelete then (uids L).filter (· ≠ ev.uid)
        else if ev.uid ∈ uids L then uids L else uids L ++ [ev.uid])

theorem foldJobEvents_ordered_map (init : Option (List StatusEntry)) (evs : List JobEvent)
    (hinit : (uids (init.getD [])).Nodup) : OrderedMapRun init evs := by
  refine ⟨_, foldJobEvents_eq init, nodup_foldl _ hinit, fun u => mem_uids_foldl_iff _,
    fun u ev hl hd => ⟨jobExtra, buildDependantJobStatus_toDict _, ?_⟩,
    fun pre ev post _ => ⟨_, _, foldJobEvents_eq init, foldJobEvents_eq init, ?_⟩⟩
  · rw [lookup_foldl, hl]; simp [hd]
  · rw [List.foldl_append, List.foldl_cons, List.foldl_nil]
    exact nextStatusList_shape

/-- A job `u` with the given reason. -/
def jobEventOf (reason u : String) : JobEvent :=
  ⟨reason, ⟨"batch/v1", "Job", ⟨"backup-" ++ u, "benji", u⟩, []⟩⟩

theorem foldJobEvents_ordered_map_add_delete_readd :
    (uids ((some [statusEntry (jobEventOf "create" "c").body jobExtra]).getD [])).Nodup ∧
      OrderedMapRun (some [statusEntry (jobEventOf "create" "c").body jobExtra])
        [jobEventOf "create" "a", jobEventOf "create" "b", jobEventOf "delete" "a",
          jobEventOf "update" "b", jobEventOf "create" "a"] :=
  ⟨by decide, foldJobEvents_ordered_map _ _ (by decide)⟩

end Fold

end Benji.Operator
