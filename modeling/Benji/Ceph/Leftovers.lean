import Benji.Ceph.Recovery

/-!
# Benji.Ceph.Leftovers — `b-` snapshots do not pile up

`backup` lists the image's `b-` snapshots, removes all but the newest, and creates one.  So a run
that starts with `k` of them leaves at most `max k 2`, whichever call fails, and a run of another
image adds none (`backup_leftovers_le`).  Over any sequence of runs of any images, no image ever
has more than `max k₀ 2` (`leftovers_bounded`).

The proof follows the control flow.  Only `rbd snap create img@m` adds a `b-` snapshot to `img`,
and only `img@m` (`Cmd.run_benjiSnapshots_filter`).  So `LeftoversLe` survives every call that
cannot create a snapshot its test `p` counts: until the `snap rm` loop returns, the count the run
started with bounds the image, and once it has returned, one name is left and the bound is on
the snapshots other than `b-now`.
-/

namespace Benji.Ceph

/-- At most `k` of the image's `b-` snapshots satisfy `p`. -/
def LeftoversLe (img : ImageRef) (p : Snapshot → Bool) (k : Nat) (s : Sys) : Prop :=
  ((s.world.benjiSnapshots img).filter p).length ≤ k

/-! ### What one call does to the count -/

section Calls

variable {img : ImageRef} {p : Snapshot → Bool} {k : Nat} {c : Cmd} {s : Sys} {w w' : World}
  {a : c.Out}

@[simp] theorem leftoversLe_true :
    LeftoversLe img (fun _ => true) k s ↔ (s.world.benjiSnapshots img).length ≤ k := by
  simp only [LeftoversLe, List.filter_true]

theorem World.benjiSnapshots_sublist (h : List.Sublist w'.snapshots w.snapshots) :
    List.Sublist (w'.benjiSnapshots img) (w.benjiSnapshots img) :=
  (h.filter _).filter _

/-- A command adds no `b-` snapshot of `img` that `p` counts when `p` rejects every name it could
create there. -/
theorem Cmd.run_benjiSnapshots_filter (h : c.run w = some (w', a))
    (hp : ∀ m, c = .snapCreate img m → ∀ x : Snapshot, x.name = m → p x = false) :
    List.Sublist ((w'.benjiSnapshots img).filter p) ((w.benjiSnapshots img).filter p) := by
  rcases Cmd.run_cases h with rfl | ⟨i, m, rfl, h'⟩ | ⟨i, m, rfl, h'⟩ | ⟨_, _, rfl, h'⟩
  · exact .refl _
  · have hw := (World.snapCreate_some h').2.1
    by_cases hi : i = img
    · subst hi
      simp [World.benjiSnapshots, World.snapLs, hw, List.filter_append, hp m rfl ⟨i, m, w.nextId⟩ rfl]
    · simp [World.benjiSnapshots, World.snapLs, hw, List.filter_append, hi]
  · exact (World.benjiSnapshots_sublist
      ((World.snapRm_some h').2.1 ▸ List.filter_sublist _)).filter p
  · rw [World.benjiSnapshots_of_snapshots (World.benjiBackup_some h').2.2.2.2.2.1]

theorem LeftoversLe.sentClosed : SentClosed (LeftoversLe img p k) := fun _ _ _ h => h

theorem LeftoversLe.preservesAt (h : LeftoversLe img p k s)
    (hp : ∀ m, c = .snapCreate img m → ∀ x : Snapshot, x.name = m → p x = false) :
    PreservesAt (LeftoversLe img p k) s c :=
  ⟨fun _ _ hw => have h' := (Cmd.run_benjiSnapshots_filter hw hp).length_le.trans h; ⟨h', h'⟩, h⟩

/-- The `b-` snapshots other than `img@n` survive every call that creates nothing on `img` but
`img@n`. -/
theorem LeftoversLe.preservesAt_ne {n : String} (h : LeftoversLe img (·.name ≠ n) k s)
    (hc : ∀ m, c = .snapCreate img m → m = n) :
    PreservesAt (LeftoversLe img (·.name ≠ n) k) s c :=
  h.preservesAt fun m hm x hx => by simp [hx, hc m hm]

theorem LeftoversLe.of_true (h : LeftoversLe img (fun _ => true) k s) : LeftoversLe img p k s :=
  (List.length_filter_le _ _).trans (leftoversLe_true.mp h)

theorem length_le_one_of_names {l : List Snapshot} {n : String} (hl : (l.map (·.name)).Nodup)
    (h : ∀ x ∈ l, x.name = n) : l.length ≤ 1 := by
  have hr : l.map (·.name) = List.replicate l.length n :=
    List.eq_replicate_iff.mpr ⟨List.length_map _ _, by simpa using h⟩
  rw [hr, List.nodup_replicate] at hl
  exact hl

/-- Names are unique, so at most one `b-` snapshot is `img@n`: one other leaves at most two. -/
theorem LeftoversLe.two {n : String} (h : LeftoversLe img (·.name ≠ n) 1 s) :
    LeftoversLe img (fun _ => true) 2 s := by
  have hn : ((s.world.benjiSnapshots img).filter fun x => !decide (x.name ≠ n)).length ≤ 1 :=
    length_le_one_of_names (World.benjiSnapshots_names_nodup.sublist ((List.filter_sublist _).map _))
      fun x hx => by simpa using (List.mem_filter.mp hx).2
  rw [leftoversLe_true, List.length_eq_length_filter_add (·.name ≠ n)]
  exact Nat.add_le_add h hn

end Calls

/-! ### A run of the image -/

section Run

variable {volume : String} {img : ImageRef} {labels : List (String × String)}
  {uid : Option String} {now : String} {k : Nat}

/-- Every `b-` snapshot of the image is named in `ns` or is `last`. -/
def LeftFor (img : ImageRef) (last : String) (ns : List String) (s : Sys) : Prop :=
  ∀ x ∈ s.world.benjiSnapshots img, x.name ∈ ns ∨ x.name = last

/-- The `snap rm` loop never adds a `b-` snapshot, and when it returns only `last` is left. -/
theorem removeOlder_leftovers {last : String} {names : List String} :
    Triple (fun s => LeftoversLe img (fun _ => true) k s ∧ LeftFor img last names s)
      (names.forM fun n => do let _ ← subprocessRun (.snapRm img n))
      (fun _ => LeftoversLe img (fun _ => true) 1) (fun _ => LeftoversLe img (fun _ => true) k) := by
  refine (Triple.forM (fun ns s => LeftoversLe img (fun _ => true) k s ∧ LeftFor img last ns s)
    fun n ns => ?_).conseq (fun _ => id) (fun _ s h => ?_) fun _ _ => id
  · refine (Triple.subprocessRun
      (fun s hs w a hw => ⟨((hs.1.preservesAt (c := .snapRm img n) nofun).1 w a hw).1, ?_⟩)
      (fun s hs w a hw => ((hs.1.preservesAt (c := .snapRm img n) nofun).1 w a hw).2)
      fun s hs => hs.1).bind
      fun _ => .pure' _ fun _ => id
    intro x hx
    rw [Sys.called_world, World.snapRm_benjiSnapshots (Cmd.run_snapRm_eq_some.mp hw),
      List.mem_filter] at hx
    exact (hs.2 x hx.1).imp_left fun h => (List.mem_cons.mp h).resolve_left (by simpa using hx.2)
  · exact leftoversLe_true.mpr (length_le_one_of_names World.benjiSnapshots_names_nodup
      fun x hx => (h.2 x hx).resolve_left (List.not_mem_nil _))

/-- `snapshot_create` of `b-now` adds no `b-` snapshot but `b-now`. -/
theorem snapshotCreate_leftovers :
    Triple (LeftoversLe img (·.name ≠ rbdSnapNamePrefix ++ now) 1)
      (snapshotCreate img (rbdSnapNamePrefix ++ now))
      (fun _ => LeftoversLe img (·.name ≠ rbdSnapNamePrefix ++ now) 1)
      (fun _ => LeftoversLe img (·.name ≠ rbdSnapNamePrefix ++ now) 1) :=
  snapshotCreate_preserves LeftoversLe.sentClosed.create
    fun _ h => h.preservesAt_ne fun _ h => by cases h; rfl

/-- `backup_initial` creates nothing but `b-now`: one `b-` snapshot besides it stays the most. -/
theorem backupInitial_leftovers :
    Triple (LeftoversLe img (·.name ≠ rbdSnapNamePrefix ++ now) 1)
      (backupInitial volume img labels uid now)
      (fun _ => LeftoversLe img (·.name ≠ rbdSnapNamePrefix ++ now) 1)
      (fun _ => LeftoversLe img (·.name ≠ rbdSnapNamePrefix ++ now) 1) :=
  .of_catalog fun _ => backupInitial_preserves snapshotCreate_leftovers
    (fun _ h => h.preservesAt_ne (by nofun)) fun _ _ h _ => h.preservesAt_ne (by nofun)

/-- After its loop, `backup_from_last` leaves at most one `b-` snapshot but `b-now`, whichever
branch it takes. -/
theorem backupFromLast_leftovers {names : List String} :
    Triple (fun s => LeftoversLe img (fun _ => true) k s ∧
        LeftFor img (names.getLastD "") names.dropLast s)
      (backupFromLast volume img labels uid now names)
      (fun _ => LeftoversLe img (fun _ => true) (max k 2))
      (fun _ => LeftoversLe img (fun _ => true) (max k 2)) := by
  unfold backupFromLast
  refine (removeOlder_leftovers.conseq (fun _ => id)
    (fun _ _ h => h.of_true (p := (·.name ≠ rbdSnapNamePrefix ++ now)))
    fun _ _ h => h.trans (le_max_left _ _)).bind fun _ => ?_
  refine Triple.conseq (Q := fun _ => LeftoversLe img (·.name ≠ rbdSnapNamePrefix ++ now) 1)
    (R := fun _ => LeftoversLe img (·.name ≠ rbdSnapNamePrefix ++ now) 1) ?_ (fun _ => id)
    (fun _ _ h => h.two.trans (le_max_right _ _)) fun _ _ h => h.two.trans (le_max_right _ _)
  refine (Triple.call fun _ h => h.preservesAt_ne (by nofun)).bind fun out => ?_
  rcases out with _ | ⟨base, _⟩
  · exact (Triple.call fun _ h => h.preservesAt_ne (by nofun)).bind fun _ => backupInitial_leftovers
  · exact .of_catalog fun _ => backupDifferential_preserves snapshotCreate_leftovers
      (fun _ h => h.preservesAt_ne (by nofun)) (fun _ _ h _ => h.preservesAt_ne (by nofun))
      fun _ _ h _ _ => h.preservesAt_ne (by nofun)

theorem mem_dropLast_or_getLastD {l : List String} {n : String} (h : n ∈ l) :
    n ∈ l.dropLast ∨ n = l.getLastD "" := by
  have hne : l ≠ [] := List.ne_nil_of_mem h
  rw [← List.dropLast_append_getLast hne, List.mem_append, List.mem_singleton] at h
  simpa [List.getLast?_eq_getLast _ hne] using h

/-- **A run leaves at most `max k 2` `b-` snapshots on its image**, whichever call fails: before
the loop has returned it only removes them, and after it one is left and one is created. -/
theorem backup_leftovers :
    Triple (LeftoversLe img (fun _ => true) k) (backup volume img labels uid now)
      (fun _ => LeftoversLe img (fun _ => true) (max k 2))
      (fun _ => LeftoversLe img (fun _ => true) (max k 2)) := by
  refine (Triple.sendI (LeftoversLe.sentClosed.keeps _)).bind fun _ => Triple.pyTryI ?_
    (Triple.handlePostErrorI (LeftoversLe.sentClosed.keeps _))
    ((Triple.sendI (LeftoversLe.sentClosed.keeps _)).bind fun _ => .pure' _ fun _ => id)
  refine ((Triple.callOut fun _ h => h.preservesAt (by nofun)).conseq (fun _ => id)
    (fun _ _ => id) fun _ _ h => h.trans (le_max_left _ _)).bind fun out => ?_
  rintro s ⟨hk, s0, -, -, hrun⟩
  obtain ⟨hw, rfl⟩ := Cmd.run_snapLs_eq_some.mp hrun
  rw [hw]
  have hbranch : Triple (s = ·)
      (if (benjisSnapshotsOf (s.world.snapLs img)).length = 0 then
        backupInitial volume img labels uid now
      else backupFromLast volume img labels uid now (benjisSnapshotsOf (s.world.snapLs img)))
      (fun _ => LeftoversLe img (fun _ => true) (max k 2))
      (fun _ => LeftoversLe img (fun _ => true) (max k 2)) := by
    refine Triple.ite (fun h0 => ?_) fun _ => ?_ <;> rintro _ rfl
    · have hnil : s.world.benjiSnapshots img = [] := by simpa [benjisSnapshotsOf_snapLs] using h0
      exact backupInitial_leftovers.conseq (fun _ => id) (fun _ _ h => h.two.trans (le_max_right _ _))
        (fun _ _ h => h.two.trans (le_max_right _ _)) s (by simp [LeftoversLe, hnil])
    · refine backupFromLast_leftovers s ⟨hk, fun x hx => mem_dropLast_or_getLastD ?_⟩
      rw [benjisSnapshotsOf_snapLs]
      exact List.mem_map_of_mem _ hx
  exact (hbranch.bind fun r => .pure' (some r) fun _ => id) s rfl

end Run

/-! ### Runs of other images, and sequences of runs -/

section Runs

variable {volume : String} {img img' : ImageRef} {labels : List (String × String)}
  {uid : Option String} {now : String} {p : Snapshot → Bool} {k : Nat} {w0 : World}

/-- A run of another image creates nothing on `img`, so no call of it adds a `b-` snapshot
there. -/
theorem otherImage_runKeeps (hne : img' ≠ img) :
    RunKeeps (LeftoversLe img p k) volume img' labels uid now w0 where
  sent _ _ _ h := h
  snapLs _ h _ := h.preservesAt nofun
  snapRmOlder _ _ _ h _ := h.preservesAt nofun
  snapRmUnknown _ h _ _ _ := h.preservesAt nofun
  snapRmBase _ _ h _ _ _ := h.preservesAt nofun
  benjiLs _ _ h _ := h.preservesAt nofun
  snapCreate _ h _ := h.preservesAt fun _ he => absurd (Cmd.snapCreate.inj he).1 hne
  diff _ _ h _ := h.preservesAt nofun
  backupInitial _ _ h _ _ := h.preservesAt nofun
  backupDifferential _ _ _ _ h _ _ _ _ := h.preservesAt nofun

/-- One run of `backup` of any image leaves `img` with at most `max k 2` `b-` snapshots, if it
had `k`, whichever call fails. -/
theorem backup_leftovers_le (volume : String) (img' : ImageRef) (labels : List (String × String))
    (uid : Option String) (now : String) (s0 : Sys) (img : ImageRef) :
    ((Triple.finalState (backup volume img' labels uid now s0)).world.benjiSnapshots img).length ≤
      max (s0.world.benjiSnapshots img).length 2 := by
  by_cases h : img' = img
  · subst h
    exact leftoversLe_true.mp (Triple.final backup_leftovers (leftoversLe_true.mpr le_rfl))
  · exact (leftoversLe_true.mp (Triple.final (backup_preserves (otherImage_runKeeps h))
      ⟨leftoversLe_true.mpr le_rfl, rfl⟩)).trans (le_max_left _ _)

/-- One run of `backup`, of any image with any arguments, however it ends. -/
def BackupRun (s s' : Sys) : Prop :=
  ∃ volume img labels uid now, s' = Triple.finalState (backup volume img labels uid now s)

/-- **`b-` snapshots do not pile up**: over any sequence of runs of any images, failed ones
included, an image never has more `b-` snapshots than two or than it had at the start. -/
theorem leftovers_bounded {s0 s : Sys} (hs : Relation.ReflTransGen BackupRun s0 s)
    (img : ImageRef) :
    (s.world.benjiSnapshots img).length ≤ max (s0.world.benjiSnapshots img).length 2 := by
  induction hs with
  | refl => exact le_max_left _ _
  | tail _ step ih =>
    obtain ⟨volume, img', labels, uid, now, rfl⟩ := step
    exact (backup_leftovers_le volume img' labels uid now _ img).trans (max_le ih (le_max_right _ _))

theorem leftovers_bounded_two_runs :
    ((Triple.finalState (backup "vm" rbdVm [] none "t2" firstRun)).world.benjiSnapshots
      rbdVm).length ≤ max (emptySys.world.benjiSnapshots rbdVm).length 2 :=
  leftovers_bounded (.tail (.single ⟨"vm", rbdVm, [], none, "t1", rfl⟩)
    ⟨"vm", rbdVm, [], none, "t2", rfl⟩) rbdVm

end Runs

end Benji.Ceph
