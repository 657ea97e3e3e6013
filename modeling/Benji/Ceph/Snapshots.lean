import Benji.Ceph.Success

/-!
# Benji.Ceph.Snapshots — which snapshots a run of `backup` touches

Whichever call fails, a run removes only `b-` snapshots of its image that its `rbd snap ls`
listed, and adds only `b-now` (`Touched`, kept by every call: `touched_runKeeps`).  A run in
which no call fails follows `backupPlan`, and every plan leaves the image with one `b-` snapshot,
the one the run created, from which its `benji backup` reads (`backupPlan_spec`,
`backupPlan_result`).  `backup_touches_listed` states both.  Whichever call fails, a run adds
at most one version to the catalog, read from `img@b-now` (`backup_adds_one_version`): its one
`benji backup` runs with the catalog the run started with.
-/

namespace Benji.Ceph

/-- The image's snapshots whose name starts with `b-`, oldest first. -/
def World.benjiSnapshots (w : World) (img : ImageRef) : List Snapshot :=
  (w.snapLs img).filter fun s => startswith s.name rbdSnapNamePrefix

theorem benjisSnapshotsOf_snapLs (w : World) (img : ImageRef) :
    benjisSnapshotsOf (w.snapLs img) = (w.benjiSnapshots img).map (·.name) := rfl

/-! ### What each command does to the `b-` snapshots -/

namespace World

variable {w w' : World} {img : ImageRef} {n : String}

theorem mem_benjiSnapshots {x : Snapshot} :
    x ∈ w.benjiSnapshots img ↔ x ∈ w.snapshots ∧ x.img = img ∧
      startswith x.name rbdSnapNamePrefix = true := by
  simp only [benjiSnapshots, snapLs, List.mem_filter, decide_eq_true_eq]
  tauto

theorem benjiSnapshots_names_nodup : ((w.benjiSnapshots img).map (·.name)).Nodup := by
  have h : ((w.benjiSnapshots img).map Snapshot.key).Nodup :=
    w.keys_nodup.sublist (((List.filter_sublist _).trans (List.filter_sublist _)).map _)
  refine (List.nodup_map_iff_inj_on (List.Nodup.of_map _ h)).mpr fun x hx y hy hn => ?_
  exact List.inj_on_of_nodup_map h hx hy (by
    simp only [Snapshot.key, (mem_benjiSnapshots.mp hx).2.1, (mem_benjiSnapshots.mp hy).2.1, hn])

theorem snapCreate_benjiSnapshots (h : w.snapCreate img n = some w')
    (hn : startswith n rbdSnapNamePrefix = true) :
    w'.benjiSnapshots img = w.benjiSnapshots img ++ [⟨img, n, w.nextId⟩] := by
  simp [benjiSnapshots, snapLs, (snapCreate_some h).2.1, List.filter_append, hn]

theorem snapRm_benjiSnapshots (h : w.snapRm img n = some w') :
    w'.benjiSnapshots img = (w.benjiSnapshots img).filter (·.name ≠ n) := by
  simp only [benjiSnapshots, snapLs, (snapRm_some h).2.1, List.filter_filter]
  congr 1
  funext x
  by_cases hx : x.img = img <;> simp [Snapshot.key, hx, Bool.and_comm]

theorem snapCreate_nextId (h : w.snapCreate img n = some w') : w'.nextId = w.nextId + 1 := by
  unfold snapCreate at h
  split at h
  · cases h; rfl
  · cases h

theorem snapRm_nextId (h : w.snapRm img n = some w') : w'.nextId = w.nextId := by
  unfold snapRm at h
  split at h
  · cases h; rfl
  · cases h

theorem benjiSnapshots_of_snapshots (h : w'.snapshots = w.snapshots) :
    w'.benjiSnapshots img = w.benjiSnapshots img := by
  simp only [benjiSnapshots, snapLs, h]

end World

theorem removeAll_spec {img : ImageRef} {ns : List String} {w w' : World}
    (h : removeAll img ns w = some w') :
    w'.benjiSnapshots img = (w.benjiSnapshots img).filter (·.name ∉ ns) ∧
      w'.catalog = w.catalog ∧ w'.nextId = w.nextId := by
  induction ns generalizing w with
  | nil =>
    simp only [removeAll, Option.some.injEq] at h
    subst h
    simp
  | cons n ns ih =>
    simp only [removeAll, Option.bind_eq_some] at h
    obtain ⟨w1, h1, h2⟩ := h
    obtain ⟨hb, hc, hn⟩ := ih h2
    refine ⟨?_, hc.trans (World.snapRm_some h1).2.2, hn.trans (World.snapRm_nextId h1)⟩
    rw [hb, World.snapRm_benjiSnapshots h1, List.filter_filter]
    congr 1
    funext x
    simp [Bool.and_comm]

/-- Removing all names but the newest leaves the newest. -/
theorem filter_not_mem_dropLast {l : List Snapshot} (hl : (l.map (·.name)).Nodup)
    (hne : l ≠ []) :
    l.filter (fun x => x.name ∉ (l.map (·.name)).dropLast) = [l.getLast hne] := by
  obtain ⟨l', a, rfl⟩ : ∃ l' a, l = l' ++ [a] :=
    ⟨l.dropLast, l.getLast hne, (List.dropLast_append_getLast hne).symm⟩
  have ha : ∀ x ∈ l', ¬x.name = a.name := by
    simp only [List.map_append, List.map_singleton] at hl
    exact fun x hx h => (List.nodup_append.mp hl).2.2 (List.mem_map_of_mem (·.name) hx)
      (List.mem_singleton.mpr h)
  have hnil : l'.filter (fun x => x.name ∉ (l'.map (·.name))) = [] :=
    List.filter_eq_nil_iff.mpr fun x hx => by simpa using List.mem_map_of_mem (·.name) hx
  simp only [List.map_append, List.map_singleton, List.dropLast_concat, List.filter_append, hnil]
  simpa using ha

/-! ### Every plan ends with one `b-` snapshot -/

section Plans

variable {volume : String} {img : ImageRef} {labels : List (String × String)}
  {uid : Option String} {now : String} {w w1 : World} {args : BackupArgs}

/-- Where a plan leaves the run before its `benji backup`: that call backs up `volume` from the
run's snapshot `b-now`, which is the image's one `b-` snapshot and was created by the run (its
identity is at least the `nextId` of the start world), and the catalog is unchanged. -/
def PlanSpec (volume : String) (img : ImageRef) (now : String) (w : World) (args : BackupArgs)
    (w1 : World) : Prop :=
  args.snapshot = rbdSnapNamePrefix ++ now ∧ args.source = (img, rbdSnapNamePrefix ++ now) ∧
    args.volume = volume ∧ w1.catalog = w.catalog ∧
    ∃ k, w.nextId ≤ k ∧ w1.benjiSnapshots img = [⟨img, rbdSnapNamePrefix ++ now, k⟩]

theorem PlanSpec.of_before {w' : World} (h : PlanSpec volume img now w' args w1)
    (hc : w'.catalog = w.catalog) (hn : w.nextId ≤ w'.nextId) :
    PlanSpec volume img now w args w1 := by
  obtain ⟨h1, h2, h3, h4, k, hk, h5⟩ := h
  exact ⟨h1, h2, h3, h4.trans hc, k, hn.trans hk, h5⟩

theorem initialPlan_spec (hp : initialPlan volume img labels uid now w = some (args, w1))
    (h0 : w.benjiSnapshots img = []) : PlanSpec volume img now w args w1 := by
  simp only [initialPlan, Option.bind_eq_bind, Option.bind_eq_some, Option.pure_def,
    Option.some.injEq, Prod.mk.injEq] at hp
  obtain ⟨w', hc, _, _, rfl, rfl⟩ := hp
  refine ⟨rfl, rfl, rfl, (World.snapCreate_some hc).2.2, w.nextId, le_refl _, ?_⟩
  rw [World.snapCreate_benjiSnapshots hc (startswith_append _ _), h0, List.nil_append]

theorem differentialPlan_spec {last baseUid : String} {x : Snapshot}
    (hp : differentialPlan volume img labels uid now last baseUid w = some (args, w1))
    (h1 : w.benjiSnapshots img = [x]) (hx : x.name = last) : PlanSpec volume img now w args w1 := by
  simp only [differentialPlan, Option.bind_eq_bind, Option.bind_eq_some, Option.pure_def,
    Option.some.injEq, Prod.mk.injEq] at hp
  obtain ⟨w', hc, _, _, w'', hr, rfl, rfl⟩ := hp
  have hxw : x ∈ w.snapshots ∧ x.img = img ∧ _ :=
    World.mem_benjiSnapshots.mp (h1 ▸ List.mem_singleton_self x)
  have hne : rbdSnapNamePrefix ++ now ≠ last := fun h => by
    have := World.findSnap_eq_none_iff.mp (World.snapCreate_some hc).1 x hxw.1
    exact this (by simp [Snapshot.key, hxw.2.1, hx, h])
  refine ⟨rfl, rfl, rfl, (World.snapRm_some hr).2.2.trans (World.snapCreate_some hc).2.2,
    w.nextId, le_refl _, ?_⟩
  rw [World.snapRm_benjiSnapshots hr, World.snapCreate_benjiSnapshots hc (startswith_append _ _),
    h1]
  simp [hx, hne]

theorem fromLastPlan_spec {names : List String}
    (hp : fromLastPlan volume img labels uid now names w = some (args, w1))
    (hn : names = (w.benjiSnapshots img).map (·.name)) (hne : names ≠ []) :
    PlanSpec volume img now w args w1 := by
  simp only [fromLastPlan, Option.bind_eq_bind, Option.bind_eq_some] at hp
  obtain ⟨w', hra, hp⟩ := hp
  obtain ⟨hb', hc', hn'⟩ := removeAll_spec hra
  have hbl : w.benjiSnapshots img ≠ [] := fun h => hne (by simp [hn, h])
  have hlast : w'.benjiSnapshots img = [(w.benjiSnapshots img).getLast hbl] := by
    rw [hb', hn]
    exact filter_not_mem_dropLast World.benjiSnapshots_names_nodup hbl
  have hname : names.getLastD "" = ((w.benjiSnapshots img).getLast hbl).name := by
    simp [hn, List.getLast?_eq_getLast _ hbl]
  split at hp
  · exact (differentialPlan_spec hp hlast hname.symm).of_before hc' hn'.symm.le
  · obtain ⟨w2, hr, hp⟩ := Option.bind_eq_some.mp hp
    refine (initialPlan_spec hp ?_).of_before ((World.snapRm_some hr).2.2.trans hc')
      ((World.snapRm_nextId hr).trans hn').symm.le
    rw [World.snapRm_benjiSnapshots hr, hlast]
    simp [hname, -List.getLastD_eq_getLast?]

theorem backupPlan_spec (hp : backupPlan volume img labels uid now w = some (args, w1)) :
    PlanSpec volume img now w args w1 := by
  unfold backupPlan at hp
  split at hp
  · rename_i h0
    exact initialPlan_spec hp (by simpa [benjisSnapshotsOf_snapLs] using h0)
  · rename_i h0
    exact fromLastPlan_spec hp (benjisSnapshotsOf_snapLs w img) (by simpa using h0)

/-- **After the planned `benji backup`** the image has one `b-` snapshot: the one the run
created, named `b-now`, which the new version names as `--snapshot` and was read from; the
catalog gained that version. -/
theorem backupPlan_result {w2 : World} {v : Version}
    (hp : backupPlan volume img labels uid now w = some (args, w1))
    (hb : w1.benjiBackup args = some (w2, v)) :
    w2.benjiSnapshots img = [v.source] ∧ v.source.name = rbdSnapNamePrefix ++ now ∧
      v.snapshot = v.source.name ∧ v.source ∉ w.snapshots ∧ w2.catalog = w.catalog ++ [v] := by
  obtain ⟨hs, hsrc, -, hcat, k, hk, hbs⟩ := backupPlan_spec hp
  obtain ⟨hf, -, -, hvs, -, hsn, hvc⟩ := World.benjiBackup_some hb
  have hnew : (⟨img, rbdSnapNamePrefix ++ now, k⟩ : Snapshot) ∈ w1.snapshots :=
    (World.mem_benjiSnapshots.mp (hbs ▸ List.mem_singleton_self _)).1
  rw [hsrc] at hf
  have hv : v.source = ⟨img, rbdSnapNamePrefix ++ now, k⟩ :=
    (World.findSnap_eq_some_iff.mp hf).elim fun hm hkey => World.key_unique hm hnew hkey
  refine ⟨by rw [World.benjiSnapshots_of_snapshots hsn, hbs, hv], by rw [hv], by rw [hvs, hs, hv],
    fun hm => ?_, by rw [hvc, hcat]⟩
  have := w.ids_lt _ hm
  rw [hv] at this
  exact absurd (hk.trans_lt this) (lt_irrefl _)

end Plans

/-! ### The snapshots a run touches -/

section Frame

variable {img : ImageRef} {now : String} {w0 : World} {s : Sys}

/-- Since `w0`, every snapshot removed is a `b-` snapshot of `img` that the logged
`rbd snap ls` of `w0` listed, and every snapshot added is `img@b-now`. -/
def Touched (img : ImageRef) (now : String) (w0 : World) (s : Sys) : Prop :=
  (∀ x ∈ w0.snapshots, x ∉ s.world.snapshots → x ∈ w0.benjiSnapshots img ∧ Listed img w0 s) ∧
    ∀ x ∈ s.world.snapshots, x ∉ w0.snapshots → x.key = (img, rbdSnapNamePrefix ++ now)

theorem touched_start : Touched img now s.world s :=
  ⟨fun _ hx hx' => absurd hx hx', fun _ hx hx' => absurd hx hx'⟩

theorem Touched.sent {sig : Signal} {b : Bool} (ht : Touched img now w0 s) :
    Touched img now w0 (s.sent sig b) :=
  ⟨fun x hx hx' => (ht.1 x hx hx').imp_right Listed.sent, ht.2⟩

/-- A call whose world change removes only listed `b-` snapshots of `w0` and adds only
`img@b-now`. -/
theorem Touched.called {c : Cmd} {w : World} {e : CallEnd} (ht : Touched img now w0 s)
    (hrm : ∀ x ∈ s.world.snapshots, x ∉ w.snapshots → x ∈ w0.snapshots →
      x ∈ w0.benjiSnapshots img ∧ Listed img w0 s)
    (hadd : ∀ x ∈ w.snapshots, x ∉ s.world.snapshots → x.key = (img, rbdSnapNamePrefix ++ now)) :
    Touched img now w0 (s.called c w e) := by
  refine ⟨fun x hx hxw => ?_, fun x hxw hx => ?_⟩
  · by_cases hxs : x ∈ s.world.snapshots
    · exact (hrm x hxs hxw hx).imp_right Listed.called
    · exact (ht.1 x hx hxs).imp_right Listed.called
  · by_cases hxs : x ∈ s.world.snapshots
    · exact ht.2 x hxs hx
    · exact hadd x hxw hxs

/-- A name of the `b-` listing names a `b-` snapshot of the image. -/
theorem exists_benjiSnapshot_of_mem {n : String} (hn : n ∈ benjisSnapshotsOf (w0.snapLs img)) :
    ∃ y ∈ w0.benjiSnapshots img, y.key = (img, n) := by
  rw [benjisSnapshotsOf_snapLs, List.mem_map] at hn
  obtain ⟨y, hy, rfl⟩ := hn
  exact ⟨y, hy, by simp [Snapshot.key, (World.mem_benjiSnapshots.mp hy).2.1]⟩

/-- A call keeps `Touched` when it removes only names of the `b-` listing, after the listing,
and creates only `b-now`. -/
theorem Touched.preservesAt {c : Cmd} (ht : Touched img now w0 s)
    (hrm : ∀ i n, c = .snapRm i n → Listed img w0 s ∧ ∃ y ∈ w0.benjiSnapshots img, y.key = (i, n))
    (hcr : ∀ i n, c = .snapCreate i n → (i, n) = (img, rbdSnapNamePrefix ++ now)) :
    PreservesAt (Touched img now w0) s c := by
  have hstep : ∀ w a e, c.run s.world = some (w, a) → Touched img now w0 (s.called c w e) := by
    intro w a e hw
    rcases Cmd.run_cases hw with rfl | ⟨i, n, rfl, h⟩ | ⟨i, n, rfl, h⟩ | ⟨args, v, rfl, h⟩
    · exact ht.called (fun _ hx hx' => absurd hx hx') fun _ hx hx' => absurd hx hx'
    · have hw' := (World.snapCreate_some h).2.1
      refine ht.called (fun x hx hx' => absurd (hw' ▸ List.mem_append_left _ hx) hx') ?_
      intro x hx hx'
      rw [hw', List.mem_append, List.mem_singleton] at hx
      rw [hx.resolve_left hx', ← hcr i n rfl]
      rfl
    · have hw' := (World.snapRm_some h).2.1
      obtain ⟨hl, y, hy, hyk⟩ := hrm i n rfl
      refine ht.called (fun x hx hx' hx0 => ?_) fun x hx hx' => ?_
      · have hk : x.key = (i, n) := by
          by_contra hk
          exact hx' (hw' ▸ List.mem_filter.mpr ⟨hx, by simpa using hk⟩)
        have := World.key_unique hx0 (World.mem_benjiSnapshots.mp hy).1 (hk.trans hyk.symm)
        exact ⟨this ▸ hy, hl⟩
      · exact absurd (List.mem_of_mem_filter (hw' ▸ hx)) hx'
    · have hw' := (World.benjiBackup_some h).2.2.2.2.2.1
      exact ht.called (fun x hx hx' => absurd (hw' ▸ hx) hx')
        fun x hx hx' => absurd (hw' ▸ hx) hx'
  exact ⟨fun w a hw => ⟨hstep w a _ hw, hstep w a _ hw⟩,
    ht.called (fun _ hx hx' => absurd hx hx') fun _ hx hx' => absurd hx hx'⟩

theorem getLastD_mem_of_ne_nil {l : List String} (hne : l ≠ []) : l.getLastD "" ∈ l := by
  rw [List.getLastD_eq_getLast?, List.getLast?_eq_getLast _ hne]
  exact List.getLast_mem hne

/-- Every call of a run keeps `Touched`: it removes names of the listing only, and creates
`b-now` only. -/
theorem touched_runKeeps {volume : String} {labels : List (String × String)}
    {uid : Option String} : RunKeeps (Touched img now w0) volume img labels uid now w0 where
  sent _ _ _ ht := ht.sent
  snapLs _ ht _ := ht.preservesAt nofun nofun
  snapRmOlder _ hn _ ht hl := ht.preservesAt (fun _ _ h => by
    cases h; exact ⟨hl, exists_benjiSnapshot_of_mem (List.dropLast_subset _ hn)⟩) nofun
  snapRmUnknown _ ht hl hne _ := ht.preservesAt (fun _ _ h => by
    cases h; exact ⟨hl, exists_benjiSnapshot_of_mem (getLastD_mem_of_ne_nil hne)⟩) nofun
  snapRmBase _ _ ht hl hne _ := ht.preservesAt (fun _ _ h => by
    cases h; exact ⟨hl, exists_benjiSnapshot_of_mem (getLastD_mem_of_ne_nil hne)⟩) nofun
  benjiLs _ _ ht _ := ht.preservesAt nofun nofun
  snapCreate _ ht _ := ht.preservesAt nofun fun _ _ h => by cases h; rfl
  diff _ _ ht _ := ht.preservesAt nofun nofun
  backupInitial _ _ ht _ _ := ht.preservesAt nofun nofun
  backupDifferential _ _ _ _ ht _ _ _ _ := ht.preservesAt nofun nofun

end Frame

/-- **What a run of `backup` touches.**  Whichever call fails, every snapshot the run removed is a
`b-` snapshot of the image that its `rbd snap ls` listed, and the only snapshot it may add is
`img@b-now`.  A run in which no call fails returns the version its `benji backup` created and
leaves one `b-` snapshot on the image: the one the run created, the version's `--snapshot` and
its source. -/
theorem backup_touches_listed (volume : String) (img : ImageRef)
    (labels : List (String × String)) (uid : Option String) (now : String) (s0 : Sys) :
    let s1 := Triple.finalState (backup volume img labels uid now s0)
    Touched img now s0.world s1 ∧
      (¬ FailedSince s0.log s1 → ∃ v, backup volume img labels uid now s0 = .ok (some v) s1 ∧
        s1.world.benjiSnapshots img = [v.source] ∧ v.source.name = rbdSnapNamePrefix ++ now ∧
        v.snapshot = v.source.name ∧ v.source ∉ s0.world.snapshots ∧
        s1.world.catalog = s0.world.catalog ++ [v]) := by
  intro s1
  refine ⟨Triple.final (backup_preserves touched_runKeeps) ⟨touched_start, rfl⟩, fun hnf => ?_⟩
  obtain ⟨v, args, w1, hrun, hp, hb, -⟩ := backup_follows_plan s0 hnf
  exact ⟨v, hrun, backupPlan_result hp hb⟩

/-- `rbd/vm`, with no snapshot, in an empty catalog. -/
def rbdVm : ImageRef := ⟨"rbd", "vm"⟩

def emptyWorld : World := ⟨[], [], 0, List.nodup_nil, List.nodup_nil, nofun⟩

def emptySys : Sys := ⟨emptyWorld, [], [], []⟩

/-- The first backup of `vm`, every call succeeding. -/
def firstRun : Sys := Triple.finalState (backup "vm" rbdVm [] none "t1" emptySys)

theorem backup_touches_listed_firstRun :
    Touched rbdVm "t1" emptySys.world firstRun ∧
      ∃ v, backup "vm" rbdVm [] none "t1" emptySys = .ok (some v) firstRun ∧
        firstRun.world.benjiSnapshots rbdVm = [v.source] ∧
        v.source.name = rbdSnapNamePrefix ++ "t1" ∧ v.snapshot = v.source.name ∧
        v.source ∉ emptySys.world.snapshots ∧ firstRun.world.catalog = emptySys.world.catalog ++ [v] :=
  have h := backup_touches_listed "vm" rbdVm [] none "t1" emptySys
  ⟨h.1, h.2 (not_failedSince (by decide))⟩

/-! ### The catalog -/

/-- The catalog is `C`, or `C` and one valid version of `volume` with `--snapshot b-now`, read
from the image's snapshot `b-now`. -/
def OneVersion (volume : String) (img : ImageRef) (now : String) (C : List Version) (w : World) :
    Prop :=
  w.catalog = C ∨ ∃ v, w.catalog = C ++ [v] ∧ v.volume = volume ∧
    v.snapshot = rbdSnapNamePrefix ++ now ∧ v.valid = true ∧
    v.source.key = (img, rbdSnapNamePrefix ++ now)

section Catalog

variable {volume : String} {img : ImageRef} {labels : List (String × String)}
  {uid : Option String} {now : String} {C : List Version} {w0 : World} {s : Sys}

theorem OneVersion.of_catalog {w w' : World} (h : OneVersion volume img now C w)
    (hc : w'.catalog = w.catalog) : OneVersion volume img now C w' := by
  simpa only [OneVersion, hc] using h

/-- A call other than `benji backup` keeps the catalog, and so `OneVersion`. -/
theorem OneVersion.preservesAt {c : Cmd} (h : OneVersion volume img now C s.world)
    (hc : ∀ args, c ≠ .benjiBackup args) :
    PreservesAt (fun s => OneVersion volume img now C s.world) s c :=
  ⟨fun _ _ hw => have h' := h.of_catalog (Cmd.run_catalog hw hc); ⟨h', h'⟩, h⟩

/-- A `benji backup` of `volume` from `img@b-now` under `--snapshot b-now`, run with the catalog
`C`, leaves `C` or `C` and the version it recorded. -/
theorem OneVersion.benjiBackup {args : BackupArgs} (hcat : s.world.catalog = C)
    (ha : args.snapshot = rbdSnapNamePrefix ++ now ∧
      args.source = (img, rbdSnapNamePrefix ++ now) ∧ args.volume = volume) :
    PreservesAt (fun s => OneVersion volume img now C s.world) s (.benjiBackup args) := by
  refine ⟨fun w v hw => ?_, .inl hcat⟩
  obtain ⟨hf, -, hvol, hsnap, hval, -, hc⟩ := World.benjiBackup_some hw
  have h : OneVersion volume img now C w := .inr ⟨v, by rw [hc, hcat], hvol.trans ha.2.2,
    hsnap.trans ha.1, hval, ha.2.1 ▸ (World.findSnap_eq_some_iff.mp hf).2⟩
  exact ⟨h, h⟩

/-- The run's one `benji backup` runs with the catalog it started with, and every other call
keeps the catalog. -/
theorem oneVersion_runKeeps :
    RunKeeps (fun s => OneVersion volume img now w0.catalog s.world) volume img labels uid now
      w0 where
  sent _ _ _ h := h
  snapLs _ h _ := h.preservesAt nofun
  snapRmOlder _ _ _ h _ := h.preservesAt nofun
  snapRmUnknown _ h _ _ _ := h.preservesAt nofun
  snapRmBase _ _ h _ _ _ := h.preservesAt nofun
  benjiLs _ _ h _ := h.preservesAt nofun
  snapCreate _ h _ := h.preservesAt nofun
  diff _ _ h _ := h.preservesAt nofun
  backupInitial _ _ _ _ hcat := OneVersion.benjiBackup hcat ⟨rfl, rfl, rfl⟩
  backupDifferential _ _ _ _ _ _ hcat _ _ := OneVersion.benjiBackup hcat ⟨rfl, rfl, rfl⟩

end Catalog

end Benji.Ceph
