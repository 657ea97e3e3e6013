import Benji.Ceph.Recovery

/-!
# Benji.Ceph.Pairing — a differential backup reads its hints against its base

Each volume is backed up from one image, `image volume`.  Over any sequence of runs, failed
ones included, the catalog keeps `SourcesOk`: a valid version of volume `v` with `--snapshot s`
was read from `image v @ s`, and a snapshot of that name on that image is the very one it was
read from.  With it every `benji backup --base-version` pairs its hints with its base
(`PairsBase`): the `rbd diff` whose output it gets ran `--from-snap` the base's own source
snapshot.  `Paired` collects both with the worlds of the logged calls; each call keeps it
(`paired_preservesAt`), so each run does (`paired_step`) and so does a sequence of runs
(`differential_pairs_base`).
-/

namespace Benji.Ceph

variable (image : String → ImageRef)

/-- Every valid version of volume `v` with `--snapshot s` was read from `image v @ s`, and a
snapshot of that name on that image is the one it was read from. -/
def SourcesOk (w : World) : Prop :=
  ∀ v ∈ w.catalog, v.valid = true →
    v.source.img = image v.volume ∧ v.source.name = v.snapshot ∧
      ∀ x ∈ w.snapshots, x.key = v.source.key → x = v.source

/-- A `benji backup` run in `w` pairs its hints with its base: `--base-version` names a valid
version of the same volume, read from `image volume @ S`, where `S` is the `--from-snap` of a
logged `rbd diff` that printed the `--rbd-hints`, and `S` existed when that diff ran. -/
def PairsBase (log : List Event) (args : BackupArgs) (w : World) : Prop :=
  ∀ u, args.baseVersion = some u → ∃ base ∈ w.catalog, base.uid = u ∧ base.valid = true ∧
    base.volume = args.volume ∧ base.source.img = image base.volume ∧
    args.rbdHints.fromSnap = some base.source ∧
    ∃ wd, Event.call (.diff (image args.volume) (some base.source.name) args.snapshot) wd .ok ∈
        log ∧
      wd.diff (image args.volume) (some base.source.name) args.snapshot = some args.rbdHints ∧
      base.source ∈ wd.snapshots

/-- What a sequence of runs keeps: `SourcesOk` now and in every world a call ran in, and every
logged `benji backup` pairs its hints with its base. -/
structure Paired (s : Sys) : Prop where
  sources : SourcesOk image s.world
  logged : ∀ c w e, Event.call c w e ∈ s.log → SourcesOk image w
  pairs : ∀ args w e, Event.call (.benjiBackup args) w e ∈ s.log → PairsBase image s.log args w

/-- The run's own stamp: a valid version whose source is `img@n` still has its source. -/
def SourcesPresent (img : ImageRef) (n : String) (w : World) : Prop :=
  ∀ v ∈ w.catalog, v.valid = true → v.source.key = (img, n) → v.source ∈ w.snapshots

variable {image}

/-! ### One call -/

section Calls

variable {img : ImageRef} {n : String} {c : Cmd} {w w' : World} {a : c.Out} {s : Sys}

theorem PairsBase.mono {L L' : List Event} {args : BackupArgs} (h : PairsBase image L args w)
    (hL : L ⊆ L') : PairsBase image L' args w := fun u hu =>
  let ⟨base, hb, h1, h2, h3, h4, h5, wd, hd, h6, h7⟩ := h u hu
  ⟨base, hb, h1, h2, h3, h4, h5, wd, hL hd, h6, h7⟩

/-- What one command does to `SourcesOk`: a created name is no valid version's source unless
that source exists, and `benji backup` reads `image volume @ snapshot`. -/
theorem sourcesOk_run (hs : SourcesOk image w) (hr : c.run w = some (w', a))
    (hcr : ∀ i m, c = .snapCreate i m → SourcesPresent i m w)
    (hb : ∀ args, c = .benjiBackup args → args.source = (image args.volume, args.snapshot)) :
    SourcesOk image w' := by
  rcases Cmd.run_cases hr with rfl | ⟨i, m, rfl, h⟩ | ⟨i, m, rfl, h⟩ | ⟨args, v, rfl, h⟩
  · exact hs
  · obtain ⟨hnone, hsn, hcat⟩ := World.snapCreate_some h
    intro v hv hval
    rw [hcat] at hv
    obtain ⟨h1, h2, h3⟩ := hs v hv hval
    refine ⟨h1, h2, fun x hx hk => ?_⟩
    rcases List.mem_append.mp (hsn ▸ hx) with hx | hx
    · exact h3 x hx hk
    · rw [List.mem_singleton] at hx
      subst hx
      have hpres := hcr i m rfl v hv hval hk.symm
      exact absurd hpres fun hm => World.findSnap_eq_none_iff.mp hnone _ hm hk.symm
  · obtain ⟨-, hsn, hcat⟩ := World.snapRm_some h
    intro v hv hval
    obtain ⟨h1, h2, h3⟩ := hs v (hcat ▸ hv) hval
    exact ⟨h1, h2, fun x hx hk => h3 x (List.mem_of_mem_filter (hsn ▸ hx)) hk⟩
  · obtain ⟨hf, -, hvol, hsnap, -, hsn, hcat⟩ := World.benjiBackup_some h
    obtain ⟨hsrc, hkey⟩ := World.findSnap_eq_some_iff.mp hf
    intro v' hv' hval
    rw [hcat, List.mem_append, List.mem_singleton] at hv'
    rcases hv' with hv' | rfl
    · obtain ⟨h1, h2, h3⟩ := hs v' hv' hval
      exact ⟨h1, h2, fun x hx hk => h3 x (hsn ▸ hx) hk⟩
    · have hk : v'.source.key = (image v'.volume, v'.snapshot) := by
        rw [hkey, hb args rfl, hvol, hsnap]
      refine ⟨congrArg Prod.fst hk, congrArg Prod.snd hk, fun x hx hxk => ?_⟩
      exact World.key_unique (hsn ▸ hx) hsrc hxk

/-- No command removes the run's own snapshot, and `benji backup` records a source it found. -/
theorem sourcesPresent_run (hp : SourcesPresent img n w) (hr : c.run w = some (w', a))
    (hrm : ∀ i m, c = .snapRm i m → (i, m) ≠ (img, n)) : SourcesPresent img n w' := by
  rcases Cmd.run_cases hr with rfl | ⟨i, m, rfl, h⟩ | ⟨i, m, rfl, h⟩ | ⟨args, v, rfl, h⟩
  · exact hp
  · obtain ⟨-, hsn, hcat⟩ := World.snapCreate_some h
    exact fun v hv hval hk => hsn ▸ List.mem_append_left _ (hp v (hcat ▸ hv) hval hk)
  · obtain ⟨-, hsn, hcat⟩ := World.snapRm_some h
    exact fun v hv hval hk => hsn ▸ List.mem_filter.mpr ⟨hp v (hcat ▸ hv) hval hk,
      decide_eq_true fun he => hrm i m rfl (hk.symm.trans he).symm⟩
  · obtain ⟨hf, -, -, -, -, hsn, hcat⟩ := World.benjiBackup_some h
    intro v' hv' hval hk
    rw [hcat, List.mem_append, List.mem_singleton] at hv'
    rcases hv' with hv' | rfl
    · exact hsn ▸ hp v' hv' hval hk
    · exact hsn ▸ (World.findSnap_eq_some_iff.mp hf).1

theorem Paired.sent {sig : Signal} {b : Bool} (h : Paired image s) : Paired image (s.sent sig b) :=
  have hsub : s.log ⊆ (s.sent sig b).log := by simp
  ⟨h.sources, fun c w e hm => h.logged c w e (by simpa using hm),
    fun args w e hm => (h.pairs args w e (by simpa using hm)).mono hsub⟩

theorem Paired.called {e : CallEnd} (h : Paired image s) (hw : SourcesOk image w)
    (hb : ∀ args, c = .benjiBackup args → PairsBase image s.log args s.world) :
    Paired image (s.called c w e) := by
  have hsub : s.log ⊆ (s.called c w e).log := by simp
  refine ⟨hw, fun c' w' e' hm => ?_, fun args w' e' hm => ?_⟩
  · rcases List.mem_append.mp hm with hm | hm
    · exact h.logged c' w' e' hm
    · simp only [List.mem_singleton, Event.call.injEq] at hm
      exact hm.2.1 ▸ h.sources
  · rcases List.mem_append.mp hm with hm | hm
    · exact (h.pairs args w' e' hm).mono hsub
    · simp only [List.mem_singleton, Event.call.injEq] at hm
      exact hm.2.1 ▸ (hb args hm.1.symm).mono hsub

/-- A call of a run on `img` with stamp `n` keeps `Paired` and `SourcesPresent` when it creates
only `img@n`, never removes it, and passes `benji backup` a source `image volume @ snapshot`
and a base paired with its hints. -/
theorem paired_preservesAt (h : Paired image s ∧ SourcesPresent img n s.world)
    (hcr : ∀ i m, c = .snapCreate i m → (i, m) = (img, n))
    (hrm : ∀ i m, c = .snapRm i m → (i, m) ≠ (img, n))
    (hb : ∀ args, c = .benjiBackup args →
      args.source = (image args.volume, args.snapshot) ∧ PairsBase image s.log args s.world) :
    PreservesAt (fun s => Paired image s ∧ SourcesPresent img n s.world) s c := by
  have hstep : ∀ w a e, c.run s.world = some (w, a) →
      Paired image (s.called c w e) ∧ SourcesPresent img n w := fun w a e hr =>
    ⟨h.1.called (sourcesOk_run h.1.sources hr
      (fun i m hc => by obtain ⟨rfl, rfl⟩ := Prod.mk.inj (hcr i m hc); exact h.2)
      fun args hc => (hb args hc).1) fun args hc => (hb args hc).2,
      sourcesPresent_run h.2 hr hrm⟩
  exact ⟨fun w a hr => ⟨hstep w a _ hr, hstep w a _ hr⟩,
    ⟨h.1.called h.1.sources fun args hc => (hb args hc).2, h.2⟩⟩

end Calls

/-! ### Runs -/

section Runs

variable {volume now : String} {labels : List (String × String)} {uid : Option String}
  {s s0 : Sys}

/-- The `benji backup` of `backup_differential` pairs its hints with its base: its `rbd diff`
ran `--from-snap` the name of the base's snapshot in a world with the same catalog, where by
`SourcesOk` the snapshot of that name is the base's own source. -/
theorem pairsBase_differential {last : String} {base : Version} {h : Hints}
    (hP : Paired image s) (hbase : base ∈ s.world.benjiLs volume last)
    (hd : DiffLogged (image volume) (some last) (rbdSnapNamePrefix ++ now) h s) :
    PairsBase image s.log ⟨rbdSnapNamePrefix ++ now, h, some base.uid, uid, labels,
      (image volume, rbdSnapNamePrefix ++ now), volume⟩ s.world := by
  rintro u ⟨⟩
  obtain ⟨wd, hm, hdiff, hcat⟩ := hd
  simp only [World.benjiLs, List.mem_filter, decide_eq_true_eq] at hbase
  obtain ⟨hb, hvol, hsnap, hval⟩ := hbase
  obtain ⟨himg, hname, -⟩ := hP.sources base hb hval
  obtain ⟨-, hfrom, hsome⟩ := World.diff_some hdiff
  obtain ⟨S, hS⟩ := Option.isSome_iff_exists.mp (hsome rfl)
  have hSw : S ∈ wd.snapshots ∧ S.key = (image volume, last) := by
    rw [hS, Option.some_bind] at hfrom
    exact World.findSnap_eq_some_iff.mp hfrom.symm
  have hSrc : S = base.source := (hP.logged _ _ _ hm base (hcat ▸ hb) hval).2.2 S hSw.1 (by
    rw [hSw.2, Snapshot.key, himg, hname, hvol, hsnap])
  refine ⟨base, hb, rfl, hval, hvol, himg, hS.trans (congrArg some hSrc), wd, ?_, ?_,
    hSrc ▸ hSw.1⟩
  · rw [hname, hsnap]; exact hm
  · rw [hname, hsnap]; exact hdiff

/-- The names of the run's listing are not its fresh stamp. -/
theorem FreshStamp.listed_ne {img : ImageRef} {n : String} (hf : FreshStamp img now s0)
    (hn : n ∈ benjisSnapshotsOf (s0.world.snapLs img)) :
    (img, n) ≠ (img, rbdSnapNamePrefix ++ now) := fun he => by
  obtain ⟨y, hy, hk⟩ := exists_benjiSnapshot_of_mem hn
  exact World.findSnap_eq_none_iff.mp hf.image y (World.mem_benjiSnapshots.mp hy).1 (hk.trans he)

/-- Every call of a run on `image volume` with a fresh stamp keeps `Paired`. -/
theorem paired_runKeeps (hf : FreshStamp (image volume) now s0) :
    RunKeeps (fun s => Paired image s ∧
      SourcesPresent (image volume) (rbdSnapNamePrefix ++ now) s.world)
      volume (image volume) labels uid now s0.world where
  sent _ _ _ h := ⟨h.1.sent, h.2⟩
  snapLs _ h _ := paired_preservesAt h nofun nofun nofun
  snapRmOlder _ hn _ h _ := paired_preservesAt h nofun
    (fun _ _ he => by cases he; exact hf.listed_ne (List.dropLast_subset _ hn)) nofun
  snapRmUnknown _ h _ hne _ := paired_preservesAt h nofun
    (fun _ _ he => by cases he; exact hf.listed_ne (getLastD_mem_of_ne_nil hne)) nofun
  snapRmBase _ _ h _ hne _ := paired_preservesAt h nofun
    (fun _ _ he => by cases he; exact hf.listed_ne (getLastD_mem_of_ne_nil hne)) nofun
  benjiLs _ _ h _ := paired_preservesAt h nofun nofun nofun
  snapCreate _ h _ := paired_preservesAt h (fun _ _ he => by cases he; rfl) nofun nofun
  diff _ _ h _ := paired_preservesAt h nofun nofun nofun
  backupInitial _ _ h _ _ := paired_preservesAt h nofun nofun fun _ he => by
    cases he; exact ⟨rfl, fun _ hu => nomatch hu⟩
  backupDifferential _ _ _ _ h _ _ hb hd := paired_preservesAt h nofun nofun fun _ he => by
    cases he; exact ⟨rfl, pairsBase_differential h.1 hb hd⟩

/-- One run of `backup volume (image volume)` with a fresh stamp, however it ends. -/
def PairedRun (image : String → ImageRef) (s s' : Sys) : Prop :=
  ∃ volume labels uid now, FreshStamp (image volume) now s ∧
    s' = Triple.finalState (backup volume (image volume) labels uid now s)

/-- **Each run keeps `Paired`**, whichever call fails. -/
theorem paired_step {s' : Sys} (h : Paired image s) (hr : PairedRun image s s') :
    Paired image s' := by
  obtain ⟨volume, labels, uid, now, hf, rfl⟩ := hr
  have hpres : SourcesPresent (image volume) (rbdSnapNamePrefix ++ now) s.world :=
    fun v hv hval hk => absurd ((h.sources v hv hval).2.1.symm.trans (congrArg Prod.snd hk))
      (hf.catalog v hv hval)
  exact (Triple.final (backup_preserves (paired_runKeeps hf)) ⟨⟨h, hpres⟩, rfl⟩).1

theorem paired_run {s' : Sys} (hs : Relation.ReflTransGen (PairedRun image) s s') :
    Paired image s → Paired image s' := by
  induction hs with
  | refl => exact id
  | tail _ step ih => exact fun h => paired_step (ih h) step

end Runs

/-- **Every `backup_differential` pairs its hints with its base**, over any sequence of runs,
failed ones included, each backing a volume up from its one image under a fresh stamp: every
valid version of volume `v` with `--snapshot s` was read from `image v @ s`, and every
`benji backup --base-version u` got the output of an `rbd diff --from-snap S` where `u` is a
valid version of the same volume read from `S`, and `S` existed when the diff ran. -/
theorem differential_pairs_base {s0 s : Sys} (h0 : SourcesOk image s0.world) (hl : s0.log = [])
    (hs : Relation.ReflTransGen (PairedRun image) s0 s) :
    SourcesOk image s.world ∧
      ∀ args w e, Event.call (.benjiBackup args) w e ∈ s.log → PairsBase image s.log args w :=
  have h := paired_run hs ⟨h0, by simp [hl], by simp [hl]⟩
  ⟨h.sources, h.pairs⟩

theorem differential_pairs_base_two_runs :
    SourcesOk (fun _ => rbdVm) (Triple.finalState (backup "vm" rbdVm [] none "t2" firstRun)).world ∧
      ∀ args w e, Event.call (.benjiBackup args) w e ∈
          (Triple.finalState (backup "vm" rbdVm [] none "t2" firstRun)).log →
        PairsBase (fun _ => rbdVm)
          (Triple.finalState (backup "vm" rbdVm [] none "t2" firstRun)).log args w :=
  differential_pairs_base (fun _ hv => by simp [emptySys, emptyWorld] at hv) rfl
    (.tail (.single ⟨"vm", [], none, "t1", ⟨by decide, by decide⟩, rfl⟩)
      ⟨"vm", [], none, "t2", ⟨by decide, by decide⟩, rfl⟩)

end Benji.Ceph
