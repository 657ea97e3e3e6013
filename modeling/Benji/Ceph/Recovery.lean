import Benji.Ceph.Snapshots

/-!
# Benji.Ceph.Recovery — which version the next differential backup starts from

A run in which no call fails leaves the image `Clean`: its one `b-` snapshot is the source of
the version just made, the most recent valid version of the volume (`run_ok_clean`).  From a
`Clean` image the next run without a failed call is a `backup_differential` whose
`--base-version` is that version (`clean_run_ok`).  A failed run keeps the image as it was as
long as its `rbd snap create` did not take effect (`clean_run_quiet`); one that failed later
may not: `backup_differential` removes the base's snapshot before its `benji backup`, and the
next run then reverts to `backup_initial` (`failed_differential_loses_base`).
`differential_from_last_valid` follows a whole sequence of runs.
-/

namespace Benji.Ceph

/-- The most recent valid version of `volume`; Benji's catalog is in creation order. -/
def World.lastValid (w : World) (volume : String) : Option Version :=
  (w.catalog.filter fun v => v.volume = volume ∧ v.valid).getLast?

/-- The call of the event ran in a world without `img@n`. -/
def Event.avoidsSnap (img : ImageRef) (n : String) : Event → Prop
  | .call _ w _ => w.findSnap img n = none
  | .signal _ => True

instance (img : ImageRef) (n : String) : DecidablePred (Event.avoidsSnap img n) := fun ev => by
  cases ev <;> unfold Event.avoidsSnap <;> infer_instance

/-- The `--base-version` of each `benji backup` of a log that succeeded, in order. -/
def backupBases (l : List Event) : List (Option String) :=
  l.filterMap fun
    | .call (.benjiBackup a) _ .ok => some a.baseVersion
    | _ => none

/-- `b-now` is a fresh stamp for a run on `img`: no valid version bears it, and the image has no
snapshot of that name. -/
structure FreshStamp (img : ImageRef) (now : String) (s : Sys) : Prop where
  catalog : ∀ v ∈ s.world.catalog, v.valid = true → v.snapshot ≠ rbdSnapNamePrefix ++ now
  image : s.world.findSnap img (rbdSnapNamePrefix ++ now) = none

/-- No call of the log ran in a world with `img@n`. -/
def NeverHad (img : ImageRef) (n : String) (s : Sys) : Prop := ∀ ev ∈ s.log, ev.avoidsSnap img n

instance (img : ImageRef) (n : String) (s : Sys) : Decidable (NeverHad img n s) :=
  inferInstanceAs (Decidable (∀ ev ∈ s.log, ev.avoidsSnap img n))

/-- The image as a run without a failed call leaves it: its one `b-` snapshot is the source of
`ver`, the most recent valid version of the volume, which `benji ls` finds by that name. -/
structure Clean (volume : String) (img : ImageRef) (ver : Version) (w : World) : Prop where
  snapshots : w.benjiSnapshots img = [ver.source]
  listed : w.benjiLs volume ver.source.name = [ver]
  last : w.lastValid volume = some ver

section Runs

variable {volume : String} {img : ImageRef} {labels : List (String × String)}
  {uid : Option String} {now : String}

theorem differentialPlan_base {last baseUid : String} {w w1 : World} {args : BackupArgs}
    (h : differentialPlan volume img labels uid now last baseUid w = some (args, w1)) :
    args.baseVersion = some baseUid := by
  simp only [differentialPlan, Option.bind_eq_bind, Option.bind_eq_some, Option.pure_def,
    Option.some.injEq, Prod.mk.injEq] at h
  obtain ⟨_, _, _, _, _, _, rfl, -⟩ := h
  rfl

/-- From a `Clean` image, the plan is `backup_differential` from `ver`. -/
theorem clean_backupPlan {ver : Version} {w : World} (hc : Clean volume img ver w) :
    backupPlan volume img labels uid now w =
      differentialPlan volume img labels uid now ver.source.name ver.uid w := by
  simp [backupPlan, fromLastPlan, removeAll, benjisSnapshotsOf_snapLs, hc.snapshots, hc.listed]

/-- **A run without a failed call leaves the image `Clean`** with the version it made. -/
theorem run_ok_clean {s : Sys} (hf : FreshStamp img now s)
    (hok : ¬ FailedSince s.log (Triple.finalState (backup volume img labels uid now s))) :
    ∃ v args w1, backup volume img labels uid now s =
        .ok (some v) (Triple.finalState (backup volume img labels uid now s)) ∧
      backupPlan volume img labels uid now s.world = some (args, w1) ∧
      w1.benjiBackup args =
        some ((Triple.finalState (backup volume img labels uid now s)).world, v) ∧
      Event.call (.benjiBackup args) w1 .ok ∈
        (Triple.finalState (backup volume img labels uid now s)).log ∧
      Clean volume img v (Triple.finalState (backup volume img labels uid now s)).world := by
  obtain ⟨v, args, w1, hrun, hp, hb, hl⟩ := backup_follows_plan s hok
  refine ⟨v, args, w1, hrun, hp, hb, hl, ?_⟩
  obtain ⟨hsnap, hname, hvs, -, hcat⟩ := backupPlan_result hp hb
  obtain ⟨-, -, hvol, -, hvalid, -, -⟩ := World.benjiBackup_some hb
  have hvol' : v.volume = volume := hvol.trans (backupPlan_spec hp).2.2.1
  have hold : s.world.catalog.filter (fun x => x.volume = volume ∧ x.snapshot = v.source.name ∧
      x.valid) = [] := List.filter_eq_nil_iff.mpr fun x hx h => by
    simp only [decide_eq_true_eq] at h
    exact hf.catalog x hx h.2.2 (h.2.1.trans hname)
  refine ⟨hsnap, ?_, ?_⟩
  · simp only [World.benjiLs, hcat, List.filter_append, hold, List.nil_append]
    simp [hvol', hvs, hvalid]
  · simp [World.lastValid, hcat, List.filter_append, hvol', hvalid]

/-- **From a `Clean` image, a run without a failed call is differential** from `ver`. -/
theorem clean_run_ok {s : Sys} {ver : Version} (hc : Clean volume img ver s.world)
    (hf : FreshStamp img now s)
    (hok : ¬ FailedSince s.log (Triple.finalState (backup volume img labels uid now s))) :
    ∃ v args w1, backup volume img labels uid now s =
        .ok (some v) (Triple.finalState (backup volume img labels uid now s)) ∧
      args.baseVersion = some ver.uid ∧
      w1.benjiBackup args =
        some ((Triple.finalState (backup volume img labels uid now s)).world, v) ∧
      Event.call (.benjiBackup args) w1 .ok ∈
        (Triple.finalState (backup volume img labels uid now s)).log ∧
      Clean volume img v (Triple.finalState (backup volume img labels uid now s)).world := by
  obtain ⟨v, args, w1, hrun, hp, hb, hl, hc'⟩ := run_ok_clean hf hok
  rw [clean_backupPlan hc] at hp
  exact ⟨v, args, w1, hrun, differentialPlan_base hp, hb, hl, hc'⟩

end Runs

/-! ### Failed runs -/

section Quiet

variable {volume : String} {img : ImageRef} {labels : List (String × String)}
  {uid : Option String} {now n : String} {L0 : List Event} {w0 : World} {s : Sys}

/-- Since `L0` a call of `rbd snap create img@n` took effect: it succeeded, or it failed after
creating the snapshot. -/
def CreatedSince (L0 : List Event) (img : ImageRef) (n : String) (s : Sys) : Prop :=
  ∃ new, s.log = L0 ++ new ∧
    ∃ w e, Event.call (.snapCreate img n) w e ∈ new ∧ e ≠ .failed false

/-- The event is a call of `rbd snap create img@n` that took effect. -/
def Event.createdSnap (img : ImageRef) (n : String) : Event → Bool
  | .call (.snapCreate i m) _ e => decide ((i, m) = (img, n) ∧ e ≠ .failed false)
  | _ => false

theorem not_createdSince {s : Sys}
    (h : ∀ ev ∈ s.log.drop L0.length, ev.createdSnap img n = false) :
    ¬ CreatedSince L0 img n s := by
  rintro ⟨new, hl, w, e, hm, he⟩
  rw [hl, List.drop_left] at h
  exact absurd (h _ hm) (by simp [Event.createdSnap, he])

/-- Since `L0` the world is `w0`, and so was every world a call ran in. -/
def Unmoved (L0 : List Event) (w0 : World) (s : Sys) : Prop :=
  ∃ new, s.log = L0 ++ new ∧ s.world = w0 ∧ ∀ c w e, Event.call c w e ∈ new → w = w0

/-- The world stays `w0` until an `rbd snap create img@n` takes effect. -/
def UntilCreated (L0 : List Event) (w0 : World) (img : ImageRef) (n : String) (s : Sys) : Prop :=
  Unmoved L0 w0 s ∨ CreatedSince L0 img n s

theorem untilCreated_sent : SentClosed (UntilCreated L0 w0 img n) := by
  rintro s sig b (⟨new, hl, hw, hm⟩ | ⟨new, hl, w, e, hc, he⟩)
  · exact .inl ⟨new ++ [.signal sig], by simp [hl], hw,
      fun c w e h => hm c w e (by simpa using h)⟩
  · exact .inr ⟨new ++ [.signal sig], by simp [hl], w, e, by simp [hc], he⟩

/-- A call keeps `UntilCreated` when, run in `w0` with nothing moved yet, it leaves `w0` or is
the `rbd snap create`. -/
theorem UntilCreated.preservesAt {c : Cmd} (h : UntilCreated L0 w0 img n s)
    (hc : Unmoved L0 w0 s →
      ∀ w a, c.run w0 = some (w, a) → w = w0 ∨ c = .snapCreate img n) :
    PreservesAt (UntilCreated L0 w0 img n) s c := by
  rcases h with hu | ⟨new, hl, w', e', hcr, he'⟩
  · obtain ⟨new, hl, hw, hm⟩ := hu
    have hstay : ∀ e, UntilCreated L0 w0 img n (s.called c w0 e) := fun e =>
      .inl ⟨new ++ [.call c s.world e], by simp [hl], rfl, fun c' w e' h => by
        rcases List.mem_append.mp h with h | h
        · exact hm c' w e' h
        · simp only [List.mem_singleton, Event.call.injEq] at h
          rw [h.2.1, hw]⟩
    refine ⟨fun w a hr => ?_, hw ▸ hstay _⟩
    rcases hc ⟨new, hl, hw, hm⟩ w a (hw ▸ hr) with rfl | rfl
    · exact ⟨hstay _, hstay _⟩
    · have hmade : ∀ e, e ≠ .failed false →
          UntilCreated L0 w0 img n (s.called (.snapCreate img n) w e) := fun e he =>
        .inr ⟨new ++ [.call (.snapCreate img n) s.world e], by simp [hl], s.world, e, by simp,
          he⟩
      exact ⟨hmade _ (by simp), hmade _ (by simp)⟩
  · have hkeep : ∀ w e, UntilCreated L0 w0 img n (s.called c w e) := fun w e =>
      .inr ⟨new ++ [.call c s.world e], by simp [hl], w', e', by simp [hcr], he'⟩
    exact ⟨fun w _ _ => ⟨hkeep w _, hkeep w _⟩, hkeep _ _⟩

/-- A command that creates, removes and records nothing leaves the world as it was. -/
theorem Cmd.run_world_of_query {c : Cmd} {w w' : World} {a : c.Out} (h : c.run w = some (w', a))
    (hc : ∀ i n, c ≠ .snapCreate i n) (hr : ∀ i n, c ≠ .snapRm i n)
    (hb : ∀ args, c ≠ .benjiBackup args) : w' = w := by
  rcases Cmd.run_cases h with h | ⟨i, n, h, -⟩ | ⟨i, n, h, -⟩ | ⟨args, _, h, -⟩
  · exact h
  · exact absurd h (hc i n)
  · exact absurd h (hr i n)
  · exact absurd h (hb args)

/-- While nothing moved, no `rbd diff` to a fresh `b-now` has succeeded. -/
theorem FreshStamp.not_diffLogged {s0 : Sys} (hf : FreshStamp img now s0)
    (hn : NeverHad img (rbdSnapNamePrefix ++ now) s0) (hu : Unmoved s0.log s0.world s)
    {f : Option String} {h : Hints} :
    ¬ DiffLogged img f (rbdSnapNamePrefix ++ now) h s := by
  rintro ⟨w, hm, hd, -⟩
  obtain ⟨new, hl, -, hw⟩ := hu
  have hs := (World.diff_some hd).1
  rcases List.mem_append.mp (hl ▸ hm) with hm | hm
  · have := hn _ hm
    simp only [Event.avoidsSnap, hs] at this
    cases this
  · rw [hw _ _ _ hm, hf.image] at hs
    cases hs

/-- From a `Clean` image every call of a run keeps `UntilCreated`: until `b-now` exists, the
run removes nothing, and `rbd diff` and `benji backup` of `b-now` fail. -/
theorem untilCreated_runKeeps {s0 : Sys} {ver : Version} (hc : Clean volume img ver s0.world)
    (hf : FreshStamp img now s0) (hn : NeverHad img (rbdSnapNamePrefix ++ now) s0) :
    RunKeeps (UntilCreated s0.log s0.world img (rbdSnapNamePrefix ++ now)) volume img labels uid
      now s0.world where
  sent := untilCreated_sent
  snapLs _ h _ := h.preservesAt fun _ _ _ hr =>
    .inl (Cmd.run_world_of_query hr (fun _ _ => nofun) (fun _ _ => nofun) fun _ => nofun)
  snapRmOlder _ hn := by
    rw [benjisSnapshotsOf_snapLs, hc.snapshots] at hn
    simp at hn
  snapRmUnknown _ h _ _ hu := h.preservesAt fun ⟨_, _, hw, _⟩ => absurd hu (by
    rw [hw, benjisSnapshotsOf_snapLs, hc.snapshots]
    simp [hc.listed])
  snapRmBase _ _ h _ _ hd := h.preservesAt fun hu => absurd hd (hf.not_diffLogged hn hu)
  benjiLs _ _ h _ := h.preservesAt fun _ _ _ hr =>
    .inl (Cmd.run_world_of_query hr (fun _ _ => nofun) (fun _ _ => nofun) fun _ => nofun)
  snapCreate _ h _ := h.preservesAt fun _ _ _ _ => .inr rfl
  diff _ _ h _ := h.preservesAt fun _ _ _ hr =>
    .inl (Cmd.run_world_of_query hr (fun _ _ => nofun) (fun _ _ => nofun) fun _ => nofun)
  backupInitial _ _ h _ _ := h.preservesAt fun _ _ _ hr =>
    absurd (World.benjiBackup_some hr).1 (by simp [hf.image])
  backupDifferential _ _ _ _ h _ _ _ _ := h.preservesAt fun _ _ _ hr =>
    absurd (World.benjiBackup_some hr).1 (by simp [hf.image])

/-- **A failed run whose `rbd snap create` never took effect leaves the world as it was.** -/
theorem clean_run_quiet {ver : Version} (hc : Clean volume img ver s.world)
    (hf : FreshStamp img now s) (hn : NeverHad img (rbdSnapNamePrefix ++ now) s)
    (hq : ¬ CreatedSince s.log img (rbdSnapNamePrefix ++ now)
      (Triple.finalState (backup volume img labels uid now s))) :
    (Triple.finalState (backup volume img labels uid now s)).world = s.world := by
  rcases Triple.final (backup_preserves (untilCreated_runKeeps hc hf hn))
      (s := s) ⟨.inl ⟨[], by simp, rfl, by simp⟩, rfl⟩ with ⟨_, _, hw, _⟩ | hcr
  · exact hw
  · exact absurd hcr hq

/-- One run of `backup volume img` with a fresh stamp that had no failed call, or whose
`rbd snap create` of a name the image never had did not take effect. -/
def QuietRun (volume : String) (img : ImageRef) (s s' : Sys) : Prop :=
  ∃ labels uid now, FreshStamp img now s ∧
    s' = Triple.finalState (backup volume img labels uid now s) ∧
    (¬ FailedSince s.log s' ∨ NeverHad img (rbdSnapNamePrefix ++ now) s ∧
      ¬ CreatedSince s.log img (rbdSnapNamePrefix ++ now) s')

theorem quietRun_clean {s' : Sys} {ver : Version} (hc : Clean volume img ver s.world)
    (h : QuietRun volume img s s') : ∃ ver', Clean volume img ver' s'.world := by
  obtain ⟨labels, uid, now, hf, rfl, hok | ⟨hn, hq⟩⟩ := h
  · obtain ⟨v, -, -, -, -, -, -, hc'⟩ := run_ok_clean hf hok
    exact ⟨v, hc'⟩
  · exact ⟨ver, (clean_run_quiet hc hf hn hq).symm ▸ hc⟩

theorem quietRuns_clean {s' : Sys} (h : Relation.ReflTransGen (QuietRun volume img) s s') :
    (∃ ver, Clean volume img ver s.world) → ∃ ver, Clean volume img ver s'.world := by
  induction h with
  | refl => exact id
  | tail _ step ih => exact fun h0 => (ih h0).elim fun _ hc => quietRun_clean hc step

end Quiet

/-- A first backup of `vm`; then a second whose `rbd snap ls` fails, and whose receiver of
`on_backup_post_error` lets the run return. -/
def quietFailStart : Sys :=
  { emptySys with outcomes := [.ok, .ok, .ok, .ok, .failBefore], replies := [[false]] }

def quietFailRun : Sys := Triple.finalState (backup "vm" rbdVm [] none "t2"
  (Triple.finalState (backup "vm" rbdVm [] none "t1" quietFailStart)))

/-- The second backup fails at the `benji backup` of its `backup_differential`, after the
`rbd snap rm` of the base's snapshot; a receiver of `on_backup_post_error` asks to re-raise. -/
def failedRun : Sys := Triple.finalState (backup "vm" rbdVm [] none "t2"
  { firstRun with outcomes := [.ok, .ok, .ok, .ok, .ok, .failBefore], replies := [[true]] })

/-- The third backup, every call succeeding. -/
def thirdRun : Sys := Triple.finalState (backup "vm" rbdVm [] none "t3" failedRun)

end Benji.Ceph
