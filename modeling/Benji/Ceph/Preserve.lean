import Benji.Ceph.Logic

/-!
# Benji.Ceph.Preserve — what a run of `backup` keeps

A predicate on `Sys` that every signal send keeps, and that each call the script makes keeps
however the call ends, holds after the call's function, whether it returns or raises.  There is
one lemma per function of the script, each built from the lemmas of the functions it calls;
`snapshot_create` enters them as a whole, so a predicate that only its whole run keeps can be
carried too.  A call comes with what the script knows when it makes it:

* an `rbd snap rm` removes a name of the `b-` listing that the run's `rbd snap ls` logged
  (`Listed`);
* the one `benji backup` of a run runs with the catalog the run started with: no other call
  changes it;
* the `benji backup` of `backup_differential` passes the output of an `rbd diff` that was
  logged in a world with the current catalog (`DiffLogged`), and a base version that `benji ls`
  finds in that catalog.

`RunKeeps` collects the hypotheses for a whole run, and `backup_preserves` is the result.
-/

namespace Benji.Ceph

/-- `I` holds after a call of `c` from `s`, however the call ends. -/
def PreservesAt (I : Sys → Prop) (s : Sys) (c : Cmd) : Prop :=
  (∀ w a, c.run s.world = some (w, a) → I (s.called c w .ok) ∧ I (s.called c w (.failed true))) ∧
    I (s.called c s.world (.failed false))

/-- Every send of `sig` keeps `I`. -/
def KeepsSend (I : Sys → Prop) (sig : Signal) : Prop := ∀ s b, I s → I (s.sent sig b)

/-- Every signal send keeps `I`. -/
def SentClosed (I : Sys → Prop) : Prop := ∀ s sig b, I s → I (s.sent sig b)

/-- Every send of a `snapshot_create` signal keeps `I`: the functions `backup` calls send no
other signal. -/
def CreateSentClosed (I : Sys → Prop) : Prop :=
  KeepsSend I .snapshotCreatePre ∧ KeepsSend I .snapshotCreatePostSuccess ∧
    KeepsSend I .snapshotCreatePostError

theorem SentClosed.keeps {I : Sys → Prop} (hs : SentClosed I) (sig : Signal) : KeepsSend I sig :=
  fun s b => hs s sig b

theorem SentClosed.create {I : Sys → Prop} (hs : SentClosed I) : CreateSentClosed I :=
  ⟨hs.keeps _, hs.keeps _, hs.keeps _⟩

theorem CreateSentClosed.and {I J : Sys → Prop} (hs : CreateSentClosed I) (hJ : SentClosed J) :
    CreateSentClosed fun s => I s ∧ J s :=
  ⟨fun s b h => ⟨hs.1 s b h.1, hJ s _ b h.2⟩, fun s b h => ⟨hs.2.1 s b h.1, hJ s _ b h.2⟩,
    fun s b h => ⟨hs.2.2 s b h.1, hJ s _ b h.2⟩⟩

/-- The run's `rbd snap ls` of `img` ran in `w0` and was logged. -/
def Listed (img : ImageRef) (w0 : World) (s : Sys) : Prop := Event.call (.snapLs img) w0 .ok ∈ s.log

/-- An `rbd diff` that printed `h` was logged, in a world with the current catalog. -/
def DiffLogged (img : ImageRef) (fromSnap : Option String) (snapshot : String) (h : Hints)
    (s : Sys) : Prop :=
  ∃ w, Event.call (.diff img fromSnap snapshot) w .ok ∈ s.log ∧
    w.diff img fromSnap snapshot = some h ∧ w.catalog = s.world.catalog

/-! ### Rules -/

namespace Triple

variable {α : Type} {I P : Sys → Prop} {R : PyExc → Sys → Prop}

theorem or {P' : Sys → Prop} {m : M α} {Q : α → Sys → Prop} (h : Triple P m Q R)
    (h' : Triple P' m Q R) : Triple (fun s => P s ∨ P' s) m Q R :=
  fun s hs => hs.elim (h s) (h' s)

theorem call {c : Cmd} (h : ∀ s, P s → PreservesAt I s c) :
    Triple P (Ceph.subprocessRun c) (fun _ => I) (fun _ => I) :=
  .subprocessRun (fun s hs w a hw => ((h s hs).1 w a hw).1)
    (fun s hs w a hw => ((h s hs).1 w a hw).2) fun s hs => (h s hs).2

/-- A call whose output the script uses: the output is what the command printed in the state
before it, whose call was logged, and which the call changed into the current world. -/
theorem callOut {c : Cmd} (h : ∀ s, P s → PreservesAt I s c) :
    Triple P (Ceph.subprocessRun c)
      (fun a s => I s ∧ ∃ s0, P s0 ∧ Event.call c s0.world .ok ∈ s.log ∧
        c.run s0.world = some (s.world, a))
      (fun _ => I) :=
  .subprocessRun (fun s hs w a hw => ⟨((h s hs).1 w a hw).1, s, hs, by simp, hw⟩)
    (fun s hs w a hw => ((h s hs).1 w a hw).2) fun s hs => (h s hs).2

/-- A `for` loop whose body keeps `I` for every item of the list. -/
theorem forM_mem {β : Type} {l : List β} {f : β → M PUnit}
    (hf : ∀ x ∈ l, Triple I (f x) (fun _ => I) R) : Triple I (l.forM f) (fun _ => I) R := by
  induction l with
  | nil => exact fun _ h => h
  | cons x xs ih =>
    exact (hf x (List.mem_cons_self _ _)).bind fun _ => ih fun y hy => hf y (List.mem_cons_of_mem _ hy)

/-- `try`/`except`/`else` whose three parts keep `I`. -/
theorem pyTryI {body : M (Option α)} {handler : PyExc → M (Option α)} {orelse : M (Option α)}
    (hb : Triple P body (fun _ => I) (fun _ => I))
    (hh : ∀ e, Triple I (handler e) (fun _ => I) (fun _ => I))
    (ho : Triple I orelse (fun _ => I) (fun _ => I)) :
    Triple P (Ceph.pyTry body handler orelse) (fun _ => I) (fun _ => I) :=
  Triple.pyTry hb (fun _ _ h => h) ho hh

theorem sendI {sig : Signal} (hs : KeepsSend I sig) : Triple I (Ceph.send sig) (fun _ => I) R :=
  .send fun s h => hs s false h

theorem handlePostErrorI {sig : Signal} (hs : KeepsSend I sig) (e : PyExc) :
    Triple I (handlePostError sig e : M (Option α)) (fun _ => I) (fun _ => I) :=
  .bind (.sendPostError (fun s h _ _ _ => hs s true h) fun s h _ => hs s true h) fun _ =>
    .ite (fun _ => .throw' e fun _ => id) fun _ => .pure' _ fun _ => id

end Triple

/-! ### What a call leaves alone -/

section Frame

variable {I : Sys → Prop} {s : Sys} {c : Cmd} {w w' : World} {a : c.Out}

/-- Only `benji backup` changes the catalog. -/
theorem Cmd.run_catalog (h : c.run w = some (w', a)) (hc : ∀ args, c ≠ .benjiBackup args) :
    w'.catalog = w.catalog := by
  rcases Cmd.run_cases h with rfl | ⟨_, _, -, h'⟩ | ⟨_, _, -, h'⟩ | ⟨args, _, rfl, -⟩
  · rfl
  · exact (World.snapCreate_some h').2.2
  · exact (World.snapRm_some h').2.2
  · exact absurd rfl (hc args)

theorem PreservesAt.and {J : Sys → Prop} (h : PreservesAt I s c) (h' : PreservesAt J s c) :
    PreservesAt (fun s => I s ∧ J s) s c :=
  ⟨fun w a hw => ⟨⟨(h.1 w a hw).1, (h'.1 w a hw).1⟩, ⟨(h.1 w a hw).2, (h'.1 w a hw).2⟩⟩,
    ⟨h.2, h'.2⟩⟩

/-- A call other than `benji backup` keeps the catalog. -/
theorem PreservesAt.catalogEq {C : List Version} (hc : ∀ args, c ≠ .benjiBackup args)
    (h0 : s.world.catalog = C) : PreservesAt (fun s => s.world.catalog = C) s c :=
  ⟨fun _ _ hw => have hcat := (Cmd.run_catalog hw hc).trans h0; ⟨hcat, hcat⟩, h0⟩

/-- A call other than `benji backup` keeps `I` with the catalog fixed. -/
theorem PreservesAt.catalog {C : List Version} (h : PreservesAt I s c)
    (hc : ∀ args, c ≠ .benjiBackup args) (h0 : s.world.catalog = C) :
    PreservesAt (fun s => I s ∧ s.world.catalog = C) s c :=
  h.and (.catalogEq hc h0)

theorem Listed.called {img : ImageRef} {w0 : World} {e : CallEnd} (h : Listed img w0 s) :
    Listed img w0 (s.called c w e) := by
  simp only [Listed, Sys.called_log, List.mem_append] at h ⊢
  exact .inl h

theorem Listed.sent {img : ImageRef} {w0 : World} {sig : Signal} {b : Bool}
    (h : Listed img w0 s) : Listed img w0 (s.sent sig b) := by
  simp only [Listed, Sys.sent_log, List.mem_append] at h ⊢
  exact .inl h

theorem Listed.preservesAt {img : ImageRef} {w0 : World} (h : Listed img w0 s) :
    PreservesAt (Listed img w0) s c :=
  ⟨fun _ _ _ => ⟨h.called, h.called⟩, h.called⟩

/-- A logged `rbd diff` stays logged, and its world keeps the current catalog, across any call
but `benji backup`. -/
theorem DiffLogged.preservesAt {img : ImageRef} {f : Option String} {n : String} {h : Hints}
    (hd : DiffLogged img f n h s) (hc : ∀ args, c ≠ .benjiBackup args) :
    PreservesAt (DiffLogged img f n h) s c := by
  obtain ⟨w0, hl, hw, hcat⟩ := hd
  have hlog : ∀ w e, Event.call (.diff img f n) w0 .ok ∈ (s.called c w e).log := fun w e => by
    simp [hl]
  exact ⟨fun w a hr => have hcat' : w0.catalog = w.catalog := hcat.trans (Cmd.run_catalog hr hc).symm
    ⟨⟨w0, hlog _ _, hw, hcat'⟩, ⟨w0, hlog _ _, hw, hcat'⟩⟩, ⟨w0, hlog _ _, hw, hcat⟩⟩

end Frame

/-! ### One lemma per function -/

section Functions

variable {I : Sys → Prop} {volume : String} {img : ImageRef} {labels : List (String × String)}
  {uid : Option String} {now : String} {C : List Version}

theorem snapshotCreate_preserves {n : String} (hs : CreateSentClosed I)
    (hc : ∀ s, I s → PreservesAt I s (.snapCreate img n)) :
    Triple I (snapshotCreate img n) (fun _ => I) (fun _ => I) :=
  (Triple.sendI hs.1).bind fun _ =>
    (Triple.pyTryI ((Triple.call hc).bind fun _ => .pure' _ fun _ => id)
      (Triple.handlePostErrorI hs.2.2) ((Triple.sendI hs.2.1).bind fun _ => .pure' _ fun _ => id)).bind
      fun _ => .pure' _ fun _ => id

/-- A call other than `benji backup` that keeps `I` keeps it with the catalog fixed. -/
theorem Triple.callCatalog {c : Cmd} (h : ∀ s, I s → PreservesAt I s c)
    (hc : ∀ args, c ≠ .benjiBackup args) :
    Triple (fun s => I s ∧ s.world.catalog = C) (Ceph.subprocessRun c)
      (fun _ s => I s ∧ s.world.catalog = C) (fun _ => I) :=
  (Triple.call fun s hs => (h s hs.1).catalog hc hs.2).conseq (fun _ => id) (fun _ _ => id)
    fun _ _ h => h.1

/-- `snapshot_create` keeps the catalog, so one that keeps `I` keeps it with the catalog fixed. -/
theorem Triple.snapshotCreateCatalog {n : String}
    (hsc : Triple I (snapshotCreate img n) (fun _ => I) (fun _ => I)) :
    Triple (fun s => I s ∧ s.world.catalog = C) (snapshotCreate img n)
      (fun _ s => I s ∧ s.world.catalog = C) (fun _ => I) :=
  (hsc.and (snapshotCreate_preserves ⟨fun _ _ h => h, fun _ _ h => h, fun _ _ h => h⟩
    fun _ h => .catalogEq (fun _ => nofun) h)).conseq (fun _ => id) (fun _ _ => id)
    fun _ _ h => h.1

/-- A triple that holds with the catalog fixed to any `C` holds with the catalog free. -/
theorem Triple.of_catalog {α : Type} {m : M α} {Q : α → Sys → Prop} {R : PyExc → Sys → Prop}
    (h : ∀ C, Triple (fun s => I s ∧ s.world.catalog = C) m Q R) : Triple I m Q R :=
  fun s hs => h _ s ⟨hs, rfl⟩

/-- `backup_initial`, from a `snapshot_create` that keeps `I`; its `benji backup` runs with the
catalog it started with. -/
theorem backupInitial_preserves
    (hsc : Triple I (snapshotCreate img (rbdSnapNamePrefix ++ now)) (fun _ => I) (fun _ => I))
    (hd : ∀ s, I s → PreservesAt I s (.diff img none (rbdSnapNamePrefix ++ now)))
    (hb : ∀ h s, I s → s.world.catalog = C → PreservesAt I s (.benjiBackup
      ⟨rbdSnapNamePrefix ++ now, h, none, uid, labels, (img, rbdSnapNamePrefix ++ now), volume⟩)) :
    Triple (fun s => I s ∧ s.world.catalog = C) (backupInitial volume img labels uid now)
      (fun _ => I) (fun _ => I) :=
  hsc.snapshotCreateCatalog.bind fun _ => (Triple.callCatalog hd fun _ => nofun).bind fun h =>
    Triple.call fun s hs => hb h s hs.1 hs.2

/-- `backup_differential`, from a `snapshot_create` that keeps `I`: its `snap rm` and its
`benji backup` run after the `rbd diff` was logged, and the `benji backup` gets that diff's output
with the catalog it started with. -/
theorem backupDifferential_preserves {last baseUid : String}
    (hsc : Triple I (snapshotCreate img (rbdSnapNamePrefix ++ now)) (fun _ => I) (fun _ => I))
    (hd : ∀ s, I s → PreservesAt I s (.diff img (some last) (rbdSnapNamePrefix ++ now)))
    (hr : ∀ h s, I s → DiffLogged img (some last) (rbdSnapNamePrefix ++ now) h s →
      PreservesAt I s (.snapRm img last))
    (hb : ∀ h s, I s → s.world.catalog = C →
      DiffLogged img (some last) (rbdSnapNamePrefix ++ now) h s →
      PreservesAt I s (.benjiBackup ⟨rbdSnapNamePrefix ++ now, h, some baseUid, uid, labels,
        (img, rbdSnapNamePrefix ++ now), volume⟩)) :
    Triple (fun s => I s ∧ s.world.catalog = C)
      (backupDifferential volume img last baseUid labels uid now) (fun _ => I) (fun _ => I) := by
  have hdiff : Triple (fun s => I s ∧ s.world.catalog = C)
      (subprocessRun (.diff img (some last) (rbdSnapNamePrefix ++ now)))
      (fun h s => (I s ∧ s.world.catalog = C) ∧
        DiffLogged img (some last) (rbdSnapNamePrefix ++ now) h s) (fun _ => I) := by
    refine (Triple.callOut fun s h => (hd s h.1).catalog (fun _ => nofun) h.2).conseq
      (fun _ => id) (fun h s ⟨hJ, s0, _, hl, hw⟩ => ⟨hJ, ?_⟩) fun _ _ h => h.1
    obtain ⟨hw, hd'⟩ := Cmd.run_diff_eq_some.mp hw
    exact ⟨s0.world, hl, hd', by rw [hw]⟩
  have hrm : ∀ h, Triple (fun s => (I s ∧ s.world.catalog = C) ∧
      DiffLogged img (some last) (rbdSnapNamePrefix ++ now) h s) (subprocessRun (.snapRm img last))
      (fun _ s => (I s ∧ s.world.catalog = C) ∧
        DiffLogged img (some last) (rbdSnapNamePrefix ++ now) h s) (fun _ => I) := fun h =>
    (Triple.call fun s hK => ((hr h s hK.1.1 hK.2).catalog (fun _ => nofun) hK.1.2).and
      (hK.2.preservesAt fun _ => nofun)).conseq (fun _ => id) (fun _ _ => id) fun _ _ hK => hK.1.1
  exact hsc.snapshotCreateCatalog.bind fun _ => hdiff.bind fun h => (hrm h).bind fun _ =>
    Triple.call fun s hK => hb h s hK.1.1 hK.1.2 hK.2

theorem World.benjiLs_of_catalog {w w' : World} (h : w'.catalog = w.catalog) (v n : String) :
    w'.benjiLs v n = w.benjiLs v n := by
  simp only [World.benjiLs, h]

/-- The `else` branch of `backup`: the `snap rm` loop over all but the newest name, `benji ls`,
then `backup_differential` from the version it found, or `snap rm` and `backup_initial`. -/
theorem backupFromLast_preserves {names : List String}
    (hsc : Triple I (snapshotCreate img (rbdSnapNamePrefix ++ now)) (fun _ => I) (fun _ => I))
    (hr : ∀ n ∈ names.dropLast, ∀ s, I s → PreservesAt I s (.snapRm img n))
    (hl : ∀ s, I s → PreservesAt I s (.benjiLs volume (names.getLastD "")))
    (hu : ∀ s, I s → s.world.benjiLs volume (names.getLastD "") = [] →
      PreservesAt I s (.snapRm img (names.getLastD "")))
    (hbr : ∀ h s, I s → DiffLogged img (some (names.getLastD "")) (rbdSnapNamePrefix ++ now) h s →
      PreservesAt I s (.snapRm img (names.getLastD "")))
    (hd : ∀ f s, I s → PreservesAt I s (.diff img f (rbdSnapNamePrefix ++ now)))
    (hb0 : ∀ h s, I s → s.world.catalog = C → PreservesAt I s (.benjiBackup
      ⟨rbdSnapNamePrefix ++ now, h, none, uid, labels, (img, rbdSnapNamePrefix ++ now), volume⟩))
    (hb : ∀ base h s, I s → s.world.catalog = C →
      base ∈ s.world.benjiLs volume (names.getLastD "") →
      DiffLogged img (some (names.getLastD "")) (rbdSnapNamePrefix ++ now) h s →
      PreservesAt I s (.benjiBackup ⟨rbdSnapNamePrefix ++ now, h, some base.uid, uid, labels,
        (img, rbdSnapNamePrefix ++ now), volume⟩)) :
    Triple (fun s => I s ∧ s.world.catalog = C) (backupFromLast volume img labels uid now names)
      (fun _ => I) (fun _ => I) := by
  unfold backupFromLast
  refine (Triple.forM_mem fun n hn => (Triple.callCatalog (hr n hn) fun _ => nofun).bind
    fun _ => .pure' _ fun _ => id).bind fun _ => ?_
  refine ((Triple.callOut fun s h => (hl s h.1).catalog (fun _ => nofun) h.2).conseq (fun _ => id)
    (fun _ _ => id) fun _ _ h => h.1).bind fun out => ?_
  rintro s ⟨⟨hi, hcat⟩, s0, -, -, hrun⟩
  obtain ⟨hw, hout⟩ := Cmd.run_benjiLs_eq_some.mp hrun
  rcases out with _ | ⟨base, tail⟩
  · have hrm : Triple (s = ·) (subprocessRun (.snapRm img (names.getLastD "")))
        (fun _ s' => I s' ∧ s'.world.catalog = C) (fun _ => I) :=
      (Triple.call fun _ h => h ▸ (hu s hi (by rw [← hw, hout])).catalog (fun _ => nofun) hcat).conseq
        (fun _ => id) (fun _ _ => id) fun _ _ h => h.1
    exact (hrm.bind fun _ => backupInitial_preserves hsc (hd none) hb0) s rfl
  · refine backupDifferential_preserves hsc (hd _) hbr
      (fun h s' hi' hcat' hdl => hb base h s' hi' hcat' ?_ hdl) s ⟨hi, hcat⟩
    rw [World.benjiLs_of_catalog (hcat'.trans hcat.symm), ← hw, hout]
    exact List.mem_cons_self _ _

end Functions

/-! ### A whole run -/

/-- What a predicate needs to survive a run of `backup volume img labels uid now` started in
world `w0`: every send keeps it, and so does each call the run can make, once its
`rbd snap ls` is logged; the `benji backup` call runs with the catalog of `w0`. -/
structure RunKeeps (I : Sys → Prop) (volume : String) (img : ImageRef)
    (labels : List (String × String)) (uid : Option String) (now : String) (w0 : World) :
    Prop where
  sent : SentClosed I
  snapLs : ∀ s, I s → s.world = w0 → PreservesAt I s (.snapLs img)
  snapRmOlder : ∀ n ∈ (benjisSnapshotsOf (w0.snapLs img)).dropLast, ∀ s, I s → Listed img w0 s →
    PreservesAt I s (.snapRm img n)
  snapRmUnknown : ∀ s, I s → Listed img w0 s → benjisSnapshotsOf (w0.snapLs img) ≠ [] →
    s.world.benjiLs volume ((benjisSnapshotsOf (w0.snapLs img)).getLastD "") = [] →
    PreservesAt I s (.snapRm img ((benjisSnapshotsOf (w0.snapLs img)).getLastD ""))
  snapRmBase : ∀ h s, I s → Listed img w0 s → benjisSnapshotsOf (w0.snapLs img) ≠ [] →
    DiffLogged img (some ((benjisSnapshotsOf (w0.snapLs img)).getLastD ""))
      (rbdSnapNamePrefix ++ now) h s →
    PreservesAt I s (.snapRm img ((benjisSnapshotsOf (w0.snapLs img)).getLastD ""))
  benjiLs : ∀ n s, I s → Listed img w0 s → PreservesAt I s (.benjiLs volume n)
  snapCreate : ∀ s, I s → Listed img w0 s →
    PreservesAt I s (.snapCreate img (rbdSnapNamePrefix ++ now))
  diff : ∀ f s, I s → Listed img w0 s → PreservesAt I s (.diff img f (rbdSnapNamePrefix ++ now))
  backupInitial : ∀ h s, I s → Listed img w0 s → s.world.catalog = w0.catalog →
    PreservesAt I s (.benjiBackup ⟨rbdSnapNamePrefix ++ now, h, none, uid, labels,
      (img, rbdSnapNamePrefix ++ now), volume⟩)
  backupDifferential : ∀ last base h s, I s → Listed img w0 s → s.world.catalog = w0.catalog →
    base ∈ s.world.benjiLs volume last →
    DiffLogged img (some last) (rbdSnapNamePrefix ++ now) h s →
    PreservesAt I s (.benjiBackup ⟨rbdSnapNamePrefix ++ now, h, some base.uid, uid, labels,
      (img, rbdSnapNamePrefix ++ now), volume⟩)

/-- **A run keeps what its calls keep**, whether it returns, swallows an exception or raises. -/
theorem backup_preserves {I : Sys → Prop} {volume : String} {img : ImageRef}
    {labels : List (String × String)} {uid : Option String} {now : String} {w0 : World}
    (h : RunKeeps I volume img labels uid now w0) :
    Triple (fun s => I s ∧ s.world = w0) (backup volume img labels uid now) (fun _ => I)
      (fun _ => I) := by
  have hJ : ∀ {c : Cmd}, (∀ s, I s → Listed img w0 s → PreservesAt I s c) →
      ∀ s, I s ∧ Listed img w0 s → PreservesAt (fun s => I s ∧ Listed img w0 s) s c :=
    fun hc s hs => (hc s hs.1 hs.2).and hs.2.preservesAt
  have hsc := snapshotCreate_preserves (h.sent.create.and fun _ _ _ hl => hl.sent)
    (hJ (h.snapCreate · ·))
  have hpre : Triple (fun s => I s ∧ s.world = w0) (send .backupPre)
      (fun _ s => I s ∧ s.world = w0) (fun _ => I) :=
    Triple.send fun s hs => ⟨h.sent s _ _ hs.1, hs.2⟩
  refine hpre.bind fun _ => Triple.pyTryI ?_ (Triple.handlePostErrorI (h.sent.keeps _))
    ((Triple.sendI (h.sent.keeps _)).bind fun _ => .pure' _ fun _ => id)
  refine (Triple.callOut fun s hs => h.snapLs s hs.1 hs.2).bind fun out => ?_
  rintro s ⟨hi, s0, ⟨-, rfl⟩, hl, hrun⟩
  obtain ⟨hw, rfl⟩ := Cmd.run_snapLs_eq_some.mp hrun
  have hbranch : Triple (fun s => (I s ∧ Listed img s0.world s) ∧ s.world.catalog = s0.world.catalog)
      (if (benjisSnapshotsOf (s0.world.snapLs img)).length = 0 then
        backupInitial volume img labels uid now
      else backupFromLast volume img labels uid now (benjisSnapshotsOf (s0.world.snapLs img)))
      (fun _ s => I s ∧ Listed img s0.world s) (fun _ => I) := by
    refine Triple.ite (fun _ => ?_) fun hlen => ?_
    · exact (backupInitial_preserves hsc (hJ (h.diff none · ·))
        fun h' s hs hcat => (h.backupInitial h' s hs.1 hs.2 hcat).and hs.2.preservesAt).conseq
          (fun _ => id) (fun _ _ => id) fun _ _ hs => hs.1
    · have hne : benjisSnapshotsOf (s0.world.snapLs img) ≠ [] := by
        simpa [List.length_eq_zero] using hlen
      exact (backupFromLast_preserves hsc (fun n hn => hJ (h.snapRmOlder n hn · ·))
          (hJ (h.benjiLs _ · ·))
          (fun s hs hu => (h.snapRmUnknown s hs.1 hs.2 hne hu).and hs.2.preservesAt)
          (fun h' s hs hd => (h.snapRmBase h' s hs.1 hs.2 hne hd).and hs.2.preservesAt)
          (fun f => hJ (h.diff f · ·))
          (fun h' s hs hcat => (h.backupInitial h' s hs.1 hs.2 hcat).and hs.2.preservesAt)
          fun base h' s hs hcat hb hd => (h.backupDifferential _ base h' s hs.1 hs.2 hcat hb hd).and
            hs.2.preservesAt).conseq (fun _ => id) (fun _ _ => id) fun _ _ hs => hs.1
  exact (hbranch.bind fun _ => .pure' _ fun _ hs => hs.1) s ⟨⟨hi, hl⟩, by rw [hw]⟩

end Benji.Ceph
