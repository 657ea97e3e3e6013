import Benji.Ceph.Preserve

/-!
# Benji.Ceph.Success — what a run does when no call fails

`backupPlan` is `backup` with every call succeeding: a function of the world the run starts in,
giving the arguments of the `benji backup` the run ends with and the world that call runs in.
`backup_success` ties it to the script: when no call of a run failed, the run returned the
version that call created from the planned arguments, in the planned world, and logged the call.
Each function of the script has its plan and its lemma; a failed call anywhere is carried to the
end by `FailedSince`, which every function keeps.
-/

namespace Benji.Ceph

/-! ### The plan -/

section Plan

variable (volume : String) (img : ImageRef) (labels : List (String × String))
  (uid : Option String) (now : String)

def initialPlan (w : World) : Option (BackupArgs × World) := do
  let snapshot := rbdSnapNamePrefix ++ now
  let w1 ← w.snapCreate img snapshot
  let hints ← w1.diff img none snapshot
  pure (⟨snapshot, hints, none, uid, labels, (img, snapshot), volume⟩, w1)

def differentialPlan (last baseUid : String) (w : World) : Option (BackupArgs × World) := do
  let snapshot := rbdSnapNamePrefix ++ now
  let w1 ← w.snapCreate img snapshot
  let hints ← w1.diff img (some last) snapshot
  let w2 ← w1.snapRm img last
  pure (⟨snapshot, hints, some baseUid, uid, labels, (img, snapshot), volume⟩, w2)

/-- The `snap rm` loop over older snapshots. -/
def removeAll : List String → World → Option World
  | [], w => some w
  | n :: ns, w => (w.snapRm img n).bind (removeAll ns)

def fromLastPlan (names : List String) (w : World) : Option (BackupArgs × World) := do
  let w1 ← removeAll img names.dropLast w
  let last := names.getLastD ""
  match w1.benjiLs volume last with
  | base :: _ => differentialPlan volume img labels uid now last base.uid w1
  | [] => do
    let w2 ← w1.snapRm img last
    initialPlan volume img labels uid now w2

def backupPlan (w : World) : Option (BackupArgs × World) :=
  if (benjisSnapshotsOf (w.snapLs img)).length = 0 then initialPlan volume img labels uid now w
  else fromLastPlan volume img labels uid now (benjisSnapshotsOf (w.snapLs img)) w

end Plan

/-! ### Failed calls -/

/-- The log extends `L0`. -/
def Extends (L0 : List Event) (s : Sys) : Prop := ∃ new, s.log = L0 ++ new

/-- A call logged after `L0` failed. -/
def FailedSince (L0 : List Event) (s : Sys) : Prop :=
  ∃ new, s.log = L0 ++ new ∧ ∃ c w b, Event.call c w (.failed b) ∈ new

section Failed

variable {L0 : List Event} {s : Sys} {c : Cmd} {w : World}

theorem FailedSince.append {e : Event} {s' : Sys} (h : FailedSince L0 s)
    (hl : s'.log = s.log ++ [e]) : FailedSince L0 s' := by
  obtain ⟨new, hn, c, w, b, hc⟩ := h
  exact ⟨new ++ [e], by rw [hl, hn, List.append_assoc], c, w, b, List.mem_append_left _ hc⟩

theorem Extends.append {e : Event} {s' : Sys} (h : Extends L0 s) (hl : s'.log = s.log ++ [e]) :
    Extends L0 s' := by
  obtain ⟨new, hn⟩ := h
  exact ⟨new ++ [e], by rw [hl, hn, List.append_assoc]⟩

theorem Extends.failed {b : Bool} (h : Extends L0 s) :
    FailedSince L0 (s.called c w (.failed b)) := by
  obtain ⟨new, hn⟩ := h
  exact ⟨new ++ [.call c s.world (.failed b)], by simp [hn], c, s.world, b, by simp⟩

theorem FailedSince.sentClosed : SentClosed (FailedSince L0) := fun _ _ _ h => h.append rfl

theorem FailedSince.preservesAt (h : FailedSince L0 s) : PreservesAt (FailedSince L0) s c :=
  ⟨fun _ _ _ => ⟨h.append rfl, h.append rfl⟩, h.append rfl⟩

/-- A call from a good state: it returned, and the state before it is named, or it failed. -/
theorem Triple.callOk {P : Sys → Prop} :
    Triple (fun s => Extends L0 s ∧ P s) (Ceph.subprocessRun c)
      (fun a s => Extends L0 s ∧ ∃ s0, P s0 ∧ c.run s0.world = some (s.world, a) ∧
        s.log = s0.log ++ [.call c s0.world .ok])
      (fun _ => FailedSince L0) :=
  .subprocessRun (fun s hs _ _ hw => ⟨hs.1.append rfl, s, hs.2, hw, rfl⟩)
    (fun _ hs _ _ _ => hs.1.failed) fun _ hs => hs.1.failed

/-- Sequencing when the first part may end in a failure, which the rest keeps. -/
theorem Triple.bindFailed {α β : Type} {P : Sys → Prop} {m : M α} {k : α → M β}
    {G : α → Sys → Prop} {G' : β → Sys → Prop}
    (hm : Triple P m (fun a s => FailedSince L0 s ∨ G a s) (fun _ => FailedSince L0))
    (hk : ∀ a, Triple (G a) (k a) (fun b s => FailedSince L0 s ∨ G' b s) (fun _ => FailedSince L0))
    (hf : ∀ a, Triple (FailedSince L0) (k a) (fun _ => FailedSince L0) (fun _ => FailedSince L0)) :
    Triple P (m >>= k) (fun b s => FailedSince L0 s ∨ G' b s) (fun _ => FailedSince L0) :=
  hm.bind fun a => ((hf a).conseq (fun _ => id) (fun _ _ => .inl) fun _ _ => id).or (hk a)

/-! ### Every function keeps a failure -/

variable {volume : String} {img : ImageRef} {labels : List (String × String)}
  {uid : Option String} {now : String}

theorem snapshotCreate_failed {n : String} :
    Triple (FailedSince L0) (snapshotCreate img n) (fun _ => FailedSince L0)
      (fun _ => FailedSince L0) :=
  snapshotCreate_preserves FailedSince.sentClosed.create fun _ h => h.preservesAt

theorem backupInitial_failed :
    Triple (FailedSince L0) (backupInitial volume img labels uid now) (fun _ => FailedSince L0)
      (fun _ => FailedSince L0) :=
  .of_catalog fun _ => backupInitial_preserves snapshotCreate_failed (fun _ h => h.preservesAt)
    fun _ _ h _ => h.preservesAt

theorem backupDifferential_failed {last baseUid : String} :
    Triple (FailedSince L0) (backupDifferential volume img last baseUid labels uid now)
      (fun _ => FailedSince L0) (fun _ => FailedSince L0) :=
  .of_catalog fun _ => backupDifferential_preserves snapshotCreate_failed
    (fun _ h => h.preservesAt) (fun _ _ h _ => h.preservesAt) fun _ _ h _ _ => h.preservesAt

theorem backupFromLast_failed {names : List String} :
    Triple (FailedSince L0) (backupFromLast volume img labels uid now names)
      (fun _ => FailedSince L0) (fun _ => FailedSince L0) :=
  .of_catalog fun _ => backupFromLast_preserves snapshotCreate_failed
    (fun _ _ _ h => h.preservesAt) (fun _ h => h.preservesAt) (fun _ h _ => h.preservesAt)
    (fun _ _ h _ => h.preservesAt) (fun _ _ h => h.preservesAt) (fun _ _ h _ => h.preservesAt)
    fun _ _ _ h _ _ _ => h.preservesAt

/-! ### Runs without a failed call -/

/-- `send` keeps the log extending `L0` and whatever holds of the world. -/
theorem Triple.sendExt {P : World → Prop} {sig : Signal} {R : PyExc → Sys → Prop} :
    Triple (fun s => Extends L0 s ∧ P s.world) (Ceph.send sig) (fun _ s => Extends L0 s ∧ P s.world) R :=
  Triple.send fun _ hs => ⟨hs.1.append rfl, hs.2⟩

theorem snapshotCreate_success {n : String} {w : World} :
    Triple (fun s => Extends L0 s ∧ s.world = w) (snapshotCreate img n)
      (fun _ s => FailedSince L0 s ∨ Extends L0 s ∧ w.snapCreate img n = some s.world)
      (fun _ => FailedSince L0) := by
  have hbody : Triple (fun s => Extends L0 s ∧ s.world = w)
      (do let _ ← subprocessRun (.snapCreate img n); pure (none : Option Unit))
      (fun _ s => Extends L0 s ∧ w.snapCreate img n = some s.world) (fun _ => FailedSince L0) :=
    Triple.callOk.bind fun _ => .pure' _ fun s ⟨he, s0, hw, hrun, _⟩ =>
      ⟨he, hw ▸ Cmd.run_snapCreate_eq_some.mp hrun⟩
  have htry : Triple (fun s => Extends L0 s ∧ s.world = w)
      (pyTry (do let _ ← subprocessRun (.snapCreate img n); pure none)
        (handlePostError .snapshotCreatePostError)
        (do send .snapshotCreatePostSuccess; pure none))
      (fun _ s => FailedSince L0 s ∨ Extends L0 s ∧ w.snapCreate img n = some s.world)
      (fun _ => FailedSince L0) :=
    Triple.pyTry hbody (fun _ _ h => .inr h)
      ((Triple.sendExt (P := fun w' => w.snapCreate img n = some w')).bind fun _ =>
        .pure' _ fun _ h => .inr h)
      fun e => (Triple.handlePostErrorI (FailedSince.sentClosed.keeps _) e).conseq (fun _ => id)
        (fun _ _ h => .inl h) fun _ _ => id
  exact (Triple.sendExt (P := (· = w))).bind fun _ => htry.bind fun _ => .pure' _ fun _ => id

/-- How a backup function ended when no call failed: its `benji backup`, from the planned
arguments in the planned world, returned `v` and was logged. -/
def EndsAsPlanned (L0 : List Event) (plan : Option (BackupArgs × World)) (v : Version)
    (s : Sys) : Prop :=
  Extends L0 s ∧ ∃ args w1, plan = some (args, w1) ∧ w1.benjiBackup args = some (s.world, v) ∧
    Event.call (.benjiBackup args) w1 .ok ∈ s.log

/-- The last call of `backup_initial` and `backup_differential`. -/
theorem benjiBackup_success {args : BackupArgs} {P : Sys → Prop}
    {plan : Option (BackupArgs × World)} (hp : ∀ s, P s → plan = some (args, s.world)) :
    Triple (fun s => Extends L0 s ∧ P s) (subprocessRun (.benjiBackup args))
      (fun v s => FailedSince L0 s ∨ EndsAsPlanned L0 plan v s) (fun _ => FailedSince L0) :=
  Triple.callOk.conseq (fun _ => id) (fun _ _ ⟨he, s0, hP, hrun, hl⟩ =>
    .inr ⟨he, args, s0.world, hp s0 hP, hrun, by simp [hl]⟩) fun _ _ => id

theorem backupInitial_success {w : World} :
    Triple (fun s => Extends L0 s ∧ s.world = w) (backupInitial volume img labels uid now)
      (fun v s => FailedSince L0 s ∨ EndsAsPlanned L0 (initialPlan volume img labels uid now w) v s)
      (fun _ => FailedSince L0) := by
  refine Triple.bindFailed snapshotCreate_success (fun _ => ?_) fun _ =>
    (Triple.call fun _ h => h.preservesAt).bind fun _ => Triple.call fun _ h => h.preservesAt
  refine Triple.bindFailed (G := fun h s => Extends L0 s ∧
      ∃ w1, w.snapCreate img (rbdSnapNamePrefix ++ now) = some w1 ∧
        w1.diff img none (rbdSnapNamePrefix ++ now) = some h ∧ s.world = w1)
    (Triple.callOk.conseq (fun _ => id) (fun h s ⟨he, s0, hc, hrun, _⟩ =>
      have ⟨hw, hd⟩ := Cmd.run_diff_eq_some.mp hrun; .inr ⟨he, s0.world, hc, hd, hw.symm⟩)
      fun _ _ => id) (fun h => benjiBackup_success fun s ⟨w1, hc, hd, hw⟩ => ?_)
    fun _ => Triple.call fun _ h => h.preservesAt
  simp [initialPlan, hc, hd, hw]

theorem backupDifferential_success {last baseUid : String} {w : World} :
    Triple (fun s => Extends L0 s ∧ s.world = w)
      (backupDifferential volume img last baseUid labels uid now)
      (fun v s => FailedSince L0 s ∨
        EndsAsPlanned L0 (differentialPlan volume img labels uid now last baseUid w) v s)
      (fun _ => FailedSince L0) := by
  refine Triple.bindFailed snapshotCreate_success (fun _ => ?_) fun _ =>
    (Triple.call fun _ h => h.preservesAt).bind fun _ =>
      (Triple.call fun _ h => h.preservesAt).bind fun _ => Triple.call fun _ h => h.preservesAt
  refine Triple.bindFailed (G := fun h s => Extends L0 s ∧
      ∃ w1, w.snapCreate img (rbdSnapNamePrefix ++ now) = some w1 ∧
        w1.diff img (some last) (rbdSnapNamePrefix ++ now) = some h ∧ s.world = w1)
    (Triple.callOk.conseq (fun _ => id) (fun h s ⟨he, s0, hc, hrun, _⟩ =>
      have ⟨hw, hd⟩ := Cmd.run_diff_eq_some.mp hrun; .inr ⟨he, s0.world, hc, hd, hw.symm⟩)
      fun _ _ => id) (fun h => ?_)
    fun _ => (Triple.call fun _ h => h.preservesAt).bind fun _ => Triple.call fun _ h => h.preservesAt
  refine Triple.bindFailed (G := fun _ s => Extends L0 s ∧
      ∃ w1, w.snapCreate img (rbdSnapNamePrefix ++ now) = some w1 ∧
        w1.diff img (some last) (rbdSnapNamePrefix ++ now) = some h ∧
        w1.snapRm img last = some s.world)
    (Triple.callOk.conseq (fun _ => id) (fun _ s ⟨he, s0, ⟨w1, hc, hd, hw⟩, hrun, _⟩ =>
      .inr ⟨he, w1, hc, hd, hw ▸ Cmd.run_snapRm_eq_some.mp hrun⟩) fun _ _ => id)
    (fun _ => benjiBackup_success fun s ⟨w1, hc, hd, hr⟩ => ?_)
    fun _ => Triple.call fun _ h => h.preservesAt
  simp [differentialPlan, hc, hd, hr]

theorem EndsAsPlanned.of_eq {plan plan' : Option (BackupArgs × World)} {v : Version} {s : Sys}
    (h : plan = plan') (he : EndsAsPlanned L0 plan v s) : EndsAsPlanned L0 plan' v s := h ▸ he

/-- The `snap rm` loop of `backup` removes the names one after another. -/
theorem removeAll_success {ns : List String} {w : World} :
    Triple (fun s => Extends L0 s ∧ s.world = w)
      (ns.forM fun n => do let _ ← subprocessRun (.snapRm img n); pure PUnit.unit)
      (fun _ s => FailedSince L0 s ∨ Extends L0 s ∧ removeAll img ns w = some s.world)
      (fun _ => FailedSince L0) := by
  induction ns generalizing w with
  | nil => exact fun s hs => .inr ⟨hs.1, by simp [removeAll, hs.2]⟩
  | cons n ns ih =>
    have hrm : Triple (fun s => Extends L0 s ∧ s.world = w) (subprocessRun (.snapRm img n))
        (fun _ s => FailedSince L0 s ∨ Extends L0 s ∧ w.snapRm img n = some s.world)
        (fun _ => FailedSince L0) := by
      exact Triple.callOk.conseq (fun _ => id) (fun _ s ⟨he, s0, hw, hrun, _⟩ =>
        .inr ⟨he, hw ▸ Cmd.run_snapRm_eq_some.mp hrun⟩) fun _ _ => id
    refine Triple.bindFailed (G := fun _ s => Extends L0 s ∧ w.snapRm img n = some s.world)
      (hrm.bind fun _ => .pure' _ fun _ h => h)
      (fun _ s hs => (ih.conseq (fun _ => id) (fun _ _ h => h.imp_right fun h' => ⟨h'.1, ?_⟩)
        fun _ _ => id) s ⟨hs.1, rfl⟩)
      fun _ => Triple.forM_mem fun _ _ =>
        (Triple.call fun _ h => h.preservesAt).bind fun _ => .pure' _ fun _ => id
    · simp [removeAll, hs.2, h'.2]

theorem backupFromLast_success {names : List String} {w : World} :
    Triple (fun s => Extends L0 s ∧ s.world = w) (backupFromLast volume img labels uid now names)
      (fun v s => FailedSince L0 s ∨
        EndsAsPlanned L0 (fromLastPlan volume img labels uid now names w) v s)
      (fun _ => FailedSince L0) := by
  unfold backupFromLast
  refine Triple.bindFailed (G := fun _ s => Extends L0 s ∧
      removeAll img names.dropLast w = some s.world) removeAll_success (fun _ => ?_) fun _ => ?_
  · refine Triple.callOk.bind fun out => ?_
    rintro s ⟨he, s0, hw1, hrun, -⟩
    obtain ⟨hw, rfl⟩ := Cmd.run_benjiLs_eq_some.mp hrun
    rw [hw] at hw1 ⊢
    rcases hls : s.world.benjiLs volume (names.getLastD "") with _ | ⟨base, tail⟩
    · refine Triple.bindFailed (P := fun s' => Extends L0 s' ∧ s'.world = s.world)
        (G := fun _ s' => Extends L0 s' ∧ s.world.snapRm img (names.getLastD "") = some s'.world) ?_
        (fun _ s' hs' => ((backupInitial_success (w := s'.world)).conseq (fun _ => id)
          (fun _ _ h => h.imp_right (EndsAsPlanned.of_eq ?_)) fun _ _ => id) s' ⟨hs'.1, rfl⟩)
        (fun _ => backupInitial_failed) s ⟨he, rfl⟩
      · exact Triple.callOk.conseq (fun _ => id) (fun _ s' ⟨he', s1, hs1, hrun', _⟩ =>
          .inr ⟨he', hs1 ▸ Cmd.run_snapRm_eq_some.mp hrun'⟩) fun _ _ => id
      · simp [fromLastPlan, hw1, hls, hs'.2, -List.getLastD_eq_getLast?]
    · exact (backupDifferential_success.conseq (fun _ => id)
        (fun _ _ h => h.imp_right (EndsAsPlanned.of_eq
          (by simp [fromLastPlan, hw1, hls, -List.getLastD_eq_getLast?])))
        fun _ _ => id) s ⟨he, rfl⟩
  · refine (Triple.call fun _ h => h.preservesAt).bind fun out => ?_
    rcases out with _ | ⟨base, tail⟩
    · exact (Triple.call fun _ h => h.preservesAt).bind fun _ => backupInitial_failed
    · exact backupDifferential_failed

theorem backup_success {w : World} :
    Triple (fun s => Extends L0 s ∧ s.world = w) (backup volume img labels uid now)
      (fun r s => FailedSince L0 s ∨
        ∃ v, r = some v ∧ EndsAsPlanned L0 (backupPlan volume img labels uid now w) v s)
      (fun _ => FailedSince L0) := by
  have hbody : Triple (fun s => Extends L0 s ∧ s.world = w)
      (do
        let rbdSnapLs ← subprocessRun (.snapLs img)
        let result ← (if (benjisSnapshotsOf rbdSnapLs).length = 0 then
            backupInitial volume img labels uid now
          else backupFromLast volume img labels uid now (benjisSnapshotsOf rbdSnapLs))
        pure (some result))
      (fun r s => FailedSince L0 s ∨
        ∃ v, r = some v ∧ EndsAsPlanned L0 (backupPlan volume img labels uid now w) v s)
      (fun _ => FailedSince L0) := by
    refine Triple.callOk.bind fun out => ?_
    rintro s ⟨he, s0, hw0, hrun, -⟩
    obtain ⟨hw, rfl⟩ := Cmd.run_snapLs_eq_some.mp hrun
    subst hw0
    refine (Triple.bind (P := fun s => Extends L0 s ∧ s.world = s0.world) (Q := fun v s =>
        FailedSince L0 s ∨ EndsAsPlanned L0 (backupPlan volume img labels uid now s0.world) v s)
      (Triple.ite (fun h0 => ?_) fun h0 => ?_) fun v =>
      .pure' _ fun _ h => h.imp_right fun h' => ⟨v, rfl, h'⟩) s ⟨he, hw.symm⟩
    · exact backupInitial_success.conseq (fun _ => id)
        (fun _ _ h => h.imp_right (EndsAsPlanned.of_eq (by simp [backupPlan, h0]))) fun _ _ => id
    · exact backupFromLast_success.conseq (fun _ => id)
        (fun _ _ h => h.imp_right (EndsAsPlanned.of_eq (by simp [backupPlan, h0]))) fun _ _ => id
  exact (Triple.sendExt (P := (· = w))).bind fun _ => Triple.pyTry hbody (fun _ _ => id)
    (((Triple.sendI (FailedSince.sentClosed.keeps _)).bind fun _ => .pure' _ fun _ h => .inl h).pre
      fun _ h => h.elim id fun ⟨_, hv, _⟩ => absurd hv (by simp))
    fun e => (Triple.handlePostErrorI (FailedSince.sentClosed.keeps _) e).conseq (fun _ => id)
      (fun _ _ h => .inl h) fun _ _ => id

end Failed

/-- The call of the event failed. -/
def Event.failedCall : Event → Bool
  | .call _ _ (.failed _) => true
  | _ => false

theorem not_failedSince {L0 : List Event} {s : Sys}
    (h : ∀ ev ∈ s.log.drop L0.length, ev.failedCall = false) : ¬ FailedSince L0 s := by
  rintro ⟨new, hl, c, w, b, hm⟩
  rw [hl, List.drop_left] at h
  exact absurd (h _ hm) (by simp [Event.failedCall])

/-- **A run without a failed call follows the plan**: it returned the version that its last
call, `benji backup` from the planned arguments in the planned world, created, and that call
is logged. -/
theorem backup_follows_plan {volume : String} {img : ImageRef} {labels : List (String × String)}
    {uid : Option String} {now : String} (s0 : Sys)
    (hnf : ¬ FailedSince s0.log (Triple.finalState (backup volume img labels uid now s0))) :
    ∃ v args w1, backup volume img labels uid now s0 =
        .ok (some v) (Triple.finalState (backup volume img labels uid now s0)) ∧
      backupPlan volume img labels uid now s0.world = some (args, w1) ∧
      w1.benjiBackup args = some ((Triple.finalState (backup volume img labels uid now s0)).world, v) ∧
      Event.call (.benjiBackup args) w1 .ok ∈
        (Triple.finalState (backup volume img labels uid now s0)).log := by
  have h := @backup_success s0.log volume img labels uid now s0.world s0 ⟨⟨[], by simp⟩, rfl⟩
  revert h hnf
  rcases backup volume img labels uid now s0 with ⟨r, s1⟩ | ⟨e, s1⟩
  · rintro hnf (hf | ⟨v, rfl, -, args, w1, hp, hb, hl⟩)
    · exact absurd hf hnf
    · exact ⟨v, args, w1, rfl, hp, hb, hl⟩
  · exact fun hnf h => absurd h hnf

end Benji.Ceph
