import Benji.Ceph.Snapshots

/-!
# Benji.Ceph.BaseOrder — which snapshots a run removes, and when

Every `rbd snap rm` a run of `backup` logs removes a `b-` snapshot of its own image that its
`rbd snap ls` listed.  The older listed names are removed unconditionally, whether or not Benji
holds a valid version read from them.  The newest listed name is removed in two places only:
when `benji ls` finds no valid version of it, just before `backup_initial`, and in
`backup_differential`, once the `rbd diff --from-snap` from it has run
(`backup_removals_guarded`, whichever call fails).  So Benji's base is never removed before the
diff from it; it is removed before the `benji backup` that uses that diff, which is how a failed
differential run loses its base (see `Benji.Ceph.Recovery`).
-/

namespace Benji.Ceph

/-- Every `rbd snap rm` of `l` after its first `k` events removes a name of `names` from `img`;
one of the newest name ran when Benji had no valid version of it for `volume`, or after an
`rbd diff --from-snap` of it to `img@n` was logged. -/
def RemovalsGuarded (img : ImageRef) (volume : String) (names : List String) (n : String)
    (k : Nat) (l : List Event) : Prop :=
  ∀ pre i m w e post, l = pre ++ Event.call (.snapRm i m) w e :: post → k ≤ pre.length →
    i = img ∧ m ∈ names ∧ (m = names.getLastD "" →
      w.benjiLs volume m = [] ∨ ∃ w', Event.call (.diff img (some m) n) w' .ok ∈ pre)

section Log

variable {img : ImageRef} {volume n : String} {names : List String} {k : Nat} {l : List Event}

theorem removalsGuarded_start : RemovalsGuarded img volume names n l.length l := by
  intro pre i m w e post hl hk
  have := congrArg List.length hl
  simp only [List.length_append, List.length_cons] at this
  omega

/-- Appending an event keeps `RemovalsGuarded` when the event, if it is an `rbd snap rm`, meets
the condition against the log before it. -/
theorem RemovalsGuarded.append {ev : Event} (h : RemovalsGuarded img volume names n k l)
    (hev : ∀ i m w e, ev = .call (.snapRm i m) w e → i = img ∧ m ∈ names ∧
      (m = names.getLastD "" →
        w.benjiLs volume m = [] ∨ ∃ w', Event.call (.diff img (some m) n) w' .ok ∈ l)) :
    RemovalsGuarded img volume names n k (l ++ [ev]) := by
  intro pre i m w e post hl hk
  rcases List.eq_nil_or_concat post with rfl | ⟨post', x, rfl⟩
  · rw [List.append_cons pre, List.append_nil] at hl
    obtain ⟨rfl, he⟩ := List.append_inj' hl rfl
    exact hev i m w e (List.singleton_inj.mp he)
  · rw [List.concat_eq_append, ← List.cons_append, ← List.append_assoc] at hl
    exact h pre i m w e post' (List.append_inj' hl rfl).1 hk

theorem RemovalsGuarded.sentClosed :
    SentClosed fun s => RemovalsGuarded img volume names n k s.log :=
  fun _ _ _ h => h.append nofun

/-- A call keeps `RemovalsGuarded` when, if it is an `rbd snap rm`, it removes a listed name of
`img`, and the newest one only when Benji has no valid version of it or the diff from it is
logged. -/
theorem RemovalsGuarded.preservesAt {s : Sys} {c : Cmd}
    (h : RemovalsGuarded img volume names n k s.log)
    (hc : ∀ i m, c = .snapRm i m → i = img ∧ m ∈ names ∧ (m = names.getLastD "" →
      s.world.benjiLs volume m = [] ∨ ∃ w', Event.call (.diff img (some m) n) w' .ok ∈ s.log)) :
    PreservesAt (fun s => RemovalsGuarded img volume names n k s.log) s c :=
  have h' : ∀ w e, RemovalsGuarded img volume names n k (s.called c w e).log := fun _ _ =>
    h.append fun i m _ _ he => by cases he; exact hc i m rfl
  ⟨fun _ _ _ => ⟨h' _ _, h' _ _⟩, h' _ _⟩

end Log

theorem ne_getLastD_of_mem_dropLast {l : List String} {m : String} (hl : l.Nodup)
    (hm : m ∈ l.dropLast) : m ≠ l.getLastD "" := by
  have hne : l ≠ [] := fun h => by simp [h] at hm
  rw [← List.dropLast_append_getLast hne] at hl
  rw [List.getLastD_eq_getLast?, List.getLast?_eq_getLast _ hne]
  exact fun he => (List.nodup_append.mp hl).2.2 hm (List.mem_singleton.mpr he)

section Run

variable {volume : String} {img : ImageRef} {labels : List (String × String)}
  {uid : Option String} {now : String} {w0 : World} {k : Nat}

/-- Every call of a run keeps `RemovalsGuarded` for its listing: it removes the older names
unconditionally, and the newest one when `benji ls` found nothing or after the diff. -/
theorem removalsGuarded_runKeeps :
    RunKeeps (fun s => RemovalsGuarded img volume (benjisSnapshotsOf (w0.snapLs img))
      (rbdSnapNamePrefix ++ now) k s.log) volume img labels uid now w0 where
  sent := RemovalsGuarded.sentClosed
  snapLs _ h _ := h.preservesAt nofun
  snapRmOlder _ hm _ h _ := h.preservesAt fun _ _ he => by
    cases he
    exact ⟨rfl, List.dropLast_subset _ hm, fun heq => absurd heq (ne_getLastD_of_mem_dropLast
      (benjisSnapshotsOf_snapLs w0 img ▸ World.benjiSnapshots_names_nodup) hm)⟩
  snapRmUnknown _ h _ hne hu := h.preservesAt fun _ _ he => by
    cases he
    exact ⟨rfl, getLastD_mem_of_ne_nil hne, fun _ => .inl hu⟩
  snapRmBase _ _ h _ hne hd := h.preservesAt fun _ _ he => by
    cases he
    obtain ⟨w', hl, _⟩ := hd
    exact ⟨rfl, getLastD_mem_of_ne_nil hne, fun _ => .inr ⟨w', hl⟩⟩
  benjiLs _ _ h _ := h.preservesAt nofun
  snapCreate _ h _ := h.preservesAt nofun
  diff _ _ h _ := h.preservesAt nofun
  backupInitial _ _ h _ _ := h.preservesAt nofun
  backupDifferential _ _ _ _ h _ _ _ _ := h.preservesAt nofun

end Run

end Benji.Ceph
