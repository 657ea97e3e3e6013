import Mathlib.Data.List.Nodup

/-!
# Benji.Ceph.World — the RBD images and the Benji catalog behind `scripts/ceph.py`

The script drives two programs, `rbd` and `benji`, through `subprocess_run`.  Their state is one
`World`: the snapshots of every RBD image, oldest first, and Benji's version catalog.  A snapshot
carries a physical identity `id` besides its name: removing `pool/image@s` and creating it again
gives another snapshot under the same name.  `rbd` keeps snapshot names unique per image and Benji
keeps version uids unique; both are fields of `World`, so no other world can be built, and so
is `ids_lt`: a new snapshot gets `nextId`, an identity no snapshot had.

`Cmd.run c w` is what one command does to the world, `none` when the command itself fails there:
creating a name that exists, removing or diffing one that does not, backing up from a missing
snapshot or under a uid that is taken.
-/

namespace Benji.Ceph

/-- `pool/image` of an RBD image. -/
structure ImageRef where
  pool : String
  image : String
  deriving DecidableEq, Repr

/-- An RBD snapshot: its image, its name and its physical identity. -/
structure Snapshot where
  img : ImageRef
  name : String
  id : Nat
  deriving DecidableEq, Repr

/-- A Benji version: uid, volume, its `--snapshot` name and the snapshot it was read from. -/
structure Version where
  uid : String
  volume : String
  snapshot : String
  source : Snapshot
  valid : Bool
  deriving DecidableEq, Repr

/-- Image and name, the key `rbd` keeps unique. -/
def Snapshot.key (s : Snapshot) : ImageRef × String := (s.img, s.name)

structure World where
  snapshots : List Snapshot
  catalog : List Version
  nextId : Nat
  keys_nodup : (snapshots.map Snapshot.key).Nodup
  uids_nodup : (catalog.map Version.uid).Nodup
  ids_lt : ∀ s ∈ snapshots, s.id < nextId
  deriving DecidableEq

/-- `rbd diff` output: the changed extents between `fromSnap` (the whole image when `none`) and
`snap`, represented by the two snapshots it was computed from. -/
structure Hints where
  fromSnap : Option Snapshot
  snap : Snapshot
  deriving DecidableEq, Repr

/-- The arguments of `benji backup`; `source` is `pool:pool/image@snapshot`. -/
structure BackupArgs where
  snapshot : String
  rbdHints : Hints
  baseVersion : Option String
  uid : Option String
  labels : List (String × String)
  source : ImageRef × String
  volume : String
  deriving DecidableEq, Repr

inductive Cmd where
  | snapLs (img : ImageRef)
  | snapCreate (img : ImageRef) (snapshot : String)
  | snapRm (img : ImageRef) (snapshot : String)
  | diff (img : ImageRef) (fromSnap : Option String) (snapshot : String)
  | benjiLs (volume snapshot : String)
  | benjiBackup (args : BackupArgs)
  | benjiRestore (versionUid : String) (img : ImageRef)
  deriving DecidableEq, Repr

/-- Python's `str.startswith`. -/
def startswith (s pre : String) : Bool := pre.data.isPrefixOf s.data

theorem startswith_append (pre s : String) : startswith (pre ++ s) pre = true := by
  simp [startswith]

theorem nodup_map_concat {α β : Type} {f : α → β} {l : List α} {a : α}
    (hl : (l.map f).Nodup) (ha : ∀ x ∈ l, f x ≠ f a) : ((l ++ [a]).map f).Nodup := by
  rw [List.map_append, List.map_singleton, ← List.concat_eq_append]
  exact hl.concat (by simpa using ha)

theorem nodup_map_filter {α β : Type} {f : α → β} {l : List α} (p : α → Bool)
    (hl : (l.map f).Nodup) : ((l.filter p).map f).Nodup :=
  hl.sublist ((List.filter_sublist l).map f)

namespace World

variable (w : World)

/-- `rbd snap ls pool/image`: the image's snapshots, oldest first. -/
def snapLs (img : ImageRef) : List Snapshot := w.snapshots.filter (·.img = img)

/-- `pool/image@name`, if the image has it. -/
def findSnap (img : ImageRef) (name : String) : Option Snapshot :=
  w.snapshots.find? (·.key = (img, name))

/-- `rbd snap create pool/image@name`. -/
def snapCreate (img : ImageRef) (name : String) : Option World :=
  if h : w.findSnap img name = none then
    some { w with
      snapshots := w.snapshots ++ [⟨img, name, w.nextId⟩]
      nextId := w.nextId + 1
      keys_nodup := nodup_map_concat w.keys_nodup fun x hx hk => by
        simp only [findSnap, List.find?_eq_none] at h
        exact h x hx (by simpa using hk)
      ids_lt := fun x hx => by
        rcases List.mem_append.mp hx with hx | hx
        · exact Nat.lt_succ_of_lt (w.ids_lt x hx)
        · simp_all }
  else none

/-- `rbd snap rm pool/image@name`. -/
def snapRm (img : ImageRef) (name : String) : Option World :=
  if (w.findSnap img name).isSome then
    some { w with
      snapshots := w.snapshots.filter (·.key ≠ (img, name))
      keys_nodup := nodup_map_filter _ w.keys_nodup
      ids_lt := fun x hx => w.ids_lt x (List.mem_of_mem_filter hx) }
  else none

/-- `rbd diff [--from-snap fromSnap] pool/image@name`. -/
def diff (img : ImageRef) (fromSnap : Option String) (name : String) : Option Hints :=
  match w.findSnap img name, fromSnap with
  | some s, none => some ⟨none, s⟩
  | some s, some f => (w.findSnap img f).map fun fs => ⟨some fs, s⟩
  | none, _ => none

/-- `benji ls 'volume == "v" and snapshot == "s" and status == "valid"'`. -/
def benjiLs (volume snapshot : String) : List Version :=
  w.catalog.filter fun v => v.volume = volume ∧ v.snapshot = snapshot ∧ v.valid

/-- The uid Benji picks when `--uid` is not given. -/
def autoUid : String := "V" ++ toString (w.catalog.length + 1)

/-- `benji backup`: a valid version read from the source snapshot, under a free uid. -/
def benjiBackup (a : BackupArgs) : Option (World × Version) :=
  match w.findSnap a.source.1 a.source.2 with
  | none => none
  | some src =>
    let uid := a.uid.getD w.autoUid
    if h : uid ∈ w.catalog.map Version.uid then none
    else
      let v : Version := ⟨uid, a.volume, a.snapshot, src, true⟩
      some ({ w with
        catalog := w.catalog ++ [v]
        uids_nodup := nodup_map_concat w.uids_nodup fun x hx hu => h (by simpa [hu] using List.mem_map_of_mem Version.uid hx) },
        v)

/-- The version a uid names. -/
def resolve (uid : String) : Option Version := w.catalog.find? (·.uid = uid)

end World

/-! ### What each command does -/

namespace World

variable {w w' : World} {img : ImageRef} {n : String}

theorem key_unique {x y : Snapshot} (hx : x ∈ w.snapshots) (hy : y ∈ w.snapshots)
    (h : x.key = y.key) : x = y :=
  List.inj_on_of_nodup_map w.keys_nodup hx hy h

theorem findSnap_eq_some_iff {x : Snapshot} :
    w.findSnap img n = some x ↔ x ∈ w.snapshots ∧ x.key = (img, n) := by
  constructor
  · intro h
    exact ⟨List.mem_of_find?_eq_some h, by simpa using List.find?_some h⟩
  · rintro ⟨hx, hk⟩
    obtain ⟨y, hy⟩ : ∃ y, w.findSnap img n = some y := Option.isSome_iff_exists.mp
      (List.find?_isSome.mpr ⟨x, hx, by simpa using hk⟩)
    have hyk : y.key = (img, n) := by simpa using List.find?_some hy
    rw [hy, key_unique (List.mem_of_find?_eq_some hy) hx (hyk.trans hk.symm)]

theorem findSnap_eq_none_iff : w.findSnap img n = none ↔ ∀ x ∈ w.snapshots, x.key ≠ (img, n) := by
  simp [findSnap]

theorem snapCreate_some (h : w.snapCreate img n = some w') :
    w.findSnap img n = none ∧ w'.snapshots = w.snapshots ++ [⟨img, n, w.nextId⟩] ∧
      w'.catalog = w.catalog := by
  unfold snapCreate at h
  split at h
  · cases h; exact ⟨‹_›, rfl, rfl⟩
  · cases h

theorem snapRm_some (h : w.snapRm img n = some w') :
    (w.findSnap img n).isSome ∧ w'.snapshots = w.snapshots.filter (·.key ≠ (img, n)) ∧
      w'.catalog = w.catalog := by
  unfold snapRm at h
  split at h
  · cases h; exact ⟨‹_›, rfl, rfl⟩
  · cases h

theorem diff_some {f : Option String} {h : Hints} (hd : w.diff img f n = some h) :
    w.findSnap img n = some h.snap ∧ h.fromSnap = f.bind (w.findSnap img) ∧
      (f.isSome → h.fromSnap.isSome) := by
  unfold diff at hd
  split at hd
  · cases hd; simp_all
  · obtain ⟨fs, hfs, rfl⟩ := Option.map_eq_some'.mp hd; simp_all
  · cases hd

theorem benjiBackup_some {a : BackupArgs} {v : Version} (h : w.benjiBackup a = some (w', v)) :
    w.findSnap a.source.1 a.source.2 = some v.source ∧ v.uid ∉ w.catalog.map Version.uid ∧
      v.volume = a.volume ∧ v.snapshot = a.snapshot ∧ v.valid = true ∧
      w'.snapshots = w.snapshots ∧ w'.catalog = w.catalog ++ [v] := by
  unfold benjiBackup at h
  split at h
  · cases h
  · dsimp only at h
    split at h
    · cases h
    · cases h; exact ⟨‹_›, ‹_›, rfl, rfl, rfl, rfl, rfl⟩

end World

/-- What a command prints on success. -/
def Cmd.Out : Cmd → Type
  | .snapLs _ => List Snapshot
  | .diff .. => Hints
  | .benjiLs .. => List Version
  | .benjiBackup _ => Version
  | .snapCreate .. | .snapRm .. | .benjiRestore .. => Unit

/-- What a command does to the world and prints; `none` when it fails there. -/
def Cmd.run : (c : Cmd) → World → Option (World × c.Out)
  | .snapLs img, w => some (w, w.snapLs img)
  | .snapCreate img n, w => (w.snapCreate img n).map (·, ())
  | .snapRm img n, w => (w.snapRm img n).map (·, ())
  | .diff img f n, w => (w.diff img f n).map (w, ·)
  | .benjiLs v n, w => some (w, w.benjiLs v n)
  | .benjiBackup a, w => w.benjiBackup a
  | .benjiRestore u _, w => (w.resolve u).map fun _ => (w, ())

namespace Cmd

/-! One inversion lemma per command: what `c.run w = some (w', out)` says of `w'` and `out`. -/

section Inversion

variable {w w' : World} {img : ImageRef} {n : String}

theorem run_snapLs_eq_some {out : List Snapshot} :
    (Cmd.snapLs img).run w = some (w', out) ↔ w = w' ∧ w.snapLs img = out := by
  simp [run]

theorem run_snapCreate_eq_some {a : Unit} :
    (Cmd.snapCreate img n).run w = some (w', a) ↔ w.snapCreate img n = some w' := by
  simp [run]

theorem run_snapRm_eq_some {a : Unit} :
    (Cmd.snapRm img n).run w = some (w', a) ↔ w.snapRm img n = some w' := by
  simp [run]

theorem run_diff_eq_some {f : Option String} {h : Hints} :
    (Cmd.diff img f n).run w = some (w', h) ↔ w = w' ∧ w.diff img f n = some h := by
  simp only [run, Option.map_eq_some', Prod.mk.injEq]
  exact ⟨fun ⟨_, hd, hw, hh⟩ => ⟨hw, hh ▸ hd⟩, fun ⟨hw, hd⟩ => ⟨h, hd, hw, rfl⟩⟩

theorem run_benjiLs_eq_some {v : String} {out : List Version} :
    (Cmd.benjiLs v n).run w = some (w', out) ↔ w = w' ∧ w.benjiLs v n = out := by
  simp [run]

theorem run_benjiRestore_eq_some {u : String} {a : Unit} :
    (Cmd.benjiRestore u img).run w = some (w', a) ↔ w = w' ∧ (w.resolve u).isSome := by
  cases h : w.resolve u <;> simp [run, h]

end Inversion

variable {c : Cmd} {w w' : World} {a : c.Out}

/-- **Every effect of a command**: the world is unchanged, or a snapshot is created, or one is
removed, or a version is recorded. -/
theorem run_cases (h : c.run w = some (w', a)) :
    w' = w ∨ (∃ img n, c = .snapCreate img n ∧ w.snapCreate img n = some w') ∨
      (∃ img n, c = .snapRm img n ∧ w.snapRm img n = some w') ∨
      (∃ args v, c = .benjiBackup args ∧ w.benjiBackup args = some (w', v)) := by
  cases c with
  | snapCreate img n => exact .inr (.inl ⟨img, n, rfl, run_snapCreate_eq_some.mp h⟩)
  | snapRm img n => exact .inr (.inr (.inl ⟨img, n, rfl, run_snapRm_eq_some.mp h⟩))
  | benjiBackup args => exact .inr (.inr (.inr ⟨args, a, rfl, h⟩))
  | snapLs img => exact .inl (run_snapLs_eq_some.mp h).1.symm
  | diff img f n => exact .inl (run_diff_eq_some.mp h).1.symm
  | benjiLs v n => exact .inl (run_benjiLs_eq_some.mp h).1.symm
  | benjiRestore u img => exact .inl (run_benjiRestore_eq_some.mp h).1.symm

end Cmd

end Benji.Ceph
