import Benji.Ceph.Preserve

/-!
# Benji.Ceph.Signals — what `snapshot_create`, `backup` and `restore` send

`snapshot_create` and `restore` share one shape, `guardedCall`, and `guardedCall_signals` says
all a run of it does: it logs its `pre` signal, the call, and `post_success` when the call
succeeded or `post_error` when it failed; what escapes then depends only on the replies of
`post_error` (`postErrorEscape`).  `restore` passes `snapshot_create_pre` as its `pre`.
`backup` returns from inside its `try`, so its `else` branch never runs and no run sends
`on_backup_post_success` (`backup_never_post_success`, by the invariant `NotSentSince`).

Over a whole run of `backup`, whichever call fails, the log is `backup_pre`, then what its `try`
body logged (`BodyLog`: calls, and `snapshot_create` blocks around each `rbd snap create`), then
`on_backup_post_error` exactly when the run did not return a version (`backup_signal_log`).
-/

namespace Benji.Ceph

/-- How a run ended: `none` when it returned, `some e` when `e` escaped. -/
def raised {β : Type} : EStateM.Result PyExc Sys β → Option PyExc
  | .ok _ _ => none
  | .error e _ => some e

/-- How the next `subprocess_run(c)` from `s` ends. -/
def Sys.callEnd (s : Sys) (c : Cmd) : CallEnd :=
  match c.run s.world, s.outcomes.headD .ok with
  | some _, .ok => .ok
  | some _, .failAfter => .failed true
  | _, _ => .failed false

/-- What escapes the `except` branch when the body raised `e` and the receivers of `post_error`
returned `votes`: `reduce` of no reply raises `TypeError`; otherwise `e` is re-raised exactly
when a reply is truthy. -/
def postErrorEscape (e : PyExc) (votes : List Bool) : Option PyExc :=
  if votes = [] then some .typeError else if votes.any id then some e else none

theorem foldl_or_eq_any (r : Bool) (rs : List Bool) : rs.foldl (· || ·) r = (r :: rs).any id := by
  induction rs generalizing r with
  | nil => simp
  | cons r' rs ih => simp [ih, Bool.or_assoc]

/-! ### `snapshot_create` and `restore` -/

section Guarded

variable {α : Type} (pre postSuccess postError : Signal) (c : Cmd) (s : Sys)

theorem subprocessRun_of_callEnd {c : Cmd} {s : Sys} :
    (s.callEnd c = .ok → ∃ w a, subprocessRun c s = .ok a (s.called c w .ok)) ∧
      ∀ b, s.callEnd c = .failed b →
        ∃ w, subprocessRun c s = .error (.calledProcessError c) (s.called c w (.failed b)) := by
  simp only [Sys.callEnd, subprocessRun]
  rcases c.run s.world with _ | ⟨w, a⟩ <;> cases s.outcomes.headD .ok <;> simp <;>
    exact ⟨_, rfl⟩

theorem handlePostError_run (e : PyExc) :
    raised ((handlePostError postError e : M (Option α)) s) =
        postErrorEscape e (s.replies.headD []) ∧
      Triple.finalState ((handlePostError postError e : M (Option α)) s) =
        s.sent postError true := by
  simp only [handlePostError, bind, EStateM.bind, sendPostError]
  rcases h : s.replies.headD [] with _ | ⟨r, rs⟩
  · simp [raised, postErrorEscape, Triple.finalState]
  · dsimp only
    rw [postErrorEscape, if_neg (List.cons_ne_nil r rs), ← foldl_or_eq_any]
    cases rs.foldl (· || ·) r <;> exact ⟨rfl, rfl⟩

/-- **One run of `guardedCall`**: the log gains the `pre` signal, the call, and `post_success`
when the call succeeded or `post_error` when it failed; an exception escapes only from the
`except` branch, as the replies of `post_error` decide. -/
theorem guardedCall_signals :
    (Triple.finalState (guardedCall pre postSuccess postError c s)).log =
        s.log ++ [.signal pre, .call c s.world (s.callEnd c),
          .signal (if s.callEnd c = .ok then postSuccess else postError)] ∧
      raised (guardedCall pre postSuccess postError c s) =
        if s.callEnd c = .ok then none
        else postErrorEscape (.calledProcessError c) (s.replies.headD []) := by
  have h1 : (s.sent pre false).callEnd c = s.callEnd c := rfl
  rcases hce : s.callEnd c with _ | b
  · obtain ⟨w, a, hrun⟩ := subprocessRun_of_callEnd.1 (h1.trans hce)
    simp only [guardedCall, bind, EStateM.bind, send, pyTry, hrun]
    simp [raised, Triple.finalState, pure, EStateM.pure, Sys.sent, Sys.called]
  · obtain ⟨w, hrun⟩ := subprocessRun_of_callEnd.2 b (h1.trans hce)
    have hh := handlePostError_run (α := Unit) postError
      ((s.sent pre false).called c w (.failed b)) (.calledProcessError c)
    simp only [guardedCall, bind, EStateM.bind, send, pyTry, hrun]
    revert hh
    rcases (handlePostError postError (.calledProcessError c) : M (Option Unit))
      ((s.sent pre false).called c w (.failed b)) with ⟨v, s'⟩ | ⟨e, s'⟩ <;>
      simp [raised, Triple.finalState, pure, EStateM.pure, Sys.sent, Sys.called] <;>
      exact fun h hs' => ⟨hs' ▸ rfl, h⟩

end Guarded

/-! ### `backup` -/

section Backup

variable {sig : Signal} {L0 : List Event} {s : Sys}

/-- No `sig` was sent since the log was `L0`. -/
def NotSentSince (sig : Signal) (L0 : List Event) (s : Sys) : Prop :=
  ∃ new, s.log = L0 ++ new ∧ Event.signal sig ∉ new

theorem NotSentSince.preservesAt {c : Cmd} (h : NotSentSince sig L0 s) :
    PreservesAt (NotSentSince sig L0) s c := by
  obtain ⟨new, hl, hn⟩ := h
  have hc : ∀ w e, NotSentSince sig L0 (s.called c w e) := fun w e =>
    ⟨new ++ [.call c s.world e], by simp [hl], by simp [hn]⟩
  exact ⟨fun w _ _ => ⟨hc w _, hc w _⟩, hc _ _⟩

theorem NotSentSince.keepsSend {sig' : Signal} (hne : sig' ≠ sig) :
    KeepsSend (NotSentSince sig L0) sig' := fun s _ ⟨new, hl, hn⟩ =>
  ⟨new ++ [.signal sig'], by simp [hl], by simp [hn, Ne.symm hne]⟩

/-- **`backup` never sends `on_backup_post_success`**: its `try` body returns the result or
raises, so the `else` branch that sends it never runs. -/
theorem backup_never_post_success (volume : String) (img : ImageRef)
    (labels : List (String × String)) (uid : Option String) (now : String) (s : Sys) :
    ∃ new, (Triple.finalState (backup volume img labels uid now s)).log =
        s.log ++ .signal .backupPre :: new ∧ Event.signal .onBackupPostSuccess ∉ new := by
  let I := NotSentSince .onBackupPostSuccess (s.log ++ [.signal .backupPre])
  have hc : CreateSentClosed I :=
    ⟨.keepsSend (by decide), .keepsSend (by decide), .keepsSend (by decide)⟩
  have hrun : Triple (· = s) (backup volume img labels uid now) (fun _ => I) (fun _ => I) := by
    unfold backup
    refine (Triple.send (Q := fun _ => I) fun s' hs' => ⟨[], by simp [hs'], by simp⟩).bind
      fun _ => Triple.pyTry (B := fun r s' => r.isSome ∧ I s') ?_ (fun _ _ h => h.2)
        (fun _ h => absurd h.1 (by simp))
        fun e => Triple.handlePostErrorI (.keepsSend (by decide)) e
    have hsc : ∀ n, Triple I (snapshotCreate img n) (fun _ => I) (fun _ => I) := fun _ =>
      snapshotCreate_preserves hc fun _ h => h.preservesAt
    refine (Triple.call fun _ h => h.preservesAt).bind fun _ =>
      (Triple.ite (fun _ => ?_) fun _ => ?_).bind fun _ => .pure' _ fun _ h => ⟨rfl, h⟩
    · exact .of_catalog fun _ => backupInitial_preserves (hsc _) (fun _ h => h.preservesAt)
        fun _ _ h _ => h.preservesAt
    · exact .of_catalog fun _ => backupFromLast_preserves (hsc _) (fun _ _ _ h => h.preservesAt)
        (fun _ h => h.preservesAt) (fun _ h _ => h.preservesAt) (fun _ _ h _ => h.preservesAt)
        (fun _ _ h => h.preservesAt) (fun _ _ h _ => h.preservesAt)
        fun _ _ _ h _ _ _ => h.preservesAt
  obtain ⟨new, hl, hn⟩ := Triple.final hrun rfl
  exact ⟨new, by simpa using hl, hn⟩

end Backup

/-- **Where the three operations leave the signal protocol**: `restore` sends
`snapshot_create_pre` first and never `restore_pre`; no run of `backup` sends
`on_backup_post_success`, even one that returns the new version; and when the call of
`snapshot_create` fails and no receiver of `post_error` replies, `reduce` raises `TypeError`
in place of the call's exception. -/
theorem signal_protocol_breaks :
    (∀ u img s, ∃ rest, (Triple.finalState (restore u img s)).log =
        s.log ++ .signal .snapshotCreatePre :: rest ∧ Event.signal .restorePre ∉ rest) ∧
    (∀ volume img labels uid now s, ∃ new,
        (Triple.finalState (backup volume img labels uid now s)).log =
          s.log ++ .signal .backupPre :: new ∧ Event.signal .onBackupPostSuccess ∉ new) ∧
    (∀ img n s, s.callEnd (.snapCreate img n) ≠ .ok → s.replies.headD [] = [] →
        raised (snapshotCreate img n s) = some .typeError) := by
  refine ⟨fun u img s => ?_, backup_never_post_success, fun img n s hf hr => ?_⟩
  · refine ⟨_, (guardedCall_signals _ _ _ _ s).1, ?_⟩
    split <;> simp
  · rw [snapshotCreate, (guardedCall_signals _ _ _ _ s).2, if_neg hf, hr]
    rfl

/-! ### The log of a whole run of `backup` -/

/-- The events `backup`'s `try` body logs, oldest first: calls other than `rbd snap create`, and
the blocks of `snapshot_create`, each its `pre` signal, the `rbd snap create` call, and
`post_success` or `post_error` as the call ended. -/
inductive BodyLog : List Event → Prop
  | nil : BodyLog []
  | call {l : List Event} {c : Cmd} {w : World} {e : CallEnd} (h : BodyLog l)
      (hc : ∀ i n, c ≠ .snapCreate i n) : BodyLog (l ++ [.call c w e])
  | create {l : List Event} {i : ImageRef} {n : String} {w : World} {e : CallEnd}
      (h : BodyLog l) :
      BodyLog (l ++ [.signal .snapshotCreatePre, .call (.snapCreate i n) w e,
        .signal (if e = .ok then .snapshotCreatePostSuccess else .snapshotCreatePostError)])

/-- Since `L0` the log is a `BodyLog`. -/
def LogsBody (L0 : List Event) (s : Sys) : Prop := ∃ body, s.log = L0 ++ body ∧ BodyLog body

section Shape

variable {L0 : List Event} {s : Sys}

theorem LogsBody.preservesAt {c : Cmd} (h : LogsBody L0 s) (hc : ∀ i n, c ≠ .snapCreate i n) :
    PreservesAt (LogsBody L0) s c :=
  have ⟨body, hl, hb⟩ := h
  have h' : ∀ w e, LogsBody L0 (s.called c w e) := fun _ e =>
    ⟨body ++ [.call c s.world e], by simp [hl], hb.call hc⟩
  ⟨fun _ _ _ => ⟨h' _ _, h' _ _⟩, h' _ _⟩

/-- `snapshot_create` logs one block, whether it returns or raises. -/
theorem snapshotCreate_logsBody {img : ImageRef} {n : String} :
    Triple (LogsBody L0) (snapshotCreate img n) (fun _ => LogsBody L0) (fun _ => LogsBody L0) :=
  Triple.of_final fun s ⟨body, hl, hb⟩ => by
    have h := (guardedCall_signals .snapshotCreatePre .snapshotCreatePostSuccess
      .snapshotCreatePostError (.snapCreate img n) s).1
    rw [hl, List.append_assoc] at h
    exact ⟨_, h, hb.create⟩

section Functions

variable {volume : String} {img : ImageRef} {labels : List (String × String)}
  {uid : Option String} {now : String}

/-- Every call of `backup_initial` but `rbd snap create` keeps `LogsBody`, and `snapshot_create`
does as a whole. -/
theorem backupInitial_logsBody :
    Triple (LogsBody L0) (backupInitial volume img labels uid now) (fun _ => LogsBody L0)
      (fun _ => LogsBody L0) :=
  .of_catalog fun _ => backupInitial_preserves snapshotCreate_logsBody
    (fun _ h => h.preservesAt nofun) fun _ _ h _ => h.preservesAt nofun

theorem backupFromLast_logsBody {names : List String} :
    Triple (LogsBody L0) (backupFromLast volume img labels uid now names) (fun _ => LogsBody L0)
      (fun _ => LogsBody L0) :=
  .of_catalog fun _ => backupFromLast_preserves snapshotCreate_logsBody
    (fun _ _ _ h => h.preservesAt nofun) (fun _ h => h.preservesAt nofun)
    (fun _ h _ => h.preservesAt nofun) (fun _ _ h _ => h.preservesAt nofun)
    (fun _ _ h => h.preservesAt nofun) (fun _ _ h _ => h.preservesAt nofun)
    fun _ _ _ h _ _ _ => h.preservesAt nofun

end Functions

/-- The log since `L0` is a `BodyLog` followed by `on_backup_post_error`: what the `except`
branch of `backup` leaves. -/
def EndsWithPostError (L0 : List Event) (s : Sys) : Prop :=
  ∃ body, s.log = L0 ++ body ++ [.signal .onBackupPostError] ∧ BodyLog body

/-- A run of `backup` returns a version with its body logged, or returns `none` or raises after
`on_backup_post_error`. -/
theorem backup_logsBody {volume : String} {img : ImageRef} {labels : List (String × String)}
    {uid : Option String} {now : String} {s0 : Sys} :
    Triple (· = s0) (backup volume img labels uid now)
      (fun r s => (∃ v, r = some v) ∧ LogsBody (s0.log ++ [.signal .backupPre]) s ∨
        r = none ∧ EndsWithPostError (s0.log ++ [.signal .backupPre]) s)
      (fun _ => EndsWithPostError (s0.log ++ [.signal .backupPre])) := by
  unfold backup
  refine (Triple.send (Q := fun _ => LogsBody (s0.log ++ [.signal .backupPre]))
    fun s hs => ⟨[], by simp [hs], .nil⟩).bind fun _ =>
      Triple.pyTry (B := fun r s => r.isSome ∧ LogsBody (s0.log ++ [.signal .backupPre]) s)
        (E := fun _ => LogsBody (s0.log ++ [.signal .backupPre])) ?_
        (fun v _ h => .inl ⟨⟨v, rfl⟩, h.2⟩) (fun _ h => absurd h.1 (by simp)) fun e => ?_
  · exact (Triple.call (c := .snapLs img) fun _ h => h.preservesAt nofun).bind fun _ =>
      (Triple.ite (fun _ => backupInitial_logsBody) fun _ => backupFromLast_logsBody).bind
        fun _ => .pure' _ fun _ h => ⟨rfl, h⟩
  · have hsent : ∀ s, LogsBody (s0.log ++ [.signal .backupPre]) s →
        EndsWithPostError (s0.log ++ [.signal .backupPre]) (s.sent .onBackupPostError true) :=
      fun _ ⟨body, hl, hb⟩ => ⟨body, by simp [hl], hb⟩
    exact .bind (.sendPostError (fun s h _ _ _ => hsent s h) fun s h _ => hsent s h) fun _ =>
      .ite (fun _ => .throw' e fun _ => id) fun _ => .pure' _ fun _ h => .inr ⟨rfl, h⟩

end Shape

/-- **The log of a run of `backup`**, whichever call fails and whatever the receivers reply:
`backup_pre`, then the body's calls with every `rbd snap create` between `snapshot_create_pre`
and the `post_success` or `post_error` of how it ended, and no other signal; then
`on_backup_post_error` exactly when the run did not return a version. -/
theorem backup_signal_log (volume : String) (img : ImageRef) (labels : List (String × String))
    (uid : Option String) (now : String) (s0 : Sys) :
    ∃ body, BodyLog body ∧
      ((∃ v, backup volume img labels uid now s0 =
          .ok (some v) (Triple.finalState (backup volume img labels uid now s0)) ∧
          (Triple.finalState (backup volume img labels uid now s0)).log =
            s0.log ++ .signal .backupPre :: body) ∨
        ((∀ v s, backup volume img labels uid now s0 ≠ .ok (some v) s) ∧
          (Triple.finalState (backup volume img labels uid now s0)).log =
            s0.log ++ .signal .backupPre :: (body ++ [.signal .onBackupPostError]))) := by
  have h := @backup_logsBody volume img labels uid now s0 s0 rfl
  revert h
  rcases backup volume img labels uid now s0 with ⟨r, s1⟩ | ⟨e, s1⟩
  · rintro (⟨⟨v, rfl⟩, body, hl, hb⟩ | ⟨rfl, body, hl, hb⟩)
    · exact ⟨body, hb, .inl ⟨v, rfl, by simpa [Triple.finalState] using hl⟩⟩
    · exact ⟨body, hb, .inr ⟨fun _ _ => nofun, by simpa [Triple.finalState] using hl⟩⟩
  · rintro ⟨body, hl, hb⟩
    exact ⟨body, hb, .inr ⟨fun _ _ => nofun, by simpa [Triple.finalState] using hl⟩⟩

end Benji.Ceph
