import Benji.Ceph.Script

/-!
# Benji.Ceph.Logic — a small program logic for the script monad

`Triple P m Q R`: `m` started in a state satisfying `P` returns `a` in a state satisfying `Q a`,
or raises `e` in a state satisfying `R e`.  Every function of the script returns or raises (its
only loop is a `for` over a list), so this is total correctness.  One rule per combinator the
script uses, and one per primitive (`subprocessRun`, `send`, `sendPostError`).
-/

namespace Benji.Ceph

/-- `m` from a `P`-state returns into `Q` or raises into `R`. -/
def Triple {α : Type} (P : Sys → Prop) (m : M α) (Q : α → Sys → Prop)
    (R : PyExc → Sys → Prop) : Prop :=
  ∀ s, P s → match m s with
    | .ok a s' => Q a s'
    | .error e s' => R e s'

/-! ### State updates -/

section Updates

variable (s : Sys) (c : Cmd) (w : World) (e : CallEnd) (sig : Signal) (b : Bool)

@[simp] theorem Sys.called_world : (s.called c w e).world = w := rfl
@[simp] theorem Sys.called_log : (s.called c w e).log = s.log ++ [.call c s.world e] := rfl
@[simp] theorem Sys.called_replies : (s.called c w e).replies = s.replies := rfl
@[simp] theorem Sys.sent_world : (s.sent sig b).world = s.world := rfl
@[simp] theorem Sys.sent_log : (s.sent sig b).log = s.log ++ [.signal sig] := rfl

end Updates

namespace Triple

variable {α β : Type} {P P' : Sys → Prop} {Q Q' : α → Sys → Prop} {R R' : PyExc → Sys → Prop}
  {m : M α}

theorem conseq (h : Triple P m Q R) (hp : ∀ s, P' s → P s) (hq : ∀ a s, Q a s → Q' a s)
    (hr : ∀ e s, R e s → R' e s) : Triple P' m Q' R' := by
  intro s hs
  have := h s (hp s hs)
  split at this <;> simp_all

theorem pre {P' : Sys → Prop} (h : Triple P m Q R) (hp : ∀ s, P' s → P s) : Triple P' m Q R :=
  h.conseq hp (fun _ _ => id) (fun _ _ => id)

/-- Two triples of one program hold together. -/
theorem and {Q' : α → Sys → Prop} {R' : PyExc → Sys → Prop} (h : Triple P m Q R)
    (h' : Triple P' m Q' R') :
    Triple (fun s => P s ∧ P' s) m (fun a s => Q a s ∧ Q' a s) (fun e s => R e s ∧ R' e s) := by
  intro s ⟨hs, hs'⟩
  have h1 := h s hs
  have h2 := h' s hs'
  split at h1 <;> simp_all

theorem pure' (a : α) (h : ∀ s, P s → Q a s) : Triple P (pure a) Q R := h

theorem throw' (e : PyExc) (h : ∀ s, P s → R e s) : Triple P (throw e : M α) Q R := h

theorem bind_ok {f : α → M β} {s s' : Sys} {a : α} (h : m s = .ok a s') :
    (m >>= f) s = f a s' := by
  show EStateM.bind m f s = _
  simp only [EStateM.bind, h]

theorem bind_error {f : α → M β} {s s' : Sys} {e : PyExc} (h : m s = .error e s') :
    (m >>= f) s = .error e s' := by
  show EStateM.bind m f s = _
  simp only [EStateM.bind, h]

theorem bind {f : α → M β} {Q'' : β → Sys → Prop} (hm : Triple P m Q R)
    (hf : ∀ a, Triple (Q a) (f a) Q'' R) : Triple P (m >>= f) Q'' R := by
  intro s hs
  have h := hm s hs
  rcases hms : m s with ⟨a, s'⟩ | ⟨e, s'⟩ <;> rw [hms] at h
  · rw [bind_ok hms]; exact hf a s' h
  · rw [bind_error hms]; exact h

theorem ite {c : Prop} [Decidable c] {m₁ m₂ : M α} (h₁ : c → Triple P m₁ Q R)
    (h₂ : ¬c → Triple P m₂ Q R) : Triple P (if c then m₁ else m₂) Q R := by
  by_cases hc : c
  · simpa [hc] using h₁ hc
  · simpa [hc] using h₂ hc

/-- Python's `try`/`except`/`else`: the body's return, its fall-through into `else`, and its
exception into the handler. -/
theorem pyTry {body : M (Option α)} {handler : PyExc → M (Option α)} {orelse : M (Option α)}
    {B Q : Option α → Sys → Prop} {E : PyExc → Sys → Prop}
    (hb : Triple P body B E) (hret : ∀ v s, B (some v) s → Q (some v) s)
    (helse : Triple (B none) orelse Q R) (hh : ∀ e, Triple (E e) (handler e) Q R) :
    Triple P (Ceph.pyTry body handler orelse) Q R := by
  intro s hs
  have h := hb s hs
  simp only [Ceph.pyTry]
  revert h
  rcases body s with ⟨_ | v, s'⟩ | ⟨e, s'⟩
  · exact helse s'
  · exact hret v s'
  · exact hh e s'

/-- A `for` loop over a list, with an invariant indexed by the items still to run. -/
theorem forM {l : List β} {f : β → M PUnit} (I : List β → Sys → Prop)
    (hf : ∀ x xs, Triple (I (x :: xs)) (f x) (fun _ => I xs) R) :
    Triple (I l) (l.forM f) (fun _ => I []) R := by
  induction l with
  | nil => exact fun s hs => hs
  | cons x xs ih => exact (hf x xs).bind fun _ => ih

/-- The state a program ends in, whether it returned or raised. -/
def finalState {β : Type} : EStateM.Result PyExc Sys β → Sys
  | .ok _ s => s
  | .error _ s => s

/-- What holds on both exits holds in the final state. -/
theorem final {I : Sys → Prop} (h : Triple P m (fun _ => I) (fun _ => I)) {s : Sys} (hs : P s) :
    I (finalState (m s)) := by
  have h' := h s hs
  revert h'
  cases m s <;> exact id

/-- What holds in the final state of every run from `P` holds on both exits. -/
theorem of_final {I : Sys → Prop} (h : ∀ s, P s → I (finalState (m s))) :
    Triple P m (fun _ => I) (fun _ => I) := fun s hs => by
  have h' := h s hs
  revert h'
  cases m s <;> exact id

end Triple

/-! ### Primitives -/

section Primitives

variable {α : Type} {P : Sys → Prop} {R : PyExc → Sys → Prop}

theorem Triple.subprocessRun {c : Cmd} {Q : c.Out → Sys → Prop}
    (hok : ∀ s, P s → ∀ w a, c.run s.world = some (w, a) → Q a (s.called c w .ok))
    (hafter : ∀ s, P s → ∀ w a, c.run s.world = some (w, a) →
      R (.calledProcessError c) (s.called c w (.failed true)))
    (hbefore : ∀ s, P s → R (.calledProcessError c) (s.called c s.world (.failed false))) :
    Triple P (Ceph.subprocessRun c) Q R := by
  intro s hs
  simp only [Ceph.subprocessRun]
  rcases hc : c.run s.world with _ | ⟨w, a⟩
  · exact hbefore s hs
  · cases s.outcomes.headD .ok
    · exact hok s hs w a hc
    · exact hbefore s hs
    · exact hafter s hs w a hc

theorem Triple.send {sig : Signal} {Q : Unit → Sys → Prop} (h : ∀ s, P s → Q () (s.sent sig false)) :
    Triple P (Ceph.send sig) Q R := h

theorem Triple.sendPostError {sig : Signal} {Q : Bool → Sys → Prop}
    (hok : ∀ s, P s → ∀ r rs, s.replies.headD [] = r :: rs → Q (rs.foldl (· || ·) r) (s.sent sig true))
    (hnone : ∀ s, P s → s.replies.headD [] = [] → R .typeError (s.sent sig true)) :
    Triple P (Ceph.sendPostError sig) Q R := by
  intro s hs
  simp only [Ceph.sendPostError]
  rcases h : s.replies.headD [] with _ | ⟨r, rs⟩
  · exact hnone s hs h
  · exact hok s hs r rs h

end Primitives

end Benji.Ceph
