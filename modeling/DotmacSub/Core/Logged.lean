import Mathlib.Data.List.Basic

/-!
# Computations that leave a log

A computation that may fail, keeps a state and emits events as it goes.  What it emits before it
fails stays emitted, so the events are a part of every outcome.
-/

/-- A fallible computation over a state, with the events it has emitted. -/
def Logged (ω σ ε α : Type) : Type := σ → Except ε α × σ × List ω

namespace Logged

variable {ω σ ε α β : Type}

/-- Run the second half on what the first one returned. -/
def bind (m : Logged ω σ ε α) (f : α → Logged ω σ ε β) : Logged ω σ ε β := fun s =>
  match m s with
  | (.error e, s', log) => (.error e, s', log)
  | (.ok a, s', log) => ((f a s').1, (f a s').2.1, log ++ (f a s').2.2)

instance : Monad (Logged ω σ ε) where
  pure a := fun s => (.ok a, s, [])
  bind := bind

def fail (e : ε) : Logged ω σ ε α := fun s => (.error e, s, [])

def emit (event : ω) (answer : σ → Except ε α × σ) : Logged ω σ ε α := fun s =>
  ((answer s).1, (answer s).2, [event])

def ask (answer : σ → α × σ) : Logged ω σ ε α := fun s => (.ok (answer s).1, (answer s).2, [])

def Returns (m : Logged ω σ ε α) (a : α) : Prop := ∃ s, (m s).1 = .ok a

/-- Every event satisfies the predicate. -/
def Emits (p : ω → Prop) (m : Logged ω σ ε α) : Prop := ∀ s, ∀ event ∈ (m s).2.2, p event

/-- The computation emits no event. -/
def Quiet (m : Logged ω σ ε α) : Prop := ∀ s, (m s).2.2 = []

/-- Every result satisfies the predicate. -/
def Yields (q : α → Prop) (m : Logged ω σ ε α) : Prop := ∀ s a, (m s).1 = .ok a → q a

/-- Every error satisfies the predicate. -/
def FailsAs (r : ε → Prop) (m : Logged ω σ ε α) : Prop := ∀ s e, (m s).1 = .error e → r e

/-- A failure that satisfies the predicate has left no event. -/
def Spares (r : ε → Prop) (m : Logged ω σ ε α) : Prop :=
  ∀ s e, (m s).1 = .error e → r e → (m s).2.2 = []

variable {m : Logged ω σ ε α} {f : α → Logged ω σ ε β} {p : ω → Prop} {q : β → Prop}
  {r : ε → Prop} {s : σ}

lemma bind_error {e : ε} (h : (m s).1 = .error e) : (m >>= f) s = (.error e, (m s).2.1, (m s).2.2) := by
  change bind m f s = _
  rcases hm : m s with ⟨_ | a, s', log⟩
  · rw [hm] at h
    obtain rfl := Except.error.inj h
    rw [bind, hm]
  · rw [hm] at h
    exact nomatch h

lemma bind_ok {a : α} (h : (m s).1 = .ok a) : (m >>= f) s =
    ((f a (m s).2.1).1, (f a (m s).2.1).2.1, (m s).2.2 ++ (f a (m s).2.1).2.2) := by
  change bind m f s = _
  rcases hm : m s with ⟨e | _, s', log⟩
  · rw [hm] at h
    exact nomatch h
  · rw [hm] at h
    obtain rfl := Except.ok.inj h
    rw [bind, hm]

@[simp] lemma pure_run {a : α} : (pure a : Logged ω σ ε α) s = (.ok a, s, []) := rfl

@[simp] lemma fail_run {e : ε} : (fail e : Logged ω σ ε α) s = (.error e, s, []) := rfl

@[simp] lemma pure_bind {a : α} : (pure a : Logged ω σ ε α) >>= f = f a :=
  funext fun s => @bind_ok _ _ _ _ _ (pure a) f s a rfl

lemma Emits.bind (hm : Emits p m) (hf : ∀ a, Returns m a → Emits p (f a)) : Emits p (m >>= f) := by
  intro s event hevent
  cases hresult : (m s).1 with
  | error e =>
    rw [bind_error hresult] at hevent
    exact hm s event hevent
  | ok a =>
    rw [bind_ok hresult] at hevent
    rcases List.mem_append.mp hevent with hevent | hevent
    · exact hm s event hevent
    · exact hf a ⟨s, hresult⟩ _ event hevent

lemma Emits.pure {a : α} : Emits p (Pure.pure a : Logged ω σ ε α) :=
  fun _ _ h => absurd h List.not_mem_nil

lemma Emits.emit {event : ω} {answer : σ → Except ε α × σ} (h : p event) :
    Emits p (emit event answer) := by
  intro s other hother
  rw [List.mem_singleton.mp hother]
  exact h

/-- The events of the first half are events of the whole. -/
lemma Emits.left (h : Emits p (m >>= f)) : Emits p m := by
  intro s event hevent
  refine h s event ?_
  cases hresult : (m s).1 with
  | error e => rwa [bind_error hresult]
  | ok a =>
    rw [bind_ok hresult]
    exact List.mem_append_left _ hevent

lemma Emits.of_emit [Inhabited σ] {event : ω} {answer : σ → Except ε α × σ}
    (h : Emits p (Logged.emit event answer)) : p event := h default event List.mem_cons_self

lemma Quiet.emits (h : Quiet m) : Emits p m := by
  intro s event hevent
  rw [h s] at hevent
  exact absurd hevent List.not_mem_nil

lemma Quiet.bind (hm : Quiet m) (hf : ∀ a, Returns m a → Quiet (f a)) : Quiet (m >>= f) := by
  intro s
  cases hresult : (m s).1 with
  | error e => rw [bind_error hresult, hm s]
  | ok a =>
    rw [bind_ok hresult, hm s, hf a ⟨s, hresult⟩]
    rfl

lemma Quiet.pure {a : α} : Quiet (Pure.pure a : Logged ω σ ε α) := fun _ => rfl

lemma Quiet.fail {e : ε} : Quiet (fail e : Logged ω σ ε α) := fun _ => rfl

lemma Quiet.ask {answer : σ → α × σ} : Quiet (ask answer : Logged ω σ ε α) := fun _ => rfl

lemma Yields.bind (hf : ∀ a, Returns m a → Yields q (f a)) : Yields q (m >>= f) := by
  intro s b hb
  cases hresult : (m s).1 with
  | error e =>
    rw [bind_error hresult] at hb
    exact nomatch hb
  | ok a =>
    rw [bind_ok hresult] at hb
    exact hf a ⟨s, hresult⟩ _ b hb

lemma Yields.pure {b : β} (h : q b) : Yields q (Pure.pure b : Logged ω σ ε β) :=
  fun _ _ hb => Except.ok.inj hb ▸ h

lemma Yields.fail {e : ε} : Yields q (fail e : Logged ω σ ε β) := fun _ _ hb => nomatch hb

lemma FailsAs.bind (hm : FailsAs r m) (hf : ∀ a, Returns m a → FailsAs r (f a)) :
    FailsAs r (m >>= f) := by
  intro s e he
  cases hresult : (m s).1 with
  | error e' =>
    rw [bind_error hresult] at he
    exact hm s e (Except.error.inj he ▸ hresult)
  | ok a =>
    rw [bind_ok hresult] at he
    exact hf a ⟨s, hresult⟩ _ e he

lemma FailsAs.pure {a : α} : FailsAs r (Pure.pure a : Logged ω σ ε α) := fun _ _ h => nomatch h

lemma FailsAs.ask {answer : σ → α × σ} : FailsAs r (ask answer : Logged ω σ ε α) :=
  fun _ _ h => nomatch h

lemma Spares.bind (hm : Quiet m) (hf : ∀ a, Returns m a → Spares r (f a)) : Spares r (m >>= f) := by
  intro s e he hr
  cases hresult : (m s).1 with
  | error e' => rw [bind_error hresult, hm s]
  | ok a =>
    rw [bind_ok hresult] at he ⊢
    rw [hm s, hf a ⟨s, hresult⟩ _ e he hr]
    rfl

lemma Quiet.spares (h : Quiet m) : Spares r m := fun s _ _ _ => h s

/-- Failures of another kind only. -/
lemma FailsAs.spares (h : FailsAs (fun e => ¬ r e) m) : Spares r m :=
  fun s e he hr => absurd hr (h s e he)

end Logged
