import Mathlib.Data.List.Basic

/-!
# Runs of a system of commands

A system answers a command with a new state or with a refusal, and a refused command leaves the
state as it was: that is what a transaction is.  A run is then a list of commands, and the state
it reaches is total.
-/

namespace Run

universe u v w

variable {σ : Type u} {γ : Type v} {ε : Type w} (step : σ → γ → Except ε σ)

/-- One command; one that is refused changes nothing. -/
def next (s : σ) (c : γ) : σ :=
  match step s c with
  | .ok s' => s'
  | .error _ => s

/-- All commands in order. -/
def run (s : σ) (cs : List γ) : σ := cs.foldl (next step) s

/-- Every accepted command of the run satisfies `p` in the state it is accepted in. -/
def Guarded (p : σ → γ → Prop) : σ → List γ → Prop
  | _, [] => True
  | s, c :: cs => ((∃ s', step s c = .ok s') → p s c) ∧ Guarded p (next step s c) cs

instance decidableAccepted (s : σ) (c : γ) : Decidable (∃ s', step s c = .ok s') :=
  match step s c with
  | .ok s' => .isTrue ⟨s', rfl⟩
  | .error _ => .isFalse nofun

/-- Whether a run is guarded can be evaluated. -/
instance decidableGuarded {p : σ → γ → Prop} [∀ s c, Decidable (p s c)] :
    ∀ s cs, Decidable (Guarded step p s cs)
  | _, [] => .isTrue trivial
  | s, c :: cs =>
    have := decidableGuarded (p := p) (next step s c) cs
    inferInstanceAs (Decidable (((∃ s', step s c = .ok s') → p s c) ∧ _))

variable {step} {s : σ} {c : γ} {cs ds : List γ} {p : σ → γ → Prop} {inv : σ → Prop}

@[simp] lemma run_nil : run step s [] = s := rfl

@[simp] lemma run_cons : run step s (c :: cs) = run step (next step s c) cs := rfl

lemma run_append : run step s (cs ++ ds) = run step (run step s cs) ds := List.foldl_append

lemma next_of_ok {s' : σ} (h : step s c = .ok s') : next step s c = s' := by
  rw [next, h]

/-- A refused command changes nothing. -/
lemma next_of_error {e : ε} (h : step s c = .error e) : next step s c = s := by
  rw [next, h]

/-- **A guarded run keeps what its commands keep.** -/
theorem invariant_guarded (hstep : ∀ s c s', inv s → p s c → step s c = .ok s' → inv s') :
    ∀ cs s, inv s → Guarded step p s cs → inv (run step s cs)
  | [], _, h, _ => h
  | c :: cs, s, h, hg => by
    refine invariant_guarded hstep cs _ ?_ hg.2
    cases hc : step s c with
    | ok s' =>
      rw [next_of_ok hc]
      exact hstep s c s' h (hg.1 ⟨s', hc⟩) hc
    | error e =>
      rw [next_of_error hc]
      exact h

lemma guarded_of_forall (h : ∀ s c, p s c) : ∀ cs s, Guarded step p s cs
  | [], _ => trivial
  | c :: cs, s => ⟨fun _ => h s c, guarded_of_forall h cs _⟩

lemma guarded_of_forall_mem : ∀ cs s, (∀ c ∈ cs, ∀ s, p s c) → Guarded step p s cs
  | [], _, _ => trivial
  | c :: cs, s, h => ⟨fun _ => h c List.mem_cons_self s,
      guarded_of_forall_mem cs _ fun d hd => h d (List.mem_cons_of_mem c hd)⟩

/-- A run keeps what its commands keep. -/
theorem invariant_run (hstep : ∀ s c s', inv s → step s c = .ok s' → inv s') (cs : List γ)
    (h : inv s) : inv (run step s cs) :=
  invariant_guarded (p := fun _ _ => True) (fun s c s' hs _ => hstep s c s' hs) cs s h
    (guarded_of_forall (fun _ _ => trivial) cs s)

/-- **The guarded runs are those that never break** what is kept exactly under the condition. -/
theorem forall_prefix_iff_guarded (hkeep : ∀ s c s', inv s → p s c → step s c = .ok s' → inv s')
    (hbreak : ∀ s c s', inv s → step s c = .ok s' → inv s' → p s c) :
    ∀ cs s, inv s →
      ((∀ before after, cs = before ++ after → inv (run step s before)) ↔ Guarded step p s cs)
  | [], s, h => by
    refine ⟨fun _ => trivial, fun _ before after heq => ?_⟩
    rw [(List.append_eq_nil_iff.mp heq.symm).1]
    exact h
  | c :: cs, s, h => by
    constructor
    · intro hall
      have hnext : inv (next step s c) := hall [c] cs rfl
      refine ⟨fun ⟨s', hok⟩ => hbreak s c s' h hok (next_of_ok hok ▸ hnext), ?_⟩
      refine (forall_prefix_iff_guarded hkeep hbreak cs _ hnext).mp fun before after heq => ?_
      exact hall (c :: before) after (by rw [heq, List.cons_append])
    · rintro ⟨hc, hcs⟩ before after heq
      have hnext : inv (next step s c) := by
        cases hok : step s c with
        | ok s' =>
          rw [next_of_ok hok]
          exact hkeep s c s' h (hc ⟨s', hok⟩) hok
        | error e =>
          rw [next_of_error hok]
          exact h
      cases before with
      | nil => exact h
      | cons d before =>
        obtain ⟨rfl, htail⟩ := List.cons.inj heq
        exact (forall_prefix_iff_guarded hkeep hbreak cs _ hnext).mpr hcs before after htail

/-- What holds at every point of a list of commands holds at its start and at every later point. -/
lemma forall_split_cons {q : List γ → List γ → Prop} :
    (∀ before after, c :: cs = before ++ after → q before after) ↔
      q [] (c :: cs) ∧ ∀ before after, cs = before ++ after → q (c :: before) after := by
  constructor
  · intro h
    refine ⟨h [] _ rfl, fun before after heq => h (c :: before) after ?_⟩
    rw [heq, List.cons_append]
  · rintro ⟨hnil, hcons⟩ before after heq
    cases before with
    | nil =>
      obtain rfl : c :: cs = after := heq
      exact hnil
    | cons d before =>
      obtain ⟨rfl, htail⟩ := List.cons.inj heq
      exact hcons before after htail

lemma guarded_iff_forall_split : ∀ cs s, Guarded step p s cs ↔ ∀ before c after,
    cs = before ++ c :: after → (∃ s', step (run step s before) c = .ok s') →
      p (run step s before) c
  | [], s => by
    refine ⟨fun _ before c after heq => ?_, fun _ => trivial⟩
    exact absurd heq.symm (List.append_ne_nil_of_right_ne_nil _ (List.cons_ne_nil _ _))
  | c :: cs, s => by
    refine ⟨fun ⟨hc, hcs⟩ before d after heq => ?_, fun h => ⟨h [] c cs rfl, ?_⟩⟩
    · cases before with
      | nil =>
        obtain ⟨rfl, -⟩ := List.cons.inj heq
        exact hc
      | cons e before =>
        obtain ⟨rfl, htail⟩ := List.cons.inj heq
        exact (guarded_iff_forall_split cs _).mp hcs before d after htail
    · refine (guarded_iff_forall_split cs _).mpr fun before d after heq => ?_
      exact h (c :: before) d after (by rw [heq, List.cons_append])

lemma guarded_and {q : σ → γ → Prop} : ∀ cs s, Guarded step (fun s c => p s c ∧ q s c) s cs ↔
    Guarded step p s cs ∧ Guarded step q s cs
  | [], _ => ⟨fun _ => ⟨trivial, trivial⟩, fun _ => trivial⟩
  | c :: cs, s => by
    rw [Guarded, Guarded, Guarded, guarded_and cs]
    constructor
    · rintro ⟨hc, hp, hq⟩
      exact ⟨⟨fun hok => (hc hok).1, hp⟩, fun hok => (hc hok).2, hq⟩
    · rintro ⟨⟨hp, hps⟩, hq, hqs⟩
      exact ⟨fun hok => ⟨hp hok, hq hok⟩, hps, hqs⟩

/-- Two conditions guard the same runs if they agree wherever one of them has held so far. -/
theorem guarded_congr {q : σ → γ → Prop}
    (hkeep : ∀ s c s', inv s → q s c → step s c = .ok s' → inv s')
    (hiff : ∀ s c s', inv s → step s c = .ok s' → (p s c ↔ q s c)) :
    ∀ cs s, inv s → (Guarded step p s cs ↔ Guarded step q s cs)
  | [], _, _ => Iff.rfl
  | c :: cs, s, h => by
    cases hc : step s c with
    | error e =>
      rw [Guarded, Guarded, hc, next_of_error hc]
      simpa using guarded_congr hkeep hiff cs s h
    | ok s' =>
      rw [Guarded, Guarded, hc, next_of_ok hc]
      simp only [Except.ok.injEq, exists_eq', true_imp_iff, hiff s c s' h hc]
      exact and_congr_right fun hq => guarded_congr hkeep hiff cs s' (hkeep s c s' h hq hc)

lemma Guarded.append_left : ∀ cs s, Guarded step p s (cs ++ ds) → Guarded step p s cs
  | [], _, _ => trivial
  | _ :: cs, _, h => ⟨h.1, Guarded.append_left cs _ h.2⟩

lemma Guarded.append_right : ∀ cs s, Guarded step p s (cs ++ ds) → Guarded step p (run step s cs) ds
  | [], _, h => h
  | _ :: cs, _, h => Guarded.append_right cs _ h.2

end Run
