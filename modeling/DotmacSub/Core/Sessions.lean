import DotmacSub.Core.Run

/-!
# Sessions that hold rows until they commit

Sessions that work on one store at the same time.  A transaction reads what is committed, decides
what it will write and takes the locks of its command, all in one step; what it writes is seen when
it commits, a later step.  Any number of steps of other sessions stand between the two, and the
locks are all that keeps them apart.
-/

namespace Sessions

universe u v w

variable {σ : Type u} {γ : Type v} {δ : Type v} {κ : Type v} {ε : Type w}

/-- A store with commands: what a command is about to write and the rows it holds until then. -/
structure System (σ : Type u) (γ δ κ : Type v) (ε : Type w) where
  prepare : σ → γ → Except ε (δ × List κ)
  apply : σ → δ → σ

structure Txn (δ κ : Type v) where
  session : ℕ
  change : δ
  locks : List κ

/-- The committed store, and the open transactions. -/
structure World (σ : Type u) (δ κ : Type v) where
  db : σ
  pending : List (Txn δ κ)

inductive Event (γ : Type v)
  | begin (session : ℕ) (command : γ)
  | commit (session : ℕ)
  | rollback (session : ℕ)

/-- Why an event does not happen. -/
inductive Refusal (ε : Type w)
  | busy
  | locked
  | idle
  | refused (e : ε)

namespace World

def find? (w : World σ δ κ) (session : ℕ) : Option (Txn δ κ) :=
  w.pending.find? (·.session = session)

def others (w : World σ δ κ) (session : ℕ) : List (Txn δ κ) :=
  w.pending.filter (·.session ≠ session)

end World

section Step

variable [DecidableEq κ]

def step (system : System σ γ δ κ ε) (w : World σ δ κ) : Event γ → Except (Refusal ε) (World σ δ κ)
  | .begin session command =>
    if (w.find? session).isSome then .error .busy
    else match system.prepare w.db command with
    | .error e => .error (.refused e)
    | .ok (change, locks) =>
      if ∃ t ∈ w.pending, ∃ lock ∈ t.locks, lock ∈ locks then .error .locked
      else .ok { w with pending := ⟨session, change, locks⟩ :: w.pending }
  | .commit session =>
    match w.find? session with
    | none => .error .idle
    | some t => .ok ⟨system.apply w.db t.change, w.others session⟩
  | .rollback session => .ok { w with pending := w.others session }

end Step

/-- What an event that happens does. -/
inductive Stepped (system : System σ γ δ κ ε) (w : World σ δ κ) : Event γ → World σ δ κ → Prop
  | begin {session : ℕ} {command : γ} {change : δ} {locks : List κ} (idle : w.find? session = none)
      (prepared : system.prepare w.db command = .ok (change, locks))
      (free : ∀ t ∈ w.pending, ∀ lock ∈ t.locks, lock ∉ locks) :
      Stepped system w (.begin session command)
        { w with pending := ⟨session, change, locks⟩ :: w.pending }
  | commit {session : ℕ} {t : Txn δ κ} (found : w.find? session = some t) :
      Stepped system w (.commit session) ⟨system.apply w.db t.change, w.others session⟩
  | rollback {session : ℕ} :
      Stepped system w (.rollback session) { w with pending := w.others session }

variable {system : System σ γ δ κ ε} {w w' : World σ δ κ} {event : Event γ}

lemma stepped_of_step [DecidableEq κ] (h : step system w event = .ok w') :
    Stepped system w event w' := by
  cases event with
  | begin session command =>
    simp only [step] at h
    split_ifs at h with hbusy
    split at h
    · exact nomatch h
    · next change locks hprepared =>
      split_ifs at h with hlocked
      obtain rfl := Except.ok.inj h
      refine .begin (by simpa using hbusy) hprepared fun t ht lock hlock hmem => ?_
      exact hlocked ⟨t, ht, lock, hlock, hmem⟩
  | commit session =>
    simp only [step] at h
    split at h
    · exact nomatch h
    · next t hfound =>
      obtain rfl := Except.ok.inj h
      exact .commit hfound
  | rollback session =>
    obtain rfl := Except.ok.inj h
    exact .rollback

/-- Different open transactions hold different rows. -/
def Apart (w : World σ δ κ) : Prop :=
  w.pending.Pairwise fun t u => ∀ lock ∈ u.locks, lock ∉ t.locks

/-- Open transactions hold different rows. -/
lemma Apart.step (hapart : Apart w) (h : Stepped system w event w') : Apart w' := by
  cases h with
  | begin _ _ hfree => exact List.pairwise_cons.mpr ⟨hfree, hapart⟩
  | commit _ => exact hapart.sublist List.filter_sublist
  | rollback => exact hapart.sublist List.filter_sublist

/-- An open transaction and one of another session share no row. -/
lemma Apart.not_mem (hapart : Apart w) {t u : Txn δ κ} (ht : t ∈ w.pending) (hu : u ∈ w.pending)
    (hne : t.session ≠ u.session) {lock : κ} (hlock : lock ∈ t.locks) : lock ∉ u.locks := by
  obtain ⟨before, after, hsplit⟩ := List.append_of_mem ht
  rw [Apart, hsplit, List.pairwise_append, List.pairwise_cons] at hapart
  obtain ⟨-, ⟨hafter, -⟩, hbefore⟩ := hapart
  rw [hsplit] at hu
  rcases List.mem_append.mp hu with hu | hu
  · exact fun hmem => hbefore u hu t List.mem_cons_self lock hlock hmem
  · rcases List.mem_cons.mp hu with rfl | hu
    · exact absurd rfl hne
    · exact fun hmem => hafter u hu lock hmem hlock

end Sessions
