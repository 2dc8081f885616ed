import Mathlib.Data.List.Forall2

/-!
# Computations that may refuse

A checked computation is an `Except`: it returns a value or the error it was refused with.  The
three ways a program is written with them — sequencing, guards, and lookups that must succeed —
each have one inversion lemma, so a successful run is taken apart with `simp only` and `obtain`,
never by unfolding the monad.

* `decidableExistsOk` — whether a computation succeeds with a property can be evaluated.
-/

namespace Checked

universe u v

variable {ε : Type u} {α β : Type v}

/-- Refuse with `e` unless `p` holds. -/
def ensure (p : Prop) [Decidable p] (e : ε) : Except ε Unit := if p then .ok () else .error e

/-- The value found, or a refusal. -/
def orRefuse (o : Option α) (e : ε) : Except ε α :=
  match o with
  | some a => .ok a
  | none => .error e

/-- A check that is made only under a condition. -/
def onlyIf (p : Prop) [Decidable p] (x : Except ε Unit) : Except ε Unit := if p then x else .ok ()

/-- A sequence succeeds when both of its halves do. -/
lemma bind_eq_ok {x : Except ε α} {f : α → Except ε β} {b : β} :
    x >>= f = .ok b ↔ ∃ a, x = .ok a ∧ f a = .ok b := by
  cases x with
  | ok a => exact ⟨fun h => ⟨a, rfl, h⟩, fun ⟨_, ha, h⟩ => Except.ok.inj ha ▸ h⟩
  | error e => exact ⟨nofun, fun ⟨_, ha, _⟩ => nomatch ha⟩

lemma map_eq_ok {x : Except ε α} {f : α → β} {b : β} :
    f <$> x = .ok b ↔ ∃ a, x = .ok a ∧ f a = b := by
  cases x with
  | ok a => exact ⟨fun h => ⟨a, rfl, Except.ok.inj h⟩, fun ⟨_, ha, h⟩ =>
    congrArg Except.ok (Except.ok.inj ha ▸ h)⟩
  | error e => exact ⟨nofun, fun ⟨_, ha, _⟩ => nomatch ha⟩

/-- Renaming the refusals does not change the results. -/
lemma mapError_eq_ok {ε' : Type*} {x : Except ε α} {f : ε → ε'} {a : α} :
    x.mapError f = .ok a ↔ x = .ok a := by
  cases x with
  | ok b => exact ⟨fun h => congrArg _ (Except.ok.inj h), fun h => congrArg _ (Except.ok.inj h)⟩
  | error e => exact ⟨nofun, nofun⟩

@[simp] lemma pure_eq_ok {a b : α} : (pure a : Except ε α) = .ok b ↔ a = b :=
  ⟨Except.ok.inj, congrArg _⟩

lemma mk_eq_ok {a c : α} {b d : β} :
    (.ok (a, b) : Except ε (α × β)) = .ok (c, d) ↔ a = c ∧ b = d := by
  rw [Except.ok.injEq, Prod.mk.injEq]

lemma ensure_eq_ok {p : Prop} [Decidable p] {e : ε} {u : Unit} : ensure p e = .ok u ↔ p := by
  unfold ensure
  split_ifs with h
  · exact ⟨fun _ => h, fun _ => rfl⟩
  · exact ⟨nofun, fun hp => absurd hp h⟩

lemma onlyIf_eq_ok {p : Prop} [Decidable p] {x : Except ε Unit} {u : Unit} :
    onlyIf p x = .ok u ↔ (p → x = .ok u) := by
  unfold onlyIf
  split_ifs with h
  · exact ⟨fun hx _ => hx, fun hx => hx h⟩
  · exact ⟨fun _ hp => absurd hp h, fun _ => rfl⟩

lemma ensure_of {p : Prop} [Decidable p] {e : ε} (h : p) : ensure p e = .ok () := if_pos h

lemma orRefuse_some {e : ε} {a : α} : orRefuse (some a) e = .ok a := rfl

@[simp] lemma ok_bind {a : α} {f : α → Except ε β} : (.ok a : Except ε α) >>= f = f a := rfl

/-- A loop whose steps all succeed. -/
lemma mapM_eq_ok {γ : Type v} {f : γ → Except ε β} {q : γ → β → Prop} :
    ∀ {l : List γ}, (∀ x ∈ l, ∃ y, f x = .ok y ∧ q x y) →
      ∃ ys, l.mapM f = .ok ys ∧ List.Forall₂ q l ys
  | [], _ => ⟨[], rfl, .nil⟩
  | x :: l, h => by
    obtain ⟨y, hy, hq⟩ := h x List.mem_cons_self
    obtain ⟨ys, hys, hqs⟩ := mapM_eq_ok fun z hz => h z (List.mem_cons_of_mem x hz)
    refine ⟨y :: ys, ?_, .cons hq hqs⟩
    rw [List.mapM_cons, hy, ok_bind, hys, ok_bind]
    rfl

/-- Every result of a loop comes from one of its inputs. -/
lemma exists_of_mem_right {γ : Type*} {δ : Type*} {q : γ → δ → Prop} {l : List γ} {ys : List δ}
    (h : List.Forall₂ q l ys) : ∀ y ∈ ys, ∃ x ∈ l, q x y := by
  induction h with
  | nil => exact fun y hy => absurd hy List.not_mem_nil
  | cons hxy _ ih =>
    rintro y (_ | ⟨_, hy⟩)
    · exact ⟨_, List.mem_cons_self, hxy⟩
    · obtain ⟨x, hx, hq⟩ := ih y hy
      exact ⟨x, List.mem_cons_of_mem _ hx, hq⟩

/-- Every input of a loop has one of its results. -/
lemma exists_of_mem_left {γ : Type*} {δ : Type*} {q : γ → δ → Prop} {l : List γ} {ys : List δ}
    (h : List.Forall₂ q l ys) : ∀ x ∈ l, ∃ y ∈ ys, q x y :=
  fun x hx => exists_of_mem_right h.flip x hx

/-- A loop whose results are known. -/
lemma mapM_eq_ok_map {γ : Type v} {f : γ → Except ε β} {g : γ → β} :
    ∀ {l : List γ}, (∀ x ∈ l, f x = .ok (g x)) → l.mapM f = .ok (l.map g)
  | [], _ => rfl
  | x :: l, h => by
    rw [List.mapM_cons, h x List.mem_cons_self, ok_bind,
      mapM_eq_ok_map fun y hy => h y (List.mem_cons_of_mem x hy)]
    rfl

/-- A loop that succeeds has a result for each of its inputs. -/
lemma forall₂_of_mapM {γ : Type v} {f : γ → Except ε β} :
    ∀ {l : List γ} {ys : List β}, l.mapM f = .ok ys → List.Forall₂ (fun x y => f x = .ok y) l ys
  | [], ys, h => by
    rw [List.mapM_nil, pure_eq_ok] at h
    exact h ▸ .nil
  | x :: l, ys, h => by
    rw [List.mapM_cons, bind_eq_ok] at h
    obtain ⟨y, hy, h⟩ := h
    rw [bind_eq_ok] at h
    obtain ⟨zs, hzs, h⟩ := h
    rw [pure_eq_ok] at h
    exact h ▸ .cons hy (forall₂_of_mapM hzs)

lemma mapM_eq_ok_iff {γ : Type v} {f : γ → Except ε β} {l : List γ} {ys : List β} :
    l.mapM f = .ok ys ↔ List.Forall₂ (fun x y => f x = .ok y) l ys := by
  refine ⟨forall₂_of_mapM, fun h => ?_⟩
  induction h with
  | nil => rfl
  | cons hxy _ ih =>
    rw [List.mapM_cons, hxy, ok_bind, ih, ok_bind]
    rfl

section Loops

variable {σ ν κ : Type*} {γ : Type v} {f : σ → γ → Except ε σ} {s s' : σ} {l m : List γ}

@[simp] lemma foldlM_nil_eq_ok : [].foldlM f s = .ok s' ↔ s = s' := pure_eq_ok

lemma foldlM_cons_eq_ok {x : γ} :
    (x :: l).foldlM f s = .ok s' ↔ ∃ t, f s x = .ok t ∧ l.foldlM f t = .ok s' := by
  rw [List.foldlM_cons, bind_eq_ok]

lemma foldlM_append_eq_ok :
    (l ++ m).foldlM f s = .ok s' ↔ ∃ t, l.foldlM f s = .ok t ∧ m.foldlM f t = .ok s' := by
  rw [List.foldlM_append, bind_eq_ok]

lemma foldlM_keeps {p : σ → Prop} (h : ∀ s, ∀ x ∈ l, ∀ t, f s x = .ok t → p s → p t)
    (hs : p s) (hok : l.foldlM f s = .ok s') : p s' := by
  induction l generalizing s with
  | nil => exact foldlM_nil_eq_ok.mp hok ▸ hs
  | cons x l ih =>
    obtain ⟨t, ht, hok⟩ := foldlM_cons_eq_ok.mp hok
    refine ih (fun s y hy => h s y (List.mem_cons_of_mem x hy)) ?_ hok
    exact h s x List.mem_cons_self t ht hs

lemma foldlM_frame (view : σ → ν) (h : ∀ s, ∀ x ∈ l, ∀ t, f s x = .ok t → view t = view s)
    (hok : l.foldlM f s = .ok s') : view s' = view s :=
  foldlM_keeps (p := fun t => view t = view s)
    (fun s x hx t ht hs => (h s x hx t ht).trans hs) rfl hok

lemma foldlM_turn (view : σ → ν) (key : γ → κ) {x : γ}
    (h : ∀ s y t, f s y = .ok t → key y ≠ key x → view t = view s) (hx : x ∈ l)
    (hnodup : (l.map key).Nodup) (hok : l.foldlM f s = .ok s') :
    ∃ t u, view t = view s ∧ f t x = .ok u ∧ view s' = view u := by
  obtain ⟨as, bs, rfl⟩ := List.append_of_mem hx
  rw [List.map_append, List.map_cons, List.nodup_append, List.nodup_cons] at hnodup
  obtain ⟨-, ⟨hbs, -⟩, has⟩ := hnodup
  obtain ⟨t, hbefore, hok⟩ := foldlM_append_eq_ok.mp hok
  obtain ⟨u, hturn, hafter⟩ := foldlM_cons_eq_ok.mp hok
  refine ⟨t, u, foldlM_frame view (fun s y hy t ht => h s y t ht ?_) hbefore, hturn,
    foldlM_frame view (fun s y hy t ht => h s y t ht ?_) hafter⟩
  · exact has _ (List.mem_map_of_mem hy) _ List.mem_cons_self
  · exact fun heq => hbs (heq ▸ List.mem_map_of_mem hy)

end Loops

lemma ensure_bind_eq_ok {β : Type} {p : Prop} [Decidable p] {e : ε} {f : Unit → Except ε β}
    {b : β} : ensure p e >>= f = .ok b ↔ p ∧ f () = .ok b := by
  simp only [bind_eq_ok, ensure_eq_ok]
  exact ⟨fun ⟨_, h, hf⟩ => ⟨h, hf⟩, fun ⟨h, hf⟩ => ⟨(), h, hf⟩⟩

lemma orRefuse_eq_ok {o : Option α} {e : ε} {a : α} : orRefuse o e = .ok a ↔ o = some a := by
  cases o with
  | none => exact ⟨nofun, nofun⟩
  | some b => exact ⟨fun h => congrArg _ (Except.ok.inj h), fun h => congrArg _ (Option.some.inj h)⟩

lemma orRefuse_bind_eq_ok {o : Option α} {e : ε} {f : α → Except ε β} {b : β} :
    orRefuse o e >>= f = .ok b ↔ ∃ a, o = some a ∧ f a = .ok b := by
  simp only [bind_eq_ok, orRefuse_eq_ok]

instance decidableExistsOk {p : α → Prop} [DecidablePred p] :
    (x : Except ε α) → Decidable (∃ a, x = .ok a ∧ p a)
  | .ok a => decidable_of_iff (p a)
      ⟨fun h => ⟨a, rfl, h⟩, fun ⟨_, ha, h⟩ => (Except.ok.inj ha).symm ▸ h⟩
  | .error _ => .isFalse fun ⟨_, ha, _⟩ => nomatch ha

/-- Whether a computation is refused with an error can be evaluated. -/
instance decidableEqError [DecidableEq ε] (e : ε) : (x : Except ε α) → Decidable (x = .error e)
  | .ok _ => .isFalse nofun
  | .error e' => decidable_of_iff (e' = e) ⟨congrArg _, Except.error.inj⟩

/-- Every refusal of `x` satisfies `q`. -/
def RefusesOnly (q : ε → Prop) (x : Except ε α) : Prop := ∀ e, x = .error e → q e

variable {q : ε → Prop} {x : Except ε α} {f : α → Except ε β}

lemma refusesOnly_ok (a : α) : RefusesOnly q (.ok a : Except ε α) := nofun

lemma refusesOnly_pure (a : α) : RefusesOnly q (pure a : Except ε α) := nofun

lemma RefusesOnly.bind (hx : RefusesOnly q x) (hf : ∀ a, x = .ok a → RefusesOnly q (f a)) :
    RefusesOnly q (x >>= f) := by
  cases x with
  | ok a => exact hf a rfl
  | error e => exact fun e' h => hx e' (by cases h; rfl)

lemma RefusesOnly.map {g : α → β} (hx : RefusesOnly q x) : RefusesOnly q (g <$> x) := by
  cases x with
  | ok a => exact nofun
  | error e => exact fun e' h => hx e' (by cases h; rfl)

lemma refusesOnly_ensure {p : Prop} [Decidable p] {e : ε} (h : ¬ p → q e) :
    RefusesOnly q (ensure p e) := by
  unfold ensure
  split_ifs with hp
  · exact nofun
  · rintro e' ⟨⟩
    exact h hp

lemma refusesOnly_orRefuse {o : Option α} {e : ε} (h : o = none → q e) :
    RefusesOnly q (orRefuse o e) := by
  cases o with
  | none =>
    rintro e' ⟨⟩
    exact h rfl
  | some a => exact nofun

end Checked
