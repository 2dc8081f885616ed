import DotmacSub.Lifecycle.Accounts

/-!
# Time spent disabled

Whoever enables a subscription shifts its billing anchor by the time it was disabled.  Over a run
the anchor covers all the disabled time there was, unless the subscription left its pause under a
lock: then it is suspended, nothing is shifted, and the restoration that follows does not shift
either.
-/

namespace DotmacSub.Lifecycle

open Store Run
open ServiceExtensions (SubscriptionStatus)

variable {db : LifecycleDb} {id : ℕ} {w w' : View} {anchor paused clock now : ℤ} {c : Command}

def Chronological : ℤ → List (Call × Command) → Prop
  | _, [] => True
  | clock, c :: cs => clock ≤ c.1.now ∧ Chronological c.1.now cs

def clockAfter : ℤ → List (Call × Command) → ℤ
  | clock, [] => clock
  | _, c :: cs => clockAfter c.1.now cs

def View.disabledFor (w : View) (clock now : ℤ) : ℤ :=
  if w.status = .disabled then now - clock else 0

/-- For how long the subscription is disabled in a run. -/
def disabledTime (id : ℕ) : LifecycleDb → ℤ → List (Call × Command) → ℤ
  | _, _, [] => 0
  | db, clock, c :: cs =>
    ((db.view id).map (·.disabledFor clock c.1.now)).getD 0 +
      disabledTime id (next step db c) c.1.now cs

lemma Chronological.append_left {cs ds : List (Call × Command)} :
    ∀ {clock : ℤ}, Chronological clock (cs ++ ds) → Chronological clock cs := by
  induction cs with
  | nil => exact fun _ => trivial
  | cons c cs ih => exact fun h => ⟨h.1, ih h.2⟩

lemma Chronological.append_right {cs ds : List (Call × Command)} :
    ∀ {clock : ℤ}, Chronological clock (cs ++ ds) → Chronological (clockAfter clock cs) ds := by
  induction cs with
  | nil => exact fun h => h
  | cons c cs ih => exact fun h => ih h.2

/-- From an anchor on, the disabled time is covered by the present anchor, with what the pause under
way will add to it. -/
structure View.Covers (anchor paused clock : ℤ) (w : View) : Prop where
  running : w.status ∉ terminal → w.status ≠ .disabled →
    ∃ b, w.nextBillingAt = some b ∧ anchor + paused ≤ b
  disabled : w.status = .disabled → ∃ b since, w.nextBillingAt = some b ∧
    w.disabledAt.max? = some since ∧ anchor + paused ≤ b + (clock - since)

inductive Enables (id : ℕ) : Command → View → Prop
  | enable {w reason} : Enables id (.enable id reason) w
  | routed {c c' w} (hroute : Routes id w c c') (h : Enables id c' w) : Enables id c w

lemma Moved.past (h : Moved db now id c w w') (hpast : ∀ t ∈ w.disabledAt, t ≤ clock)
    (hle : clock ≤ now) : ∀ t ∈ w'.disabledAt, t ≤ now := by
  have hkept : ∀ t ∈ w.disabledAt, t ≤ now := fun t ht => (hpast t ht).trans hle
  induction h with
  | disabled _ _ hat =>
    rcases hat with ⟨rfl, -⟩ | ⟨-, rfl⟩
    · exact hkept
    · intro t ht
      rcases List.mem_append.mp ht with ht | ht
      · exact hkept t ht
      · exact (List.mem_singleton.mp ht).le
  | routed _ _ ih => exact ih hpast hkept
  | idle | suspended | lifted | restored | staleResolved | activated | expired | canceled | keptHeld
  | enabled | unsuspended | returned => exact hkept

/-- A move that keeps the anchor, of a subscription that is not disabled, or stays so. -/
lemma View.Covers.same (h : w.Covers anchor paused clock) (hstatus : w'.status = w.status)
    (hanchor : w'.nextBillingAt = w.nextBillingAt) (hat : w'.disabledAt = w.disabledAt) :
    w'.Covers anchor (paused + w.disabledFor clock now) now where
  running := by
    rw [hstatus, hanchor]
    intro hopen hne
    rw [View.disabledFor, if_neg hne, add_zero]
    exact h.running hopen hne
  disabled := by
    rw [hstatus, hanchor, hat]
    intro hdisabled
    obtain ⟨b, since, hb, hsince, hcovers⟩ := h.disabled hdisabled
    refine ⟨b, since, hb, hsince, ?_⟩
    rw [View.disabledFor, if_pos hdisabled]
    omega

lemma View.Covers.running_of (h : w.Covers anchor paused clock) (hopen : w.status ∉ terminal)
    (hne : w.status ≠ .disabled) (hne' : w'.status ≠ .disabled)
    (hanchor : ∀ b ∈ w.nextBillingAt, w'.nextBillingAt = some b) :
    w'.Covers anchor (paused + w.disabledFor clock now) now where
  running := by
    intro _ _
    obtain ⟨b, hb, hcovers⟩ := h.running hopen hne
    rw [View.disabledFor, if_neg hne, add_zero]
    exact ⟨b, hanchor b hb, hcovers⟩
  disabled := fun hdisabled => absurd hdisabled hne'

lemma View.covers_of_ended (hterminal : w.status ∈ terminal) : w.Covers anchor paused clock where
  running := fun hopen => absurd hterminal hopen
  disabled := fun hdisabled => absurd (hdisabled ▸ hterminal) (by decide)

/-- **A command keeps the disabled time covered**, unless it ends a pause under a lock. -/
theorem Moved.covers (h : Moved db now id c w w') (hcovers : w.Covers anchor paused clock)
    (hpast : ∀ t ∈ w.disabledAt, t ≤ clock) (hle : clock ≤ now)
    (hunlocked : Enables id c w → w.status = .disabled → w.locks ≠ [] →
      ∀ since ∈ w.disabledAt.max?, now ≤ since) :
    w'.Covers anchor (paused + w.disabledFor clock now) now := by
  have hheld : ∀ {w : View}, w.status ∈ suspendedEquivalent →
      w.status ∉ terminal ∧ w.status ≠ .disabled := by
    intro w
    cases w.status <;> decide
  have hopen : ∀ {w : View}, w.status ∈ suspendable → w.status ∉ terminal ∧
      w.status ≠ .disabled := by
    intro w
    cases w.status <;> decide
  have hafter := h.past hpast hle
  induction h with
  | idle => exact hcovers.same rfl rfl rfl
  | @suspended w _ _ _ _ _ hstatus _ =>
    obtain ⟨hterminal, hne⟩ := hstatus.elim hopen hheld
    refine hcovers.running_of hterminal hne ?_ (fun b hb => hb)
    simp only
    split_ifs with hsuspended
    · exact hne
    · exact SubscriptionStatus.noConfusion
  | lifted => exact hcovers.same rfl rfl rfl
  | restored hstatus _ hanchor =>
    obtain ⟨hterminal, hne⟩ := hheld hstatus
    exact hcovers.running_of hterminal hne SubscriptionStatus.noConfusion
      (fun b hb => congrArg some (hanchor b hb))
  | staleResolved => exact hcovers.same rfl rfl rfl
  | activated hstatus _ hanchor =>
    refine hcovers.running_of ?_ ?_ SubscriptionStatus.noConfusion
      (fun b hb => congrArg some (hanchor b hb))
    · rw [hstatus]
      decide
    · rw [hstatus]
      decide
  | expired =>
    refine View.covers_of_ended ?_
    simp [terminal]
  | canceled =>
    refine View.covers_of_ended ?_
    simp [terminal]
  | @disabled w _ _ disabledAt hterminal hne hat =>
    obtain ⟨b, hb, hpaid⟩ := hcovers.running hterminal hne
    have hevidence : disabledAt ≠ [] := by
      rcases hat with ⟨rfl, hevidence⟩ | ⟨-, rfl⟩
      · exact hevidence rfl
      · exact List.append_ne_nil_of_right_ne_nil _ (List.cons_ne_nil _ _)
    obtain ⟨since, hsince⟩ := Option.isSome_iff_exists.mp (List.isSome_max?_of_ne_nil hevidence)
    have hbefore : since ≤ now := hafter since (List.max?_mem hsince)
    rw [View.disabledFor, if_neg hne, add_zero]
    exact ⟨fun _ h => absurd rfl h, fun _ => ⟨b, since, hb, hsince, by omega⟩⟩
  | @keptHeld w _ hstatus hlocks =>
    obtain ⟨b, since, hb, hsince, hpaid⟩ := hcovers.disabled hstatus
    have hnow := hunlocked .enable hstatus hlocks since hsince
    rw [View.disabledFor, if_pos hstatus]
    exact ⟨fun _ _ => ⟨b, hb, by omega⟩, fun h => SubscriptionStatus.noConfusion h⟩
  | @enabled w _ resumed _ hstatus _ hsince hanchor =>
    obtain ⟨b, latest, hb, hlatest, hpaid⟩ := hcovers.disabled hstatus
    obtain rfl := hsince latest hlatest
    have hshift := hanchor b hb
    rw [View.disabledFor, if_pos hstatus]
    exact ⟨fun _ _ => ⟨resumed, rfl, by omega⟩, fun h => SubscriptionStatus.noConfusion h⟩
  | unsuspended => exact hcovers.same rfl rfl rfl
  | returned _ _ _ hstatus _ hanchor =>
    obtain ⟨hterminal, hne⟩ := hheld hstatus
    exact hcovers.running_of hterminal hne SubscriptionStatus.noConfusion
      (fun b hb => congrArg some (hanchor b hb))
  | routed hroute _ ih =>
    exact ih hcovers hpast (fun henables => hunlocked (.routed hroute henables)) hafter

def NoHeldEnable (id : ℕ) (db : LifecycleDb) (c : Call × Command) : Prop :=
  ∀ w, db.view id = some w → Enables id c.2 w → w.status = .disabled → w.locks ≠ [] →
    ∀ since ∈ w.disabledAt.max?, c.1.now ≤ since

/-- The subscription is there, and the evidence of its pauses is not of the future. -/
def Past (id : ℕ) (clock : ℤ) (db : LifecycleDb) : Prop :=
  ∃ w, db.view id = some w ∧ ∀ t ∈ w.disabledAt, t ≤ clock

lemma past_next {c : Call × Command} (h : Past id clock db) (hle : clock ≤ c.1.now) :
    Past id c.1.now (next step db c) := by
  obtain ⟨w, hw, hpast⟩ := h
  obtain ⟨call, c⟩ := c
  cases hok : step db (call, c) with
  | ok db' =>
    obtain ⟨w', hw', hmoved⟩ := step_moved hok hw
    rw [next_of_ok hok]
    exact ⟨w', hw', hmoved.past hpast hle⟩
  | error e =>
    rw [next_of_error hok]
    exact ⟨w, hw, fun t ht => (hpast t ht).trans hle⟩

lemma past_run : ∀ (cs : List (Call × Command)) (db : LifecycleDb) (clock : ℤ), Past id clock db →
    Chronological clock cs → Past id (clockAfter clock cs) (run step db cs)
  | [], _, _, h, _ => h
  | _ :: cs, _, _, h, hchron => past_run cs _ _ (past_next h hchron.1) hchron.2

lemma covers_next {c : Call × Command} (hw : db.view id = some w)
    (hcovers : w.Covers anchor paused clock) (hpast : ∀ t ∈ w.disabledAt, t ≤ clock)
    (hle : clock ≤ c.1.now) (hunlocked : (∃ db', step db c = .ok db') → NoHeldEnable id db c) :
    ∃ w', (next step db c).view id = some w' ∧
      w'.Covers anchor (paused + w.disabledFor clock c.1.now) c.1.now ∧
      ∀ t ∈ w'.disabledAt, t ≤ c.1.now := by
  obtain ⟨call, c⟩ := c
  cases hok : step db (call, c) with
  | ok db' =>
    obtain ⟨w', hw', hmoved⟩ := step_moved hok hw
    rw [next_of_ok hok]
    exact ⟨w', hw', hmoved.covers hcovers hpast hle (hunlocked ⟨db', hok⟩ w hw),
      hmoved.past hpast hle⟩
  | error e =>
    rw [next_of_error hok]
    exact ⟨w, hw, hcovers.same rfl rfl rfl, fun t ht => (hpast t ht).trans hle⟩

/-- **The disabled time of a run is covered** if no pause in it ends under a lock. -/
theorem covers_run : ∀ (cs : List (Call × Command)) (db : LifecycleDb) (clock paused : ℤ)
    (w : View), db.view id = some w → w.Covers anchor paused clock →
    (∀ t ∈ w.disabledAt, t ≤ clock) → Chronological clock cs →
    Guarded step (NoHeldEnable id) db cs → ∃ w', (run step db cs).view id = some w' ∧
      w'.Covers anchor (paused + disabledTime id db clock cs) (clockAfter clock cs)
  | [], _, _, _, w, hw, hcovers, _, _, _ => by
    refine ⟨w, hw, ?_⟩
    rwa [disabledTime, add_zero]
  | c :: cs, db, clock, paused, w, hw, hcovers, hpast, hchron, hguarded => by
    obtain ⟨w', hw', hcovers', hpast'⟩ :=
      covers_next hw hcovers hpast hchron.1 hguarded.1
    obtain ⟨w'', hw'', hcovers''⟩ :=
      covers_run cs _ _ _ w' hw' hcovers' hpast' hchron.2 hguarded.2
    refine ⟨w'', hw'', ?_⟩
    rw [disabledTime, hw, Option.map_some, Option.getD_some, ← add_assoc]
    exact hcovers''

/-- **Disabled time is not billed** in a run in which no pause ends under a lock: between any two of
its states in which the subscription is active, the anchor has moved by the disabled time. -/
theorem anchor_moves_on (hpast : Past id clock db) {cs before during after : List (Call × Command)}
    (hchron : Chronological clock cs) (hguarded : Guarded step (NoHeldEnable id) db cs)
    (heq : cs = before ++ during ++ after) {w w' : View}
    (hw : (run step db before).view id = some w) (hactive : w.status = .active)
    (hanchor : w.nextBillingAt = some anchor)
    (hw' : (run step db (before ++ during)).view id = some w') (hactive' : w'.status = .active) :
    ∃ anchor', w'.nextBillingAt = some anchor' ∧
      anchor + disabledTime id (run step db before) (clockAfter clock before) during ≤ anchor' := by
  rw [heq] at hchron hguarded
  have hchronDuring := hchron.append_left.append_right
  have hguardedDuring := hguarded.append_left.append_right
  obtain ⟨x, hx, hpastBefore⟩ := past_run before db clock hpast hchron.append_left.append_left
  obtain rfl := Option.mem_unique hw hx
  have hstart : w.Covers anchor 0 (clockAfter clock before) := by
    refine ⟨fun _ _ => ⟨anchor, hanchor, (add_zero anchor).le⟩, fun hdisabled => ?_⟩
    exact absurd (hactive.symm.trans hdisabled) (by decide)
  obtain ⟨y, hy, hcovers⟩ := covers_run during _ _ 0 w hw hstart hpastBefore hchronDuring
    hguardedDuring
  rw [← run_append] at hy
  obtain rfl := Option.mem_unique hw' hy
  have hopen : w'.status ∉ terminal ∧ w'.status ≠ .disabled := by
    rw [hactive']
    decide
  simpa only [zero_add] using hcovers.running hopen.1 hopen.2

/-! ## A pause under a lock -/

/-- An active subscription that is billed next at 1000. -/
def billed : LifecycleDb := .single .active (some 1000) .empty

/-- An overdue subscription is disabled with its lock, enabled after a time and paid for. -/
def pausedOverdue : List (Call × Command) :=
  [(.ofClock 1, .suspend 0 .overdue "collections" .hardReject none),
    (.ofClock 2, .disable 0 "moved" true),
    (.ofClock 52, .enable 0 "back"),
    (.ofClock 60, .restore 0 "payment" "payments" none none)]

/-- **Disabled time is billed**: the subscription is active again after a pause of 50, and its
anchor is where it was. -/
theorem anchor_left_behind :
    ((run step billed pausedOverdue).view 0).map (fun v => (v.status, v.nextBillingAt)) =
      some (.active, some 1000) ∧ disabledTime 0 billed 0 pausedOverdue = 50 :=
  ⟨rfl, rfl⟩

def pausedUnlocked : List (Call × Command) :=
  [(.ofClock 10, .disable 0 "moved" false), (.ofClock 60, .enable 0 "back")]

/-- The pause without a lock moves the anchor by 50. -/
theorem anchor_moves_on_pausedUnlocked :
    ∃ anchor', (some 1050 : Option ℤ) = some anchor' ∧
      1000 + disabledTime 0 billed 0 pausedUnlocked ≤ anchor' := by
  have hguarded : Guarded step (NoHeldEnable 0) billed pausedUnlocked := by
    refine ⟨fun _ w hw _ hdisabled => ?_, fun _ w hw _ _ hlocks => ?_, trivial⟩
    · obtain rfl := Option.some.inj hw
      cases hdisabled
    · obtain rfl := Option.some.inj hw
      exact absurd rfl hlocks
  have hpast : Past 0 0 billed := ⟨_, rfl, fun _ ht => absurd ht List.not_mem_nil⟩
  have hchron : Chronological 0 pausedUnlocked := ⟨by decide, by decide, trivial⟩
  have hsplit : pausedUnlocked = [] ++ pausedUnlocked ++ [] := rfl
  have hstart : (run step billed []).view 0 = some ⟨0, .active, some 1000, [], [], []⟩ := rfl
  have hend : (run step billed ([] ++ pausedUnlocked)).view 0 =
      some ⟨0, .active, some 1050, [], [10], []⟩ := rfl
  exact anchor_moves_on hpast hchron hguarded hsplit hstart rfl rfl hend rfl

end DotmacSub.Lifecycle
