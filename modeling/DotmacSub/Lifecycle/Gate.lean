import DotmacSub.Lifecycle.Accounts

/-!
# The provisioning gate

The activation of a subscription waits until the service orders of its sale are active.  The
commands that bring a subscription back into service do not ask for them, and they take one that was
suspended or disabled before it ever was active.
-/

namespace DotmacSub.Lifecycle

open Store Run
open ServiceExtensions (SubscriptionStatus)

variable {db : LifecycleDb} {id : ℕ}

/-- The command finds the subscription suspended or disabled, and no lock stays that it would leave
in place. -/
inductive Returns (db : LifecycleDb) (id : ℕ) : Command → View → Prop
  | restore {w trigger resolvedBy reason notes} (hstatus : w.status ∈ suspendedEquivalent)
      (hlocks : w.locks.filter (!·.liftable trigger reason) = []) :
      Returns db id (.restore id trigger resolvedBy reason notes) w
  | enable {w reason} (hstatus : w.status = .disabled) (hlocks : w.locks = []) :
      Returns db id (.enable id reason) w
  | unsuspend {w reason source subscriber recorded}
      (hsubscriber : db.subscribers.get? w.subscriberId = some subscriber)
      (hrecorded : subscriber.lifecycleOverride = some recorded)
      (hsuspended : recorded.status = .suspended) (hstatus : w.status ∈ suspendedEquivalent)
      (hlocks : w.locks.filter (!·.fromOverride (Text.strip recorded.source)) = []) :
      Returns db id (.unsuspendAccount w.subscriberId reason source) w
  | routed {c c' w} (hroute : Routes id w c c') (h : Returns db id c' w) : Returns db id c w

/-- The service orders of the sale are active. -/
def Provisioned (id : ℕ) (db : LifecycleDb) : Prop :=
  ∀ order ∈ db.salesServiceOrders id, order.status = .active

/-- A subscription becomes active by its activation, or it is brought back. -/
lemma Moved.gate {now : ℤ} {c : Command} {w w' : View} (h : Moved db now id c w w')
    (hbefore : w.status ≠ .active) (hafter : w'.status = .active) :
    Provisioned id db ∨ Returns db id c w := by
  induction h with
  | idle => exact absurd hafter hbefore
  | suspended =>
    simp only at hafter
    split_ifs at hafter with hheld
    exact absurd hafter hbefore
  | lifted => exact absurd hafter hbefore
  | restored hstatus hlocks => exact .inr (.restore hstatus hlocks)
  | staleResolved => exact absurd hafter hbefore
  | activated _ hgate => exact .inl hgate
  | expired => cases hafter
  | canceled => cases hafter
  | disabled => cases hafter
  | keptHeld => cases hafter
  | enabled hstatus hlocks => exact .inr (.enable hstatus hlocks)
  | unsuspended => exact absurd hafter hbefore
  | returned hsubscriber hrecorded hsuspended hstatus hlocks =>
    exact .inr (.unsuspend hsubscriber hrecorded hsuspended hstatus hlocks)
  | routed hroute _ ih => exact (ih hbefore hafter).imp_right (.routed hroute)

/-- A command that brings the subscription back finds the orders of its sale active. -/
def ReturnsProvisioned (id : ℕ) (db : LifecycleDb) (c : Call × Command) : Prop :=
  ∀ w, db.view id = some w → Returns db id c.2 w → Provisioned id db

/-- The subscription becomes active, if it does, while the orders of its sale are active. -/
def PassesGate (id : ℕ) (db : LifecycleDb) (c : Call × Command) : Prop :=
  ∀ w w', db.view id = some w → (next step db c).view id = some w' → w.status ≠ .active →
    w'.status = .active → Provisioned id db

/-- One command that brings nothing back too early passes the gate. -/
lemma ReturnsProvisioned.passesGate {c : Call × Command}
    (h : (∃ db', step db c = .ok db') → ReturnsProvisioned id db c) : PassesGate id db c := by
  intro w w' hw hw' hbefore hafter
  obtain ⟨call, c⟩ := c
  cases hok : step db (call, c) with
  | ok s' =>
    rw [next_of_ok hok] at hw'
    obtain ⟨x, hx, hmoved⟩ := step_moved hok hw
    obtain rfl := Option.mem_unique hw' hx
    exact (hmoved.gate hbefore hafter).elim (fun hgate => hgate) (h ⟨s', hok⟩ w hw)
  | error e =>
    rw [next_of_error hok] at hw'
    obtain rfl := Option.mem_unique hw hw'
    exact absurd hafter hbefore

/-- **The gate holds in every run** in which a subscription is brought back from a suspension or a
pause only while the orders of its sale are active. -/
theorem gate_run {cs : List (Call × Command)} (h : Guarded step (ReturnsProvisioned id) db cs)
    (before after : List (Call × Command)) (c : Call × Command) (heq : cs = before ++ c :: after) :
    PassesGate id (run step db before) c :=
  ReturnsProvisioned.passesGate ((guarded_iff_forall_split cs db).mp h before c after heq)

/-! ## A subscription without its provisioning -/

lemma sold_distinct : [0].Nodup := List.nodup_singleton 0

def sold (status : ServiceOrderStatus) : LifecycleDb :=
  .single .pending none ⟨[⟨0, some 0, some 0, status⟩], 1, sold_distinct, by simp [Row.id]⟩

def suspendAndRestore : List (Call × Command) :=
  [(.ofClock 1, .suspend 0 .admin "operator" .hardReject none),
    (.ofClock 2, .restore 0 "admin" "operator" none none)]

/-- **A subscription is active before it is provisioned**: the activation is refused, but a
suspension with its restoration is not. -/
theorem activated_unprovisioned :
    step (sold .provisioning) (.ofClock 1, .activate 0 none) = .error .provisioningRequired ∧
      ((run step (sold .provisioning) suspendAndRestore).view 0).map View.status = some .active ∧
      ¬ Provisioned 0 (run step (sold .provisioning) suspendAndRestore) := by
  refine ⟨rfl, rfl, fun h => ?_⟩
  exact absurd (h ⟨0, some 0, some 0, .provisioning⟩ (by decide)) (by decide)

/-- Once its order is active the same subscription passes the gate. -/
theorem gate_run_suspendAndRestore :
    PassesGate 0
      (run step (sold .active) [(.ofClock 1, .suspend 0 .admin "operator" .hardReject none)])
      (.ofClock 2, .restore 0 "admin" "operator" none none) := by
  have horders : ∀ s : LifecycleDb, s.serviceOrders = (sold .active).serviceOrders →
      Provisioned 0 s := by
    intro s hsame
    simp [Provisioned, LifecycleDb.salesServiceOrders, hsame, sold, LifecycleDb.single]
  have hguarded : Guarded step (ReturnsProvisioned 0) (sold .active) suspendAndRestore :=
    ⟨fun _ _ _ _ => horders _ rfl, fun _ _ _ _ => horders _ rfl, trivial⟩
  exact gate_run hguarded [_] [] _ rfl

end DotmacSub.Lifecycle
