import DotmacSub.Lifecycle.Accounts

/-!
# Terminal statuses as sinks

A subscription that has ended stays as it ended, in every run, unless it is canceled again: the
cancellation asks only whether the subscription is canceled already, where the expiry and the shared
guard ask for every terminal status.
-/

namespace DotmacSub.Lifecycle

open Store Run
open ServiceExtensions (SubscriptionStatus)

variable {db : LifecycleDb} {id : ℕ} {v : View}

/-- A cancellation aside, nothing moves a subscription that has ended. -/
lemma Moved.terminal {now : ℤ} {c : Command} {w w' : View} (h : Moved db now id c w w')
    (hterminal : w.status ∈ terminal) : w'.status = w.status ∧ w'.credits = w.credits ∨
      w.status ≠ .canceled ∧ ∃ cancelReason generateCredit,
        c = .cancel id cancelReason generateCredit := by
  have hsuspended : w.status ∉ suspendedEquivalent := by
    revert hterminal
    cases w.status <;> decide
  have hdisabled : w.status ≠ .disabled := by
    rintro heq
    exact absurd (heq ▸ hterminal) (by decide)
  have hsuspendable : w.status ∉ suspendable := by
    revert hterminal
    cases w.status <;> decide
  induction h with
  | idle => exact .inl ⟨rfl, rfl⟩
  | suspended hstatus => exact absurd hstatus (not_or.mpr ⟨hsuspendable, hsuspended⟩)
  | lifted hstatus => exact absurd hstatus hsuspended
  | restored hstatus => exact absurd hstatus hsuspended
  | staleResolved => exact .inl ⟨rfl, rfl⟩
  | activated hstatus => exact absurd (hstatus ▸ hterminal) (by decide)
  | expired hstatus => exact absurd hterminal hstatus
  | canceled hstatus => exact .inr ⟨hstatus, _, _, rfl⟩
  | disabled hstatus => exact absurd hterminal hstatus
  | keptHeld hstatus => exact absurd hstatus hdisabled
  | enabled hstatus => exact absurd hstatus hdisabled
  | unsuspended => exact .inl ⟨rfl, rfl⟩
  | returned _ _ _ hstatus => exact absurd hstatus hsuspended
  | routed hroute _ ih =>
    rcases ih hterminal hsuspended hdisabled hsuspendable with hkept | ⟨-, _, _, rfl⟩
    · exact .inl hkept
    · cases hroute with
      | cancel hopen => exact absurd hterminal hopen
      | accountCanceled hopen => exact absurd hterminal hopen

def AsEnded (id : ℕ) (v : View) (db : LifecycleDb) : Prop :=
  ∃ w, db.view id = some w ∧ w.status = v.status ∧ w.credits = v.credits

/-- The command is no cancellation of a subscription that has expired or is out of sight. -/
def NoLateCancel (id : ℕ) (db : LifecycleDb) (c : Call × Command) : Prop :=
  ∀ w, db.view id = some w → w.status ≠ .canceled → ∀ cancelReason generateCredit,
    c.2 ≠ .cancel id cancelReason generateCredit

/-- **An ended subscription stays as it is** in exactly the runs that do not cancel it again. -/
theorem terminal_kept_iff (hv : db.view id = some v) (hterminal : v.status ∈ terminal)
    (cs : List (Call × Command)) :
    (∀ before after, cs = before ++ after → AsEnded id v (run step db before)) ↔
      Guarded step (NoLateCancel id) db cs := by
  refine forall_prefix_iff_guarded ?_ ?_ cs db ⟨v, hv, rfl, rfl⟩
  · rintro s ⟨call, c⟩ s' ⟨w, hw, hstatus, hcredits⟩ hguard hok
    obtain ⟨w', hw', hmoved⟩ := step_moved hok hw
    rcases hmoved.terminal (hstatus ▸ hterminal) with ⟨hstatus', hcredits'⟩ | ⟨hne, _, _, rfl⟩
    · exact ⟨w', hw', hstatus'.trans hstatus, hcredits'.trans hcredits⟩
    · exact absurd rfl (hguard w hw hne _ _)
  · rintro s ⟨call, c⟩ s' ⟨w, hw, hstatus, -⟩ hok ⟨w', hw', hstatus', -⟩ x hx hne _ _ rfl
    obtain rfl := Option.mem_unique hw hx
    obtain ⟨_, hview⟩ := ((cancelSubscription_eq_ok hok).2 w hw).2
    obtain rfl := Option.mem_unique hview hw'
    exact hne (hstatus.trans hstatus'.symm)

/-! ## An expired subscription -/

/-- A subscription that has expired before the period that is paid for was over. -/
def expired : LifecycleDb := .single .expired (some 100) .empty

/-- A cancellation with credit, while the period runs. -/
def lateCancel : Call × Command := (⟨60, none, none, fun _ => some 10⟩, .cancel 0 "closed" true)

/-- **A subscription leaves a terminal status**, and is credited for it. -/
theorem canceled_after_expiry :
    (expired.view 0).map (fun v => (v.status, v.credits)) = some (.expired, []) ∧
      ((run step expired [lateCancel]).view 0).map (fun v => (v.status, v.credits)) =
        some (.canceled, [10]) :=
  ⟨rfl, rfl⟩

/-- For a restoration of the expired subscription the condition can be evaluated. -/
theorem terminal_kept_restore :
    (∀ before after, [(lateCancel.1, Command.restore 0 "admin" "operator" none none)] =
      before ++ after → AsEnded 0 ⟨0, .expired, some 100, [], [], []⟩ (run step expired before)) ↔
        Guarded step (NoLateCancel 0) expired
          [(lateCancel.1, .restore 0 "admin" "operator" none none)] :=
  terminal_kept_iff rfl (by decide) _

end DotmacSub.Lifecycle
