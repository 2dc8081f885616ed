import DotmacSub.Billing.CoverageProducers
import DotmacSub.Billing.RenewalOutcomes

/-!
# Separate coverage

When the active entitlements of a subscription stay disjoint: what each producer does to them.
-/

namespace DotmacSub.PrepaidService

open Store Checked Payments ServiceExtensions

def ServiceEntitlement.period (row : ServiceEntitlement) : ServicePeriod :=
  ⟨row.subscriptionId, row.startsAt, row.endsAt⟩

/-- The active entitlements of each subscription are pairwise disjoint. -/
def Separate (entitlements : Table ServiceEntitlement) : Prop :=
  ∀ row ∈ entitlements.rows, ∀ other ∈ entitlements.rows, row.status = .active →
    other.status = .active → row.subscriptionId = other.subscriptionId → row ≠ other →
      row.endsAt ≤ other.startsAt ∨ other.endsAt ≤ row.startsAt

instance {entitlements : Table ServiceEntitlement} : Decidable (Separate entitlements) :=
  inferInstanceAs (Decidable (∀ row ∈ entitlements.rows, ∀ other ∈ entitlements.rows,
    row.status = .active → other.status = .active → row.subscriptionId = other.subscriptionId →
      row ≠ other → row.endsAt ≤ other.startsAt ∨ other.endsAt ≤ row.startsAt))

/-- A period that no active entitlement overlaps. -/
def Vacant (entitlements : Table ServiceEntitlement) (period : ServicePeriod) : Prop :=
  ∀ row ∈ entitlements.rows, row.overlaps period = false

/-- Two periods of one subscription have a moment in common. -/
def ServicePeriod.Meets (period other : ServicePeriod) : Prop :=
  period.subscriptionId = other.subscriptionId ∧ period.startsAt < other.endsAt ∧
    other.startsAt < period.endsAt

section Separate

variable {entitlements entitlements' : Table ServiceEntitlement} {row other : ServiceEntitlement}
  {period period' : ServicePeriod} {f : ℕ → ServiceEntitlement} {h : ∀ id, Row.id (f id) = id}

lemma overlaps_iff : row.overlaps period = true ↔
    row.status = .active ∧ row.period.Meets period := by
  rw [ServiceEntitlement.overlaps, decide_eq_true_iff]
  constructor
  · rintro ⟨hsubscription, hactive, hstart, hend⟩
    exact ⟨hactive, hsubscription, hstart, hend⟩
  · rintro ⟨hactive, hsubscription, hstart, hend⟩
    exact ⟨hsubscription, hactive, hstart, hend⟩

lemma ServicePeriod.Meets.symm (hmeets : period.Meets period') : period'.Meets period :=
  ⟨hmeets.1.symm, hmeets.2.2, hmeets.2.1⟩

lemma existingPeriodEntitlement_eq_none {db : RenewalTables} :
    existingPeriodEntitlement db period = none ↔ Vacant db.entitlements period := by
  rw [existingPeriodEntitlement, List.find?_eq_none]
  exact forall₂_congr fun row _ => iff_of_eq (Bool.not_eq_true _)

lemma separate_iff : Separate entitlements ↔
    ∀ row ∈ entitlements.rows, ∀ other ∈ entitlements.rows, row.status = .active →
      other.overlaps row.period → row = other := by
  constructor
  · intro hseparate row hrow other hother hactive hoverlaps
    obtain ⟨hotherActive, hsubscription, hstart, hend⟩ := overlaps_iff.mp hoverlaps
    by_contra hne
    rcases hseparate row hrow other hother hactive hotherActive hsubscription.symm hne with
      hbefore | hafter
    · exact absurd hstart (not_lt.mpr hbefore)
    · exact absurd hend (not_lt.mpr hafter)
  · intro hmeets row hrow other hother hactive hotherActive hsubscription hne
    by_contra hcontra
    obtain ⟨hbefore, hafter⟩ := not_or.mp hcontra
    exact hne (hmeets row hrow other hother hactive (overlaps_iff.mpr
      ⟨hotherActive, hsubscription.symm, not_le.mp hbefore, not_le.mp hafter⟩))

/-- **A new entitlement** keeps the coverage disjoint exactly if its period is vacant. -/
lemma separate_insert (hactive : (f entitlements.next).status = .active)
    (hperiod : (f entitlements.next).period = period) :
    Separate (entitlements.insert f h) ↔ Separate entitlements ∧ Vacant entitlements period := by
  have hne : ∀ row ∈ entitlements.rows, row ≠ f entitlements.next := by
    rintro row hrow rfl
    exact absurd (entitlements.fresh _ hrow) (by rw [h]; exact lt_irrefl _)
  constructor
  · intro hseparate
    refine ⟨fun row hrow other hother => hseparate row (Table.mem_insert.mpr (.inl hrow)) other
      (Table.mem_insert.mpr (.inl hother)), fun row hrow => ?_⟩
    rw [← hperiod, ← Bool.not_eq_true]
    intro hoverlaps
    exact hne row hrow (separate_iff.mp hseparate _ (Table.mem_insert.mpr (.inr rfl)) row
      (Table.mem_insert.mpr (.inl hrow)) hactive hoverlaps).symm
  · rintro ⟨hseparate, hvacant⟩
    rw [separate_iff] at hseparate ⊢
    intro row hrow other hother hrowActive hoverlaps
    obtain hrow | rfl := Table.mem_insert.mp hrow
    · obtain hother | rfl := Table.mem_insert.mp hother
      · exact hseparate row hrow other hother hrowActive hoverlaps
      · have hmeets := (overlaps_iff.mp hoverlaps).2.symm
        rw [hperiod] at hmeets
        exact absurd (overlaps_iff.mpr ⟨hrowActive, hmeets⟩) (by rw [hvacant row hrow]; decide)
    · obtain hother | rfl := Table.mem_insert.mp hother
      · rw [hperiod] at hoverlaps
        exact absurd hoverlaps (by rw [hvacant other hother]; decide)
      · rfl

lemma vacant_insert (hactive : (f entitlements.next).status = .active)
    (hperiod : (f entitlements.next).period = period') :
    Vacant (entitlements.insert f h) period ↔
      Vacant entitlements period ∧ ¬period'.Meets period := by
  constructor
  · intro hvacant
    refine ⟨fun row hrow => hvacant row (Table.mem_insert.mpr (.inl hrow)), fun hmeets => ?_⟩
    have hnew := hvacant _ (Table.mem_insert.mpr (.inr rfl))
    rw [overlaps_iff.mpr ⟨hactive, hperiod ▸ hmeets⟩] at hnew
    cases hnew
  · rintro ⟨hvacant, hmeets⟩ row hrow
    obtain hrow | rfl := Table.mem_insert.mp hrow
    · exact hvacant row hrow
    · rw [← Bool.not_eq_true]
      exact fun hoverlaps => hmeets (hperiod ▸ (overlaps_iff.mp hoverlaps).2)

/-- Entitlements that are reversed leave the rest disjoint. -/
lemma Separate.of_reversed (hseparate : Separate entitlements)
    (hrows : ∀ row ∈ entitlements'.rows, row.status = .active → row ∈ entitlements.rows) :
    Separate entitlements' :=
  fun row hrow other hother hactive hotherActive => hseparate row (hrows row hrow hactive) other
    (hrows other hother hotherActive) hactive hotherActive

end Separate

def newPeriods (db : RenewalTables) (invoice : Invoice) (lines : List InvoiceLine) :
    List ServicePeriod :=
  (lines.filter fun line => (entitlementOfLine db line.id).isNone).filterMap (paidPeriod db invoice)

variable {db : RenewalTables} {invoice : Invoice} {line : InvoiceLine} {lines : List InvoiceLine}
  {period : ServicePeriod}

lemma newPeriods_cons : newPeriods db invoice (line :: lines) =
    ((paidPeriod db invoice line).filter fun _ => (entitlementOfLine db line.id).isNone).toList ++
      newPeriods db invoice lines := by
  unfold newPeriods
  cases hexisting : (entitlementOfLine db line.id).isNone with
  | false =>
    rw [List.filter_cons, if_neg (by rw [hexisting]; decide)]
    cases paidPeriod db invoice line <;> rfl
  | true =>
    rw [List.filter_cons, if_pos hexisting]
    cases hperiod : paidPeriod db invoice line with
    | none => rw [List.filterMap_cons_none hperiod]; rfl
    | some period => rw [List.filterMap_cons_some hperiod]; rfl

lemma ensureLine_of_new (hperiod : paidPeriod db invoice line = some period)
    (hnew : (entitlementOfLine db line.id).isNone) :
    ensurePrepaidEntitlementForPaidInvoiceLine invoice db line = { db with
      entitlements := db.entitlements.insert (lineEntitlement invoice line period)
        fun _ => rfl } := by
  rw [ensurePrepaidEntitlementForPaidInvoiceLine, hperiod]
  rw [Option.isNone_iff_eq_none] at hnew
  rw [hnew]
  rfl

lemma ensureLine_of_none (hperiod : paidPeriod db invoice line = none) :
    ensurePrepaidEntitlementForPaidInvoiceLine invoice db line = db := by
  rw [ensurePrepaidEntitlementForPaidInvoiceLine, hperiod]

lemma ensureLine_of_existing (hexisting : (entitlementOfLine db line.id).isNone = false) :
    ensurePrepaidEntitlementForPaidInvoiceLine invoice db line = db := by
  unfold ensurePrepaidEntitlementForPaidInvoiceLine
  cases paidPeriod db invoice line with
  | none => rfl
  | some period =>
    rw [Option.isNone_eq_false_iff] at hexisting
    dsimp only
    rw [if_pos hexisting]

lemma entitlementOfLine_insert {lineId : ℕ} (hne : line.id ≠ lineId) :
    entitlementOfLine { db with
      entitlements := db.entitlements.insert (lineEntitlement invoice line period)
        fun _ => rfl } lineId = entitlementOfLine db lineId := by
  unfold entitlementOfLine
  show (db.entitlements.rows ++ [_]).find? _ = _
  rw [List.find?_append, List.find?_singleton, if_neg, Option.or_none]
  intro h
  exact hne (Option.some.inj (of_decide_eq_true h).1)

lemma newPeriods_insert (hlines : ∀ other ∈ lines, line.id ≠ other.id) :
    newPeriods { db with
      entitlements := db.entitlements.insert (lineEntitlement invoice line period)
        fun _ => rfl } invoice lines = newPeriods db invoice lines := by
  unfold newPeriods
  refine congrArg _ (List.filter_congr fun other hother => ?_)
  rw [entitlementOfLine_insert (hlines other hother)]

/-- **The lines of a paid invoice** keep the coverage disjoint exactly if what they newly pay for is
vacant and disjoint. -/
theorem separate_foldl (hnodup : (lines.map (·.id)).Nodup) :
    Separate (lines.foldl (ensurePrepaidEntitlementForPaidInvoiceLine invoice) db).entitlements ↔
      Separate db.entitlements ∧
        (newPeriods db invoice lines).Pairwise (fun p q => ¬p.Meets q) ∧
        ∀ p ∈ newPeriods db invoice lines, Vacant db.entitlements p := by
  induction lines generalizing db with
  | nil => simp [newPeriods]
  | cons line lines ih =>
    rw [List.map_cons, List.nodup_cons] at hnodup
    obtain ⟨hnotin, hnodup⟩ := hnodup
    have hlines : ∀ other ∈ lines, line.id ≠ other.id := fun other hother heq =>
      hnotin (heq ▸ List.mem_map_of_mem hother)
    rw [List.foldl_cons, newPeriods_cons]
    cases hexisting : (entitlementOfLine db line.id).isNone with
    | false =>
      rw [ensureLine_of_existing hexisting, ih hnodup]
      cases paidPeriod db invoice line <;> rfl
    | true =>
      cases hperiod : paidPeriod db invoice line with
      | none =>
        rw [ensureLine_of_none hperiod, ih hnodup]
        rfl
      | some period =>
        rw [ensureLine_of_new hperiod hexisting, ih hnodup, newPeriods_insert hlines]
        have hinsert : Separate (db.entitlements.insert (lineEntitlement invoice line period)
            fun _ => rfl) ↔ Separate db.entitlements ∧ Vacant db.entitlements period :=
          separate_insert (h := fun _ => rfl) rfl rfl
        have hvacant : ∀ p, Vacant (db.entitlements.insert (lineEntitlement invoice line period)
            fun _ => rfl) p ↔ Vacant db.entitlements p ∧ ¬period.Meets p := fun p =>
          vacant_insert (h := fun _ => rfl) rfl rfl
        dsimp only
        rw [hinsert]
        simp only [hvacant, Option.filter_some, if_true, Option.toList_some, List.singleton_append,
          List.pairwise_cons, List.forall_mem_cons]
        constructor
        · rintro ⟨⟨hseparate, hfree⟩, hpairwise, hall⟩
          exact ⟨hseparate, ⟨fun p hp => (hall p hp).2, hpairwise⟩, hfree,
            fun p hp => (hall p hp).1⟩
        · rintro ⟨hseparate, ⟨hmeets, hpairwise⟩, hfree, hall⟩
          exact ⟨⟨hseparate, hfree⟩, hpairwise, fun p hp => ⟨hall p hp, hmeets p hp⟩⟩

end DotmacSub.PrepaidService
