import DotmacSub.Billing.Refunds
import Mathlib.Algebra.Order.BigOperators.Group.List
import Mathlib.Algebra.Order.Round

/-!
# Refunds are attributed to the cent

A refund takes from each invoice the fall of its rounded share of the payment's net value.  Each
fall is right for its invoice, and over a full refund the falls telescope to the allocation.  But
the shares are rounded one by one, so together they may fall by more than the refund: then nothing
is left for the account, and the refund is refused.

* `contribution_eq_round` — a share is its exact value, rounded once.
-/

namespace DotmacSub

open Store Checked Decimal Text

namespace Payments

section Shares

variable {allocated gross refunded refunded' : ℚ}

lemma contribution_antitone (ha : 0 ≤ allocated) (hg : 0 < gross) (h : refunded ≤ refunded')
    (h' : refunded' ≤ gross) :
    contribution allocated gross refunded' ≤ contribution allocated gross refunded := by
  have hnet : 0 ≤ allocated * (gross - refunded') := mul_nonneg ha (sub_nonneg.mpr h')
  have hmul : mul allocated (gross - refunded') ≤ mul allocated (gross - refunded) :=
    ctx_mono hnet (mul_le_mul_of_nonneg_left (by linarith) ha)
  exact quantize_mono (ctx_mono (div_nonneg (ctx_nonneg hnet) hg.le)
    (div_le_div_of_nonneg_right hmul hg.le))

lemma onGrid_contribution : OnGrid 2 (contribution allocated gross refunded) :=
  onGrid_roundMoney _

lemma contribution_gross : contribution allocated gross gross = 0 := by
  simp [contribution, mul, div, roundMoney, ctx_zero]

/-- The context's 28 digits leave the nearest cent of a share as it is. -/
lemma round_ctx {n d : ℤ} {x : ℚ} (hx : x * 100 * d = n) (h0 : 0 ≤ x) (hlt : x < 10 ^ 10)
    (hd : 0 < d) (hd' : d < 10 ^ 12) : round (ctx x * 100) = round (x * 100) := by
  rw [round_eq, round_eq]
  generalize hk : ⌊x * 100 + 1 / 2⌋ = k
  obtain ⟨hk, hk'⟩ := Int.floor_eq_iff.mp hk
  have hk0 : 0 ≤ k := by
    have hlt : (0 : ℚ) < k + 1 := by linarith
    exact Int.lt_add_one_iff.mp (by exact_mod_cast hlt)
  have hdpos : (0 : ℚ) < d := by exact_mod_cast hd
  have hdlt : (d : ℚ) < 10 ^ 12 := by exact_mod_cast hd'
  refine Int.floor_eq_iff.mpr ⟨?_, ?_⟩
  · -- the half below is kept, so a share above it stays above it
    rcases hk0.eq_or_lt with rfl | hpos
    · have := ctx_nonneg h0
      push_cast
      linarith
    · have hone : (1 : ℚ) ≤ k := by exact_mod_cast hpos
      have hhalf : ctx ((k - 1 / 2 : ℚ) / 100) = (k - 1 / 2) / 100 := by
        refine ctx_of_onGrid (s := 3) ⟨10 * k - 5, by push_cast; ring⟩ ?_
        rw [abs_of_nonneg (by linarith)]
        linarith
      have hmono : ctx ((k - 1 / 2 : ℚ) / 100) ≤ ctx x := ctx_mono (by linarith) (by linarith)
      linarith
  · -- a share below the half above is below it by more than the context moves it
    have hgap : 2 * n + 1 ≤ (2 * k + 1) * d := by
      have hlt : (2 * n : ℚ) < (2 * k + 1) * d := by
        rw [← hx]
        nlinarith
      exact_mod_cast Int.add_one_le_iff.mpr (by exact_mod_cast hlt)
    have hgap' : x * 100 + 1 / (2 * d) ≤ k + 1 / 2 := by
      have hcast : (2 * n + 1 : ℚ) ≤ (2 * k + 1) * d := by exact_mod_cast hgap
      have hself : 1 / (2 * d) * d = (1 / 2 : ℚ) := by
        rw [one_div, mul_inv, mul_assoc, inv_mul_cancel₀ hdpos.ne', mul_one, one_div]
      refine le_of_mul_le_mul_right ?_ hdpos
      rw [add_mul, hx, hself]
      linarith
    have herror : ctx x - x ≤ x / 10 ^ 27 := by
      have := (abs_le.mp (abs_ctx_sub_le x)).2
      rwa [abs_of_nonneg h0] at this
    have hsmall : (1 : ℚ) / (2 * 10 ^ 12) < 1 / (2 * d) :=
      one_div_lt_one_div_of_lt (by linarith) (by linarith)
    linarith

lemma contribution_eq_round (ha : 0 ≤ allocated) (hle : allocated ≤ gross) (hg : 0 < gross)
    (hlt : gross < 10 ^ 10) (hgrid : OnGrid 2 allocated) (hgrid' : OnGrid 2 gross)
    (hrefunded : OnGrid 2 refunded) (h0 : 0 ≤ refunded) (hr : refunded ≤ gross) :
    contribution allocated gross refunded * 100
      = round (allocated * (gross - refunded) / gross * 100) := by
  obtain ⟨a, ha'⟩ := hgrid
  obtain ⟨g, hg'⟩ := hgrid'
  obtain ⟨l, hl'⟩ := OnGrid.sub ⟨g, hg'⟩ hrefunded
  have hl : 0 ≤ gross - refunded := sub_nonneg.mpr hr
  have hproduct : allocated * (gross - refunded) ≤ gross * gross :=
    mul_le_mul hle (by linarith) hl hg.le
  have hexact : ctx (allocated * (gross - refunded)) = allocated * (gross - refunded) := by
    refine ctx_of_onGrid (s := 4) ⟨a * l, by push_cast; rw [← ha', ← hl']; ring⟩ ?_
    rw [abs_of_nonneg (mul_nonneg ha hl)]
    nlinarith
  have hshare : 0 ≤ allocated * (gross - refunded) / gross :=
    div_nonneg (mul_nonneg ha hl) hg.le
  have hsmall : allocated * (gross - refunded) / gross < 10 ^ 10 :=
    ((div_le_iff₀ hg).mpr hproduct).trans_lt hlt
  have hnearest := quantize_mul_tenPow (r := halfUp) (s := 2)
    (x := ctx (allocated * (gross - refunded) / gross))
  rw [contribution, mul, div, hexact, roundMoney]
  norm_num only at hnearest
  rw [hnearest]
  show ((halfUpInt _ : ℤ) : ℚ) = _
  rw [halfUpInt, if_pos (mul_nonneg (ctx_nonneg hshare) (by norm_num)), ← round_eq,
    round_ctx (n := a * l) (d := g) ?_ hshare hsmall ?_ ?_]
  · rw [div_mul_eq_mul_div, div_mul_eq_mul_div, div_eq_iff hg.ne']
    push_cast
    rw [← ha', ← hl', ← hg']
    ring
  · have hpos : (0 : ℚ) < g := by rw [← hg']; linarith
    exact_mod_cast hpos
  · have hlt : (g : ℚ) < 10 ^ 12 := by rw [← hg']; linarith
    exact_mod_cast hlt

lemma contribution_zero (ha : 0 ≤ allocated) (hle : allocated ≤ gross) (hg : 0 < gross)
    (hlt : gross < 10 ^ 10) (hgrid : OnGrid 2 allocated) (hgrid' : OnGrid 2 gross) :
    contribution allocated gross 0 = allocated := by
  have hround := contribution_eq_round ha hle hg hlt hgrid hgrid' onGrid_zero le_rfl hg.le
  obtain ⟨m, hm⟩ := hgrid
  norm_num only at hm
  rw [sub_zero, mul_div_cancel_right₀ _ hg.ne', hm, round_intCast, ← hm] at hround
  exact mul_right_cancel₀ (by norm_num) hround

end Shares

section ByInvoice

variable {byInvoice : List (ℕ × ℚ)} {allocations : List PaymentAllocation}

lemma map_fst_addAllocation_of_find {a : PaymentAllocation} {x : ℕ × ℚ}
    (h : byInvoice.find? (·.1 = a.invoiceId) = some x) :
    (addAllocation byInvoice a).map Prod.fst = byInvoice.map Prod.fst := by
  rw [addAllocation, h]
  simp only [List.map_map]
  refine List.map_congr_left fun y _ => ?_
  simp only [Function.comp_def]
  split_ifs <;> rfl

lemma nodup_addAllocation (h : (byInvoice.map Prod.fst).Nodup) (a : PaymentAllocation) :
    ((addAllocation byInvoice a).map Prod.fst).Nodup := by
  cases hfind : byInvoice.find? (·.1 = a.invoiceId) with
  | some x => rwa [map_fst_addAllocation_of_find hfind]
  | none =>
    rw [addAllocation, hfind, List.map_append, List.nodup_append]
    refine ⟨h, List.nodup_singleton _, ?_⟩
    intro i hi j hj
    obtain ⟨y, hy, rfl⟩ := List.mem_map.mp hi
    rw [List.map_singleton, List.mem_singleton] at hj
    exact hj ▸ by simpa using List.find?_eq_none.mp hfind y hy

lemma sum_addAllocation (h : (byInvoice.map Prod.fst).Nodup)
    (hgrid : ∀ x ∈ byInvoice, OnGrid 2 x.2) (a : PaymentAllocation) :
    ((addAllocation byInvoice a).map Prod.snd).sum
      = (byInvoice.map Prod.snd).sum + a.amount.value := by
  cases hfind : byInvoice.find? (·.1 = a.invoiceId) with
  | some x =>
    have hx : x.1 = a.invoiceId := by simpa using List.find?_some hfind
    obtain ⟨as, bs, rfl⟩ := List.append_of_mem (List.mem_of_find?_eq_some hfind)
    rw [List.map_append, List.nodup_append, List.map_cons, List.nodup_cons] at h
    obtain ⟨-, ⟨hbs, -⟩, has⟩ := h
    have hkeep : ∀ l : List (ℕ × ℚ), (∀ y ∈ l, y.1 ≠ a.invoiceId) → l.map (fun y =>
        if y.1 = a.invoiceId then (y.1, roundMoney (y.2 + a.amount.value)) else y) = l :=
      fun l hl => (List.map_congr_left fun y hy => if_neg (hl y hy)).trans (List.map_id' l)
    have hround : roundMoney (x.2 + a.amount.value) = x.2 + a.amount.value :=
      roundMoney_of_onGrid ((hgrid x (by simp)).add a.amount.onGrid)
    rw [addAllocation, hfind]
    dsimp only
    rw [List.map_append, List.map_cons, if_pos hx, hround, hkeep as fun y hy heq =>
        has _ (List.mem_map_of_mem hy) _ List.mem_cons_self (heq.trans hx.symm),
      hkeep bs fun y hy heq => hbs (hx.trans heq.symm ▸ List.mem_map_of_mem hy)]
    simp only [List.map_append, List.map_cons, List.sum_append, List.sum_cons]
    ring
  | none =>
    rw [addAllocation, hfind, zero_add, roundMoney_value]
    simp

structure SumsUp (allocations : List PaymentAllocation) (byInvoice : List (ℕ × ℚ)) : Prop where
  nodup : (byInvoice.map Prod.fst).Nodup
  onGrid : ∀ x ∈ byInvoice, OnGrid 2 x.2
  nonneg : (∀ a ∈ allocations, 0 ≤ a.amount.value) → ∀ x ∈ byInvoice, 0 ≤ x.2
  sum : (byInvoice.map Prod.snd).sum = (allocations.map fun a => a.amount.value).sum
  mem : ∀ x ∈ byInvoice, ∃ a ∈ allocations, a.invoiceId = x.1

lemma sumsUp_addAllocation (h : SumsUp allocations byInvoice) (a : PaymentAllocation) :
    SumsUp (allocations ++ [a]) (addAllocation byInvoice a) where
  nodup := nodup_addAllocation h.nodup a
  onGrid := by
    intro x hx
    rw [addAllocation] at hx
    split at hx
    · obtain ⟨y, hy, rfl⟩ := List.mem_map.mp hx
      split_ifs
      · exact onGrid_roundMoney _
      · exact h.onGrid y hy
    · rcases List.mem_append.mp hx with hx | hx
      · exact h.onGrid x hx
      · rw [List.mem_singleton.mp hx]
        exact onGrid_roundMoney _
  nonneg := by
    intro hnonneg x hx
    have ha := hnonneg a (by simp)
    have hold := h.nonneg fun b hb => hnonneg b (List.mem_append_left _ hb)
    rw [addAllocation] at hx
    split at hx
    · obtain ⟨y, hy, rfl⟩ := List.mem_map.mp hx
      split_ifs
      · exact quantize_nonneg (add_nonneg (hold y hy) ha)
      · exact hold y hy
    · rcases List.mem_append.mp hx with hx | hx
      · exact hold x hx
      · rw [List.mem_singleton.mp hx]
        exact quantize_nonneg (add_nonneg le_rfl ha)
  sum := by
    rw [sum_addAllocation h.nodup h.onGrid, h.sum]
    simp
  mem := by
    intro x hx
    rw [addAllocation] at hx
    split at hx
    · obtain ⟨y, hy, rfl⟩ := List.mem_map.mp hx
      obtain ⟨b, hb, hid⟩ := h.mem y hy
      refine ⟨b, List.mem_append_left _ hb, ?_⟩
      split_ifs <;> exact hid
    · rcases List.mem_append.mp hx with hx | hx
      · obtain ⟨b, hb, hid⟩ := h.mem x hx
        exact ⟨b, List.mem_append_left _ hb, hid⟩
      · exact ⟨a, by simp, by rw [List.mem_singleton.mp hx]⟩

lemma sumsUp_foldl : ∀ (more done : List PaymentAllocation) (byInvoice : List (ℕ × ℚ)),
    SumsUp done byInvoice → SumsUp (done ++ more) (more.foldl addAllocation byInvoice)
  | [], done, byInvoice, h => by simpa using h
  | a :: more, done, byInvoice, h => by
    have := sumsUp_foldl more (done ++ [a]) _ (sumsUp_addAllocation h a)
    simpa using this

/-- **The allocations by invoice add up to the active allocations.** -/
theorem sumsUp_allocationByInvoice (db : BillingTables) (paymentId : ℕ) :
    SumsUp (activeAllocations db paymentId) (allocationByInvoice db paymentId) := by
  have hempty : SumsUp [] [] := ⟨List.nodup_nil, nofun, nofun, rfl, nofun⟩
  have h := sumsUp_foldl (activeAllocations db paymentId) [] [] hempty
  have hperm : (allocationByInvoice db paymentId).Perm
      ((activeAllocations db paymentId).foldl addAllocation []) := List.perm_insertionSort _ _
  exact {
    nodup := (hperm.map _).nodup_iff.mpr h.nodup
    onGrid := fun x hx => h.onGrid x (hperm.mem_iff.mp hx)
    nonneg := fun hn x hx => h.nonneg hn x (hperm.mem_iff.mp hx)
    sum := (hperm.map _).sum_eq.trans h.sum
    mem := fun x hx => h.mem x (hperm.mem_iff.mp hx) }

end ByInvoice

/-- A settled payment whose refunds agree with the ledger and whose active allocations are no more
than its gross. -/
structure Refundable (db : BillingTables) (payment : Payment) : Prop where
  found : db.payments.get? payment.id = some payment
  isActive : payment.isActive = true
  accountId : payment.accountId ≠ none
  status : payment.status = .succeeded ∨ payment.status = .partiallyRefunded
  settled : payment.settlement ≠ none
  ledger : ledgerTotal db (isRefundEntry payment.id) = payment.refundedAmount.value
  refunded_nonneg : 0 ≤ payment.refundedAmount.value
  refunded_lt : payment.refundedAmount.value < payment.amount.value
  allocated_nonneg : ∀ a ∈ activeAllocations db payment.id, 0 ≤ a.amount.value
  allocated_le : ((activeAllocations db payment.id).map fun a => a.amount.value).sum
    ≤ payment.amount.value
  invoices : ∀ a ∈ activeAllocations db payment.id, (db.invoices.get? a.invoiceId).isSome = true

structure RefundCommand where
  request : PaymentRefundPreviewRequest
  idempotencyKey : String
  origin : PaymentRefundOrigin
  providerEventId : Option ℕ

def RefundCommand.amount (c : RefundCommand) (gross refunded : ℚ) : ℚ :=
  c.request.amountOf (gross - refunded)

def refund (env : PaymentEnv) (paymentId : ℕ) (db : BillingTables) (c : RefundCommand) :
    Except DomainError (BillingTables × PaymentRefundPreview) := do
  let payment ← orRefuse (db.payments.get? paymentId) (.httpException 404 "Payment not found")
  let preview ← buildRefundPreview env db payment c.request c.origin c.providerEventId
  let (db, _) ← processWithEvidence env db paymentId
    ⟨c.request, preview.fingerprint, c.idempotencyKey⟩ c.origin c.providerEventId
  return (db, preview)

/-- A refund of a positive amount that is left, with the evidence its origin needs, under a key
that was not used. -/
structure Admissible (db : BillingTables) (payment : Payment) (c : RefundCommand) : Prop where
  positive : 0 < c.amount payment.amount.value payment.refundedAmount.value
  le : c.amount payment.amount.value payment.refundedAmount.value
    ≤ payment.amount.value - payment.refundedAmount.value
  origin : ¬ (c.origin = .manual ∧ payment.providerId.isSome = true)
  event : ∃ confirmed,
    validateRefundProviderEvent db payment c.origin c.providerEventId = .ok confirmed ∧
      ∀ m ∈ confirmed, c.amount payment.amount.value payment.refundedAmount.value = m.value
  unused : ∀ i ∈ c.providerEventId, ∀ p ∈ db.payments.rows, ∀ refund ∈ p.refunds,
    refund.providerEventId ≠ some i
  key : isSafeKey (strip c.idempotencyKey) = true
  fresh : reservation db refundIdempotencyScope (strip c.idempotencyKey) = none

/-- What is left of the net value of a payment beside the shares of its invoices. -/
def remainder (shares : List (ℕ × ℚ)) (gross refunded : ℚ) : ℚ :=
  gross - refunded - (shares.map fun x => contribution x.2 gross refunded).sum

/-- The preview of a refund in closed form. -/
structure Describes (db : BillingTables) (payment : Payment) (amount : ℚ)
    (preview : PaymentRefundPreview) : Prop where
  paymentId : preview.paymentId = payment.id
  gross : preview.paymentGross = payment.amount.value
  refundedBefore : preview.refundedBefore = payment.refundedAmount.value
  refundAmount : preview.refundAmount = amount
  refundedAfter : preview.refundedAfter = payment.refundedAmount.value + amount
  statusAfter : preview.statusAfter = if payment.refundedAmount.value + amount
    = payment.amount.value then .refunded else .partiallyRefunded
  effects : List.Forall₂ (fun x e => e.invoiceId = x.1 ∧ e.refundAttributed
      = contribution x.2 payment.amount.value payment.refundedAmount.value
        - contribution x.2 payment.amount.value (payment.refundedAmount.value + amount))
    (allocationByInvoice db payment.id) preview.invoiceEffects
  consumption : preview.accountCreditConsumption
    = remainder (allocationByInvoice db payment.id) payment.amount.value
        payment.refundedAmount.value
      - remainder (allocationByInvoice db payment.id) payment.amount.value
        (payment.refundedAmount.value + amount)

section OneRefund

variable {env : PaymentEnv} {db : BillingTables} {payment : Payment} {c : RefundCommand}

lemma foldl_attributed : ∀ (effects : List PaymentRefundInvoiceEffect) (total : ℚ),
    OnGrid 2 total → (∀ e ∈ effects, OnGrid 2 e.refundAttributed) →
    effects.foldl (fun total e => roundMoney (total + e.refundAttributed)) total
      = total + (effects.map (·.refundAttributed)).sum
  | [], total, _, _ => by simp
  | e :: effects, total, htotal, hgrid => by
    have hsum : OnGrid 2 (total + e.refundAttributed) := htotal.add (hgrid e List.mem_cons_self)
    rw [List.foldl_cons, roundMoney_of_onGrid hsum, foldl_attributed effects _ hsum
      fun e' he' => hgrid e' (List.mem_cons_of_mem e he'), List.map_cons, List.sum_cons]
    ring

lemma sum_eq_of_forall₂ {shares : List (ℕ × ℚ)} {effects : List PaymentRefundInvoiceEffect}
    {f : ℕ × ℚ → ℚ} (h : List.Forall₂ (fun x e => e.invoiceId = x.1 ∧ e.refundAttributed = f x)
      shares effects) : (effects.map (·.refundAttributed)).sum = (shares.map f).sum := by
  induction h with
  | nil => rfl
  | cons hxe _ ih => rw [List.map_cons, List.map_cons, List.sum_cons, List.sum_cons, hxe.2, ih]

lemma sum_falls (shares : List (ℕ × ℚ)) (gross before after : ℚ) :
    (shares.map fun x => contribution x.2 gross before - contribution x.2 gross after).sum
      = (shares.map fun x => contribution x.2 gross before).sum
        - (shares.map fun x => contribution x.2 gross after).sum := by
  induction shares with
  | nil => simp
  | cons x shares ih =>
    simp only [List.map_cons, List.sum_cons, ih]
    ring

lemma refundInvoiceEffects_eq (hready : Refundable db payment) (before after : ℚ) :
    ∃ effects, refundInvoiceEffects db payment payment.amount.value before after
        = .ok (effects, (effects.map (·.refundAttributed)).sum) ∧
      List.Forall₂ (fun x e => e.invoiceId = x.1 ∧ e.refundAttributed
          = contribution x.2 payment.amount.value before
            - contribution x.2 payment.amount.value after)
        (allocationByInvoice db payment.id) effects := by
  have hshares := sumsUp_allocationByInvoice db payment.id
  have hgrid (x : ℕ × ℚ) : OnGrid 2 (contribution x.2 payment.amount.value before
      - contribution x.2 payment.amount.value after) := onGrid_contribution.sub onGrid_contribution
  obtain ⟨effects, hok, heffects⟩ := mapM_eq_ok
    (f := refundInvoiceEffect db payment.amount.value before after)
    (q := fun x e => e.invoiceId = x.1 ∧ e.refundAttributed
      = contribution x.2 payment.amount.value before
        - contribution x.2 payment.amount.value after)
    (l := allocationByInvoice db payment.id) fun x hx => by
      obtain ⟨a, ha, hid⟩ := hshares.mem x hx
      obtain ⟨invoice, hinvoice⟩ := Option.isSome_iff_exists.mp (hready.invoices a ha)
      rw [hid] at hinvoice
      rw [refundInvoiceEffect, hinvoice, orRefuse_some, ok_bind]
      exact ⟨_, rfl, (Table.get?_eq_some.mp hinvoice).2, roundMoney_of_onGrid (hgrid x)⟩
  refine ⟨effects, ?_, heffects⟩
  have hcents : ∀ e ∈ effects, OnGrid 2 e.refundAttributed := by
    intro e he
    obtain ⟨x, -, -, hx⟩ := exists_of_mem_right heffects e he
    exact hx ▸ hgrid x
  rw [refundInvoiceEffects, hok, ok_bind, foldl_attributed effects 0 onGrid_zero hcents, zero_add]
  rfl

lemma amount_onGrid (payment : Payment) (c : RefundCommand) :
    OnGrid 2 (c.amount payment.amount.value payment.refundedAmount.value) := by
  rw [RefundCommand.amount, PaymentRefundPreviewRequest.amountOf]
  split
  · exact payment.amount.onGrid.sub payment.refundedAmount.onGrid
  · exact onGrid_roundMoney _

lemma refundCapability_of_refundable (hready : Refundable db payment)
    (hc : Admissible db payment c) {accountId : ℕ} (haccount : payment.accountId = some accountId) :
    refundCapability payment c.origin = .ok accountId := by
  have hstatus : payment.status ≠ .refunded := by
    rcases hready.status with h | h <;> rw [h] <;> decide
  rw [refundCapability, ensure_of hready.isActive, ok_bind, haccount, orRefuse_some, ok_bind,
    ensure_of hstatus, ok_bind, ensure_of hready.status, ok_bind, ensure_of hc.origin, ok_bind]
  rfl

lemma recordedRefundTotal_of_refundable (hready : Refundable db payment) :
    recordedRefundTotal db payment = .ok payment.refundedAmount.value := by
  rw [recordedRefundTotal, hready.ledger, roundMoney_value, ensure_of rfl, ok_bind]
  rfl

/-- **A refund is previewed when the shares fall by no more than its amount.** -/
theorem buildRefundPreview_eq (env : PaymentEnv) (hready : Refundable db payment) (hc : Admissible db payment c) :
    ∃ preview, Describes db payment (c.amount payment.amount.value payment.refundedAmount.value)
        preview ∧
      buildRefundPreview env db payment c.request c.origin c.providerEventId
        = if 0 ≤ preview.accountCreditConsumption then .ok preview
          else .error (.httpException 409
            "Payment allocations exceed the refundable payment amount") := by
  obtain ⟨accountId, haccount⟩ := Option.ne_none_iff_exists'.mp hready.accountId
  obtain ⟨confirmed, hconfirmed, hevent⟩ := hc.event
  have hgrid := amount_onGrid payment c
  have hle := hc.le
  have hpositive := hc.positive
  rw [RefundCommand.amount] at *
  generalize hamount : c.request.amountOf (payment.amount.value - payment.refundedAmount.value)
    = amount at *
  have hgross := hready.refunded_nonneg.trans_lt hready.refunded_lt
  have hafter : roundMoney (payment.refundedAmount.value + amount)
      = payment.refundedAmount.value + amount :=
    roundMoney_of_onGrid (payment.refundedAmount.onGrid.add hgrid)
  obtain ⟨effects, heffects, hshares⟩ := refundInvoiceEffects_eq hready
    payment.refundedAmount.value (payment.refundedAmount.value + amount)
  have hconsumption : OnGrid 2 (amount - (effects.map (·.refundAttributed)).sum) := by
    refine hgrid.sub (.list_sum fun x hx => ?_)
    obtain ⟨e, he, rfl⟩ := List.mem_map.mp hx
    obtain ⟨x, -, -, hx⟩ := exists_of_mem_right hshares e he
    exact hx ▸ onGrid_contribution.sub onGrid_contribution
  refine ⟨refundPreview env db payment accountId c.origin c.providerEventId c.request.reason
    payment.refundedAmount.value amount effects (amount - (effects.map (·.refundAttributed)).sum),
    ⟨rfl, rfl, rfl, rfl, hafter, congrArg (fun x => if x = _ then _ else _) hafter, hshares, ?_⟩,
    ?_⟩
  · show amount - (effects.map (·.refundAttributed)).sum = _
    rw [sum_eq_of_forall₂ hshares, sum_falls, remainder, remainder]
    ring
  · rw [buildRefundPreview, refundCapability_of_refundable hready hc haccount, ok_bind, hconfirmed,
      ok_bind]
    dsimp only
    rw [ensure_of hgross, ok_bind, recordedRefundTotal_of_refundable hready, ok_bind,
      roundMoney_of_onGrid (payment.amount.onGrid.sub payment.refundedAmount.onGrid), hamount,
      ensure_of hpositive, ok_bind, ensure_of hle, ok_bind, ensure_of hevent, ok_bind, hafter,
      heffects, ok_bind]
    dsimp only
    rw [roundMoney_of_onGrid hconsumption]
    show _ = if 0 ≤ amount - (effects.map (·.refundAttributed)).sum then _ else _
    split_ifs with h
    · rw [ensure_of h, ok_bind]
      rfl
    · rw [ensure, if_neg h]
      rfl

lemma foldl_finalize (now : ℤ) : ∀ (ids : List ℕ) (db : BillingTables),
    ∃ invoices : Table Invoice,
      ids.foldl (finalizeInvoicePaymentEffects now) db = { db with
        invoices := invoices } ∧
      ∀ i, (db.invoices.get? i).isSome = true → (invoices.get? i).isSome = true
  | [], db => ⟨db.invoices, rfl, fun _ h => h⟩
  | j :: ids, db => by
    obtain ⟨invoices, hfold, hinvoices⟩ :=
      foldl_finalize now ids (finalizeInvoicePaymentEffects now db j)
    refine ⟨invoices, by rw [List.foldl_cons, hfold]; rfl, fun i hi => hinvoices i ?_⟩
    rw [finalizeInvoicePaymentEffects, Table.update, Table.get?_map, Option.isSome_map]
    exact hi

variable {preview : PaymentRefundPreview} {key : String}

lemma ledgerTotal_refundLedger (db : BillingTables) (hp : preview.paymentId = payment.id)
    (hgrid : OnGrid 2 preview.refundAmount) {db' : BillingTables}
    (hdb' : db'.ledgerEntries = refundLedger db preview) :
    ledgerTotal db' (isRefundEntry payment.id)
      = ledgerTotal db (isRefundEntry payment.id) + preview.refundAmount := by
  have hentry (i : ℕ) : isRefundEntry payment.id (refundEntry preview i) = true := by
    simp [isRefundEntry, refundEntry, hp]
  have hother (i : ℕ) : isRefundEntry payment.id (consumptionEntry preview.accountId none
      preview.accountCreditConsumption preview.currency i) = false := by
    simp [isRefundEntry, consumptionEntry]
  have hamount (i : ℕ) : (refundEntry preview i).amount.value = preview.refundAmount :=
    roundMoney_of_onGrid hgrid
  rw [ledgerTotal, ledgerTotal, hdb', refundLedger]
  split_ifs
  · rw [Table.total_insert, Table.total_insert, if_pos (hentry _), hamount, hother,
      if_neg Bool.false_ne_true, add_zero]
  · rw [Table.total_insert, if_pos (hentry _), hamount]

lemma get?_recordRefund (hfound : db.payments.get? payment.id = some payment)
    (hp : preview.paymentId = payment.id) (origin : PaymentRefundOrigin)
    (providerEventId : Option ℕ) :
    (recordRefund env db preview origin providerEventId key).payments.get? payment.id
      = some (refundedPayment db preview origin providerEventId payment) := by
  rw [← hp] at hfound ⊢
  have hself := Table.get?_update_self
    (h := id_refundedPayment db preview origin providerEventId) hfound
  rw [recordRefund]
  obtain ⟨invoices, hfold, -⟩ := foldl_finalize env.now
    ((activeAllocations db preview.paymentId).map (·.invoiceId)).dedup
    (if preview.statusAfter = .refunded then
      retireAllocations (postRefund db preview origin providerEventId key) preview.paymentId
        ((activeAllocations db preview.paymentId).map (·.invoiceId)).dedup
      else postRefund db preview origin providerEventId key)
  rw [hfold]
  dsimp only
  split_ifs
  · exact hself
  · exact hself

/-- **A partial refund leaves a refundable payment** with the same shares. -/
theorem refundable_recordRefund (env : PaymentEnv) (key : String)
    (hready : Refundable db payment) (hc : Admissible db payment c)
    (hd : Describes db payment (c.amount payment.amount.value payment.refundedAmount.value) preview)
    (hlt : preview.refundedAfter < payment.amount.value) :
    ∃ payment', payment'.id = payment.id ∧ payment'.amount = payment.amount ∧
      payment'.refundedAmount.value = preview.refundedAfter ∧
      allocationByInvoice (recordRefund env db preview c.origin c.providerEventId key) payment.id
        = allocationByInvoice db payment.id ∧
      Refundable (recordRefund env db preview c.origin c.providerEventId key) payment' := by
  have hgrid := amount_onGrid payment c
  have hafter : (Numeric.store 2 preview.refundedAfter).value = preview.refundedAfter := by
    rw [hd.refundedAfter]
    exact Numeric.store_eq_iff.mpr (payment.refundedAmount.onGrid.add hgrid)
  have hstatus : preview.statusAfter = .partiallyRefunded := by
    rw [hd.statusAfter, if_neg]
    exact hd.refundedAfter ▸ hlt.ne
  obtain ⟨invoices, hfold, hinvoices⟩ := foldl_finalize env.now
    ((activeAllocations db preview.paymentId).map (·.invoiceId)).dedup
    (postRefund db preview c.origin c.providerEventId key)
  have hrecord : recordRefund env db preview c.origin c.providerEventId key
      = { postRefund db preview c.origin c.providerEventId key with
        invoices := invoices } := by
    rw [recordRefund, if_neg (by rw [hstatus]; decide), hfold]
  rw [hrecord]
  refine ⟨refundedPayment db preview c.origin c.providerEventId payment, rfl, rfl, hafter, rfl, ?_⟩
  exact {
    found := hrecord ▸ get?_recordRefund hready.found hd.paymentId c.origin c.providerEventId
    isActive := hready.isActive
    accountId := hready.accountId
    status := .inr hstatus
    settled := hready.settled
    ledger := by
      show ledgerTotal _ (isRefundEntry payment.id) = (Numeric.store 2 preview.refundedAfter).value
      rw [ledgerTotal_refundLedger db hd.paymentId (hd.refundAmount ▸ hgrid) rfl,
        hready.ledger, hafter, hd.refundedAfter, hd.refundAmount]
    refunded_nonneg := by
      show 0 ≤ (Numeric.store 2 preview.refundedAfter).value
      rw [hafter, hd.refundedAfter]
      exact add_nonneg hready.refunded_nonneg hc.positive.le
    refunded_lt := by
      show (Numeric.store 2 preview.refundedAfter).value < payment.amount.value
      rwa [hafter]
    allocated_nonneg := hready.allocated_nonneg
    allocated_le := hready.allocated_le
    invoices := fun a ha => hinvoices _ (hready.invoices a ha) }

/-- **A refund is accepted when the shares fall by no more than its amount.** -/
theorem refund_eq (env : PaymentEnv) (hready : Refundable db payment) (hc : Admissible db payment c) :
    ∃ preview, Describes db payment (c.amount payment.amount.value payment.refundedAmount.value)
        preview ∧
      refund env payment.id db c = if 0 ≤ preview.accountCreditConsumption
        then .ok (recordRefund env db preview c.origin c.providerEventId
          (strip c.idempotencyKey), preview)
        else .error (.httpException 409
          "Payment allocations exceed the refundable payment amount") := by
  obtain ⟨preview, hd, hpreview⟩ := buildRefundPreview_eq env hready hc
  refine ⟨preview, hd, ?_⟩
  rw [refund, hready.found, orRefuse_some, ok_bind, hpreview]
  split_ifs with h
  · rw [ok_bind, processWithEvidence, normalizeRefundKey]
    dsimp only
    rw [ensure_of hc.key, ok_bind, pure_bind, idempotentResult, hc.fresh]
    dsimp only
    rw [pure_bind]
    dsimp only
    rw [hready.found, orRefuse_some, ok_bind, ensure_of hready.accountId, ok_bind, hpreview,
      if_pos h, ok_bind, ensure_of rfl, ok_bind, ensure_of hc.unused, ok_bind]
    rfl
  · rfl

end OneRefund

def refunds (env : PaymentEnv) (paymentId : ℕ) : BillingTables → List RefundCommand →
    Except DomainError (BillingTables × List PaymentRefundPreview)
  | db, [] => return (db, [])
  | db, c :: cs => do
      let (db, preview) ← refund env paymentId db c
      let (db, previews) ← refunds env paymentId db cs
      return (db, preview :: previews)

def AllAdmissible (env : PaymentEnv) (paymentId : ℕ) : BillingTables → List RefundCommand → Prop
  | _, [] => True
  | db, c :: cs =>
    (∀ payment, db.payments.get? paymentId = some payment → Admissible db payment c) ∧
      ∀ out, refund env paymentId db c = .ok out → AllAdmissible env paymentId out.1 cs

/-- How far an amount is above its nearest cent, in cents; below it from half a cent on. -/
def aboveCent (x : ℚ) : ℚ := x * 100 - round (x * 100)

/-- The same of the exact shares of all allocations in what is left of the gross. -/
def sharesAboveCent (allocations : List ℚ) (gross left : ℚ) : ℚ :=
  (allocations.map fun a => aboveCent (a * left / gross)).sum

/-- The exact shares rise above their nearest cents by no more than the cents of the refund that
fall on the value not allocated. -/
def Absorbs (allocations : List ℚ) (gross refunded amount : ℚ) : Prop :=
  sharesAboveCent allocations gross (gross - (refunded + amount))
      - sharesAboveCent allocations gross (gross - refunded)
    ≤ (gross - allocations.sum) / gross * (amount * 100)

instance (allocations : List ℚ) (gross refunded amount : ℚ) :
    Decidable (Absorbs allocations gross refunded amount) :=
  inferInstanceAs (Decidable (_ ≤ _))

/-- Every refund does. -/
def RoundingAbsorbed (allocations : List ℚ) (gross : ℚ) : ℚ → List RefundCommand → Prop
  | _, [] => True
  | refunded, c :: cs =>
    Absorbs allocations gross refunded (c.amount gross refunded) ∧
      RoundingAbsorbed allocations gross (refunded + c.amount gross refunded) cs

/-- A refund is attributed in full: no part is negative, and the parts add up to the amount. -/
structure Attributed (c : RefundCommand) (preview : PaymentRefundPreview) : Prop where
  amount : preview.refundAmount = c.amount preview.paymentGross preview.refundedBefore
  nonneg : ∀ e ∈ preview.invoiceEffects, 0 ≤ e.refundAttributed
  consumption_nonneg : 0 ≤ preview.accountCreditConsumption
  total : (preview.invoiceEffects.map (·.refundAttributed)).sum
    + preview.accountCreditConsumption = preview.refundAmount

def attributedTo (invoiceId : ℕ) (preview : PaymentRefundPreview) : ℚ :=
  ((preview.invoiceEffects.filter (·.invoiceId = invoiceId)).map (·.refundAttributed)).sum

section Sequences

variable {env : PaymentEnv} {db : BillingTables} {payment : Payment} {c : RefundCommand}
  {preview : PaymentRefundPreview}

lemma share_le (hready : Refundable db payment) {x : ℕ × ℚ}
    (hx : x ∈ allocationByInvoice db payment.id) : 0 ≤ x.2 ∧ x.2 ≤ payment.amount.value := by
  have hshares := sumsUp_allocationByInvoice db payment.id
  have hnonneg := hshares.nonneg hready.allocated_nonneg
  refine ⟨hnonneg x hx, le_trans ?_ (hshares.sum ▸ hready.allocated_le)⟩
  refine List.single_le_sum (fun y hy => ?_) x.2 (List.mem_map_of_mem hx)
  obtain ⟨z, hz, rfl⟩ := List.mem_map.mp hy
  exact hnonneg z hz

lemma sum_contribution {refunded : ℚ} : ∀ (shares : List (ℕ × ℚ)) (gross : ℚ),
    (∀ x ∈ shares, contribution x.2 gross refunded * 100
      = round (x.2 * (gross - refunded) / gross * 100)) →
    (shares.map fun x => contribution x.2 gross refunded).sum * 100
      = (shares.map Prod.snd).sum / gross * ((gross - refunded) * 100)
        - sharesAboveCent (shares.map Prod.snd) gross (gross - refunded)
  | [], _, _ => by simp [sharesAboveCent]
  | x :: shares, gross, h => by
    have ih := sum_contribution shares gross fun y hy => h y (List.mem_cons_of_mem x hy)
    simp only [sharesAboveCent, List.map_cons, List.sum_cons, aboveCent] at ih ⊢
    rw [add_mul, ih, h x List.mem_cons_self]
    ring

/-- **The rest beside the shares** is what is left of the value not allocated, and the cents the
shares lose by rounding. -/
theorem remainder_eq (hready : Refundable db payment) {refunded : ℚ} (hgrid : OnGrid 2 refunded)
    (h0 : 0 ≤ refunded) (hle : refunded ≤ payment.amount.value) :
    remainder (allocationByInvoice db payment.id) payment.amount.value refunded * 100
      = (payment.amount.value - ((allocationByInvoice db payment.id).map Prod.snd).sum)
          / payment.amount.value * ((payment.amount.value - refunded) * 100)
        + sharesAboveCent ((allocationByInvoice db payment.id).map Prod.snd) payment.amount.value
          (payment.amount.value - refunded) := by
  have hgross := hready.refunded_nonneg.trans_lt hready.refunded_lt
  have hsum := sum_contribution (allocationByInvoice db payment.id) payment.amount.value
    fun x hx => contribution_eq_round (share_le hready hx).1 (share_le hready hx).2 hgross
      payment.amount_lt ((sumsUp_allocationByInvoice db payment.id).onGrid x hx)
      payment.amount.onGrid hgrid h0 hle
  rw [remainder, sub_mul, hsum, sub_div, div_self hgross.ne']
  ring

lemma remainder_le_iff (hready : Refundable db payment) (hc : Admissible db payment c) :
    remainder (allocationByInvoice db payment.id) payment.amount.value
        (payment.refundedAmount.value
          + c.amount payment.amount.value payment.refundedAmount.value)
      ≤ remainder (allocationByInvoice db payment.id) payment.amount.value
        payment.refundedAmount.value ↔
    Absorbs ((allocationByInvoice db payment.id).map Prod.snd) payment.amount.value
      payment.refundedAmount.value
      (c.amount payment.amount.value payment.refundedAmount.value) := by
  have hgrid := amount_onGrid payment c
  have hpositive := hc.positive
  have hle := hc.le
  have hbefore := remainder_eq hready payment.refundedAmount.onGrid hready.refunded_nonneg
    hready.refunded_lt.le
  have hafter := remainder_eq hready (payment.refundedAmount.onGrid.add hgrid)
    (by linarith [hready.refunded_nonneg]) (by linarith)
  rw [← mul_le_mul_iff_left₀ (show (0 : ℚ) < 100 by norm_num), hbefore, hafter, Absorbs]
  constructor
  · intro h
    linarith
  · intro h
    linarith

lemma attributed_of_describes (hready : Refundable db payment) (hc : Admissible db payment c)
    (hd : Describes db payment (c.amount payment.amount.value payment.refundedAmount.value) preview)
    (hconsumption : 0 ≤ preview.accountCreditConsumption) : Attributed c preview where
  amount := by rw [hd.refundAmount, hd.gross, hd.refundedBefore]
  nonneg := by
    intro e he
    obtain ⟨x, hx, -, heq⟩ := exists_of_mem_right hd.effects e he
    have hnonneg := (sumsUp_allocationByInvoice db payment.id).nonneg hready.allocated_nonneg x hx
    rw [heq]
    refine sub_nonneg.mpr (contribution_antitone hnonneg
      (hready.refunded_nonneg.trans_lt hready.refunded_lt) ?_ ?_)
    · linarith [hc.positive]
    · linarith [hc.le]
  consumption_nonneg := hconsumption
  total := by
    rw [sum_eq_of_forall₂ hd.effects, sum_falls, hd.consumption, remainder, remainder,
      hd.refundAmount]
    ring

lemma attributedTo_eq {f : ℕ × ℚ → ℚ} {shares : List (ℕ × ℚ)}
    {effects : List PaymentRefundInvoiceEffect} (hnodup : (shares.map Prod.fst).Nodup)
    (h : List.Forall₂ (fun x e => e.invoiceId = x.1 ∧ e.refundAttributed = f x) shares effects) :
    ∀ x ∈ shares,
      ((effects.filter (·.invoiceId = x.1)).map (·.refundAttributed)).sum = f x := by
  induction h with
  | nil => exact fun x hx => absurd hx List.not_mem_nil
  | @cons y e shares effects hye h ih =>
    rw [List.map_cons, List.nodup_cons] at hnodup
    rintro x (_ | ⟨_, hx⟩)
    · have hrest : effects.filter (·.invoiceId = y.1) = [] := by
        refine List.filter_eq_nil_iff.mpr fun e' he' => ?_
        obtain ⟨z, hz, hid, -⟩ := exists_of_mem_right h e' he'
        rw [decide_eq_true_iff, hid]
        exact fun heq => hnodup.1 (heq ▸ List.mem_map_of_mem hz)
      rw [List.filter_cons_of_pos (by simpa using hye.1), hrest]
      simpa using hye.2
    · have hne : e.invoiceId ≠ x.1 := by
        rw [hye.1]
        exact fun heq => hnodup.1 (heq ▸ List.mem_map_of_mem hx)
      rw [List.filter_cons_of_neg (by simpa using hne)]
      exact ih hnodup.2 x hx

lemma eq_nil_of_refunded {cs : List RefundCommand} (payment : Payment) (hadm : AllAdmissible env payment.id db cs)
    (hfound : db.payments.get? payment.id = some payment)
    (hfull : payment.refundedAmount.value = payment.amount.value) : cs = [] := by
  cases cs with
  | nil => rfl
  | cons c cs =>
    have hc := hadm.1 payment hfound
    have hpositive := hc.positive
    have hle := hc.le
    linarith

/-- A sequence of refunds is accepted, and what it takes from each invoice is the fall of the
share of the invoice. -/
def AllAttributed (env : PaymentEnv) (db : BillingTables) (paymentId : ℕ)
    (shares : List (ℕ × ℚ)) (gross refunded : ℚ) (cs : List RefundCommand) : Prop :=
  ∃ out, refunds env paymentId db cs = .ok out ∧ List.Forall₂ Attributed cs out.2 ∧
    ∀ x ∈ shares, (out.2.map (attributedTo x.1)).sum
      = contribution x.2 gross refunded
        - contribution x.2 gross (refunded + (out.2.map (·.refundAmount)).sum)

lemma allAttributed_nil (shares : List (ℕ × ℚ)) (gross refunded : ℚ) :
    AllAttributed env db payment.id shares gross refunded [] :=
  ⟨(db, []), rfl, .nil, fun x _ => by simp⟩

lemma refunds_tail {cs : List RefundCommand} {key : String} (hready : Refundable db payment)
    (hc : Admissible db payment c)
    (hd : Describes db payment (c.amount payment.amount.value payment.refundedAmount.value) preview)
    (hadm : AllAdmissible env payment.id
      (recordRefund env db preview c.origin c.providerEventId key) cs)
    (ih : ∀ (db : BillingTables) (payment : Payment), Refundable db payment →
      AllAdmissible env payment.id db cs →
      (AllAttributed env db payment.id (allocationByInvoice db payment.id) payment.amount.value
          payment.refundedAmount.value cs ↔
        RoundingAbsorbed ((allocationByInvoice db payment.id).map Prod.snd) payment.amount.value
          payment.refundedAmount.value cs)) :
    AllAttributed env (recordRefund env db preview c.origin c.providerEventId key) payment.id
        (allocationByInvoice db payment.id) payment.amount.value
        (payment.refundedAmount.value
          + c.amount payment.amount.value payment.refundedAmount.value) cs ↔
      RoundingAbsorbed ((allocationByInvoice db payment.id).map Prod.snd) payment.amount.value
        (payment.refundedAmount.value
          + c.amount payment.amount.value payment.refundedAmount.value) cs := by
  have hle : preview.refundedAfter ≤ payment.amount.value := by
    rw [hd.refundedAfter]
    linarith [hc.le]
  rcases hle.lt_or_eq with hlt | hfull
  · obtain ⟨payment', hid, hamount, hrefunded, hshares, hready'⟩ :=
      refundable_recordRefund env key hready hc hd hlt
    have htail := ih _ payment' hready' (hid ▸ hadm)
    rwa [hid, hamount, hrefunded, hshares, hd.refundedAfter] at htail
  · -- the payment is refunded: no refund follows
    have hgrid := payment.refundedAmount.onGrid.add (amount_onGrid payment c)
    have hstored : (Numeric.store 2 preview.refundedAfter).value = payment.amount.value := by
      rw [← hfull, hd.refundedAfter]
      exact Numeric.store_eq_iff.mpr hgrid
    obtain rfl := eq_nil_of_refunded
      (refundedPayment db preview c.origin c.providerEventId payment) hadm
      (get?_recordRefund hready.found hd.paymentId c.origin c.providerEventId) hstored
    exact iff_of_true (allAttributed_nil _ _ _) trivial

/-- **A sequence of refunds is accepted and attributed exactly when it absorbs the rounding.** -/
theorem refunds_iff : ∀ (cs : List RefundCommand) (db : BillingTables) (payment : Payment),
    Refundable db payment → AllAdmissible env payment.id db cs →
    (AllAttributed env db payment.id (allocationByInvoice db payment.id) payment.amount.value
        payment.refundedAmount.value cs ↔
      RoundingAbsorbed ((allocationByInvoice db payment.id).map Prod.snd) payment.amount.value
        payment.refundedAmount.value cs)
  | [], _, _, _, _ => iff_of_true (allAttributed_nil _ _ _) trivial
  | c :: cs, db, payment, hready, hadm => by
    have hc := hadm.1 payment hready.found
    obtain ⟨preview, hd, heq⟩ := refund_eq env hready hc
    have hnodup := (sumsUp_allocationByInvoice db payment.id).nodup
    have hstep := (sub_nonneg (a := remainder (allocationByInvoice db payment.id)
      payment.amount.value payment.refundedAmount.value)).trans (remainder_le_iff hready hc)
    rw [← hd.consumption] at hstep
    rw [RoundingAbsorbed, ← hstep, AllAttributed, refunds, heq]
    by_cases h : 0 ≤ preview.accountCreditConsumption
    · rw [if_pos h] at heq ⊢
      rw [ok_bind]
      have hfirst (x) (hx : x ∈ allocationByInvoice db payment.id) :
          attributedTo x.1 preview
            = contribution x.2 payment.amount.value payment.refundedAmount.value
              - contribution x.2 payment.amount.value (payment.refundedAmount.value
                + c.amount payment.amount.value payment.refundedAmount.value) :=
        attributedTo_eq hnodup hd.effects x hx
      have htail := refunds_tail hready hc hd (hadm.2 _ heq) (refunds_iff cs)
      rw [and_iff_right h, ← htail]
      constructor
      · rintro ⟨out, hout, hall, hsum⟩
        obtain ⟨⟨db', previews⟩, hrest, hout⟩ := bind_eq_ok.mp hout
        obtain rfl := Except.ok.inj hout
        refine ⟨(db', previews), hrest, (List.forall₂_cons.mp hall).2, fun x hx => ?_⟩
        have hx' := hsum x hx
        simp only [List.map_cons, List.sum_cons, hfirst x hx, hd.refundAmount, ← add_assoc] at hx'
        linarith
      · rintro ⟨⟨db', previews⟩, hrest, hall, hsum⟩
        refine ⟨(db', preview :: previews), bind_eq_ok.mpr ⟨_, hrest, rfl⟩,
          .cons (attributed_of_describes hready hc hd h) hall, fun x hx => ?_⟩
        have hx' := hsum x hx
        simp only [List.map_cons, List.sum_cons, hfirst x hx, hd.refundAmount, ← add_assoc]
        linarith
    · rw [if_neg h]
      exact iff_of_false (fun ⟨_, hout, _⟩ => nomatch hout) fun hkept => h hkept.1

end Sequences

/-- **Every refundable amount can be refunded, and is fully attributed, exactly while the refunds
absorb the rounding of the shares**: then every sequence of refunds of a settled payment is accepted,
each is attributed in full, what was taken from an invoice is its allocation less its share of what
is left, and after the full gross it is the allocation. -/
theorem refunds_attributed (env : PaymentEnv) {db : BillingTables} {payment : Payment}
    {cs : List RefundCommand} (hready : Refundable db payment)
    (hfirst : payment.refundedAmount.value = 0) (hadm : AllAdmissible env payment.id db cs) :
    (∃ out, refunds env payment.id db cs = .ok out ∧ List.Forall₂ Attributed cs out.2 ∧
      (∀ x ∈ allocationByInvoice db payment.id, (out.2.map (attributedTo x.1)).sum
        = x.2 - contribution x.2 payment.amount.value (out.2.map (·.refundAmount)).sum) ∧
      ((out.2.map (·.refundAmount)).sum = payment.amount.value →
        ∀ x ∈ allocationByInvoice db payment.id, (out.2.map (attributedTo x.1)).sum = x.2)) ↔
      RoundingAbsorbed ((allocationByInvoice db payment.id).map Prod.snd) payment.amount.value 0 cs := by
  have hgross := hready.refunded_nonneg.trans_lt hready.refunded_lt
  have hzero (x) (hx : x ∈ allocationByInvoice db payment.id) :
      contribution x.2 payment.amount.value 0 = x.2 :=
    contribution_zero (share_le hready hx).1 (share_le hready hx).2 hgross payment.amount_lt
      ((sumsUp_allocationByInvoice db payment.id).onGrid x hx) payment.amount.onGrid
  rw [← hfirst, ← refunds_iff cs db payment hready hadm, hfirst]
  constructor
  · rintro ⟨out, hout, hall, hsum, -⟩
    refine ⟨out, hout, hall, fun x hx => ?_⟩
    rw [hsum x hx, hzero x hx, zero_add]
  · rintro ⟨out, hout, hall, hsum⟩
    have htaken (x) (hx : x ∈ allocationByInvoice db payment.id) :
        (out.2.map (attributedTo x.1)).sum
          = x.2 - contribution x.2 payment.amount.value (out.2.map (·.refundAmount)).sum := by
      rw [hsum x hx, hzero x hx, zero_add]
    refine ⟨out, hout, hall, htaken, fun hfull x hx => ?_⟩
    rw [htaken x hx, hfull, contribution_gross, sub_zero]

/-! ## A payment over three invoices -/

/-- Nothing outside the tables matters. -/
def plainEnv : PaymentEnv where
  now := 0
  customerBalance := fun _ _ _ => 0
  fingerprint := fun _ => ""

def paidInvoice (id : ℕ) (total : ℚ) : Invoice where
  id
  accountId := 7
  status := .paid
  currency := "NGN"
  subtotal := .store 2 total
  discountAmount := .store 2 0
  taxTotal := .store 2 0
  total := .store 2 total
  balanceDue := .store 2 0
  dueAt := none
  paidAt := some 0
  isProforma := false
  isActive := true
  createdAt := 0
  lines := []
  creditNoteApplications := []
  openingFundingConsumptions := []

def settledPayment : Payment where
  id := 0
  accountId := some 7
  billingAccountId := none
  providerId := none
  amount := .store 2 100
  amount_lt := store_hundred_lt
  refundedAmount := .store 2 0
  currency := "NGN"
  status := .succeeded
  paidAt := some 0
  autoAllocateOnSettlement := true
  splynxPaymentId := none
  isActive := true
  createdAt := 0
  settlement := some {
    unallocatedLedgerEntryId := none
    amount := .store 2 100
    unallocatedAmount := .store 2 0
    prepaidAmount := .store 2 0
    currency := "NGN"
    previewFingerprint := none }
  refunds := []
  reversed := false
  renewalOutcomes := []

def allocation (invoiceId : ℕ) (amount : ℚ) (id : ℕ) : PaymentAllocation where
  id
  paymentId := 0
  invoiceId
  ledgerEntryId := none
  consumptionLedgerEntryId := none
  previewFingerprint := none
  amount := .store 2 amount
  isActive := true

/-- The payment, split over three invoices. -/
def thirds : BillingTables where
  invoices := ((Table.empty.insert (paidInvoice · (3333 / 100)) fun _ => rfl).insert
    (paidInvoice · (3333 / 100)) fun _ => rfl).insert (paidInvoice · (3334 / 100)) fun _ => rfl
  payments := Table.empty.insert (fun i => { settledPayment with id := i }) fun _ => rfl
  allocations := ((Table.empty.insert (allocation 0 (3333 / 100)) fun _ => rfl).insert
    (allocation 1 (3333 / 100)) fun _ => rfl).insert (allocation 2 (3334 / 100)) fun _ => rfl
  ledgerEntries := .empty
  idempotencyKeys := []
  providerEvents := []
  taxRates := []

def manualRefund (amount : Option ℚ) : RefundCommand where
  request := { amount }
  idempotencyKey := "refund-0000000001"
  origin := .manual
  providerEventId := none

lemma refundable_thirds : Refundable thirds settledPayment where
  found := rfl
  isActive := rfl
  accountId := nofun
  status := .inl rfl
  settled := nofun
  ledger := by decide +kernel
  refunded_nonneg := by decide +kernel
  refunded_lt := by decide +kernel
  allocated_nonneg := by decide +kernel
  allocated_le := by decide +kernel
  invoices := by decide +kernel

lemma admissible_thirds {amount : Option ℚ}
    (hpositive : 0 < (manualRefund amount).amount 100 0)
    (hle : (manualRefund amount).amount 100 0 ≤ 100) :
    Admissible thirds settledPayment (manualRefund amount) := by
  have hgross : settledPayment.amount.value = 100 := by decide +kernel
  have hrefunded : settledPayment.refundedAmount.value = 0 := by decide +kernel
  exact {
    positive := by rwa [hgross, hrefunded]
    le := by rwa [hgross, hrefunded, sub_zero]
    origin := fun h => Bool.false_ne_true h.2
    event := ⟨none, rfl, nofun⟩
    unused := nofun
    key := by
      show isSafeKey (strip "refund-0000000001") = true
      decide +kernel
    fresh := rfl }

/-- The payment is refunded at once. -/
theorem refunds_attributed_thirds :
    ∃ out, refunds plainEnv 0 thirds [manualRefund none] = .ok out ∧
      List.Forall₂ Attributed [manualRefund none] out.2 ∧
      (∀ x ∈ allocationByInvoice thirds 0, (out.2.map (attributedTo x.1)).sum
        = x.2 - contribution x.2 settledPayment.amount.value
          (out.2.map (·.refundAmount)).sum) ∧
      ((out.2.map (·.refundAmount)).sum = settledPayment.amount.value →
        ∀ x ∈ allocationByInvoice thirds 0, (out.2.map (attributedTo x.1)).sum = x.2) := by
  have hadm : AllAdmissible plainEnv settledPayment.id thirds [manualRefund none] := by
    refine ⟨fun payment hfound => ?_, fun _ _ => trivial⟩
    obtain rfl := Option.mem_unique hfound refundable_thirds.found
    exact admissible_thirds (by decide +kernel) (by decide +kernel)
  exact (refunds_attributed plainEnv refundable_thirds (by decide +kernel) hadm).mpr
    ⟨by decide +kernel, trivial⟩

/-- **A refund of two cents is refused**: the three shares fall by a cent each. -/
theorem refund_refused : Refundable thirds settledPayment ∧
    Admissible thirds settledPayment (manualRefund (some (2 / 100))) ∧
    buildRefundPreview plainEnv thirds settledPayment (manualRefund (some (2 / 100))).request
        .manual none
      = .error (.httpException 409
        "Payment allocations exceed the refundable payment amount") := by
  refine ⟨refundable_thirds, admissible_thirds (by decide +kernel) (by decide +kernel), ?_⟩
  decide +kernel

end Payments

end DotmacSub
