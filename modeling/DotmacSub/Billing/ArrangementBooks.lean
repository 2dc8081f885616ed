import DotmacSub.Billing.Arrangements
import DotmacSub.Core.Run

/-!
# The books of payment arrangements

What an arrangement says of its installments, over every sequence of commands.
-/

namespace DotmacSub.Arrangements

open Store Gregorian Checked Run

section Schedule

variable {date next : Date} {anchorDay : ℤ} {frequency : PaymentFrequency} {dates : List Date}

lemma toOrdinal_addWeeks {weeks : ℤ} (h : addWeeks date weeks = .ok next) :
    next.toOrdinal = date.toOrdinal + 7 * weeks := by
  unfold addWeeks at h
  dsimp only at h
  split_ifs at h
  rw [← Except.ok.inj h, Date.toOrdinal_ofOrdinal]

lemma lt_calculateNextDueDate (h : calculateNextDueDate date frequency anchorDay = .ok next) :
    date.toOrdinal < next.toOrdinal := by
  have hweeks : ∀ weeks : ℤ, 0 < weeks → addWeeks date weeks = .ok next →
      date.toOrdinal < next.toOrdinal := by
    intro weeks hpos hok
    rw [toOrdinal_addWeeks hok]
    omega
  cases frequency with
  | weekly => exact hweeks 1 one_pos h
  | biweekly => exact hweeks 2 two_pos h
  | monthly =>
    obtain ⟨hyear, hmonth, -, -⟩ := Date.new?_eq_some.mp (orRefuse_eq_ok.mp h)
    refine Date.toOrdinal_lt_of_monthIndex_lt ?_
    rw [Date.monthIndex, Date.monthIndex, hyear, hmonth]
    split_ifs <;> omega

/-- **Due dates are in order**, from the start date on. -/
lemma dueDates_spec : ∀ {n : ℕ} {date : Date} {dates : List Date},
    dueDates frequency anchorDay n date = .ok dates →
      dates.length = n ∧ (dates.map Date.toOrdinal).Pairwise (· < ·) ∧
        (∀ later ∈ dates, date.toOrdinal ≤ later.toOrdinal) ∧ (0 < n → dates.head? = some date)
  | 0, date, dates, h => by
    obtain rfl := Except.ok.inj h
    exact ⟨rfl, List.Pairwise.nil, nofun, nofun⟩
  | n + 1, date, dates, h => by
    simp only [dueDates, bind_eq_ok, pure_eq_ok] at h
    obtain ⟨next, hnext, rest, hrest, rfl⟩ := h
    obtain ⟨hlength, hpairwise, hfrom, -⟩ := dueDates_spec hrest
    have hlt := lt_calculateNextDueDate hnext
    refine ⟨by rw [List.length_cons, hlength], ?_, ?_, fun _ => rfl⟩
    · rw [List.map_cons, List.pairwise_cons]
      refine ⟨fun ordinal hmem => ?_, hpairwise⟩
      obtain ⟨later, hlater, rfl⟩ := List.mem_map.mp hmem
      exact hlt.trans_le (hfrom later hlater)
    · rintro later (_ | ⟨_, hlater⟩)
      · exact le_rfl
      · exact hlt.le.trans (hfrom later hlater)

end Schedule

def Installment.isPaid (installment : Installment) : Bool := installment.status = .paid

/-- The columns of an installment that no command writes. -/
def Installment.terms (installment : Installment) : ℚ × Date × Bool :=
  (installment.amount, installment.dueDate, installment.isActive)

/-- Whether an installment is paid, and its terms. -/
def Installment.view (installment : Installment) : Bool × ℚ × Date × Bool :=
  (installment.isPaid, installment.terms)

namespace PaymentArrangement

def view (a : PaymentArrangement) : List (Bool × ℚ × Date × Bool) :=
  a.installments.map Installment.view

def paidFlags (a : PaymentArrangement) : List Bool := a.installments.map Installment.isPaid

def paidCount (a : PaymentArrangement) : ℕ := a.paidFlags.count true

def paidTotal (a : PaymentArrangement) : ℚ :=
  (a.installments.map fun installment => if installment.isPaid then installment.amount else 0).sum

def earliestUnpaid (a : PaymentArrangement) : Option ℕ := a.paidFlags.findIdx? (· = false)

end PaymentArrangement

/-- The schedule is in order and of the length it says, and nothing happens before the approval. -/
structure Sound (a : PaymentArrangement) : Prop where
  length : a.installments.length = a.installmentsTotal
  nonempty : 0 < a.installmentsTotal
  ordered : (a.installments.map fun installment => installment.dueDate.toOrdinal).Pairwise (· < ·)
  flags : a.isActive = true ∧
    ∀ installment ∈ a.installments, installment.isActive = true ∧ installment.status ≠ .waived
  pending : a.status = .pending → ∀ installment ∈ a.installments, installment.status = .pending

/-- The counter and the status agree with the installments; `announced` is the counter a default
was announced with. -/
structure Booked (a : PaymentArrangement) (announced : Option ℕ) : Prop where
  counted : a.installmentsPaid = announced.getD a.paidCount
  completed : a.status = .completed ↔ announced = none ∧ a.paidCount = a.installments.length
  frozen : announced.isSome → a.status = .defaulted ∨ a.status = .canceled
  defaulted : a.status = .defaulted → announced.isSome

/-- The payments came in order, and the next due date is that of the earliest unpaid installment. -/
def NextDue (a : PaymentArrangement) : Prop :=
  a.status = .pending ∨ a.status = .active →
    ∃ k, k < a.installments.length ∧
      a.paidFlags = List.replicate k true ++ List.replicate (a.installments.length - k) false ∧
      a.nextDueDate = (a.installments[k]?).map (·.dueDate)

variable {a : PaymentArrangement} {announced : Option ℕ} {note : PaymentNote} {position : ℕ}
  {installment : Installment} {today : Date}

lemma view_promoted : (installment.promoted today).view = installment.view := by
  unfold Installment.promoted
  split_ifs with h
  · simp [Installment.view, Installment.isPaid, Installment.terms, h.1]
  · rfl

lemma status_promoted (h : installment.status ≠ .waived) :
    (installment.promoted today).status ≠ .waived := by
  unfold Installment.promoted
  split_ifs
  · exact nofun
  · exact h

lemma paidFlags_eq_view : a.paidFlags = a.view.map Prod.fst := by
  simp only [PaymentArrangement.paidFlags, PaymentArrangement.view, List.map_map]
  rfl

lemma length_view : a.view.length = a.installments.length := List.length_map _

lemma length_paidFlags : a.paidFlags.length = a.installments.length := List.length_map _

lemma paidCount_le : a.paidCount ≤ a.installments.length :=
  List.count_le_length.trans_eq length_paidFlags

lemma paidTotal_eq_view : a.paidTotal = (a.view.map fun v => if v.1 then v.2.1 else 0).sum := by
  simp only [PaymentArrangement.paidTotal, PaymentArrangement.view, List.map_map]
  rfl

lemma map_modify {f : Installment → Installment}
    (h : ∀ installment, a.installments[position]? = some installment →
      (f installment).view = installment.view) :
    (a.installments.modify position f).map Installment.view = a.view := by
  refine List.ext_getElem? fun i => ?_
  rw [List.getElem?_map, List.getElem?_modify, PaymentArrangement.view, List.getElem?_map]
  by_cases hi : position = i
  · subst hi
    cases hget : a.installments[position]? with
    | none => simp
    | some installment => simp [h installment hget]
  · simp [hi]

lemma waived_modify {installments : List Installment} {f : Installment → Installment}
    (hf : ∀ i, i.status ≠ .waived → (f i).status ≠ .waived)
    (hall : ∀ i ∈ installments, i.status ≠ .waived) :
    ∀ i ∈ installments.modify position f, i.status ≠ .waived := by
  intro i hi
  obtain ⟨n, hn, rfl⟩ := List.getElem_of_mem hi
  rw [List.length_modify] at hn
  have hmem := hall _ (List.getElem_mem hn)
  rw [List.getElem_modify]
  split_ifs
  · exact hf _ hmem
  · exact hmem

lemma count_set_true {flags : List Bool} (h : flags[position]? = some false) :
    (flags.set position true).count true = flags.count true + 1 := by
  obtain ⟨hlt, hget⟩ := List.getElem?_eq_some_iff.mp h
  rw [List.count_eq_countP, List.countP_set hlt, hget, List.count_eq_countP]
  simp

lemma Booked.announced_of_active (hb : Booked a announced) (hactive : a.status = .active) :
    announced = none := by
  cases announced with
  | none => rfl
  | some counter =>
    obtain heq | heq := hb.frozen rfl
    · exact absurd (hactive.symm.trans heq) nofun
    · exact absurd (hactive.symm.trans heq) nofun

/-- One installment is marked as paid. -/
structure Marked (a a' : PaymentArrangement) (position : ℕ) (installment : Installment) : Prop where
  view : a'.view = a.view.set position (true, installment.terms)
  unpaid : a.view[position]? = some (false, installment.terms)
  waived : (∀ i ∈ a.installments, i.status ≠ .waived) → ∀ i ∈ a'.installments, i.status ≠ .waived
  same : a'.installmentsTotal = a.installmentsTotal ∧ a'.isActive = a.isActive ∧
    a'.subscriberId = a.subscriberId
  counter : a'.installmentsPaid = a.installmentsPaid + if a.status = .active then 1 else 0
  status : a'.status = if a.status = .active ∧ a.installmentsTotal ≤ a.installmentsPaid + 1 then
    .completed else a.status
  next : a.status = .active → a'.nextDueDate = (a.installments[position + 1]?).map (·.dueDate)

/-- **One payment** marks one unpaid installment. -/
lemma marked_of (hget : a.installments[position]? = some installment)
    (hpaid : installment.status ≠ .paid) (hwaived : installment.status ≠ .waived) :
    Marked a (a.markInstallmentPaid position note) position installment := by
  have hlt : position < a.installments.length := (List.getElem?_eq_some_iff.mp hget).1
  have hunpaid : installment.view = (false, installment.terms) := by
    simp [Installment.view, Installment.isPaid, hpaid]
  have hview : (a.settle position installment note).view =
      a.view.set position (true, installment.terms) := List.map_set
  have hwaivedSettle : (∀ i ∈ a.installments, i.status ≠ .waived) →
      ∀ i ∈ (a.settle position installment note).installments, i.status ≠ .waived := by
    intro hall i hi
    obtain hi | rfl := List.mem_or_eq_of_mem_set hi
    · exact hall i hi
    · exact nofun
  have hbefore : a.view[position]? = some (false, installment.terms) := by
    rw [PaymentArrangement.view, List.getElem?_map, hget, Option.map_some, hunpaid]
  rw [PaymentArrangement.markInstallmentPaid, hget]
  dsimp only
  rw [if_neg (by simp [hpaid, hwaived])]
  by_cases hactive : a.status = .active
  · rw [if_pos hactive]
    refine ⟨?_, hbefore, fun hall => ?_, ⟨rfl, rfl, rfl⟩, ?_, ?_, fun _ => ?_⟩
    · exact (map_modify fun _ _ => view_promoted).trans hview
    · exact waived_modify (fun _ => status_promoted) (hwaivedSettle hall)
    · rw [if_pos hactive]
      rfl
    · simp only [hactive, true_and]
      exact if_congr Iff.rfl rfl hactive
    · show ((a.installments.set position _)[position + 1]?).map _ = _
      rw [List.getElem?_set_ne (Nat.succ_ne_self position).symm]
  · rw [if_neg hactive]
    refine ⟨hview, hbefore, hwaivedSettle, ⟨rfl, rfl, rfl⟩, ?_, ?_, fun h => absurd h hactive⟩
    · rw [if_neg hactive]
      rfl
    · rw [if_neg fun h => hactive h.1]
      rfl

namespace Marked

variable {a' : PaymentArrangement}

lemma paidFlags (h : Marked a a' position installment) :
    a'.paidFlags = a.paidFlags.set position true := by
  rw [paidFlags_eq_view, h.view, List.map_set, ← paidFlags_eq_view]

lemma flag (h : Marked a a' position installment) : a.paidFlags[position]? = some false := by
  rw [paidFlags_eq_view, List.getElem?_map, h.unpaid]
  rfl

lemma paidCount (h : Marked a a' position installment) : a'.paidCount = a.paidCount + 1 := by
  rw [PaymentArrangement.paidCount, h.paidFlags, count_set_true h.flag]
  rfl

lemma length (h : Marked a a' position installment) :
    a'.installments.length = a.installments.length := by
  rw [← length_view, h.view, List.length_set, length_view]

lemma paidTotal (h : Marked a a' position installment) :
    a'.paidTotal = a.paidTotal + installment.amount := by
  obtain ⟨hlt, hget⟩ := List.getElem?_eq_some_iff.mp h.unpaid
  rw [paidTotal_eq_view, h.view, List.map_set, List.sum_set', ← paidTotal_eq_view,
    dif_pos (by rwa [List.length_map])]
  simp [hget, Installment.terms]

lemma terms (h : Marked a a' position installment) :
    a'.view.map Prod.snd = a.view.map Prod.snd := by
  obtain ⟨hlt, hget⟩ := List.getElem?_eq_some_iff.mp h.unpaid
  rw [h.view, List.map_set]
  refine List.ext_getElem? fun i => ?_
  by_cases hi : position = i
  · subst hi
    rw [List.getElem?_set_self (by rwa [List.length_map]), List.getElem?_map, h.unpaid]
    rfl
  · rw [List.getElem?_set_ne hi]

end Marked

lemma Sound.of_terms {a' : PaymentArrangement} (h : Sound a)
    (hterms : a'.view.map Prod.snd = a.view.map Prod.snd)
    (hsame : a'.installmentsTotal = a.installmentsTotal ∧ a'.isActive = a.isActive)
    (hwaived : ∀ i ∈ a'.installments, i.status ≠ .waived)
    (hpending : a'.status = .pending → ∀ i ∈ a'.installments, i.status = .pending) :
    Sound a' := by
  have hproject : ∀ {β : Type} (f : ℚ × Date × Bool → β),
      a'.installments.map (f ∘ Installment.terms) = a.installments.map (f ∘ Installment.terms) := by
    intro β f
    have hmap := congrArg (List.map f) hterms
    simp only [PaymentArrangement.view, List.map_map] at hmap
    exact hmap
  have hlength : a'.installments.length = a.installments.length := by
    simpa using congrArg List.length (hproject id)
  refine ⟨hlength.trans (h.length.trans hsame.1.symm), hsame.1 ▸ h.nonempty, ?_, ?_, hpending⟩
  · have hdates : (a'.installments.map fun i => i.dueDate.toOrdinal) =
        a.installments.map fun i => i.dueDate.toOrdinal := hproject fun t => t.2.1.toOrdinal
    rw [hdates]
    exact h.ordered
  · refine ⟨hsame.2.trans h.flags.1, fun i hi => ⟨?_, hwaived i hi⟩⟩
    have hactive : (a'.installments.map fun i => i.isActive) =
        a.installments.map fun i => i.isActive := hproject fun t => t.2.2
    have hmem : i.isActive ∈ a.installments.map fun i => i.isActive := by
      rw [← hactive]
      exact List.mem_map_of_mem hi
    obtain ⟨before, hbefore, heq⟩ := List.mem_map.mp hmem
    rw [← heq]
    exact (h.flags.2 before hbefore).1

namespace Marked

variable {a' : PaymentArrangement}

lemma sound (h : Marked a a' position installment) (hs : Sound a) (hne : a.status ≠ .pending) :
    Sound a' := by
  refine hs.of_terms h.terms ⟨h.same.1, h.same.2.1⟩ (h.waived fun i hi => (hs.flags.2 i hi).2) ?_
  intro hpending
  rw [h.status] at hpending
  split_ifs at hpending
  exact absurd hpending hne

lemma booked (h : Marked a a' position installment) (hs : Sound a) (hb : Booked a announced)
    (hstatus : a.status = .active ∨ a.status = .defaulted) : Booked a' announced := by
  have hle : a'.paidCount ≤ a'.installments.length := paidCount_le
  have hlength := h.length
  have hcount := h.paidCount
  have hcounter := h.counter
  have hnew := h.status
  have htotal := hs.length
  rcases hstatus with hactive | hdefaulted
  · obtain rfl := hb.announced_of_active hactive
    have hcounted : a.installmentsPaid = a.paidCount := hb.counted
    rw [if_pos hactive] at hcounter
    simp only [hactive, true_and] at hnew
    refine ⟨?_, ?_, nofun, fun heq => ?_⟩
    · rw [hcounter, hcounted, ← hcount]
      rfl
    · rw [hnew]
      split_ifs with hlast
      · refine iff_of_true rfl ⟨rfl, ?_⟩
        omega
      · refine iff_of_false nofun fun hall => hlast ?_
        omega
    · rw [hnew] at heq
      split_ifs at heq
  · obtain ⟨counter, rfl⟩ := Option.isSome_iff_exists.mp (hb.defaulted hdefaulted)
    have hne : a.status ≠ .active := by
      rw [hdefaulted]
      exact nofun
    rw [if_neg hne] at hcounter
    rw [if_neg fun hand => hne hand.1, hdefaulted] at hnew
    refine ⟨hcounter.trans hb.counted, ?_, fun _ => .inl hnew, fun _ => rfl⟩
    rw [hnew]
    exact iff_of_false nofun fun hall => absurd hall.1 nofun

lemma stays (h : Marked a a' position installment) {i : ℕ} (hi : a.paidFlags[i]? = some true) :
    a'.paidFlags[i]? = some true := by
  rw [h.paidFlags]
  by_cases heq : position = i
  · subst heq
    exact absurd (h.flag.symm.trans hi) nofun
  · rwa [List.getElem?_set_ne heq]

end Marked

lemma findIdx_replicate {k m : ℕ} (hm : 0 < m) :
    (List.replicate k true ++ List.replicate m false).findIdx? (· = false) = some k := by
  obtain ⟨n, rfl⟩ : ∃ n, m = n + 1 := ⟨m - 1, by omega⟩
  induction k with
  | zero => simp [List.replicate_succ, List.findIdx?_cons]
  | succ k ih =>
    rw [List.replicate_succ, List.cons_append, List.findIdx?_cons, ih]
    rfl

lemma set_replicate {k m : ℕ} :
    (List.replicate k true ++ List.replicate (m + 1) false).set k true =
      List.replicate (k + 1) true ++ List.replicate m false := by
  induction k with
  | zero => rfl
  | succ k ih =>
    rw [List.replicate_succ, List.cons_append, List.set_cons_succ, ih]
    rfl

/-- **The next due date stays right** as long as the payments are in order. -/
lemma Marked.nextDue {a' : PaymentArrangement} (h : Marked a a' position installment)
    (hs : Sound a) (hb : Booked a announced) (hn : NextDue a)
    (horder : a.status = .active → a.earliestUnpaid = some position)
    (hstatus : a.status = .active ∨ a.status = .defaulted) : NextDue a' := by
  intro hopen
  have hnew := h.status
  have hactive : a.status = .active := by
    obtain hactive | hdefaulted := hstatus
    · exact hactive
    · rw [hdefaulted, if_neg fun hand => absurd hand.1 nofun] at hnew
      rw [hnew] at hopen
      exact absurd hopen (by decide)
  simp only [hactive, true_and] at hnew
  split_ifs at hnew with hlast
  · rw [hnew] at hopen
    exact absurd hopen (by decide)
  obtain ⟨k, hk, hflags, -⟩ := hn (.inr hactive)
  obtain rfl : k = position := by
    have hfirst := horder hactive
    rw [PaymentArrangement.earliestUnpaid, hflags,
      findIdx_replicate (Nat.sub_pos_of_lt hk)] at hfirst
    exact Option.some.inj hfirst
  have hcounted : a.installmentsPaid = k := by
    have hnone := hb.announced_of_active hactive
    subst hnone
    refine hb.counted.trans ?_
    show a.paidFlags.count true = k
    rw [hflags, List.count_append, List.count_replicate, List.count_replicate]
    simp
  have hlength := h.length
  have htotal := hs.length
  refine ⟨k + 1, by omega, ?_, ?_⟩
  · rw [h.paidFlags, hflags, hlength,
      show a.installments.length - k = a.installments.length - (k + 1) + 1 by omega,
      set_replicate]
  · rw [h.next hactive]
    have hdates := congrArg (fun l => (l[k + 1]?).map fun t : ℚ × Date × Bool => t.2.1) h.terms
    simp only [PaymentArrangement.view, List.map_map, List.getElem?_map, Option.map_map] at hdates
    exact hdates.symm

lemma findIdx?_congr_mem {α : Type} {p q : α → Bool} :
    ∀ {l : List α}, (∀ x ∈ l, p x = q x) → l.findIdx? p = l.findIdx? q
  | [], _ => rfl
  | x :: l, h => by
    rw [List.findIdx?_cons, List.findIdx?_cons, h x List.mem_cons_self,
      findIdx?_congr_mem fun y hy => h y (List.mem_cons_of_mem x hy)]

lemma nextActionable_eq (hs : Sound a) : a.nextActionable = a.earliestUnpaid := by
  rw [PaymentArrangement.nextActionable, PaymentArrangement.earliestUnpaid,
    PaymentArrangement.paidFlags, List.findIdx?_map]
  refine findIdx?_congr_mem fun i hi => ?_
  obtain ⟨hactive, hwaived⟩ := hs.flags.2 i hi
  cases hstatus : i.status with
  | waived => exact absurd hstatus hwaived
  | _ => simp [Installment.Actionable, Installment.isPaid, hstatus, hactive]

lemma exists_of_flag (h : a.paidFlags[position]? = some false) :
    ∃ installment, a.installments[position]? = some installment ∧ installment.status ≠ .paid := by
  rw [PaymentArrangement.paidFlags, List.getElem?_map] at h
  obtain ⟨installment, hget, hfalse⟩ := Option.map_eq_some_iff.mp h
  exact ⟨installment, hget, of_decide_eq_false hfalse⟩

lemma earliestUnpaid_of_completed (hb : Booked a announced) (h : a.status = .completed) :
    a.earliestUnpaid = none := by
  obtain ⟨-, hall⟩ := hb.completed.mp h
  rw [← length_paidFlags, PaymentArrangement.paidCount, List.count_eq_length] at hall
  rw [PaymentArrangement.earliestUnpaid, List.findIdx?_eq_none_iff]
  intro flag hflag
  rw [← hall flag hflag]
  rfl

/-- What a command does to an arrangement: the books are kept, and what was paid stays paid. -/
structure Turned (a a' : PaymentArrangement) (announced : Option ℕ) (inOrder : Prop) : Prop where
  sound : Sound a'
  booked : Booked a' announced
  stays : ∀ i : ℕ, a.paidFlags[i]? = some true → a'.paidFlags[i]? = some true
  nextDue : inOrder → NextDue a → NextDue a'

lemma applyLoop_turn (note : PaymentNote) (remaining : ℚ) (paidCount : ℕ)
    (a : PaymentArrangement) :
    (∀ fuel, a.applyLoop note (fuel + 1) remaining paidCount = (paidCount, a)) ∨
      ∃ position installment, a.nextActionable = some position ∧
        a.installments[position]? = some installment ∧ installment.amount ≤ remaining ∧
        ∀ fuel, a.applyLoop note (fuel + 1) remaining paidCount =
          (a.markInstallmentPaid position note).applyLoop note fuel
            (remaining - installment.amount) (paidCount + 1) := by
  simp only [PaymentArrangement.applyLoop]
  split_ifs
  · split
    · exact .inl fun _ => rfl
    · rename_i position installment hnext
      obtain ⟨k, hposition, hmap⟩ := Option.bind_eq_some_iff.mp hnext
      obtain ⟨found, hget, heq⟩ := Option.map_eq_some_iff.mp hmap
      obtain ⟨rfl, rfl⟩ := Prod.mk.inj heq
      split_ifs with hless
      · exact .inl fun _ => rfl
      · exact .inr ⟨_, _, hposition, hget, not_lt.mp hless, fun _ => rfl⟩
  · exact .inl fun _ => rfl

lemma marked_of_nextActionable (note : PaymentNote) (hnext : a.nextActionable = some position)
    (hget : a.installments[position]? = some installment) :
    Marked a (a.markInstallmentPaid position note) position installment := by
  obtain ⟨hlt, hfound, -⟩ := List.findIdx?_eq_some_iff_getElem.mp hnext
  obtain rfl : a.installments[position] = installment :=
    Option.mem_unique (List.getElem?_eq_getElem hlt) hget
  have hactionable : (a.installments[position]).Actionable := (of_decide_eq_true hfound).1
  refine marked_of hget (fun hpaid => ?_) fun hwaived => ?_
  · simp [Installment.Actionable, hpaid] at hactionable
  · simp [Installment.Actionable, hwaived] at hactionable

/-- **The loop ends by itself**: beyond one turn for each unpaid installment, more turns change
nothing. -/
theorem applyLoop_succ : ∀ (fuel : ℕ) (remaining : ℚ) (paidCount : ℕ) (a : PaymentArrangement),
    a.installments.length < fuel + a.paidCount →
    a.applyLoop note (fuel + 1) remaining paidCount = a.applyLoop note fuel remaining paidCount
  | 0, _, _, a, hlt => by
    have hle : a.paidCount ≤ a.installments.length := paidCount_le
    omega
  | fuel + 1, remaining, paidCount, a, hlt => by
    obtain hstop | ⟨position, installment, hnext, hget, -, hturn⟩ :=
      applyLoop_turn note remaining paidCount a
    · rw [hstop, hstop]
    · rw [hturn, hturn]
      have hmarked := marked_of_nextActionable note hnext hget
      refine applyLoop_succ fuel _ _ _ ?_
      rw [hmarked.length, hmarked.paidCount]
      omega

/-- More fuel than a payment is applied with pays no more installments: the loop has ended. -/
theorem applyLoop_add (remaining : ℚ) (paidCount : ℕ) (a : PaymentArrangement) :
    ∀ more, a.applyLoop note (a.installments.length + 1 + more) remaining paidCount =
      a.applyLoop note (a.installments.length + 1) remaining paidCount
  | 0 => rfl
  | more + 1 =>
    (applyLoop_succ (a.installments.length + 1 + more) remaining paidCount a (by omega)).trans
      (applyLoop_add remaining paidCount a more)

/-- **One payment is applied** to installments of at most its amount, in order. -/
theorem applyLoop_spec (note : PaymentNote) :
    ∀ (fuel : ℕ) (remaining : ℚ) (paidCount : ℕ) (a : PaymentArrangement),
    Sound a → Booked a announced → a.status = .active ∨ a.status = .completed → 0 ≤ remaining →
    Turned a (a.applyLoop note fuel remaining paidCount).2 announced True ∧
      (a.applyLoop note fuel remaining paidCount).2.paidTotal ≤ a.paidTotal + remaining
  | 0, remaining, _, a, hs, hb, _, hr => by
    exact ⟨⟨hs, hb, fun _ hi => hi, fun _ => id⟩, le_add_of_nonneg_right hr⟩
  | fuel + 1, remaining, paidCount, a, hs, hb, hopen, hr => by
    obtain hstop | ⟨position, installment, hnext, hget, hcovered, hturn⟩ :=
      applyLoop_turn note remaining paidCount a
    · rw [hstop]
      exact ⟨⟨hs, hb, fun _ hi => hi, fun _ => id⟩, le_add_of_nonneg_right hr⟩
    have hmarked : Marked a (a.markInstallmentPaid position note) position installment :=
      marked_of_nextActionable note hnext hget
    rw [nextActionable_eq hs] at hnext
    have hactive : a.status = .active := by
      refine hopen.resolve_right fun hcompleted => ?_
      exact absurd ((earliestUnpaid_of_completed hb hcompleted).symm.trans hnext) nofun
    have hstatus : (a.markInstallmentPaid position note).status = .active ∨
        (a.markInstallmentPaid position note).status = .completed := by
      rw [hmarked.status]
      split_ifs
      · exact .inr rfl
      · exact .inl hactive
    have hsound := hmarked.sound hs (by rw [hactive]; exact nofun)
    obtain ⟨hrest, htotal⟩ := applyLoop_spec note fuel (remaining - installment.amount)
      (paidCount + 1) _ hsound (hmarked.booked hs hb (.inl hactive)) hstatus
      (sub_nonneg.mpr hcovered)
    rw [hturn]
    refine ⟨⟨hrest.sound, hrest.booked, fun i hi => hrest.stays i (hmarked.stays hi),
      fun _ hn => hrest.nextDue trivial ?_⟩, htotal.trans_eq ?_⟩
    · exact hmarked.nextDue hs hb hn (fun _ => hnext) (.inl hactive)
    · rw [hmarked.paidTotal]
      ring

end DotmacSub.Arrangements
