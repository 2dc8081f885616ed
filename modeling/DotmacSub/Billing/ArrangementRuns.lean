import DotmacSub.Billing.ArrangementBooks

/-!
# Payment arrangements over runs

What every command keeps of the books of an arrangement.
-/

namespace DotmacSub.Arrangements

open Store Gregorian Checked Run

/-- Nothing is paid, and the counter and the dates stay. -/
structure Kept (a a' : PaymentArrangement) : Prop where
  id : a'.id = a.id
  view : a'.view = a.view
  waived : (∀ i ∈ a.installments, i.status ≠ .waived) → ∀ i ∈ a'.installments, i.status ≠ .waived
  same : a'.installmentsTotal = a.installmentsTotal ∧ a'.isActive = a.isActive ∧
    a'.subscriberId = a.subscriberId
  counter : a'.installmentsPaid = a.installmentsPaid
  next : a'.nextDueDate = a.nextDueDate

namespace Kept

variable {a a' a'' : PaymentArrangement} {announced : Option ℕ}

lemma refl (a : PaymentArrangement) : Kept a a := ⟨rfl, rfl, fun h => h, ⟨rfl, rfl, rfl⟩, rfl, rfl⟩

lemma trans (h : Kept a a') (h' : Kept a' a'') : Kept a a'' where
  id := h'.id.trans h.id
  view := h'.view.trans h.view
  waived hall := h'.waived (h.waived hall)
  same := ⟨h'.same.1.trans h.same.1, h'.same.2.1.trans h.same.2.1, h'.same.2.2.trans h.same.2.2⟩
  counter := h'.counter.trans h.counter
  next := h'.next.trans h.next

lemma paidFlags (h : Kept a a') : a'.paidFlags = a.paidFlags := by
  rw [paidFlags_eq_view, paidFlags_eq_view, h.view]

lemma paidCount (h : Kept a a') : a'.paidCount = a.paidCount :=
  congrArg (List.count true) h.paidFlags

lemma length (h : Kept a a') : a'.installments.length = a.installments.length := by
  rw [← length_view, ← length_view, h.view]

lemma sound (h : Kept a a') (hs : Sound a)
    (hpending : a'.status = .pending → ∀ i ∈ a'.installments, i.status = .pending) : Sound a' :=
  hs.of_terms (congrArg (List.map Prod.snd) h.view) ⟨h.same.1, h.same.2.1⟩
    (h.waived fun i hi => (hs.flags.2 i hi).2) hpending

lemma booked (h : Kept a a') (hb : Booked a announced)
    (hcompleted : a'.status = .completed ↔ a.status = .completed)
    (hfrozen : announced.isSome → a'.status = .defaulted ∨ a'.status = .canceled)
    (hdefaulted : a'.status = .defaulted → a.status = .defaulted) : Booked a' announced where
  counted := by rw [h.counter, h.paidCount, hb.counted]
  completed := by rw [hcompleted, h.paidCount, h.length, hb.completed]
  frozen := hfrozen
  defaulted hd := hb.defaulted (hdefaulted hd)

lemma booked_defaulted (h : Kept a a') (hstatus : a'.status = .defaulted) :
    Booked a' (some a.installmentsPaid) where
  counted := h.counter
  completed := by
    rw [hstatus]
    exact iff_of_false nofun fun hall => absurd hall.1 nofun
  frozen _ := .inl hstatus
  defaulted _ := rfl

lemma nextDue (h : Kept a a') (hn : NextDue a)
    (hopen : a'.status = .pending ∨ a'.status = .active →
      a.status = .pending ∨ a.status = .active) : NextDue a' := by
  intro ho
  obtain ⟨k, hk, hflags, hdate⟩ := hn (hopen ho)
  refine ⟨k, h.length ▸ hk, ?_, ?_⟩
  · rw [h.paidFlags, h.length, hflags]
  · rw [h.next, hdate]
    have hterms := congrArg (fun l => (l[k]?).map fun v : Bool × ℚ × Date × Bool => v.2.2.1) h.view
    simp only [PaymentArrangement.view, List.getElem?_map, Option.map_map] at hterms
    exact hterms.symm

end Kept

section Arrangement

variable {a : PaymentArrangement} {announced : Option ℕ} {today : Date} {position : ℕ}

/-- An approval changes at most the status of the first installment, which is not paid. -/
lemma kept_approved (today : Date) (hs : Sound a) (hpending : a.status = .pending) :
    Kept a (a.approved today) := by
  have hall := hs.pending hpending
  refine ⟨rfl, map_modify fun i hget => ?_, waived_modify fun i hwaived => ?_, ⟨rfl, rfl, rfl⟩,
    rfl, rfl⟩
  · have hstatus := hall i (List.mem_of_getElem? hget)
    split_ifs
    · simp [Installment.view, Installment.isPaid, Installment.terms, hstatus]
    · rfl
  · split_ifs
    · intro hdue
      cases hdue
    · exact hwaived

lemma kept_markOverdue (hflag : a.paidFlags[position]? = some false) :
    Kept a (a.markOverdue position) := by
  refine ⟨rfl, map_modify fun i hget => ?_, waived_modify fun _ _ => nofun, ⟨rfl, rfl, rfl⟩,
    rfl, rfl⟩
  obtain ⟨found, hfound, hpaid⟩ := exists_of_flag hflag
  obtain rfl := Option.mem_unique hget hfound
  simp [Installment.view, Installment.isPaid, Installment.terms, hpaid]

lemma kept_promoteAll : Kept a (a.promoteAll today) := by
  refine ⟨rfl, ?_, fun hwaived i hi => ?_, ⟨rfl, rfl, rfl⟩, rfl, rfl⟩
  · rw [PaymentArrangement.view, PaymentArrangement.promoteAll, List.map_map]
    refine List.map_congr_left fun i _ => ?_
    show (if i.isActive then i.promoted today else i).view = i.view
    split_ifs
    · exact view_promoted
    · rfl
  · obtain ⟨before, hbefore, rfl⟩ := List.mem_map.mp hi
    split_ifs
    · exact status_promoted (hwaived before hbefore)
    · exact hwaived before hbefore

end Arrangement

def defaultOf (events : List ArrangementDefaulted) (arrangementId : ℕ) : Option ℕ :=
  (events.find? (·.arrangementId = arrangementId)).map (·.installmentsPaid)

/-- The books of all arrangements, with the defaults that were announced. -/
structure Books (db : ArrangementDb) : Prop where
  sound : ∀ a ∈ db.arrangements.rows, Sound a
  booked : ∀ a ∈ db.arrangements.rows, Booked a (defaultOf db.events a.id)
  known : ∀ e ∈ db.events, e.arrangementId < db.arrangements.next

/-- What a command does to the arrangements: the books are kept, nothing paid is lost, and the next
due dates stay right if it pays in order. -/
structure Advanced (db db' : ArrangementDb) (inOrder : Prop) : Prop where
  books : Books db'
  stays : ∀ a ∈ db.arrangements.rows, ∃ a' ∈ db'.arrangements.rows, a'.id = a.id ∧
    ∀ i : ℕ, a.paidFlags[i]? = some true → a'.paidFlags[i]? = some true
  nextDue : inOrder → (∀ a ∈ db.arrangements.rows, NextDue a) →
    ∀ a' ∈ db'.arrangements.rows, NextDue a'

section Db

variable {db db' : ArrangementDb} {a a' : PaymentArrangement} {inOrder : Prop}
  {request : ArrangementRequest} {dates : List Date} {installmentAmount : ℚ} {arrangementId : ℕ}

lemma defaultOf_eq_none {events : List ArrangementDefaulted}
    (h : ∀ e ∈ events, e.arrangementId ≠ arrangementId) :
    defaultOf events arrangementId = none := by
  rw [defaultOf, List.find?_eq_none.mpr fun e he => by simpa using h e he]
  rfl

lemma books_initial : Books .initial where
  sound _ h := absurd h List.not_mem_nil
  booked _ h := absurd h List.not_mem_nil
  known _ h := absurd h List.not_mem_nil

lemma Books.advanced_refl (h : Books db) (inOrder : Prop) : Advanced db db inOrder :=
  ⟨h, fun a ha => ⟨a, ha, rfl, fun _ hi => hi⟩, fun _ hall => hall⟩

lemma mem_put {row : PaymentArrangement} : row ∈ (db.put a').arrangements.rows ↔
    ∃ before ∈ db.arrangements.rows, (if before.id = a'.id then a' else before) = row :=
  List.mem_map

/-- **Writing an arrangement back** whose books are kept. -/
lemma Books.advanced_put (h : Books db) (ha : a ∈ db.arrangements.rows) (hid : a'.id = a.id)
    (hturn : Turned a a' (defaultOf db.events a.id) inOrder) : Advanced db (db.put a') inOrder := by
  have hself : ∀ row ∈ db.arrangements.rows, row.id = a'.id → row = a :=
    fun row hrow heq => Table.eq_of_id_eq hrow ha (heq.trans hid)
  refine ⟨⟨fun row hrow => ?_, fun row hrow => ?_, h.known⟩, fun row hrow => ?_,
    fun ho hall row hrow => ?_⟩
  · obtain ⟨before, hbefore, rfl⟩ := mem_put.mp hrow
    split_ifs
    · exact hturn.sound
    · exact h.sound before hbefore
  · obtain ⟨before, hbefore, rfl⟩ := mem_put.mp hrow
    split_ifs
    · rw [hid]
      exact hturn.booked
    · exact h.booked before hbefore
  · refine ⟨_, mem_put.mpr ⟨row, hrow, rfl⟩, ?_⟩
    split_ifs with heq
    · obtain rfl := hself row hrow heq
      exact ⟨hid, hturn.stays⟩
    · exact ⟨rfl, fun _ hi => hi⟩
  · obtain ⟨before, hbefore, rfl⟩ := mem_put.mp hrow
    split_ifs with heq
    · exact hturn.nextDue ho (hall a ha)
    · exact hall before hbefore

lemma total_put (ha : a ∈ db.arrangements.rows) (hid : a'.id = a.id) :
    (db.put a').arrangements.total PaymentArrangement.paidTotal =
      db.arrangements.total PaymentArrangement.paidTotal - a.paidTotal + a'.paidTotal := by
  rw [ArrangementDb.put, Table.total_map_of_ne ha fun row _ hne => if_neg (hid ▸ hne),
    if_pos hid.symm]

lemma Books.advanced_approve {today : Date} (h : Books db)
    (hok : db.approve arrangementId today = .ok db') : Advanced db db' inOrder := by
  simp only [ArrangementDb.approve, ArrangementDb.get, bind_eq_ok, pure_eq_ok, ensure_eq_ok,
    orRefuse_eq_ok] at hok
  obtain ⟨a, hget, -, hpending, rfl⟩ := hok
  have ha := (Table.get?_eq_some.mp hget).1
  have hkept := kept_approved today (h.sound a ha) hpending
  have hb := h.booked a ha
  have hnone : defaultOf db.events a.id = none := by
    by_contra hsome
    obtain heq | heq := hb.frozen (Option.ne_none_iff_isSome.mp hsome)
    · exact absurd (hpending.symm.trans heq) nofun
    · exact absurd (hpending.symm.trans heq) nofun
  refine h.advanced_put ha rfl ⟨hkept.sound (h.sound a ha) nofun, hkept.booked hb ?_ ?_ nofun,
    fun i hi => hkept.paidFlags ▸ hi, fun _ hn => hkept.nextDue hn fun _ => .inl hpending⟩
  · rw [hpending]
    exact iff_of_false nofun nofun
  · rw [hnone]
    exact nofun

lemma Books.advanced_cancel {notes : Option String} (h : Books db)
    (hok : db.cancel arrangementId notes = .ok db') : Advanced db db' inOrder := by
  simp only [ArrangementDb.cancel, ArrangementDb.get, bind_eq_ok, pure_eq_ok, ensure_eq_ok,
    orRefuse_eq_ok] at hok
  obtain ⟨a, hget, -, ⟨hcompleted, -⟩, rfl⟩ := hok
  have ha := (Table.get?_eq_some.mp hget).1
  have hkept : Kept a (a.canceled notes) :=
    ⟨rfl, rfl, fun h => h, ⟨rfl, rfl, rfl⟩, rfl, rfl⟩
  refine h.advanced_put ha rfl ⟨hkept.sound (h.sound a ha) nofun,
    hkept.booked (h.booked a ha) ?_ (fun _ => .inr rfl) nofun,
    fun i hi => hkept.paidFlags ▸ hi, fun _ hn => hkept.nextDue hn ?_⟩
  · exact iff_of_false nofun hcompleted
  · intro hopen
    exact absurd hopen (by simp [PaymentArrangement.canceled])

lemma Books.advanced_record {arrangementId position : ℕ} {note : PaymentNote} (h : Books db)
    (hok : db.recordInstallmentPayment arrangementId position note = .ok db')
    (horder : inOrder → ∀ a, db.arrangements.get? arrangementId = some a → a.status = .active →
      a.earliestUnpaid = some position) : Advanced db db' inOrder := by
  simp only [ArrangementDb.recordInstallmentPayment, bind_eq_ok, pure_eq_ok, ensure_eq_ok,
    orRefuse_eq_ok] at hok
  obtain ⟨a, hget, installment, hinstallment, -, hpaid, -, hstatus, rfl⟩ := hok
  have ha := (Table.get?_eq_some.mp hget).1
  have hs := h.sound a ha
  have hb := h.booked a ha
  have hmarked : Marked a (a.markInstallmentPaid position note) position installment :=
    marked_of hinstallment hpaid (hs.flags.2 _ (List.mem_of_getElem? hinstallment)).2
  refine h.advanced_put ha (a.markInstallmentPaid_id position note)
    ⟨hmarked.sound hs ?_, hmarked.booked hs hb hstatus, fun i hi => hmarked.stays hi,
      fun ho hn => hmarked.nextDue hs hb hn (horder ho a hget) hstatus⟩
  rintro hpending
  rw [hpending] at hstatus
  exact absurd hstatus (by decide)

lemma Books.advanced_apply {accountId : ℕ} {amount : ℚ} {paymentId : Option ℕ} {now : ℤ}
    {today : Date} (h : Books db) (inOrder : Prop) :
    Advanced db (db.applyPaymentToArrangement accountId amount paymentId now today).1 inOrder ∧
      (db.applyPaymentToArrangement accountId amount paymentId now today).1.arrangements.total
          PaymentArrangement.paidTotal ≤
        db.arrangements.total PaymentArrangement.paidTotal + max amount 0 := by
  unfold ArrangementDb.applyPaymentToArrangement
  split_ifs with hle
  · exact ⟨h.advanced_refl _, le_add_of_nonneg_right (le_max_right _ _)⟩
  cases hactive : db.activeArrangement accountId with
  | none => exact ⟨h.advanced_refl _, le_add_of_nonneg_right (le_max_right _ _)⟩
  | some a =>
    have ha : a ∈ db.arrangements.rows := List.mem_of_find?_eq_some hactive
    have hstatus : a.status = .active := by
      have hfound := List.find?_some hactive
      simp only [decide_eq_true_eq] at hfound
      exact hfound.2.1
    have hpos : 0 < amount := not_le.mp hle
    obtain ⟨hturn, htotal⟩ := applyLoop_spec
      ⟨paymentId, some "Auto-applied from billing payment", now, today⟩
      (a.installments.length + 1) amount 0 a (h.sound a ha) (h.booked a ha) (.inl hstatus) hpos.le
    have hid : (a.applyPayment amount paymentId now today).2.id = a.id :=
      PaymentArrangement.applyLoop_id _ _ _ _
    refine ⟨h.advanced_put ha hid ⟨hturn.sound, hturn.booked, hturn.stays,
      fun _ => hturn.nextDue trivial⟩, ?_⟩
    rw [total_put ha hid, max_eq_left hpos.le, sub_add_eq_add_sub, sub_le_iff_le_add, add_assoc]
    refine add_le_add_right ?_ _
    rw [add_comm]
    exact htotal

lemma length_newInstallments :
    (newInstallments request installmentAmount dates).length = dates.length := List.length_mapIdx

lemma of_mem_newInstallments {i : Installment}
    (h : i ∈ newInstallments request installmentAmount dates) :
    i.status = .pending ∧ i.isActive = true := by
  obtain ⟨n, hn, rfl⟩ := List.mem_mapIdx.mp h
  exact ⟨rfl, rfl⟩

lemma dueDates_newInstallments :
    (newInstallments request installmentAmount dates).map (·.dueDate) = dates := by
  refine List.ext_getElem? fun i => ?_
  rw [List.getElem?_map, newInstallments, List.getElem?_mapIdx, Option.map_map]
  cases dates[i]? <;> rfl

/-- A pending arrangement with its installments pending has its books in order. -/
lemma turned_new (id : ℕ) (installmentAmount : ℚ) (endDate : Date)
    (hdates : dueDates request.frequency request.startDate.day request.installments
      request.startDate = .ok dates) (hpos : 0 < request.installments) :
    let new : PaymentArrangement := ⟨id, request.subscriberId, request.invoiceId,
      request.totalAmount, installmentAmount, request.frequency, request.installments, 0,
      request.startDate, endDate, some request.startDate, .pending, request.notes, true,
      newInstallments request installmentAmount dates⟩
    Sound new ∧ Booked new none ∧ NextDue new := by
  obtain ⟨hlength, hordered, -, hfirst⟩ := dueDates_spec hdates
  intro new
  have hlen : new.installments.length = request.installments := length_newInstallments.trans hlength
  have hmap : new.installments.map (·.dueDate) = dates := dueDates_newInstallments
  have hflags : new.paidFlags = List.replicate request.installments false := by
    refine List.eq_replicate_iff.mpr ⟨length_paidFlags.trans hlen, fun flag hflag => ?_⟩
    obtain ⟨i, hi, rfl⟩ := List.mem_map.mp hflag
    simp [Installment.isPaid, (of_mem_newInstallments hi).1]
  have hcount : new.paidCount = 0 := by
    rw [PaymentArrangement.paidCount, hflags, List.count_replicate]
    rfl
  refine ⟨⟨hlen, hpos, ?_, ⟨rfl, fun i hi => ?_⟩, fun _ i hi => (of_mem_newInstallments hi).1⟩,
    ⟨hcount.symm, ?_, fun h => ?_, fun h => ?_⟩, fun _ => ⟨0, hlen ▸ hpos, ?_, ?_⟩⟩
  · have hordinals := congrArg (List.map Date.toOrdinal) hmap
    rw [List.map_map] at hordinals
    exact hordinals ▸ hordered
  · refine ⟨(of_mem_newInstallments hi).2, ?_⟩
    rw [(of_mem_newInstallments hi).1]
    intro hwaived
    cases hwaived
  · refine iff_of_false (fun h => ?_) fun hall => ?_
    · cases h
    · rw [hcount, hlen] at hall
      omega
  · cases h
  · cases h
  · rw [hflags, hlen]
    rfl
  · have hget := congrArg List.head? hmap
    rw [hfirst hpos, List.head?_eq_getElem?, List.getElem?_map] at hget
    exact hget.symm

lemma one_lt_bounds (facts : ArrangementFacts) : 1 < (arrangementInstallmentBounds facts).1 := by
  unfold arrangementInstallmentBounds resolveIntSetting
  cases facts.minInstallments with
  | none => exact one_lt_two
  | some value =>
    dsimp only
    omega

lemma Books.advanced_create {facts : ArrangementFacts} (h : Books db)
    (hok : db.create facts request = .ok db') : Advanced db db' inOrder := by
  simp only [ArrangementDb.create, bind_eq_ok, pure_eq_ok, ensure_eq_ok] at hok
  obtain ⟨-, -, -, -, -, hmin, -, -, -, -, -, -, -, -, -, -, endDate, -, dates, hdates, rfl⟩ := hok
  have hpos : 0 < request.installments := by
    have hbounds := one_lt_bounds facts
    omega
  obtain ⟨hsound, hbooked, hnext⟩ := turned_new db.arrangements.next
    (Decimal.quantize Decimal.halfEven 2 (Decimal.div request.totalAmount request.installments))
    endDate hdates hpos
  have hnone : defaultOf db.events db.arrangements.next = none :=
    defaultOf_eq_none fun e he => (h.known e he).ne
  refine ⟨⟨fun row hrow => ?_, fun row hrow => ?_, fun e he => (h.known e he).trans_le
    (Nat.le_succ _)⟩, fun row hrow => ⟨row, Table.mem_insert.mpr (.inl hrow), rfl,
      fun _ hi => hi⟩, fun _ hall row hrow => ?_⟩
  · obtain hold | rfl := Table.mem_insert.mp hrow
    · exact h.sound row hold
    · exact hsound
  · obtain hold | rfl := Table.mem_insert.mp hrow
    · exact h.booked row hold
    · exact hnone ▸ hbooked
  · obtain hold | rfl := Table.mem_insert.mp hrow
    · exact hall row hold
    · exact hnext

end Db

/-- Where the overdue check stands: it touched active arrangements only, and those that are listed
defaulted. -/
structure Checked (db : ArrangementDb) (pass : ArrangementDb.OverduePass) : Prop where
  events : pass.db.events = db.events
  next : pass.db.arrangements.next = db.arrangements.next
  rows : ∀ a ∈ db.arrangements.rows, ∃ a' ∈ pass.db.arrangements.rows, a'.id = a.id
  kept : ∀ a' ∈ pass.db.arrangements.rows, ∃ a ∈ db.arrangements.rows, Kept a a' ∧
    (a.status ≠ .active → a' = a) ∧
    if a'.id ∈ pass.defaulted then a.status = .active ∧ a'.status = .defaulted
    else a'.status = a.status
  defaulted : ∀ i ∈ pass.defaulted, ∃ a' ∈ pass.db.arrangements.rows, a'.id = i
  unflushed : ∀ i ∈ pass.unflushed, i ∈ pass.defaulted

section Check

variable {db : ArrangementDb} {pass : ArrangementDb.OverduePass} {threshold : ℕ} {today : Date}

lemma checked_start : Checked db ⟨db, [], none⟩ where
  events := rfl
  next := rfl
  rows a ha := ⟨a, ha, rfl⟩
  kept a ha := ⟨a, ha, Kept.refl a, fun _ => rfl, by rw [if_neg List.not_mem_nil]⟩
  defaulted _ h := absurd h List.not_mem_nil
  unflushed _ h := absurd h (Option.not_mem_none _)

lemma mem_pastDue {target : ℕ × ℕ} (h : target ∈ db.pastDue today) :
    ∃ a ∈ db.arrangements.rows, a.id = target.1 ∧ a.status = .active ∧
      a.paidFlags[target.2]? = some false := by
  obtain ⟨a, ha, htarget⟩ := List.mem_flatMap.mp h
  obtain ⟨hrow, hfilter⟩ := List.mem_filter.mp ha
  obtain ⟨position, hposition, rfl⟩ := List.mem_map.mp htarget
  have hany := (List.mem_filter.mp hposition).2
  refine ⟨a, hrow, rfl, (of_decide_eq_true hfilter).1, ?_⟩
  rw [PaymentArrangement.paidFlags, List.getElem?_map]
  cases hget : a.installments[position]? with
  | none =>
    rw [hget] at hany
    cases hany
  | some installment =>
    rw [hget] at hany
    have hdue : installment.status = .due := (of_decide_eq_true hany).1
    simp [Installment.isPaid, hdue]

lemma Checked.put {a a' row : PaymentArrangement} {defaulted : List ℕ} {unflushed : Option ℕ}
    (h : Checked db pass) (ha : a ∈ db.arrangements.rows) (hactive : a.status = .active)
    (hkept : Kept a a') (hrow : row ∈ pass.db.arrangements.rows) (hid : row.id = a'.id)
    (hstatus : a'.status = .defaulted ∨ a'.status = .active ∧ a'.id ∉ pass.defaulted)
    (hdefaulted : ∀ i, i ∈ defaulted ↔ i ∈ pass.defaulted ∨ a'.status = .defaulted ∧ i = a'.id)
    (hunflushed : ∀ i ∈ unflushed, i ∈ defaulted) :
    Checked db ⟨pass.db.put a', defaulted, unflushed⟩ := by
  refine ⟨h.events, h.next, fun b hb => ?_, fun b' hb' => ?_, fun i hi => ?_, hunflushed⟩
  · obtain ⟨b', hb', hidb⟩ := h.rows b hb
    refine ⟨_, mem_put.mpr ⟨b', hb', rfl⟩, ?_⟩
    split_ifs with heq
    · exact heq.symm.trans hidb
    · exact hidb
  · obtain ⟨before, hbefore, hrow'⟩ := mem_put.mp hb'
    split_ifs at hrow' with heq <;> subst hrow'
    · refine ⟨a, ha, hkept, fun hne => absurd hactive hne, ?_⟩
      split_ifs with hmem
      · refine ⟨hactive, hstatus.resolve_right fun hstill => ?_⟩
        obtain hold | ⟨hnew, -⟩ := (hdefaulted _).mp hmem
        · exact hstill.2 hold
        · exact absurd (hstill.1.symm.trans hnew) nofun
      · obtain hnew | hstill := hstatus
        · exact absurd ((hdefaulted _).mpr (.inr ⟨hnew, rfl⟩)) hmem
        · exact hstill.1.trans hactive.symm
    · obtain ⟨b, hb, hkeptb, hsame, hstatusb⟩ := h.kept before hbefore
      refine ⟨b, hb, hkeptb, hsame, ?_⟩
      have hiff : before.id ∈ defaulted ↔ before.id ∈ pass.defaulted := by
        rw [hdefaulted]
        exact or_iff_left fun hand => heq hand.2
      simpa only [hiff] using hstatusb
  · obtain hold | ⟨-, rfl⟩ := (hdefaulted i).mp hi
    · obtain ⟨b', hb', hidb⟩ := h.defaulted i hold
      refine ⟨_, mem_put.mpr ⟨b', hb', rfl⟩, ?_⟩
      split_ifs with heq
      · exact heq.symm.trans hidb
      · exact hidb
    · exact ⟨_, mem_put.mpr ⟨row, hrow, rfl⟩, by rw [if_pos hid]⟩

/-- **One installment becomes overdue.** -/
lemma Checked.turn {target : ℕ × ℕ} (h : Checked db pass) {a : PaymentArrangement}
    (ha : a ∈ db.arrangements.rows) (hid : a.id = target.1) (hactive : a.status = .active)
    (hflag : a.paidFlags[target.2]? = some false) :
    Checked db (ArrangementDb.overdueTurn threshold pass target) := by
  unfold ArrangementDb.overdueTurn
  split
  · exact h
  rename_i row hget
  obtain ⟨hrow, hrowId⟩ := Table.get?_eq_some.mp hget
  have hrowTarget : row.id = target.1 := hrowId
  obtain ⟨before, hbefore, hkept, -, hstatus⟩ := h.kept row hrow
  obtain rfl : before = a :=
    Table.eq_of_id_eq hbefore ha (hkept.id.symm.trans (hrowTarget.trans hid.symm))
  have hmarked : Kept before (row.markOverdue target.2) :=
    hkept.trans (kept_markOverdue (hkept.paidFlags ▸ hflag))
  dsimp only
  split_ifs with hdefault
  · have hlast : Kept before { row.markOverdue target.2 with status := .defaulted } :=
      ⟨hmarked.id, hmarked.view, hmarked.waived, hmarked.same, hmarked.counter, hmarked.next⟩
    refine h.put ha hactive hlast hrow rfl (.inl rfl) (fun i => ?_) fun i hi => ?_
    · rw [List.mem_append, List.mem_singleton]
      exact or_congr_right (and_iff_right rfl).symm
    · obtain rfl := Option.some.inj hi
      exact List.mem_append_right _ (List.mem_singleton_self _)
  · have hcase : row.status = .defaulted ∧ row.id ∈ pass.defaulted ∨
        row.status = .active ∧ row.id ∉ pass.defaulted := by
      split_ifs at hstatus with hmem
      · exact .inl ⟨hstatus.2, hmem⟩
      · exact .inr ⟨hstatus.trans hactive, hmem⟩
    refine h.put ha hactive hmarked hrow rfl (hcase.imp And.left id) (fun i => ?_) nofun
    refine (or_iff_left_of_imp ?_).symm
    rintro ⟨hdefaulted, rfl⟩
    obtain hdone | hstill := hcase
    · exact hdone.2
    · exact absurd (hstill.1.symm.trans hdefaulted) nofun

lemma Checked.turns : ∀ (targets : List (ℕ × ℕ)) (pass : ArrangementDb.OverduePass),
    Checked db pass →
    (∀ target ∈ targets, ∃ a ∈ db.arrangements.rows, a.id = target.1 ∧ a.status = .active ∧
      a.paidFlags[target.2]? = some false) →
    Checked db (targets.foldl (ArrangementDb.overdueTurn threshold) pass)
  | [], _, h, _ => h
  | target :: targets, pass, h, htargets => by
    obtain ⟨a, ha, hid, hactive, hflag⟩ := htargets target List.mem_cons_self
    exact Checked.turns targets _ (h.turn ha hid hactive hflag)
      fun other hother => htargets other (List.mem_cons_of_mem _ hother)

lemma mem_defaultedEvents {e : ArrangementDefaulted}
    (h : e ∈ pass.defaulted.flatMap pass.db.defaultedEvent) :
    ∃ a ∈ pass.db.arrangements.rows, a.id ∈ pass.defaulted ∧ e.arrangementId = a.id ∧
      e.installmentsPaid = a.installmentsPaid := by
  obtain ⟨i, hi, he⟩ := List.mem_flatMap.mp h
  obtain ⟨a, ha, rfl⟩ := List.mem_map.mp he
  obtain ⟨hrow, rfl⟩ := Table.get?_eq_some.mp (Option.mem_toList.mp ha)
  exact ⟨a, hrow, hi, rfl, rfl⟩

lemma defaultOf_check {a' : PaymentArrangement} (ha' : a' ∈ pass.db.arrangements.rows) :
    defaultOf (pass.db.events ++ pass.defaulted.flatMap pass.db.defaultedEvent) a'.id =
      (defaultOf pass.db.events a'.id).or
        (if a'.id ∈ pass.defaulted then some a'.installmentsPaid else none) := by
  rw [defaultOf, List.find?_append]
  cases hold : pass.db.events.find? (·.arrangementId = a'.id) with
  | some e => simp [defaultOf, hold]
  | none =>
    rw [defaultOf, hold, Option.none_or, Option.map_none, Option.none_or]
    split_ifs with hmem
    · cases hnew : (pass.defaulted.flatMap pass.db.defaultedEvent).find?
          (·.arrangementId = a'.id) with
      | some e =>
        obtain ⟨a, ha, -, hid, hcounter⟩ := mem_defaultedEvents (List.mem_of_find?_eq_some hnew)
        have he : e.arrangementId = a'.id := by simpa using List.find?_some hnew
        obtain rfl : a = a' := Table.eq_of_id_eq ha ha' (hid.symm.trans he)
        exact congrArg some hcounter
      | none =>
        have hevent : ⟨a'.id, a'.totalAmount, a'.installmentsPaid, a'.installmentsTotal⟩ ∈
            pass.db.defaultedEvent a'.id :=
          List.mem_map.mpr ⟨a', Option.mem_toList.mpr (Table.get?_eq_some.mpr ⟨ha', rfl⟩), rfl⟩
        have hne := List.find?_eq_none.mp hnew _ (List.mem_flatMap.mpr ⟨_, hmem, hevent⟩)
        exact absurd (decide_eq_true rfl) hne
    · refine Option.map_eq_none_iff.mpr (List.find?_eq_none.mpr fun e he => ?_)
      obtain ⟨a, -, hmem', hid, -⟩ := mem_defaultedEvents he
      simpa using fun heq : e.arrangementId = a'.id => hmem ((hid.symm.trans heq) ▸ hmem')

lemma advanced_of_turned {db' : ArrangementDb} {inOrder : Prop}
    (hknown : ∀ e ∈ db'.events, e.arrangementId < db'.arrangements.next)
    (hrows : ∀ a ∈ db.arrangements.rows, ∃ a' ∈ db'.arrangements.rows, a'.id = a.id)
    (hturned : ∀ a' ∈ db'.arrangements.rows, ∃ a ∈ db.arrangements.rows, a'.id = a.id ∧
      Turned a a' (defaultOf db'.events a'.id) inOrder) : Advanced db db' inOrder := by
  refine ⟨⟨fun a' ha' => ?_, fun a' ha' => ?_, hknown⟩, fun a ha => ?_, fun ho hall a' ha' => ?_⟩
  · obtain ⟨_, _, _, hturn⟩ := hturned a' ha'
    exact hturn.sound
  · obtain ⟨_, _, _, hturn⟩ := hturned a' ha'
    exact hturn.booked
  · obtain ⟨a', ha', hid⟩ := hrows a ha
    obtain ⟨b, hb, hidb, hturn⟩ := hturned a' ha'
    obtain rfl : b = a := Table.eq_of_id_eq hb ha (hidb.symm.trans hid)
    exact ⟨a', ha', hid, hturn.stays⟩
  · obtain ⟨b, hb, _, hturn⟩ := hturned a' ha'
    exact hturn.nextDue ho (hall b hb)

lemma Checked.turned {a' a'' : PaymentArrangement} {inOrder : Prop} (today : Date)
    (h : Checked db pass)
    (hbooks : Books db) (ha' : a' ∈ pass.db.arrangements.rows)
    (ha'' : a'' = a' ∨ a'' = a'.promoteAll today ∧
      (a'.status = .active ∨ pass.unflushed = some a'.id)) :
    ∃ a ∈ db.arrangements.rows, a''.id = a.id ∧
      Turned a a'' (defaultOf (pass.db.events ++ pass.defaulted.flatMap pass.db.defaultedEvent)
        a''.id) inOrder := by
  obtain ⟨a, ha, hkept, hsame, hstatus⟩ := h.kept a' ha'
  have hs := hbooks.sound a ha
  have hb := hbooks.booked a ha
  have hkept' : Kept a a'' := by
    obtain rfl | ⟨rfl, -⟩ := ha''
    · exact hkept
    · exact hkept.trans kept_promoteAll
  have hstatus' : a''.status = a'.status := by
    obtain rfl | ⟨rfl, -⟩ := ha''
    · rfl
    · rfl
  have hid : a''.id = a'.id := hkept'.id.trans hkept.id.symm
  have hpending : a''.status = .pending → ∀ i ∈ a''.installments, i.status = .pending := by
    intro hp
    have hp' : a'.status = .pending := hstatus'.symm.trans hp
    have hmem : a'.id ∉ pass.defaulted := fun hmem => by
      rw [if_pos hmem] at hstatus
      exact absurd (hp'.symm.trans hstatus.2) nofun
    rw [if_neg hmem] at hstatus
    have hpa : a.status = .pending := hstatus.symm.trans hp'
    obtain rfl : a' = a := hsame (by rw [hpa]; exact nofun)
    obtain rfl | ⟨-, hactive | hunflushed⟩ := ha''
    · exact hs.pending hpa
    · exact absurd (hpa.symm.trans hactive) nofun
    · exact absurd (h.unflushed _ hunflushed) hmem
  refine ⟨a, ha, hkept'.id, hkept'.sound hs hpending, ?_, fun i hi => hkept'.paidFlags ▸ hi,
    fun _ hn => hkept'.nextDue hn fun hopen => ?_⟩
  · rw [hid, defaultOf_check ha', h.events, hkept.id]
    by_cases hmem : a'.id ∈ pass.defaulted
    · rw [if_pos hmem] at hstatus
      rw [if_pos (hkept.id ▸ hmem), hb.announced_of_active hstatus.1, Option.none_or, hkept.counter]
      exact hkept'.booked_defaulted (hstatus'.trans hstatus.2)
    · rw [if_neg hmem] at hstatus
      have heq : a''.status = a.status := hstatus'.trans hstatus
      rw [if_neg (hkept.id ▸ hmem), Option.or_none]
      exact hkept'.booked hb (by rw [heq]) (by rw [heq]; exact hb.frozen) (by rw [heq]; exact id)
  · rw [hstatus'] at hopen
    split_ifs at hstatus with hmem
    · rw [hstatus.2] at hopen
      exact absurd hopen (by decide)
    · rwa [hstatus] at hopen

lemma Books.advanced_check {inOrder : Prop} (h : Books db) :
    Advanced db (db.checkOverdueInstallments threshold today).1 inOrder := by
  have hchecked : Checked db ((db.pastDue today).foldl (ArrangementDb.overdueTurn threshold)
      ⟨db, [], none⟩) :=
    Checked.turns _ _ checked_start fun target htarget => mem_pastDue htarget
  refine advanced_of_turned (fun e he => ?_) (fun a ha => ?_) fun a'' ha'' => ?_
  · obtain hold | hnew := List.mem_append.mp he
    · exact (h.known e (hchecked.events ▸ hold)).trans_eq hchecked.next.symm
    · obtain ⟨a', ha', -, hid, -⟩ := mem_defaultedEvents hnew
      have hfresh := Table.fresh _ a' ha'
      rw [hid]
      exact hfresh
  · obtain ⟨a', ha', hid⟩ := hchecked.rows a ha
    refine ⟨_, List.mem_map.mpr ⟨a', ha', rfl⟩, ?_⟩
    split_ifs
    · exact hid
    · exact hid
  · obtain ⟨a', ha', rfl⟩ := List.mem_map.mp ha''
    refine hchecked.turned today h ha' ?_
    split_ifs with hfound
    · exact .inr ⟨rfl, (of_decide_eq_true hfound).1⟩
    · exact .inl rfl

end Check

/-- A payment recorded on an active arrangement is for its earliest unpaid installment. -/
def PaysNext (db : ArrangementDb) : ArrangementCommand × Moment → Prop
  | (.recordInstallmentPayment arrangementId position _ _, _) =>
    ∀ a, db.arrangements.get? arrangementId = some a → a.status = .active →
      a.earliestUnpaid = some position
  | _ => True

/-- **One command** keeps the books and loses nothing paid. -/
lemma Books.advanced {db db' : ArrangementDb} {c : ArrangementCommand × Moment} (h : Books db)
    (hok : step db c = .ok db') : Advanced db db' (PaysNext db c) := by
  obtain ⟨command, moment⟩ := c
  cases command with
  | create facts request => exact h.advanced_create hok
  | approve arrangementId => exact h.advanced_approve hok
  | recordInstallmentPayment arrangementId position paymentId notes =>
    exact h.advanced_record hok fun horder => horder
  | applyPayment accountId amount paymentId =>
    obtain rfl := Except.ok.inj hok
    exact (h.advanced_apply _).1
  | checkOverdue threshold =>
    obtain rfl := Except.ok.inj hok
    exact h.advanced_check
  | cancel arrangementId notes => exact h.advanced_cancel hok

lemma books_run (cs : List (ArrangementCommand × Moment)) : Books (run step .initial cs) :=
  invariant_run (fun _ _ _ h hok => (h.advanced hok).books) cs books_initial

/-- The books, and next due dates of payments in order. -/
def Punctual (db : ArrangementDb) : Prop := Books db ∧ ∀ a ∈ db.arrangements.rows, NextDue a

lemma punctual_run {cs : List (ArrangementCommand × Moment)}
    (hg : Guarded step PaysNext .initial cs) : Punctual (run step .initial cs) := by
  refine invariant_guarded (fun db c db' hinv hp hok => ?_) cs _ ⟨books_initial, ?_⟩ hg
  · have hadvanced := hinv.1.advanced hok
    exact ⟨hadvanced.books, hadvanced.nextDue hp hinv.2⟩
  · exact fun _ h => absurd h List.not_mem_nil

lemma NextDue.eq {a : PaymentArrangement} (h : NextDue a) (hactive : a.status = .active) :
    a.nextDueDate =
      (a.earliestUnpaid.bind fun k => a.installments[k]?).map (·.dueDate) := by
  obtain ⟨k, hk, hflags, hdate⟩ := h (.inr hactive)
  rw [PaymentArrangement.earliestUnpaid, hflags, findIdx_replicate (Nat.sub_pos_of_lt hk)]
  exact hdate

/-- **Payment arrangements keep their books.**  The counter is the number of paid installments
until a default freezes it; an arrangement is completed exactly when all is paid and it never
defaulted; nothing paid is lost, and one payment pays at most its amount; and where payments are
recorded in order the next due date is that of the earliest unpaid installment. -/
theorem books_kept (cs : List (ArrangementCommand × Moment)) :
    (∀ a ∈ (run step .initial cs).arrangements.rows,
      a.installmentsPaid = (defaultOf (run step .initial cs).events a.id).getD a.paidCount ∧
      (a.status = .completed ↔ defaultOf (run step .initial cs).events a.id = none ∧
        a.paidCount = a.installments.length) ∧
      (a.status = .defaulted → (defaultOf (run step .initial cs).events a.id).isSome) ∧
      ((defaultOf (run step .initial cs).events a.id).isSome →
        a.status = .defaulted ∨ a.status = .canceled)) ∧
    (∀ c, ∀ a ∈ (run step .initial cs).arrangements.rows,
      ∃ a' ∈ (run step .initial (cs ++ [c])).arrangements.rows, a'.id = a.id ∧
        ∀ i : ℕ, a.paidFlags[i]? = some true → a'.paidFlags[i]? = some true) ∧
    (∀ accountId amount paymentId moment,
      (run step .initial
          (cs ++ [(.applyPayment accountId amount paymentId, moment)])).arrangements.total
            PaymentArrangement.paidTotal ≤
        (run step .initial cs).arrangements.total PaymentArrangement.paidTotal + max amount 0) ∧
    (Guarded step PaysNext .initial cs →
      ∀ a ∈ (run step .initial cs).arrangements.rows, a.status = .active →
        a.nextDueDate =
          (a.earliestUnpaid.bind fun k => a.installments[k]?).map (·.dueDate)) := by
  have hbooks := books_run cs
  refine ⟨fun a ha => ?_, fun c => ?_, fun accountId amount paymentId moment => ?_,
    fun hg a ha => ((punctual_run hg).2 a ha).eq⟩
  · have hb := hbooks.booked a ha
    exact ⟨hb.counted, hb.completed, hb.defaulted, hb.frozen⟩
  · rw [run_append, run_cons, run_nil]
    cases hok : step (run step .initial cs) c with
    | error e =>
      rw [next_of_error hok]
      exact (hbooks.advanced_refl True).stays
    | ok db' =>
      rw [next_of_ok hok]
      exact (hbooks.advanced hok).stays
  · rw [run_append, run_cons, run_nil, next_of_ok rfl]
    exact (hbooks.advanced_apply True).2

def twoInstallments : ArrangementCommand :=
  .create ⟨[7], fun _ => none, none, none, 100⟩ ⟨7, 100, 2, .weekly, Date.ofOrdinal 738886, none, none⟩

def january (day : ℤ) : Moment := ⟨day, Date.ofOrdinal (738885 + day)⟩

/-- The second installment is next once the first one is paid. -/
theorem books_kept_firstPaid :
    ∀ a ∈ (run step .initial [(twoInstallments, january 1), (.approve 0, january 1),
        (.recordInstallmentPayment 0 0 none none, january 2)]).arrangements.rows,
      a.status = .active → a.nextDueDate =
        (a.earliestUnpaid.bind fun k => a.installments[k]?).map (·.dueDate) := by
  refine (books_kept _).2.2.2 ⟨fun _ => trivial, fun _ => trivial, fun _ a hget _ => ?_, trivial⟩
  have hfirst : ∀ a ∈ (run step .initial [(twoInstallments, january 1),
      (.approve 0, january 1)]).arrangements.rows, a.earliestUnpaid = some 0 := by
    decide +kernel
  exact hfirst a (Table.get?_eq_some.mp hget).1

/-- An installment that is paid after the default is not counted. -/
theorem not_counted_lateAfterDefault :
    ¬∀ (cs : List (ArrangementCommand × Moment)),
      ∀ a ∈ (run step .initial cs).arrangements.rows, a.installmentsPaid = a.paidCount := by
  intro h
  have hlate : ¬∀ a ∈ (run step .initial [(twoInstallments, january 1), (.approve 0, january 1),
      (.checkOverdue 1, january 2),
      (.recordInstallmentPayment 0 0 none none, january 3)]).arrangements.rows,
      a.installmentsPaid = a.paidCount := by
    decide +kernel
  exact hlate (h _)

end DotmacSub.Arrangements
