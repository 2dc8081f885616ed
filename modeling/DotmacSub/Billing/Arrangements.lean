import DotmacSub.Core.Checked
import DotmacSub.Core.Decimal
import DotmacSub.Models.PaymentArrangement

/-!
# The commands of payment arrangements

`services/payment_arrangements.py`: an arrangement is created with its schedule, approved, paid by
installments in any order, checked for overdue installments, and canceled.
-/

namespace DotmacSub.Arrangements

open Store Gregorian Checked

/-- The date is out of the range a date can have. -/
def overflowError : DomainError := ⟨"OverflowError", "date value out of range", []⟩

def valueError (message : String) : DomainError := ⟨"ValueError", message, []⟩

def addMonthClamped (currentDate : Date) (anchorDay : ℤ) : Except DomainError Date :=
  let nextYear := if currentDate.month = 12 then currentDate.year + 1 else currentDate.year
  let nextMonth := if currentDate.month = 12 then 1 else currentDate.month + 1
  let lastDay := daysInMonth nextYear nextMonth
  orRefuse (Date.new? nextYear nextMonth (min anchorDay lastDay))
    (valueError "year 10000 is out of range")

def addWeeks (currentDate : Date) (weeks : ℤ) : Except DomainError Date :=
  let date := Date.ofOrdinal (currentDate.toOrdinal + 7 * weeks)
  if date.InRange then .ok date else .error overflowError

def calculateNextDueDate (currentDate : Date) (frequency : PaymentFrequency) (anchorDay : ℤ) :
    Except DomainError Date :=
  match frequency with
  | .weekly => addWeeks currentDate 1
  | .biweekly => addWeeks currentDate 2
  | .monthly => addMonthClamped currentDate anchorDay

def addMonthsClamped (anchorDay : ℤ) : ℕ → Date → Except DomainError Date
  | 0, date => .ok date
  | n + 1, date => do addMonthsClamped anchorDay n (← addMonthClamped date anchorDay)

def calculateEndDate (startDate : Date) (frequency : PaymentFrequency) (installments : ℕ) :
    Except DomainError Date :=
  match frequency with
  | .weekly => addWeeks startDate ((installments : ℤ) - 1)
  | .biweekly => addWeeks startDate (((installments : ℤ) - 1) * 2)
  | .monthly => addMonthsClamped startDate.day (installments - 1) startDate

/-- The due dates of a number of installments; the date after the last one is computed too. -/
def dueDates (frequency : PaymentFrequency) (anchorDay : ℤ) :
    ℕ → Date → Except DomainError (List Date)
  | 0, _ => .ok []
  | n + 1, date => do
    let next ← calculateNextDueDate date frequency anchorDay
    return date :: (← dueDates frequency anchorDay n next)

/-- What a new arrangement is checked against; a setting that is not a number is none. -/
structure ArrangementFacts where
  subscribers : List ℕ
  invoices : ℕ → Option (ℕ × ℚ)
  minInstallments : Option ℤ
  maxInstallments : Option ℤ
  outstanding : ℚ

/-- An integer setting, kept within its bounds. -/
def resolveIntSetting (value : Option ℤ) (default minimum maximum : ℤ) : ℤ :=
  match value with
  | none => default
  | some parsed => min maximum (max minimum parsed)

def arrangementInstallmentBounds (facts : ArrangementFacts) : ℤ × ℤ :=
  let minimum := resolveIntSetting facts.minInstallments 2 2 60
  let maximum := resolveIntSetting facts.maxInstallments 24 minimum 60
  (minimum, max minimum maximum)

structure ArrangementRequest where
  subscriberId : ℕ
  totalAmount : ℚ
  installments : ℕ
  frequency : PaymentFrequency
  startDate : Date
  invoiceId : Option ℕ := none
  notes : Option String := none
deriving DecidableEq

def appendNote (notes note : Option String) : Option String :=
  match note.filter (· ≠ "") with
  | none => notes
  | some note =>
    match notes.filter (· ≠ "") with
    | none => some note
    | some notes => some (notes ++ "\n" ++ note)

def requestedInvoice (facts : ArrangementFacts) (request : ArrangementRequest) :
    Except DomainError (Option (ℕ × ℚ)) :=
  match request.invoiceId with
  | none => .ok none
  | some invoiceId => do
    let (accountId, balance) ← orRefuse (facts.invoices invoiceId)
      (.httpException 404 "Invoice not found")
    ensure (accountId = request.subscriberId)
      (.httpException 400 "Invoice does not belong to this subscriber")
    return some (accountId, balance)

def newInstallments (request : ArrangementRequest) (installmentAmount : ℚ) (dates : List Date) :
    List Installment :=
  let roundingDiff := request.totalAmount - installmentAmount * request.installments
  dates.mapIdx fun i dueDate =>
    ⟨if i = request.installments - 1 then installmentAmount + roundingDiff else installmentAmount,
      dueDate, .pending, none, none, none, true⟩

def exceeds (message : String) (balance : ℚ) : DomainError :=
  ⟨"HTTPException", message, [("status_code", .number 400), ("balance", .number balance)]⟩

namespace ArrangementDb

def openArrangement (db : ArrangementDb) (subscriberId : ℕ) : Option PaymentArrangement :=
  db.arrangements.rows.find? fun arrangement => arrangement.subscriberId = subscriberId ∧
    (arrangement.status = .pending ∨ arrangement.status = .active) ∧ arrangement.isActive

/-- A new arrangement over the balance of an account. -/
def create (db : ArrangementDb) (facts : ArrangementFacts) (request : ArrangementRequest) :
    Except DomainError ArrangementDb := do
  ensure (request.subscriberId ∈ facts.subscribers) (.httpException 404 "Subscriber not found")
  let invoice ← requestedInvoice facts request
  let bounds := arrangementInstallmentBounds facts
  ensure (bounds.1 ≤ request.installments) (.httpException 400
    ("Minimum " ++ toString bounds.1 ++ " installments required"))
  ensure (request.installments ≤ bounds.2) (.httpException 400
    ("Maximum " ++ toString bounds.2 ++ " installments allowed"))
  ensure (0 < request.totalAmount)
    (.httpException 400 "Arrangement amount must be greater than 0")
  let existing := db.openArrangement request.subscriberId
  ensure (existing = none) (.httpException 400 ("Account already has a " ++
    (existing.map (·.status.value)).getD "" ++ " payment arrangement"))
  ensure (∀ found ∈ invoice, request.totalAmount ≤ found.2)
    (exceeds "Arrangement amount exceeds the invoice balance due" ((invoice.map (·.2)).getD 0))
  ensure (request.totalAmount ≤ facts.outstanding)
    (exceeds "Arrangement amount exceeds the account's outstanding balance" facts.outstanding)
  let installmentAmount := Decimal.quantize Decimal.halfEven 2
    (Decimal.div request.totalAmount request.installments)
  let endDate ← calculateEndDate request.startDate request.frequency request.installments
  let dates ← dueDates request.frequency request.startDate.day request.installments
    request.startDate
  return { db with
    arrangements := db.arrangements.insert
      (fun id => ⟨id, request.subscriberId, request.invoiceId, request.totalAmount,
        installmentAmount, request.frequency, request.installments, 0, request.startDate, endDate,
        some request.startDate, .pending, request.notes, true,
        newInstallments request installmentAmount dates⟩)
      fun _ => rfl }

end ArrangementDb

def Installment.Actionable (installment : Installment) : Prop :=
  installment.status = .overdue ∨ installment.status = .due ∨ installment.status = .pending

instance (installment : Installment) : Decidable installment.Actionable :=
  inferInstanceAs (Decidable (_ ∨ _ ∨ _))

def Installment.promoted (installment : Installment) (today : Date) : Installment :=
  if installment.status = .pending ∧ installment.dueDate.toOrdinal ≤ today.toOrdinal then
    { installment with status := .due }
  else installment

structure PaymentNote where
  paymentId : Option ℕ := none
  notes : Option String := none
  now : ℤ
  today : Date
deriving DecidableEq

def Installment.settled (installment : Installment) (note : PaymentNote) : Installment :=
  { installment with
    status := .paid
    paidAt := some note.now
    paymentId := note.paymentId <|> installment.paymentId
    notes := appendNote installment.notes note.notes }

namespace PaymentArrangement

/-- The position of the next unpaid installment a payment should apply to. -/
def nextActionable (arrangement : PaymentArrangement) : Option ℕ :=
  arrangement.installments.findIdx? fun installment =>
    installment.Actionable ∧ installment.isActive

def settle (arrangement : PaymentArrangement) (position : ℕ) (installment : Installment)
    (note : PaymentNote) : PaymentArrangement :=
  { arrangement with
    installments := arrangement.installments.set position (installment.settled note) }

/-- Count a payment of an active arrangement, make the next installment due if its date has come,
and complete the arrangement with the last payment. -/
def advance (arrangement : PaymentArrangement) (position : ℕ) (today : Date) :
    PaymentArrangement :=
  let installmentsPaid := arrangement.installmentsPaid + 1
  let next := arrangement.installments[position + 1]?
  { arrangement with
    installmentsPaid := installmentsPaid
    installments := arrangement.installments.modify (position + 1) (·.promoted today)
    nextDueDate := next.map (·.dueDate)
    status := if arrangement.installmentsTotal ≤ installmentsPaid then .completed
      else arrangement.status }

/-- Mark one installment paid and advance the arrangement; a paid or waived installment stays, and
an arrangement that is not active does not advance. -/
def markInstallmentPaid (arrangement : PaymentArrangement) (position : ℕ) (note : PaymentNote) :
    PaymentArrangement :=
  match arrangement.installments[position]? with
  | none => arrangement
  | some installment =>
    if installment.status = .paid ∨ installment.status = .waived then arrangement
    else if arrangement.status = .active then
      (arrangement.settle position installment note).advance position note.today
    else arrangement.settle position installment note

end PaymentArrangement

lemma PaymentArrangement.markInstallmentPaid_id (arrangement : PaymentArrangement)
    (position : ℕ) (note : PaymentNote) :
    (arrangement.markInstallmentPaid position note).id = arrangement.id := by
  unfold markInstallmentPaid
  split
  · rfl
  · split_ifs <;> rfl

namespace PaymentArrangement

/-- Pay installments in order for as long as what remains covers the next one in full; returns how
many were paid, and the arrangement. -/
def applyLoop (note : PaymentNote) : ℕ → ℚ → ℕ → PaymentArrangement → ℕ × PaymentArrangement
  | 0, _, paidCount, arrangement => (paidCount, arrangement)
  | fuel + 1, remaining, paidCount, arrangement =>
    if 0 < remaining then
      match arrangement.nextActionable.bind fun position =>
          (arrangement.installments[position]?).map (position, ·) with
      | none => (paidCount, arrangement)
      | some (position, installment) =>
        if remaining < installment.amount then (paidCount, arrangement)
        else applyLoop note fuel (remaining - installment.amount) (paidCount + 1)
          (arrangement.markInstallmentPaid position note)
    else (paidCount, arrangement)

/-- A billing payment, applied to the installments in their order. -/
def applyPayment (arrangement : PaymentArrangement) (amount : ℚ) (paymentId : Option ℕ) (now : ℤ)
    (today : Date) : ℕ × PaymentArrangement :=
  applyLoop ⟨paymentId, some "Auto-applied from billing payment", now, today⟩
    (arrangement.installments.length + 1) amount 0 arrangement

lemma applyLoop_id {note : PaymentNote} : ∀ (fuel : ℕ) (remaining : ℚ) (paidCount : ℕ)
    (arrangement : PaymentArrangement),
    (applyLoop note fuel remaining paidCount arrangement).2.id = arrangement.id
  | 0, _, _, _ => rfl
  | fuel + 1, remaining, paidCount, arrangement => by
    unfold applyLoop
    split_ifs
    · split
      · rfl
      · split_ifs
        · rfl
        · rw [applyLoop_id, markInstallmentPaid_id]
    · rfl

def approved (arrangement : PaymentArrangement) (today : Date) : PaymentArrangement :=
  { arrangement with
    status := .active
    installments := arrangement.installments.modify 0 fun first =>
      if first.dueDate.toOrdinal ≤ today.toOrdinal then { first with status := .due } else first }

def canceled (arrangement : PaymentArrangement) (notes : Option String) : PaymentArrangement :=
  { arrangement with
    status := .canceled
    notes := appendNote arrangement.notes notes }

def markOverdue (arrangement : PaymentArrangement) (position : ℕ) : PaymentArrangement :=
  { arrangement with
    installments := arrangement.installments.modify position ({ · with status := .overdue }) }

def overdueCount (arrangement : PaymentArrangement) : ℕ :=
  arrangement.installments.countP (·.status = .overdue)

/-- Make every pending installment due whose date has come. -/
def promoteAll (arrangement : PaymentArrangement) (today : Date) : PaymentArrangement :=
  { arrangement with
    installments := arrangement.installments.map fun installment =>
      if installment.isActive then installment.promoted today else installment }

end PaymentArrangement

namespace ArrangementDb

def put (db : ArrangementDb) (arrangement : PaymentArrangement) : ArrangementDb :=
  { db with
    arrangements := db.arrangements.map
      (fun row => if row.id = arrangement.id then arrangement else row)
      fun row => by
        split_ifs with hid
        · exact hid.symm
        · rfl }

def get (db : ArrangementDb) (arrangementId : ℕ) : Except DomainError PaymentArrangement :=
  orRefuse (db.arrangements.get? arrangementId)
    (.httpException 404 "Payment arrangement not found")

def approve (db : ArrangementDb) (arrangementId : ℕ) (today : Date) :
    Except DomainError ArrangementDb := do
  let arrangement ← db.get arrangementId
  ensure (arrangement.status = .pending) (.httpException 400
    ("Cannot approve arrangement with status " ++ arrangement.status.value))
  return db.put (arrangement.approved today)

/-- A payment of one installment, noted by staff. -/
def recordInstallmentPayment (db : ArrangementDb) (arrangementId position : ℕ)
    (note : PaymentNote) : Except DomainError ArrangementDb := do
  let missing := DomainError.httpException 404 "Installment not found"
  let arrangement ← orRefuse (db.arrangements.get? arrangementId) missing
  let installment ← orRefuse (arrangement.installments[position]?) missing
  ensure (installment.status ≠ .paid) (.httpException 400 "Installment already paid")
  ensure (arrangement.status = .active ∨ arrangement.status = .defaulted) (.httpException 400
    ("Cannot record payment on arrangement with status " ++ arrangement.status.value))
  return db.put (arrangement.markInstallmentPaid position note)

def activeArrangement (db : ArrangementDb) (accountId : ℕ) : Option PaymentArrangement :=
  db.arrangements.rows.find? fun arrangement =>
    arrangement.subscriberId = accountId ∧ arrangement.status = .active ∧ arrangement.isActive

structure AppliedPayment where
  arrangementId : ℕ
  installmentsPaid : ℕ
  arrangementCompleted : Bool
deriving DecidableEq

def applyPaymentToArrangement (db : ArrangementDb) (accountId : ℕ) (amount : ℚ)
    (paymentId : Option ℕ) (now : ℤ) (today : Date) : ArrangementDb × Option AppliedPayment :=
  if amount ≤ 0 then (db, none)
  else
    match db.activeArrangement accountId with
    | none => (db, none)
    | some arrangement =>
      let (paidCount, applied) := arrangement.applyPayment amount paymentId now today
      (db.put applied, some ⟨arrangement.id, paidCount, applied.status = .completed⟩)

def pastDue (db : ArrangementDb) (today : Date) : List (ℕ × ℕ) :=
  (db.arrangements.rows.filter fun row => row.status = .active ∧ row.isActive).flatMap fun row =>
    ((List.range row.installments.length).filter fun position =>
      (row.installments[position]?).any fun installment =>
        installment.status = .due ∧ installment.isActive ∧
          installment.dueDate.toOrdinal < today.toOrdinal).map (row.id, ·)

/-- The state of the overdue pass: the rows, the arrangements that defaulted, and the one whose
default is not flushed yet. -/
structure OverduePass where
  db : ArrangementDb
  defaulted : List ℕ := []
  unflushed : Option ℕ := none

/-- One installment becomes overdue, and with too many of them the arrangement defaults. -/
def overdueTurn (threshold : ℕ) (pass : OverduePass) (target : ℕ × ℕ) : OverduePass :=
  match pass.db.arrangements.get? target.1 with
  | none => pass
  | some row =>
    let marked := row.markOverdue target.2
    if threshold ≤ marked.overdueCount ∧ marked.status = .active then
      ⟨pass.db.put { marked with status := .defaulted }, pass.defaulted ++ [row.id], some row.id⟩
    else ⟨pass.db.put marked, pass.defaulted, none⟩

structure OverdueCounts where
  installmentsMarkedOverdue : ℕ
  installmentsMarkedDue : ℕ
  arrangementsDefaulted : ℕ
deriving DecidableEq

def defaultedEvent (db : ArrangementDb) (arrangementId : ℕ) : List ArrangementDefaulted :=
  (db.arrangements.get? arrangementId).toList.map fun row =>
    ⟨row.id, row.totalAmount, row.installmentsPaid, row.installmentsTotal⟩

def promotable (row : PaymentArrangement) (today : Date) : ℕ :=
  row.installments.countP fun installment => installment.isActive ∧
    installment.status = .pending ∧ installment.dueDate.toOrdinal ≤ today.toOrdinal

/-- Promote and expire installments on active arrangements.  The session does not flush by itself,
so the second pass still finds the arrangement active that defaulted last. -/
def checkOverdueInstallments (db : ArrangementDb) (threshold : ℕ) (today : Date) :
    ArrangementDb × OverdueCounts :=
  let overdue := db.pastDue today
  let pass := overdue.foldl (overdueTurn threshold) ⟨db, [], none⟩
  let found (row : PaymentArrangement) : Bool :=
    (row.status = .active ∨ pass.unflushed = some row.id) ∧ row.isActive
  let promoted := ((pass.db.arrangements.rows.filter found).map (promotable · today)).sum
  let db' : ArrangementDb :=
    { arrangements := pass.db.arrangements.map
        (fun row => if found row then row.promoteAll today else row)
        fun row => by
          split_ifs
          · rfl
          · rfl
      events := pass.db.events ++ pass.defaulted.flatMap (defaultedEvent pass.db) }
  (db', ⟨overdue.length, promoted, pass.defaulted.length⟩)

def cancel (db : ArrangementDb) (arrangementId : ℕ) (notes : Option String) :
    Except DomainError ArrangementDb := do
  let arrangement ← db.get arrangementId
  ensure (arrangement.status ≠ .completed ∧ arrangement.status ≠ .canceled) (.httpException 400
    ("Cannot cancel arrangement with status " ++ arrangement.status.value))
  return db.put (arrangement.canceled notes)

end ArrangementDb

inductive ArrangementCommand
  | create (facts : ArrangementFacts) (request : ArrangementRequest)
  | approve (arrangementId : ℕ)
  | recordInstallmentPayment (arrangementId position : ℕ) (paymentId : Option ℕ)
      (notes : Option String)
  | applyPayment (accountId : ℕ) (amount : ℚ) (paymentId : Option ℕ)
  | checkOverdue (threshold : ℕ)
  | cancel (arrangementId : ℕ) (notes : Option String)

structure Moment where
  now : ℤ
  today : Date
deriving DecidableEq

/-- One command. -/
def step (db : ArrangementDb) : ArrangementCommand × Moment → Except DomainError ArrangementDb
  | (.create facts request, _) => db.create facts request
  | (.approve arrangementId, moment) => db.approve arrangementId moment.today
  | (.recordInstallmentPayment arrangementId position paymentId notes, moment) =>
    db.recordInstallmentPayment arrangementId position ⟨paymentId, notes, moment.now, moment.today⟩
  | (.applyPayment accountId amount paymentId, moment) =>
    .ok (db.applyPaymentToArrangement accountId amount paymentId moment.now moment.today).1
  | (.checkOverdue threshold, moment) =>
    .ok (db.checkOverdueInstallments threshold moment.today).1
  | (.cancel arrangementId notes, _) => db.cancel arrangementId notes

end DotmacSub.Arrangements
