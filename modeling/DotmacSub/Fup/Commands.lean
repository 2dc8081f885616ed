import DotmacSub.Models.Fup

/-!
# Commands of the rule owner

The owner commands of `services/fup.py`.  A command reads the committed rows and decides what it
writes and which rows it holds (`prepare`); its writes reach the tables when it commits
(`Change.apply`).
-/

namespace DotmacSub.Fup

open Store Checked Text

/-- Stable failure of the policy and rule owner. -/
def error (suffix message : String) : DomainError :=
  ⟨"access.fup_rule_engine." ++ suffix, message, []⟩

structure FupPolicySettings where
  trafficDaysOfWeek : Option (List ℤ) := none
  onlineDaysOfWeek : Option (List ℤ) := none
  isActive : Bool := true

structure FupRuleSpec where
  name : String
  consumptionPeriod : String
  direction : String
  thresholdAmount : ℚ
  thresholdUnit : String
  action : String
  speedReductionPercent : Option ℚ := none
  sortOrder : Option ℤ := none
  timeStart : Option ℕ := none
  timeEnd : Option ℕ := none
  enabledByRuleId : Option ℕ := none
  cooldownMinutes : ℤ := 0
  daysOfWeek : Option (List ℤ) := none
  isActive : Bool := true

structure FupRulePatch where
  updatedFields : Finset String
  name : Option String := none
  consumptionPeriod : Option String := none
  direction : Option String := none
  thresholdAmount : Option ℚ := none
  thresholdUnit : Option String := none
  action : Option String := none
  speedReductionPercent : Option ℚ := none
  sortOrder : Option ℤ := none
  timeStart : Option ℕ := none
  timeEnd : Option ℕ := none
  enabledByRuleId : Option ℕ := none
  cooldownMinutes : Option ℤ := none
  daysOfWeek : Option (List ℤ) := none
  isActive : Option Bool := none

inductive Command
  | ensurePolicy (offerId : ℕ)
  | updatePolicy (offerId : ℕ) (settings : FupPolicySettings)
  | addRule (offerId : ℕ) (spec : FupRuleSpec)
  | updateRule (ruleId : ℕ) (patch : FupRulePatch)
  | deleteRule (ruleId : ℕ)
  | cloneRules (sourceOfferId targetOfferId : ℕ)

def consumptionPeriods : List (String × FupConsumptionPeriod) :=
  [("monthly", .monthly), ("daily", .daily), ("weekly", .weekly)]

def directions : List (String × FupDirection) :=
  [("up", .up), ("down", .down), ("up_down", .upDown)]

def dataUnits : List (String × FupDataUnit) := [("mb", .mb), ("gb", .gb), ("tb", .tb)]

def actions : List (String × FupAction) :=
  [("reduce_speed", .reduceSpeed), ("block", .block), ("notify", .notify)]

def enum {α : Type} (members : List (String × α)) (label value : String) : Except DomainError α :=
  orRefuse (members.lookup value) (error "invalid_rule" ("Invalid " ++ label ++ "."))

def validateDays (days : Option (List ℤ)) : Except DomainError (Option (List ℤ)) := do
  ensure (∀ list ∈ days, ∀ day ∈ list, 0 ≤ day ∧ day ≤ 6)
    (error "invalid_rule" "FUP days must be between 0 and 6.")
  return days.map fun list => list.dedup.insertionSort (· ≤ ·)

def validateSpec (spec : FupRuleSpec) : Except DomainError Unit := do
  ensure (strip spec.name ≠ "") (error "invalid_rule" "FUP rule name is required.")
  ensure (0 < spec.thresholdAmount) (error "invalid_rule" "FUP threshold must be positive.")
  ensure (∀ order ∈ spec.sortOrder, 0 ≤ order)
    (error "invalid_rule" "FUP sort order cannot be negative.")
  ensure (0 ≤ spec.cooldownMinutes) (error "invalid_rule" "FUP cooldown cannot be negative.")
  ensure (∀ percent ∈ spec.speedReductionPercent, 0 < percent ∧ percent < 100)
    (error "invalid_rule" "FUP speed reduction must be between 1 and 99 percent.")
  let _ ← validateDays spec.daysOfWeek

def offer (db : FupDb) (offerId : ℕ) : Except DomainError CatalogOffer :=
  orRefuse (db.offers.get? offerId) (error "offer_not_found" "Catalog offer not found.")

def rule (db : FupDb) (ruleId : ℕ) : Except DomainError FupRule :=
  orRefuse (db.rules.get? ruleId) (error "rule_not_found" "FUP rule not found.")

def ensurePolicy (db : FupDb) (offerId : ℕ) : FupDb × FupPolicy :=
  match db.policyByOffer offerId with
  | some policy => (db, policy)
  | none =>
    let policy : ℕ → FupPolicy := fun id => ⟨id, offerId, none, none, true⟩
    ({ db with policies := db.policies.insert policy (fun _ => rfl) }, policy db.policies.next)

/-- The rule that must fire first, if it may. -/
def resolvePrerequisite (db : FupDb) (policyId : ℕ) (ruleId excludingRuleId : Option ℕ) :
    Except DomainError (Option ℕ) :=
  match ruleId with
  | none => return none
  | some ruleId => do
    let prerequisite ← rule db ruleId
    ensure (prerequisite.policyId = policyId ∧ some prerequisite.id ≠ excludingRuleId)
      (error "invalid_rule_chain" "FUP prerequisite must be another rule in the same policy.")
    return some prerequisite.id

/-- The families whose product definition is a volume bound. -/
def fupRequiredFamilies : List String := ["home_flex"]

def saleRequiresSpeedReduction (offer : CatalogOffer) : Bool :=
  offer.availableForServices ∧ offer.planFamily.getD "" ∈ fupRequiredFamilies

def activeSpeedReductionRuleIds (db : FupDb) (offerId : ℕ) : List ℕ :=
  (db.rules.rows.filter fun rule => rule.Enforcing ∧ ∃ policy ∈ db.policies.rows,
    policy.id = rule.policyId ∧ policy.offerId = offerId ∧ policy.isActive = true).map FupRule.id

/-- Refuse to strip the last enforcing rule from an offer that is on sale. -/
def assertNotLastEnforcingRule (db : FupDb) (rule : FupRule) (verb : String) :
    Except DomainError Unit :=
  if ¬ rule.Enforcing then return ()
  else match db.policies.get? rule.policyId with
  | none => return ()
  | some policy =>
    if policy.isActive = false then return ()
    else match db.offers.get? policy.offerId with
    | none => return ()
    | some offer =>
      if saleRequiresSpeedReduction offer = false then return ()
      else ensure ((activeSpeedReductionRuleIds db policy.offerId).filter (· ≠ rule.id) ≠ [])
        (error "last_enforcing_rule" ("Cannot " ++ verb ++ " the only speed-reduction rule on a " ++
          offer.planFamily.getD "" ++ " offer that is available for sale. Withdraw the " ++
          "offer from sale first, or add a replacement rule."))

structure RuleUpdate where
  name : Option String := none
  sortOrder : Option ℤ := none
  consumptionPeriod : Option FupConsumptionPeriod := none
  direction : Option FupDirection := none
  thresholdAmount : Option ℚ := none
  thresholdUnit : Option FupDataUnit := none
  action : Option FupAction := none
  speedReductionPercent : Option (Option ℚ) := none
  timeStart : Option (Option ℕ) := none
  timeEnd : Option (Option ℕ) := none
  enabledByRuleId : Option (Option ℕ) := none
  cooldownMinutes : Option ℤ := none
  daysOfWeek : Option (Option (List ℤ)) := none
  isActive : Option Bool := none

def RuleUpdate.apply (update : RuleUpdate) (rule : FupRule) : FupRule :=
  { rule with
    name := update.name.getD rule.name
    sortOrder := update.sortOrder.getD rule.sortOrder
    consumptionPeriod := update.consumptionPeriod.getD rule.consumptionPeriod
    direction := update.direction.getD rule.direction
    thresholdAmount := update.thresholdAmount.getD rule.thresholdAmount
    thresholdUnit := update.thresholdUnit.getD rule.thresholdUnit
    action := update.action.getD rule.action
    speedReductionPercent := update.speedReductionPercent.getD rule.speedReductionPercent
    timeStart := update.timeStart.getD rule.timeStart
    timeEnd := update.timeEnd.getD rule.timeEnd
    enabledByRuleId := update.enabledByRuleId.getD rule.enabledByRuleId
    cooldownMinutes := update.cooldownMinutes.getD rule.cooldownMinutes
    daysOfWeek := update.daysOfWeek.getD rule.daysOfWeek
    isActive := update.isActive.getD rule.isActive }

/-- The writes of one command.  The rules of a clone name their prerequisites by position. -/
inductive Change
  | ensurePolicy (offerId : ℕ)
  | updatePolicy (offerId : ℕ) (settings : FupPolicySettings)
  | addRule (offerId : ℕ) (fields : RuleFields)
  | updateRule (ruleId : ℕ) (update : RuleUpdate)
  | deleteRule (ruleId : ℕ)
  | cloneRules (offerId : ℕ) (rows : List RuleFields)

def insertRule (db : FupDb) (policyId : ℕ) (fields : RuleFields) : FupDb :=
  { db with rules := db.rules.insert (fun id => ⟨fields, id, policyId⟩) (fun _ => rfl) }

/-- A new rule of a policy whose prerequisite is named by its position among the new rows. -/
def insertClone (base policyId : ℕ) (db : FupDb) (fields : RuleFields) : FupDb :=
  insertRule db policyId
    { fields with enabledByRuleId := fields.enabledByRuleId.map (base + ·) }

def removeRule (db : FupDb) (ruleId : ℕ) : FupDb :=
  let unchained := fun rule : FupRule =>
    if rule.enabledByRuleId = some ruleId then { rule with enabledByRuleId := none } else rule
  { db with rules := (db.rules.filter (·.id ≠ ruleId)).map unchained (fun rule => by
      simp only [unchained]
      split_ifs <;> rfl) }

/-- What a change writes. -/
def Change.apply (db : FupDb) : Change → FupDb
  | .ensurePolicy offerId => (Fup.ensurePolicy db offerId).1
  | .updatePolicy offerId settings =>
    let (db, policy) := Fup.ensurePolicy db offerId
    let settled := fun policy : FupPolicy => { policy with
      trafficDaysOfWeek := settings.trafficDaysOfWeek
      onlineDaysOfWeek := settings.onlineDaysOfWeek
      isActive := settings.isActive }
    { db with policies := db.policies.update policy.id settled (fun _ => rfl) }
  | .addRule offerId fields =>
    let (db, policy) := Fup.ensurePolicy db offerId
    insertRule db policy.id fields
  | .updateRule ruleId update =>
    { db with rules := db.rules.update ruleId update.apply (fun _ => rfl) }
  | .deleteRule ruleId => removeRule db ruleId
  | .cloneRules offerId rows =>
    let (db, policy) := Fup.ensurePolicy db offerId
    rows.foldl (insertClone db.rules.next policy.id) db

inductive RowLock
  | offer (id : ℕ)
  | policy (id : ℕ)
  | rule (id : ℕ)
deriving DecidableEq

/-- What a command is about to write and what it holds until then. -/
structure Prepared where
  change : Change
  locks : List RowLock

def policyLocks (db : FupDb) (offerId : ℕ) : List RowLock :=
  .offer offerId :: (db.policyByOffer offerId).toList.map (.policy ·.id)

/-- Changed settings of a policy. -/
def updatePolicy (db : FupDb) (offerId : ℕ) (settings : FupPolicySettings) :
    Except DomainError Prepared := do
  let _ ← offer db offerId
  let trafficDaysOfWeek ← validateDays settings.trafficDaysOfWeek
  let onlineDaysOfWeek ← validateDays settings.onlineDaysOfWeek
  return ⟨.updatePolicy offerId ⟨trafficDaysOfWeek, onlineDaysOfWeek, settings.isActive⟩,
    policyLocks db offerId⟩

def nextSortOrder (db : FupDb) (policyId : ℕ) : ℤ :=
  ((db.rulesOf policyId).map (·.sortOrder)).max?.getD 0 + 1

/-- A new rule of the policy of an offer. -/
def addRule (db : FupDb) (offerId : ℕ) (spec : FupRuleSpec) : Except DomainError Prepared := do
  validateSpec spec
  let _ ← offer db offerId
  let (ensured, policy) := ensurePolicy db offerId
  let consumptionPeriod ← enum consumptionPeriods "consumption period" spec.consumptionPeriod
  let direction ← enum directions "direction" spec.direction
  let thresholdUnit ← enum dataUnits "threshold unit" spec.thresholdUnit
  let action ← enum actions "action" spec.action
  let enabledByRuleId ← resolvePrerequisite ensured policy.id spec.enabledByRuleId none
  let daysOfWeek ← validateDays spec.daysOfWeek
  return ⟨.addRule offerId {
      name := strip spec.name
      sortOrder := spec.sortOrder.getD (nextSortOrder ensured policy.id)
      consumptionPeriod, direction, thresholdUnit, action, enabledByRuleId, daysOfWeek
      thresholdAmount := spec.thresholdAmount
      speedReductionPercent := spec.speedReductionPercent
      timeStart := spec.timeStart
      timeEnd := spec.timeEnd
      cooldownMinutes := spec.cooldownMinutes
      isActive := spec.isActive },
    policyLocks db offerId ++ enabledByRuleId.toList.map .rule⟩

def patchFields : Finset String :=
  {"name", "consumption_period", "direction", "threshold_amount", "threshold_unit", "action",
    "speed_reduction_percent", "sort_order", "time_start", "time_end", "enabled_by_rule_id",
    "cooldown_minutes", "days_of_week", "is_active"}

def required {α : Type} (value : Option α) (p : α → Prop) [DecidablePred p] (message : String) :
    Except DomainError α := do
  let value ← orRefuse value (error "invalid_rule" message)
  ensure (p value) (error "invalid_rule" message)
  return value

def FupRulePatch.column {α : Type} (patch : FupRulePatch) (field : String)
    (value : Except DomainError α) : Except DomainError (Option α) :=
  if field ∈ patch.updatedFields then some <$> value else return none

/-- Changed fields of a rule, checked as a whole. -/
def updateRule (db : FupDb) (ruleId : ℕ) (patch : FupRulePatch) : Except DomainError Prepared := do
  let rule ← rule db ruleId
  ensure (patch.updatedFields ≠ ∅ ∧ patch.updatedFields ⊆ patchFields)
    (error "invalid_rule" "FUP rule update fields are invalid.")
  -- before any column changes: both strip the rule of its enforcement
  onlyIf ("is_active" ∈ patch.updatedFields ∧ patch.isActive = some false)
    (assertNotLastEnforcingRule db rule "deactivate")
  onlyIf ("action" ∈ patch.updatedFields ∧ patch.action ≠ some "reduce_speed")
    (assertNotLastEnforcingRule db rule "change the action of")
  let name ← patch.column "name" do
    let name ← required patch.name (strip · ≠ "") "FUP rule name is required."
    return strip name
  let sortOrder ← patch.column "sort_order"
    (required patch.sortOrder (0 ≤ ·) "FUP sort order cannot be negative.")
  let consumptionPeriod ← patch.column "consumption_period" do
    let value ← required patch.consumptionPeriod (fun _ => True)
      "FUP consumption period is required."
    enum consumptionPeriods "consumption period" value
  let direction ← patch.column "direction" do
    let value ← required patch.direction (fun _ => True) "FUP direction is required."
    enum directions "direction" value
  let thresholdAmount ← patch.column "threshold_amount"
    (required patch.thresholdAmount (0 < ·) "FUP threshold must be positive.")
  let thresholdUnit ← patch.column "threshold_unit" do
    let value ← required patch.thresholdUnit (fun _ => True) "FUP threshold unit is required."
    enum dataUnits "threshold unit" value
  let action ← patch.column "action" do
    let value ← required patch.action (fun _ => True) "FUP action is required."
    enum actions "action" value
  let speedReductionPercent ← patch.column "speed_reduction_percent" do
    ensure (∀ percent ∈ patch.speedReductionPercent, 0 < percent ∧ percent < 100)
      (error "invalid_rule" "FUP speed reduction must be between 1 and 99 percent.")
    return patch.speedReductionPercent
  let timeStart ← patch.column "time_start" (return patch.timeStart)
  let timeEnd ← patch.column "time_end" (return patch.timeEnd)
  let enabledByRuleId ← patch.column "enabled_by_rule_id"
    (resolvePrerequisite db rule.policyId patch.enabledByRuleId (some rule.id))
  let cooldownMinutes ← patch.column "cooldown_minutes"
    (required patch.cooldownMinutes (0 ≤ ·) "FUP cooldown cannot be negative.")
  let daysOfWeek ← patch.column "days_of_week" (validateDays patch.daysOfWeek)
  let isActive ← patch.column "is_active"
    (required patch.isActive (fun _ => True) "FUP active state is required.")
  return ⟨.updateRule rule.id ⟨name, sortOrder, consumptionPeriod, direction, thresholdAmount,
      thresholdUnit, action, speedReductionPercent, timeStart, timeEnd, enabledByRuleId,
      cooldownMinutes, daysOfWeek, isActive⟩,
    .rule rule.id :: (enabledByRuleId.bind id).toList.map .rule⟩

/-- The rules a deletion takes with it as prerequisites are held too. -/
def deleteRule (db : FupDb) (ruleId : ℕ) : Except DomainError Prepared := do
  let rule ← rule db ruleId
  assertNotLastEnforcingRule db rule "delete"
  return ⟨.deleteRule rule.id, .rule rule.id ::
    (db.rules.rows.filter (·.enabledByRuleId = some rule.id)).map (.rule ·.id)⟩

/-- A copied rule, its prerequisite named by position. -/
def clonedFields (source : List FupRule) (rule : FupRule) : Except DomainError RuleFields :=
  match rule.enabledByRuleId with
  | none => return rule.toRuleFields
  | some prerequisite => do
    let position ← orRefuse (source.findIdx? (·.id = prerequisite))
      (error "invalid_rule_chain" "Source FUP rule chain is inconsistent.")
    return { rule.toRuleFields with enabledByRuleId := some position }

/-- The rules of another offer, copied in order. -/
def cloneRules (db : FupDb) (sourceOfferId targetOfferId : ℕ) : Except DomainError Prepared := do
  let _ ← offer db sourceOfferId
  let sourcePolicy ← orRefuse (db.policyByOffer sourceOfferId)
    (error "source_policy_not_found" "Source offer has no FUP policy.")
  let _ ← offer db targetOfferId
  let source := db.rulesOf sourcePolicy.id
  let rows ← source.mapM (clonedFields source)
  return ⟨.cloneRules targetOfferId rows,
    policyLocks db sourceOfferId ++ policyLocks db targetOfferId⟩

/-- Read, check, and decide what to write. -/
def prepare (db : FupDb) : Command → Except DomainError Prepared
  | .ensurePolicy offerId => do
    let _ ← offer db offerId
    return ⟨.ensurePolicy offerId, policyLocks db offerId⟩
  | .updatePolicy offerId settings => updatePolicy db offerId settings
  | .addRule offerId spec => addRule db offerId spec
  | .updateRule ruleId patch => updateRule db ruleId patch
  | .deleteRule ruleId => deleteRule db ruleId
  | .cloneRules sourceOfferId targetOfferId => cloneRules db sourceOfferId targetOfferId

/-- One command run to its end with nothing in between. -/
def execute (db : FupDb) (command : Command) : Except DomainError FupDb := do
  let prepared ← prepare db command
  return prepared.change.apply db

end DotmacSub.Fup
