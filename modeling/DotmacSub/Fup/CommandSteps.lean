import DotmacSub.Fup.Commands

/-!
# What an accepted command has checked

One inversion lemma for each command whose writes later proofs look into.
-/

namespace DotmacSub.Fup

open Store Checked

variable {db : FupDb} {prepared : Prepared}

/-- A checked prerequisite: another rule of the same policy. -/
def PrerequisiteOf (db : FupDb) (policyId : ℕ) (excludingRuleId prerequisite : Option ℕ) : Prop :=
  ∀ id ∈ prerequisite, some id ≠ excludingRuleId ∧
    ∃ rule, db.rules.get? id = some rule ∧ rule.policyId = policyId

lemma resolvePrerequisite_ok {policyId : ℕ} {ruleId excludingRuleId resolved : Option ℕ}
    (h : resolvePrerequisite db policyId ruleId excludingRuleId = .ok resolved) :
    resolved = ruleId ∧ PrerequisiteOf db policyId excludingRuleId resolved := by
  cases ruleId with
  | none =>
    obtain rfl : none = resolved := Except.ok.inj h
    exact ⟨rfl, nofun⟩
  | some ruleId =>
    simp only [resolvePrerequisite, rule, orRefuse_bind_eq_ok, ensure_bind_eq_ok, pure_eq_ok] at h
    obtain ⟨prerequisite, hget, ⟨hpolicy, hother⟩, rfl⟩ := h
    have hid : prerequisite.id = ruleId := (Table.get?_eq_some.mp hget).2
    rw [hid] at hother ⊢
    refine ⟨rfl, ?_⟩
    rintro id ⟨rfl⟩
    exact ⟨hother, prerequisite, hget, hpolicy⟩

def RuleUpdate.Strips (update : RuleUpdate) : Prop :=
  update.isActive = some false ∨ ∃ action ∈ update.action, action ≠ FupAction.reduceSpeed

/-- The patch asks to switch a rule off, or for another action. -/
def FupRulePatch.Strips (patch : FupRulePatch) : Prop :=
  ("is_active" ∈ patch.updatedFields ∧ patch.isActive = some false) ∨
    ("action" ∈ patch.updatedFields ∧ patch.action ≠ some "reduce_speed")

/-- A prepared update of a rule. -/
structure RuleUpdated (db : FupDb) (ruleId : ℕ) (patch : FupRulePatch) (prepared : Prepared)
    (rule : FupRule) (update : RuleUpdate) : Prop where
  found : db.rules.get? ruleId = some rule
  change_eq : prepared.change = .updateRule ruleId update
  locked : .rule ruleId ∈ prepared.locks
  prerequisite : update.enabledByRuleId =
    if "enabled_by_rule_id" ∈ patch.updatedFields then some patch.enabledByRuleId else none
  resolved : ∀ value ∈ update.enabledByRuleId,
    PrerequisiteOf db rule.policyId (some ruleId) value
  kept : update.Strips → patch.Strips ∧ ∃ verb, assertNotLastEnforcingRule db rule verb = .ok ()

section Columns

variable {patch : FupRulePatch} {field : String} {α : Type} {value : Except DomainError α}
  {column : Option α}

lemma column_ok (h : patch.column field value = .ok column) :
    if field ∈ patch.updatedFields then ∃ v, value = .ok v ∧ column = some v else column = none := by
  unfold FupRulePatch.column at h
  split_ifs at h ⊢ with hfield
  · obtain ⟨v, hv, rfl⟩ := map_eq_ok.mp h
    exact ⟨v, hv, rfl⟩
  · exact (Except.ok.inj h).symm

lemma of_column_eq_some (h : patch.column field value = .ok column) {v : α}
    (hcolumn : column = some v) : field ∈ patch.updatedFields ∧ value = .ok v := by
  have hcases := column_ok h
  split_ifs at hcases with hfield
  · obtain ⟨w, hw, rfl⟩ := hcases
    exact ⟨hfield, hw.trans (congrArg _ (Option.some.inj hcolumn))⟩
  · exact absurd (hcases.symm.trans hcolumn) (by simp)

end Columns

lemma enum_actions_reduceSpeed {action : FupAction}
    (h : enum actions "action" "reduce_speed" = .ok action) : action = .reduceSpeed := by
  have hlookup : actions.lookup "reduce_speed" = some FupAction.reduceSpeed := by decide
  rw [enum, hlookup] at h
  exact (Except.ok.inj h).symm

lemma updateRule_ok {ruleId : ℕ} {patch : FupRulePatch}
    (h : updateRule db ruleId patch = .ok prepared) :
    ∃ rule update, RuleUpdated db ruleId patch prepared rule update := by
  simp only [updateRule, rule, bind_eq_ok, orRefuse_eq_ok, onlyIf_eq_ok, pure_eq_ok] at h
  obtain ⟨rule, hget, _, -, _, hdeactivate, _, hchange, name, -, sortOrder, -, period, -, direction,
    -, amount, -, unit, -, action, haction, percent, -, timeStart, -, timeEnd, -, prerequisite,
    hprerequisite, cooldown, -, days, -, isActive, hactive, rfl⟩ := h
  have hid : rule.id = ruleId := (Table.get?_eq_some.mp hget).2
  refine ⟨rule, ⟨name, sortOrder, period, direction, amount, unit, action, percent, timeStart,
    timeEnd, prerequisite, cooldown, days, isActive⟩, hget, by rw [hid], by rw [hid]; simp, ?_, ?_, ?_⟩
  · have hcolumn := column_ok hprerequisite
    split_ifs at hcolumn ⊢
    · obtain ⟨value, hvalue, rfl⟩ := hcolumn
      rw [(resolvePrerequisite_ok hvalue).1]
    · exact hcolumn
  · intro value hvalue
    rw [← hid]
    exact (resolvePrerequisite_ok (of_column_eq_some hprerequisite hvalue).2).2
  · rintro (hstrip | ⟨value, hvalue, hne⟩)
    · obtain ⟨hfield, hvalue⟩ := of_column_eq_some hactive hstrip
      simp only [required, orRefuse_bind_eq_ok, ensure_bind_eq_ok, pure_eq_ok] at hvalue
      obtain ⟨_, hpatch, -, rfl⟩ := hvalue
      exact ⟨.inl ⟨hfield, hpatch⟩, _, hdeactivate ⟨hfield, hpatch⟩⟩
    · obtain ⟨hfield, hparsed⟩ := of_column_eq_some haction hvalue
      simp only [required, bind_eq_ok, orRefuse_eq_ok, ensure_eq_ok, pure_eq_ok] at hparsed
      obtain ⟨_, ⟨text, htext, -, -, rfl⟩, henum⟩ := hparsed
      have hother : patch.action ≠ some "reduce_speed" := by
        rw [htext]
        rintro ⟨rfl⟩
        exact hne (enum_actions_reduceSpeed henum)
      exact ⟨.inr ⟨hfield, hother⟩, _, hchange ⟨hfield, hother⟩⟩

lemma ensurePolicy_frame (db : FupDb) (offerId : ℕ) :
    (ensurePolicy db offerId).1.rules = db.rules ∧ (ensurePolicy db offerId).1.offers = db.offers := by
  unfold ensurePolicy
  split <;> exact ⟨rfl, rfl⟩

lemma mem_rules_addRule {offerId : ℕ} {fields : RuleFields} {r : FupRule} :
    r ∈ ((Change.addRule offerId fields).apply db).rules.rows ↔ r ∈ db.rules.rows ∨
      r = ⟨fields, db.rules.next, (ensurePolicy db offerId).2.id⟩ := by
  show r ∈ ((ensurePolicy db offerId).1.rules.insert
    (fun id => ⟨fields, id, (ensurePolicy db offerId).2.id⟩) (fun _ => rfl)).rows ↔ _
  rw [Table.mem_insert, (ensurePolicy_frame db offerId).1]

lemma mem_rules_updateRule {ruleId : ℕ} {update : RuleUpdate} {r : FupRule} :
    r ∈ ((Change.updateRule ruleId update).apply db).rules.rows ↔
      (r ∈ db.rules.rows ∧ r.id ≠ ruleId) ∨
        ∃ rule ∈ db.rules.rows, rule.id = ruleId ∧ update.apply rule = r :=
  Table.mem_update (g := update.apply) (h := fun _ => rfl)

structure RuleAdded (db : FupDb) (offerId : ℕ) (spec : FupRuleSpec) (prepared : Prepared)
    (fields : RuleFields) : Prop where
  change_eq : prepared.change = .addRule offerId fields
  prerequisite : fields.enabledByRuleId = spec.enabledByRuleId
  resolved : PrerequisiteOf db (ensurePolicy db offerId).2.id none fields.enabledByRuleId

lemma addRule_ok {offerId : ℕ} {spec : FupRuleSpec} (h : addRule db offerId spec = .ok prepared) :
    ∃ fields, RuleAdded db offerId spec prepared fields := by
  simp only [addRule, offer, bind_eq_ok, orRefuse_eq_ok, pure_eq_ok] at h
  obtain ⟨-, -, _, -, _, -, _, -, _, -, _, -, prerequisite, hprerequisite, _, -, rfl⟩ := h
  obtain ⟨hspec, hresolved⟩ := resolvePrerequisite_ok hprerequisite
  refine ⟨_, rfl, hspec, ?_⟩
  simpa only [PrerequisiteOf, (ensurePolicy_frame db offerId).1] using hresolved

/-- What is known of an accepted deletion. -/
structure RuleDeleted (db : FupDb) (ruleId : ℕ) (prepared : Prepared) (rule : FupRule) : Prop where
  found : db.rules.get? ruleId = some rule
  change_eq : prepared.change = .deleteRule ruleId
  locked : .rule ruleId ∈ prepared.locks
  kept : ∃ verb, assertNotLastEnforcingRule db rule verb = .ok ()

lemma deleteRule_ok {ruleId : ℕ} (h : deleteRule db ruleId = .ok prepared) :
    ∃ rule, RuleDeleted db ruleId prepared rule := by
  simp only [deleteRule, rule, bind_eq_ok, orRefuse_eq_ok, pure_eq_ok] at h
  obtain ⟨rule, hget, _, hkept, rfl⟩ := h
  have hid : rule.id = ruleId := (Table.get?_eq_some.mp hget).2
  exact ⟨rule, hget, by rw [hid], by rw [hid]; exact List.mem_cons_self, _, hkept⟩

lemma mem_activeSpeedReductionRuleIds {offerId id : ℕ} :
    id ∈ activeSpeedReductionRuleIds db offerId ↔
      ∃ rule ∈ db.rules.rows, rule.id = id ∧ rule.Enforcing ∧ ∃ policy ∈ db.policies.rows,
        policy.id = rule.policyId ∧ policy.offerId = offerId ∧ policy.isActive = true := by
  simp only [activeSpeedReductionRuleIds, List.mem_map, List.mem_filter, decide_eq_true_eq]
  constructor
  · rintro ⟨rule, ⟨hrule, henforcing, hpolicy⟩, hid⟩
    exact ⟨rule, hrule, hid, henforcing, hpolicy⟩
  · rintro ⟨rule, hrule, hid, henforcing, hpolicy⟩
    exact ⟨rule, ⟨hrule, henforcing, hpolicy⟩, hid⟩

/-- What the guard of offers on sale has established. -/
lemma assertNotLastEnforcingRule_ok {rule : FupRule} {verb : String}
    (h : assertNotLastEnforcingRule db rule verb = .ok ()) (henforcing : rule.Enforcing)
    {policy : FupPolicy} (hpolicy : db.policies.get? rule.policyId = some policy)
    (hactive : policy.isActive = true) {offer : CatalogOffer}
    (hoffer : db.offers.get? policy.offerId = some offer)
    (hsale : saleRequiresSpeedReduction offer = true) :
    ∃ id ∈ activeSpeedReductionRuleIds db policy.offerId, id ≠ rule.id := by
  simp only [assertNotLastEnforcingRule, henforcing, not_true_eq_false, if_false, hpolicy, hactive,
    hoffer, hsale, Bool.true_eq_false, ensure_eq_ok] at h
  obtain ⟨id, hid⟩ := List.exists_mem_of_ne_nil _ h
  obtain ⟨hmem, hne⟩ := List.mem_filter.mp hid
  exact ⟨id, hmem, of_decide_eq_true hne⟩

end DotmacSub.Fup
