import DotmacSub.Core.Sessions
import DotmacSub.Fup.Chains

/-!
# Offers on sale stay enforceable

Whether an offer that may not be sold without a speed reduction keeps one, whatever the commands of
several sessions do at the same time.
-/

namespace DotmacSub.Fup

open Store Checked Sessions

/-- The commands as transactions that hold the rows they read for update. -/
def fupSystem : System FupDb Command Change RowLock DomainError where
  prepare db command := do
    let prepared ← prepare db command
    return (prepared.change, prepared.locks)
  apply := Change.apply

/-- The offer is on sale and may not be without a speed reduction. -/
def Requires (db : FupDb) (offerId : ℕ) : Prop :=
  ∃ offer ∈ db.offers.get? offerId, saleRequiresSpeedReduction offer = true

/-- The rule reduces speed and stands under the policy of the offer, active or not. -/
def EnforcingRuleOf (db : FupDb) (offerId : ℕ) (rule : FupRule) : Prop :=
  rule ∈ db.rules.rows ∧ rule.Enforcing ∧
    ∃ policy ∈ db.policies.rows, policy.id = rule.policyId ∧ policy.offerId = offerId

/-- The offer is enforceable by a rule outside of `doomed`. -/
def Enforced (doomed : Set ℕ) (db : FupDb) (offerId : ℕ) : Prop :=
  ∃ policy ∈ db.policies.rows, policy.offerId = offerId ∧ policy.isActive = true ∧
    ∃ rule ∈ db.rules.rows, rule.policyId = policy.id ∧ rule.Enforcing ∧ rule.id ∉ doomed

/-- What the database promises: an offer has one policy, and every rule has a policy. -/
structure Sound (db : FupDb) : Prop where
  onePolicy : ∀ p ∈ db.policies.rows, ∀ q ∈ db.policies.rows, p.offerId = q.offerId → p = q
  hasPolicy : ∀ rule ∈ db.rules.rows, ∃ policy ∈ db.policies.rows, policy.id = rule.policyId

def Change.target : Change → Set ℕ
  | .deleteRule ruleId => {ruleId}
  | .updateRule ruleId update => {id | id = ruleId ∧ update.Strips}
  | _ => ∅

/-- The rule a change writes by its identifier. -/
def Change.written : Change → Set ℕ
  | .deleteRule ruleId => {ruleId}
  | .updateRule ruleId _ => {ruleId}
  | _ => ∅

lemma Change.target_subset_written (c : Change) : c.target ⊆ c.written := by
  cases c with
  | updateRule ruleId update => exact fun id hid => hid.1
  | deleteRule ruleId => exact subset_rfl
  | _ => exact Set.empty_subset _

section Enforced

variable {db : FupDb} {offerId : ℕ} {doomed : Set ℕ}

lemma enforced_empty_iff : Enforced ∅ db offerId ↔ db.Enforceable offerId := by
  simp [Enforced, FupDb.Enforceable]

lemma Enforced.mono {other : Set ℕ} (h : Enforced doomed db offerId) (hsub : other ⊆ doomed) :
    Enforced other db offerId := by
  obtain ⟨policy, hpolicy, hoffer, hactive, rule, hrule, hof, henforcing, hnot⟩ := h
  refine ⟨policy, hpolicy, hoffer, hactive, rule, hrule, hof, henforcing, ?_⟩
  exact fun hmem => hnot (hsub hmem)

lemma Enforced.enforceable (h : Enforced doomed db offerId) : db.Enforceable offerId :=
  enforced_empty_iff.mp (h.mono (Set.empty_subset _))

end Enforced

section EnsurePolicy

variable {db : FupDb} {offerId : ℕ}

lemma ensurePolicy_cases (db : FupDb) (offerId : ℕ) :
    ((ensurePolicy db offerId).1 = db ∧ (ensurePolicy db offerId).2 ∈ db.policies.rows ∧
      (ensurePolicy db offerId).2.offerId = offerId) ∨
    ((∀ policy ∈ db.policies.rows, policy.offerId ≠ offerId) ∧
      (ensurePolicy db offerId).2 = ⟨db.policies.next, offerId, none, none, true⟩ ∧
      ∀ policy, policy ∈ (ensurePolicy db offerId).1.policies.rows ↔
        policy ∈ db.policies.rows ∨ policy = ⟨db.policies.next, offerId, none, none, true⟩) := by
  unfold ensurePolicy
  cases hfound : db.policyByOffer offerId with
  | some policy =>
    exact .inl ⟨rfl, List.mem_of_find?_eq_some hfound, by simpa using List.find?_some hfound⟩
  | none =>
    refine .inr ⟨fun policy hpolicy => ?_, rfl, fun policy => Table.mem_insert⟩
    simpa using List.find?_eq_none.mp hfound policy hpolicy

lemma mem_ensurePolicy {policy : FupPolicy} (h : policy ∈ db.policies.rows) :
    policy ∈ (ensurePolicy db offerId).1.policies.rows := by
  rcases ensurePolicy_cases db offerId with ⟨hsame, -⟩ | ⟨-, -, hrows⟩
  · rw [hsame]
    exact h
  · exact (hrows policy).mpr (.inl h)

lemma ensurePolicy_found (db : FupDb) (offerId : ℕ) :
    (ensurePolicy db offerId).2 ∈ (ensurePolicy db offerId).1.policies.rows ∧
      (ensurePolicy db offerId).2.offerId = offerId := by
  rcases ensurePolicy_cases db offerId with ⟨hsame, hmem, hoffer⟩ | ⟨-, hnew, hrows⟩
  · exact ⟨by rw [hsame]; exact hmem, hoffer⟩
  · rw [hnew]
    exact ⟨(hrows _).mpr (.inr rfl), rfl⟩

lemma of_mem_ensurePolicy (hsound : Sound db) {policy : FupPolicy}
    (h : policy ∈ (ensurePolicy db offerId).1.policies.rows) {rule : FupRule}
    (hrule : rule ∈ db.rules.rows) (hof : rule.policyId = policy.id) :
    policy ∈ db.policies.rows := by
  rcases ensurePolicy_cases db offerId with ⟨hsame, -⟩ | ⟨-, -, hrows⟩
  · rwa [hsame] at h
  · rcases (hrows policy).mp h with h | rfl
    · exact h
    · obtain ⟨old, hold, hid⟩ := hsound.hasPolicy rule hrule
      exact absurd (hid.trans hof) (db.policies.fresh old hold).ne

lemma Sound.ensurePolicy (hsound : Sound db) : Sound (ensurePolicy db offerId).1 := by
  refine ⟨?_, fun rule hrule => ?_⟩
  · rcases ensurePolicy_cases db offerId with ⟨hsame, -⟩ | ⟨hnone, -, hrows⟩
    · rw [hsame]
      exact hsound.onePolicy
    · intro p hp q hq heq
      rcases (hrows p).mp hp with hp | rfl <;> rcases (hrows q).mp hq with hq | rfl
      · exact hsound.onePolicy p hp q hq heq
      · exact absurd heq (hnone p hp)
      · exact absurd heq.symm (hnone q hq)
      · rfl
  · rw [(ensurePolicy_frame db offerId).1] at hrule
    obtain ⟨policy, hpolicy, hid⟩ := hsound.hasPolicy rule hrule
    exact ⟨policy, mem_ensurePolicy hpolicy, hid⟩

/-- A new policy enforces nothing, and takes nothing away. -/
lemma enforced_ensurePolicy (hsound : Sound db) {doomed : Set ℕ} {o : ℕ} :
    Enforced doomed (ensurePolicy db offerId).1 o ↔ Enforced doomed db o := by
  unfold Enforced
  rw [(ensurePolicy_frame db offerId).1]
  constructor
  · rintro ⟨policy, hpolicy, hoffer, hactive, rule, hrule, hof, hrest⟩
    exact ⟨policy, of_mem_ensurePolicy hsound hpolicy hrule hof, hoffer, hactive, rule, hrule, hof,
      hrest⟩
  · rintro ⟨policy, hpolicy, hrest⟩
    exact ⟨policy, mem_ensurePolicy hpolicy, hrest⟩

end EnsurePolicy

section Writes

variable {db : FupDb} {o : ℕ} {doomed : Set ℕ}

lemma enforcing_of_not_strips {update : RuleUpdate} {rule : FupRule} (hstrips : ¬ update.Strips)
    (henforcing : rule.Enforcing) : (update.apply rule).Enforcing := by
  simp only [RuleUpdate.Strips, not_or, not_exists, not_and, not_not] at hstrips
  obtain ⟨hactive, haction⟩ := hstrips
  constructor
  · show update.action.getD rule.action = .reduceSpeed
    cases hvalue : update.action with
    | none => exact henforcing.1
    | some action => exact haction action (by rw [hvalue]; rfl)
  · show update.isActive.getD rule.isActive = true
    cases hvalue : update.isActive with
    | none => exact henforcing.2
    | some active =>
      cases active with
      | true => rfl
      | false => exact absurd hvalue hactive

/-- The rules that a clone appends have new identifiers; the rules that were there stay. -/
lemma insertClones_frame {base policyId : ℕ} : ∀ (rows : List RuleFields) (db : FupDb),
    let cloned := rows.foldl (insertClone base policyId) db
    cloned.policies = db.policies ∧ cloned.offers = db.offers ∧
      db.rules.next ≤ cloned.rules.next ∧ (∀ r ∈ db.rules.rows, r ∈ cloned.rules.rows) ∧
      ∀ r ∈ cloned.rules.rows, r ∈ db.rules.rows ∨ (db.rules.next ≤ r.id ∧ r.policyId = policyId)
  | [], _ => ⟨rfl, rfl, le_rfl, fun _ h => h, fun _ h => .inl h⟩
  | fields :: rows, db => by
    obtain ⟨hpolicies, hoffers, hnext, hold, hnew⟩ :=
      insertClones_frame rows (insertClone base policyId db fields)
    have hinsert : (insertClone base policyId db fields).rules.next = db.rules.next + 1 := rfl
    refine ⟨hpolicies, hoffers, (Nat.le_succ _).trans hnext,
      fun r hr => hold r (Table.mem_insert.mpr (.inl hr)), ?_⟩
    intro r hr
    rcases hnew r hr with hr | ⟨hid, hpolicy⟩
    · rcases Table.mem_insert.mp hr with hr | rfl
      · exact .inl hr
      · exact .inr ⟨le_rfl, rfl⟩
    · exact .inr ⟨by omega, hpolicy⟩

lemma mem_policies_updatePolicy {offerId : ℕ} {settings : FupPolicySettings} {p : FupPolicy} :
    p ∈ ((Change.updatePolicy offerId settings).apply db).policies.rows ↔
      (p ∈ (ensurePolicy db offerId).1.policies.rows ∧ p.id ≠ (ensurePolicy db offerId).2.id) ∨
        p = { (ensurePolicy db offerId).2 with
          trafficDaysOfWeek := settings.trafficDaysOfWeek
          onlineDaysOfWeek := settings.onlineDaysOfWeek
          isActive := settings.isActive } := by
  obtain ⟨hfound, -⟩ := ensurePolicy_found db offerId
  refine (Table.mem_update (g := fun policy : FupPolicy => { policy with
    trafficDaysOfWeek := settings.trafficDaysOfWeek
    onlineDaysOfWeek := settings.onlineDaysOfWeek
    isActive := settings.isActive }) (h := fun _ => rfl)).trans (or_congr Iff.rfl ?_)
  constructor
  · rintro ⟨policy, hpolicy, hid, rfl⟩
    rw [Table.eq_of_id_eq hpolicy hfound hid]
  · rintro rfl
    exact ⟨_, hfound, rfl, rfl⟩

lemma rules_updatePolicy {offerId : ℕ} {settings : FupPolicySettings} :
    ((Change.updatePolicy offerId settings).apply db).rules = db.rules :=
  (ensurePolicy_frame db offerId).1

lemma mem_rules_deleteRule {ruleId : ℕ} {r : FupRule} :
    r ∈ ((Change.deleteRule ruleId).apply db).rules.rows ↔
      ∃ rule ∈ db.rules.rows, rule.id ≠ ruleId ∧
        r = if rule.enabledByRuleId = some ruleId then { rule with enabledByRuleId := none }
          else rule := by
  have hfiltered : r ∈ ((Change.deleteRule ruleId).apply db).rules.rows ↔
      ∃ rule ∈ (db.rules.filter (·.id ≠ ruleId)).rows, (if rule.enabledByRuleId = some ruleId
        then { rule with enabledByRuleId := none } else rule) = r := List.mem_map
  rw [hfiltered]
  constructor
  · rintro ⟨rule, hrule, rfl⟩
    obtain ⟨hmem, hne⟩ := List.mem_filter.mp hrule
    exact ⟨rule, hmem, of_decide_eq_true hne, rfl⟩
  · rintro ⟨rule, hmem, hne, rfl⟩
    exact ⟨rule, List.mem_filter.mpr ⟨hmem, decide_eq_true hne⟩, rfl⟩

def Change.Deactivates (c : Change) (offerId : ℕ) : Prop :=
  ∃ settings, c = .updatePolicy offerId settings ∧ settings.isActive = false

/-- The command switches the policy of the offer on. -/
def Change.Activates (c : Change) (offerId : ℕ) : Prop :=
  ∃ settings, c = .updatePolicy offerId settings ∧ settings.isActive = true

/-- The rules that are stored and that a command leaves to others. -/
def Change.untouched (c : Change) (db : FupDb) : Set ℕ :=
  {id | id < db.rules.next ∧ id ∉ c.written}

/-- What a command neither removes nor switches off goes on enforcing the offer. -/
lemma enforced_apply (hsound : Sound db) (c : Change) (hdeactivates : ¬ c.Deactivates o)
    (h : Enforced (c.target ∪ doomed) db o) : Enforced doomed (c.apply db) o := by
  obtain ⟨policy, hpolicy, hoffer, hactive, rule, hrule, hof, henforcing, hnot⟩ := h
  simp only [Set.mem_union, not_or] at hnot
  obtain ⟨htarget, hdoomed⟩ := hnot
  cases c with
  | ensurePolicy offerId =>
    refine (enforced_ensurePolicy hsound).mpr ?_
    exact ⟨policy, hpolicy, hoffer, hactive, rule, hrule, hof, henforcing, hdoomed⟩
  | updatePolicy offerId settings =>
    obtain ⟨hfound, hfoundOffer⟩ := ensurePolicy_found db offerId
    have hkept : policy ∈ (ensurePolicy db offerId).1.policies.rows := mem_ensurePolicy hpolicy
    have hrule' : rule ∈ ((Change.updatePolicy offerId settings).apply db).rules.rows := by
      rw [rules_updatePolicy]
      exact hrule
    by_cases hid : policy.id = (ensurePolicy db offerId).2.id
    · have hsame : policy = (ensurePolicy db offerId).2 := Table.eq_of_id_eq hkept hfound hid
      have hon : settings.isActive = true := by
        cases hvalue : settings.isActive with
        | true => rfl
        | false =>
          refine absurd ⟨settings, ?_, hvalue⟩ hdeactivates
          rw [← hoffer, hsame, hfoundOffer]
      refine ⟨_, mem_policies_updatePolicy.mpr (.inr rfl), ?_, hon, rule, hrule', ?_, henforcing,
        hdoomed⟩
      · rw [← hsame, hoffer]
      · rw [hof, hid]
    · exact ⟨policy, mem_policies_updatePolicy.mpr (.inl ⟨hkept, hid⟩), hoffer, hactive, rule,
        hrule', hof, henforcing, hdoomed⟩
  | addRule offerId fields =>
    exact ⟨policy, mem_ensurePolicy hpolicy, hoffer, hactive, rule,
      mem_rules_addRule.mpr (.inl hrule), hof, henforcing, hdoomed⟩
  | updateRule ruleId update =>
    by_cases hid : rule.id = ruleId
    · have hstrips : ¬ update.Strips := fun hstrips => htarget ⟨hid, hstrips⟩
      exact ⟨policy, hpolicy, hoffer, hactive, update.apply rule,
        mem_rules_updateRule.mpr (.inr ⟨rule, hrule, hid, rfl⟩), hof,
        enforcing_of_not_strips hstrips henforcing, hdoomed⟩
    · exact ⟨policy, hpolicy, hoffer, hactive, rule,
        mem_rules_updateRule.mpr (.inl ⟨hrule, hid⟩), hof, henforcing, hdoomed⟩
  | deleteRule ruleId =>
    refine ⟨policy, hpolicy, hoffer, hactive, _,
      mem_rules_deleteRule.mpr ⟨rule, hrule, htarget, rfl⟩, ?_, ?_, ?_⟩
    all_goals
      split_ifs
      all_goals assumption
  | cloneRules offerId rows =>
    obtain ⟨hpolicies, -, -, hold, -⟩ := @insertClones_frame
      (ensurePolicy db offerId).1.rules.next (ensurePolicy db offerId).2.id rows
      (ensurePolicy db offerId).1
    refine ⟨policy, ?_, hoffer, hactive, rule, ?_, hof, henforcing, hdoomed⟩
    · have hkept : policy ∈ (ensurePolicy db offerId).1.policies.rows := mem_ensurePolicy hpolicy
      rw [← hpolicies] at hkept
      exact hkept
    · refine hold rule ?_
      rw [(ensurePolicy_frame db offerId).1]
      exact hrule

/-- An offer that a command makes enforceable is so by a rule it wrote or by its policy. -/
lemma enforceable_apply (hsound : Sound db) (c : Change) (h : (c.apply db).Enforceable o) :
    db.Enforceable o ∨ Enforced (c.untouched db) (c.apply db) o ∨
      (c.Activates o ∧ ∃ rule, EnforcingRuleOf db o rule) := by
  obtain ⟨policy, hpolicy, hoffer, hactive, rule, hrule, hof, henforcing⟩ := h
  cases c with
  | ensurePolicy offerId =>
    refine .inl (enforced_empty_iff.mp ((@enforced_ensurePolicy db offerId hsound _ _).mp ?_))
    exact enforced_empty_iff.mpr ⟨policy, hpolicy, hoffer, hactive, rule, hrule, hof, henforcing⟩
  | updatePolicy offerId settings =>
    rw [rules_updatePolicy] at hrule
    rcases mem_policies_updatePolicy.mp hpolicy with ⟨hkept, hid⟩ | rfl
    · have hmem : policy ∈ db.policies.rows := of_mem_ensurePolicy hsound hkept hrule hof
      exact .inl ⟨policy, hmem, hoffer, hactive, rule, hrule, hof, henforcing⟩
    · obtain ⟨hfound, hfoundOffer⟩ := ensurePolicy_found db offerId
      obtain rfl : offerId = o := hfoundOffer.symm.trans hoffer
      have hmem : (ensurePolicy db offerId).2 ∈ db.policies.rows :=
        of_mem_ensurePolicy hsound hfound hrule hof
      exact .inr (.inr ⟨⟨settings, rfl, hactive⟩, rule, hrule, henforcing, _, hmem, hof.symm,
        hfoundOffer⟩)
  | addRule offerId fields =>
    rcases mem_rules_addRule.mp hrule with hold | rfl
    · have hmem : policy ∈ db.policies.rows := of_mem_ensurePolicy hsound hpolicy hold hof
      exact .inl ⟨policy, hmem, hoffer, hactive, rule, hold, hof, henforcing⟩
    · exact .inr (.inl ⟨policy, hpolicy, hoffer, hactive, _, hrule, hof, henforcing,
        fun hmem => absurd hmem.1 (lt_irrefl _)⟩)
  | updateRule ruleId update =>
    rcases mem_rules_updateRule.mp hrule with ⟨hold, -⟩ | ⟨old, -, hid, rfl⟩
    · exact .inl ⟨policy, hpolicy, hoffer, hactive, rule, hold, hof, henforcing⟩
    · exact .inr (.inl ⟨policy, hpolicy, hoffer, hactive, _, hrule, hof, henforcing,
        fun hmem => hmem.2 hid⟩)
  | deleteRule ruleId =>
    obtain ⟨old, hold, -, rfl⟩ := mem_rules_deleteRule.mp hrule
    refine .inl ⟨policy, hpolicy, hoffer, hactive, old, hold, ?_, ?_⟩
    · split_ifs at hof <;> exact hof
    · split_ifs at henforcing <;> exact henforcing
  | cloneRules offerId rows =>
    obtain ⟨hpolicies, -, -, -, hnew⟩ := @insertClones_frame
      (ensurePolicy db offerId).1.rules.next (ensurePolicy db offerId).2.id rows
      (ensurePolicy db offerId).1
    rcases hnew rule hrule with hold | ⟨hid, -⟩
    · have hkept : policy ∈ (ensurePolicy db offerId).1.policies.rows := hpolicies ▸ hpolicy
      rw [(ensurePolicy_frame db offerId).1] at hold
      have hmem : policy ∈ db.policies.rows := of_mem_ensurePolicy hsound hkept hold hof
      exact .inl ⟨policy, hmem, hoffer, hactive, rule, hold, hof, henforcing⟩
    · rw [(ensurePolicy_frame db offerId).1] at hid
      exact .inr (.inl ⟨policy, hpolicy, hoffer, hactive, rule, hrule, hof, henforcing,
        fun hmem => absurd hmem.1 (not_lt.mpr hid)⟩)

end Writes

section Prepare

variable {db : FupDb} {command : Command} {prepared : Prepared}

def Command.target : Command → Set ℕ
  | .deleteRule ruleId => {ruleId}
  | .updateRule ruleId patch => {id | id = ruleId ∧ patch.Strips}
  | _ => ∅

/-- A command with writes to a rule holds it and has passed the guard before it strips it. -/
structure CommandChecked (db : FupDb) (command : Command) (prepared : Prepared) : Prop where
  held : ∀ id ∈ prepared.change.written, .rule id ∈ prepared.locks ∧ id < db.rules.next
  asked : prepared.change.target ⊆ command.target
  guarded : ∀ id ∈ prepared.change.target, ∃ rule, db.rules.get? id = some rule ∧
    ∃ verb, assertNotLastEnforcingRule db rule verb = .ok ()

/-- A command that writes no rule by its identifier has nothing to check. -/
lemma checked_of_written_eq_empty (h : prepared.change.written = ∅) :
    CommandChecked db command prepared := by
  have htarget : prepared.change.target = ∅ :=
    Set.subset_empty_iff.mp (h ▸ prepared.change.target_subset_written)
  refine ⟨fun id hid => ?_, ?_, fun id hid => ?_⟩
  · exact absurd (h ▸ hid) (Set.notMem_empty id)
  · rw [htarget]
    exact Set.empty_subset _
  · exact absurd (htarget ▸ hid) (Set.notMem_empty id)

lemma checked_updateRule {ruleId : ℕ} {patch : FupRulePatch}
    (h : updateRule db ruleId patch = .ok prepared) :
    CommandChecked db (.updateRule ruleId patch) prepared := by
  obtain ⟨rule, update, hupdated⟩ := updateRule_ok h
  constructor
  · rw [hupdated.change_eq]
    rintro id rfl
    exact ⟨hupdated.locked, Table.lt_next_of_get? hupdated.found⟩
  · rw [hupdated.change_eq]
    rintro id ⟨rfl, hstrips⟩
    exact ⟨rfl, (hupdated.kept hstrips).1⟩
  · rw [hupdated.change_eq]
    rintro id ⟨rfl, hstrips⟩
    exact ⟨rule, hupdated.found, (hupdated.kept hstrips).2⟩

lemma checked_deleteRule {ruleId : ℕ} (h : deleteRule db ruleId = .ok prepared) :
    CommandChecked db (.deleteRule ruleId) prepared := by
  obtain ⟨rule, hdeleted⟩ := deleteRule_ok h
  constructor
  · rw [hdeleted.change_eq]
    rintro id rfl
    exact ⟨hdeleted.locked, Table.lt_next_of_get? hdeleted.found⟩
  · rw [hdeleted.change_eq]
    exact subset_rfl
  · rw [hdeleted.change_eq]
    rintro id rfl
    exact ⟨rule, hdeleted.found, hdeleted.kept⟩

lemma checked_prepare (h : prepare db command = .ok prepared) :
    CommandChecked db command prepared := by
  cases command with
  | ensurePolicy offerId =>
    simp only [prepare, bind_eq_ok, pure_eq_ok] at h
    obtain ⟨_, -, rfl⟩ := h
    exact checked_of_written_eq_empty rfl
  | updatePolicy offerId settings =>
    simp only [prepare, updatePolicy, bind_eq_ok, pure_eq_ok] at h
    obtain ⟨_, -, _, -, _, -, rfl⟩ := h
    exact checked_of_written_eq_empty rfl
  | addRule offerId spec =>
    obtain ⟨fields, hadded⟩ := addRule_ok h
    exact checked_of_written_eq_empty (by rw [hadded.change_eq]; rfl)
  | updateRule ruleId patch => exact checked_updateRule h
  | deleteRule ruleId => exact checked_deleteRule h
  | cloneRules source target =>
    simp only [prepare, cloneRules, bind_eq_ok, pure_eq_ok] at h
    obtain ⟨_, -, _, -, _, -, _, -, rfl⟩ := h
    exact checked_of_written_eq_empty rfl

lemma target_unique {c : Change} {a b : ℕ} (ha : a ∈ c.target) (hb : b ∈ c.target) : a = b := by
  cases c with
  | updateRule ruleId update => exact ha.1.trans hb.1.symm
  | deleteRule ruleId => exact ha.trans hb.symm
  | _ => exact absurd ha (Set.notMem_empty a)

/-- The guard has seen another enforcing rule of an offer that is on sale and enforceable. -/
lemma exists_other_enforcing (h : prepare db command = .ok prepared) {o : ℕ}
    (hrequires : Requires db o) {policy : FupPolicy} (hpolicy : policy ∈ db.policies.rows)
    (hoffer : policy.offerId = o) (hactive : policy.isActive = true) {rule : FupRule}
    (hrule : rule ∈ db.rules.rows) (hof : rule.policyId = policy.id) (henforcing : rule.Enforcing)
    (htarget : rule.id ∈ prepared.change.target) :
    ∃ other, EnforcingRuleOf db o other ∧ other.id ≠ rule.id := by
  obtain ⟨found, hfound, verb, hguard⟩ := (checked_prepare h).guarded rule.id htarget
  obtain ⟨hmem, hid⟩ := Table.get?_eq_some.mp hfound
  obtain rfl : found = rule := Table.eq_of_id_eq hmem hrule hid
  obtain ⟨offer, hget, hsale⟩ := hrequires
  have hpolicyOf : db.policies.get? found.policyId = some policy :=
    Table.get?_eq_some.mpr ⟨hpolicy, hof.symm⟩
  obtain ⟨id, hlisted, hne⟩ := assertNotLastEnforcingRule_ok hguard henforcing hpolicyOf hactive
    (hoffer ▸ hget) hsale
  obtain ⟨other, hother, hotherId, hotherEnforcing, owner, howner, hownerId, hownerOffer, -⟩ :=
    mem_activeSpeedReductionRuleIds.mp hlisted
  exact ⟨other, ⟨hother, hotherEnforcing, owner, howner, hownerId, hownerOffer.trans hoffer⟩,
    hotherId ▸ hne⟩

end Prepare

section Runs

variable {w w' : World FupDb Change RowLock} {event : Event Command}

/-- The rules that open transactions are about to take enforcement from. -/
def doomed (pending : List (Txn Change RowLock)) : Set ℕ :=
  {id | ∃ t ∈ pending, id ∈ t.change.target}

/-- The event leaves the offers on sale enough enforcing rules that nobody is removing: a command
that strips one of them begins while another one is out of reach of the open transactions, a commit
does not switch the policy of such an offer off, and it switches one on only with a rule that is
out of reach. -/
def Undisturbed (w : World FupDb Change RowLock) : Event Command → Prop
  | .begin _ command => ∀ o, Requires w.db o → w.db.Enforceable o →
      ∀ rule, EnforcingRuleOf w.db o rule → rule.id ∈ command.target →
        (∃ other, EnforcingRuleOf w.db o other ∧ other.id ≠ rule.id) →
          ∃ other, EnforcingRuleOf w.db o other ∧ other.id ≠ rule.id ∧ other.id ∉ doomed w.pending
  | .commit session => ∀ t ∈ w.find? session, ∀ o, Requires w.db o →
      (w.db.Enforceable o → ¬ t.change.Deactivates o) ∧
      (¬ w.db.Enforceable o → t.change.Activates o →
        (∃ rule, EnforcingRuleOf w.db o rule) →
          ∃ rule, EnforcingRuleOf w.db o rule ∧ rule.id ∉ doomed (w.others session))
  | .rollback _ => True

/-- What undisturbed events keep. -/
structure Consistent (w : World FupDb Change RowLock) : Prop where
  sound : Sound w.db
  apart : Apart w
  held : ∀ t ∈ w.pending, ∀ id ∈ t.change.written, .rule id ∈ t.locks
  stored : ∀ t ∈ w.pending, ∀ id ∈ t.change.written, id < w.db.rules.next
  kept : ∀ o, Requires w.db o → w.db.Enforceable o → Enforced (doomed w.pending) w.db o

lemma offers_apply (db : FupDb) (c : Change) : (c.apply db).offers = db.offers := by
  cases c with
  | updateRule | deleteRule => rfl
  | ensurePolicy offerId => exact (ensurePolicy_frame db offerId).2
  | updatePolicy offerId => exact (ensurePolicy_frame db offerId).2
  | addRule offerId => exact (ensurePolicy_frame db offerId).2
  | cloneRules offerId rows =>
    exact (insertClones_frame rows _).2.1.trans (ensurePolicy_frame db offerId).2

lemma requires_apply {db : FupDb} {c : Change} {o : ℕ} :
    Requires (c.apply db) o ↔ Requires db o := by
  rw [Requires, offers_apply, Requires]

/-- No command gives an identifier back. -/
lemma next_le_apply (db : FupDb) (c : Change) : db.rules.next ≤ (c.apply db).rules.next := by
  cases c with
  | updateRule | deleteRule => exact le_rfl
  | ensurePolicy offerId => exact (congrArg Table.next (ensurePolicy_frame db offerId).1).ge
  | updatePolicy offerId => exact (congrArg Table.next (ensurePolicy_frame db offerId).1).ge
  | addRule offerId =>
    refine (congrArg Table.next (ensurePolicy_frame db offerId).1).ge.trans ?_
    exact Nat.le_succ _
  | cloneRules offerId rows =>
    refine (congrArg Table.next (ensurePolicy_frame db offerId).1).ge.trans ?_
    exact (insertClones_frame rows _).2.2.1

/-- The policy of an offer, and the policy of each rule, stay. -/
lemma Sound.apply {db : FupDb} (hsound : Sound db) (c : Change) : Sound (c.apply db) := by
  cases c with
  | ensurePolicy offerId => exact hsound.ensurePolicy
  | updatePolicy offerId settings =>
    obtain ⟨honePolicy, hhasPolicy⟩ := @Sound.ensurePolicy db offerId hsound
    obtain ⟨hfound, -⟩ := ensurePolicy_found db offerId
    constructor
    · intro p hp q hq heq
      rcases mem_policies_updatePolicy.mp hp with ⟨hp, hpid⟩ | rfl <;>
        rcases mem_policies_updatePolicy.mp hq with ⟨hq, hqid⟩ | rfl
      · exact honePolicy p hp q hq heq
      · exact absurd (congrArg FupPolicy.id (honePolicy p hp _ hfound heq)) hpid
      · exact absurd (congrArg FupPolicy.id (honePolicy q hq _ hfound heq.symm)) hqid
      · rfl
    · intro rule hrule
      obtain ⟨policy, hpolicy, hid⟩ := hhasPolicy rule hrule
      by_cases heq : policy.id = (Fup.ensurePolicy db offerId).2.id
      · exact ⟨_, mem_policies_updatePolicy.mpr (.inr rfl), heq.symm.trans hid⟩
      · exact ⟨policy, mem_policies_updatePolicy.mpr (.inl ⟨hpolicy, heq⟩), hid⟩
  | addRule offerId fields =>
    refine ⟨hsound.ensurePolicy.onePolicy, fun rule hrule => ?_⟩
    rcases mem_rules_addRule.mp hrule with hold | rfl
    · obtain ⟨policy, hpolicy, hid⟩ := hsound.hasPolicy rule hold
      exact ⟨policy, mem_ensurePolicy hpolicy, hid⟩
    · exact ⟨_, (ensurePolicy_found db offerId).1, rfl⟩
  | updateRule ruleId update =>
    refine ⟨hsound.onePolicy, fun rule hrule => ?_⟩
    rcases mem_rules_updateRule.mp hrule with ⟨hold, -⟩ | ⟨old, hold, -, rfl⟩
    · exact hsound.hasPolicy rule hold
    · exact hsound.hasPolicy old hold
  | deleteRule ruleId =>
    refine ⟨hsound.onePolicy, fun rule hrule => ?_⟩
    obtain ⟨old, hold, -, rfl⟩ := mem_rules_deleteRule.mp hrule
    obtain ⟨policy, hpolicy, hid⟩ := hsound.hasPolicy old hold
    refine ⟨policy, hpolicy, ?_⟩
    split_ifs <;> exact hid
  | cloneRules offerId rows =>
    obtain ⟨hpolicies, -, -, -, hnew⟩ := @insertClones_frame
      (Fup.ensurePolicy db offerId).1.rules.next (Fup.ensurePolicy db offerId).2.id rows
      (Fup.ensurePolicy db offerId).1
    obtain ⟨honePolicy, hhasPolicy⟩ := @Sound.ensurePolicy db offerId hsound
    rw [← hpolicies] at honePolicy
    refine ⟨honePolicy, fun rule hrule => ?_⟩
    rcases hnew rule hrule with hold | ⟨-, hpolicy⟩
    · obtain ⟨policy, hmem, hid⟩ := hhasPolicy rule hold
      rw [← hpolicies] at hmem
      exact ⟨policy, hmem, hid⟩
    · have hmem := (ensurePolicy_found db offerId).1
      rw [← hpolicies] at hmem
      exact ⟨_, hmem, hpolicy.symm⟩

lemma session_of_find? {session : ℕ} {t : Txn Change RowLock} (h : w.find? session = some t) :
    t ∈ w.pending ∧ t.session = session :=
  ⟨List.mem_of_find?_eq_some h, by simpa using List.find?_some h⟩

/-- What a commit leaves to the other transactions. -/
lemma Consistent.others_untouched (hw : Consistent w) {session : ℕ} {t : Txn Change RowLock}
    (hfound : w.find? session = some t) : doomed (w.others session) ⊆ t.change.untouched w.db := by
  obtain ⟨ht, hsession⟩ := session_of_find? hfound
  rintro id ⟨u, hu, hid⟩
  obtain ⟨hpending, hother⟩ := List.mem_filter.mp hu
  have hwritten : id ∈ u.change.written := u.change.target_subset_written hid
  refine ⟨hw.stored u hpending id hwritten, fun hmem => ?_⟩
  have hne : t.session ≠ u.session := by
    rw [hsession]
    exact fun heq => of_decide_eq_true hother heq.symm
  exact hw.apart.not_mem ht hpending hne (hw.held t ht id hmem) (hw.held u hpending id hwritten)

lemma doomed_of_commit {session : ℕ} {t : Txn Change RowLock} (hfound : w.find? session = some t) :
    t.change.target ∪ doomed (w.others session) ⊆ doomed w.pending := by
  obtain ⟨ht, -⟩ := session_of_find? hfound
  rintro id (hid | ⟨u, hu, hid⟩)
  · exact ⟨t, ht, hid⟩
  · exact ⟨u, List.mem_of_mem_filter hu, hid⟩

lemma Consistent.enforced_commit (hw : Consistent w) {session : ℕ} {t : Txn Change RowLock}
    (hfound : w.find? session = some t) (hundisturbed : Undisturbed w (.commit session)) {o : ℕ}
    (hrequires : Requires w.db o) (henforceable : w.db.Enforceable o) :
    Enforced (doomed (w.others session)) (t.change.apply w.db) o := by
  have hdeactivates := (hundisturbed t hfound o hrequires).1 henforceable
  refine enforced_apply hw.sound t.change hdeactivates ?_
  exact (hw.kept o hrequires henforceable).mono (doomed_of_commit hfound)

lemma exists_activated {db : FupDb} (hsound : Sound db) {c : Change} {o : ℕ} (h : c.Activates o)
    {rule : FupRule} (hrule : EnforcingRuleOf db o rule) :
    rule ∈ (c.apply db).rules.rows ∧ ∃ policy ∈ (c.apply db).policies.rows,
      policy.offerId = o ∧ policy.isActive = true ∧ rule.policyId = policy.id := by
  obtain ⟨settings, rfl, hon⟩ := h
  obtain ⟨hmem, -, policy, hpolicy, hid, hoffer⟩ := hrule
  obtain ⟨hfound, hfoundOffer⟩ := ensurePolicy_found db o
  have hsame : policy = (ensurePolicy db o).2 :=
    hsound.ensurePolicy.onePolicy policy (mem_ensurePolicy hpolicy) _ hfound
      (hoffer.trans hfoundOffer.symm)
  refine ⟨?_, _, mem_policies_updatePolicy.mpr (.inr rfl), hfoundOffer, hon, ?_⟩
  · rw [rules_updatePolicy]
    exact hmem
  · rw [← hsame, hid]

section Keep

variable {session : ℕ} {t : Txn Change RowLock} {o : ℕ}

/-- A command that begins undisturbed leaves an enforceable offer a rule that nobody is removing. -/
lemma Consistent.enforced_begin (hw : Consistent w) {command : Command} {prepared : Prepared}
    (hprepare : prepare w.db command = .ok prepared)
    (hundisturbed : Undisturbed w (.begin session command)) (hrequires : Requires w.db o)
    (henforceable : w.db.Enforceable o) :
    Enforced (prepared.change.target ∪ doomed w.pending) w.db o := by
  obtain ⟨policy, hpolicy, hoffer, hactive, rule, hrule, hof, henforcing, hnot⟩ :=
    hw.kept o hrequires henforceable
  by_cases htarget : rule.id ∈ prepared.change.target
  · have hruleOf : EnforcingRuleOf w.db o rule :=
      ⟨hrule, henforcing, policy, hpolicy, hof.symm, hoffer⟩
    have hother := exists_other_enforcing hprepare hrequires hpolicy hoffer hactive hrule hof
      henforcing htarget
    obtain ⟨other, ⟨hmem, hotherEnforcing, owner, howner, hownerId, hownerOffer⟩, hne, hfar⟩ :=
      hundisturbed o hrequires henforceable rule hruleOf
        ((checked_prepare hprepare).asked htarget) hother
    obtain rfl : owner = policy :=
      hw.sound.onePolicy owner howner policy hpolicy (hownerOffer.trans hoffer.symm)
    refine ⟨owner, hpolicy, hoffer, hactive, other, hmem, hownerId.symm, hotherEnforcing, ?_⟩
    rintro (hid | hid)
    · exact hne (target_unique hid htarget)
    · exact hfar hid
  · refine ⟨policy, hpolicy, hoffer, hactive, rule, hrule, hof, henforcing, ?_⟩
    rintro (hid | hid)
    · exact htarget hid
    · exact hnot hid

/-- An undisturbed commit leaves an offer that it makes enforceable a rule nobody is removing. -/
lemma Consistent.enforced_committed (hw : Consistent w) (hfound : w.find? session = some t)
    (hundisturbed : Undisturbed w (.commit session)) (hrequires : Requires w.db o)
    (henforceable : (t.change.apply w.db).Enforceable o) :
    Enforced (doomed (w.others session)) (t.change.apply w.db) o := by
  by_cases hbefore : w.db.Enforceable o
  · exact hw.enforced_commit hfound hundisturbed hrequires hbefore
  rcases enforceable_apply hw.sound t.change henforceable with hold | hnew | ⟨hactivates, hrule⟩
  · exact absurd hold hbefore
  · exact hnew.mono (hw.others_untouched hfound)
  · obtain ⟨rule, hruleOf, hfar⟩ :=
      (hundisturbed t hfound o hrequires).2 hbefore hactivates hrule
    obtain ⟨hmem, policy, hpolicy, hoffer, hon, hof⟩ :=
      exists_activated hw.sound hactivates hruleOf
    exact ⟨policy, hpolicy, hoffer, hon, rule, hmem, hof, hruleOf.2.1, hfar⟩

end Keep

/-- An undisturbed event keeps what holds of the rules that open transactions remove. -/
lemma Consistent.step (hw : Consistent w) (hundisturbed : Undisturbed w event)
    (h : Sessions.step fupSystem w event = .ok w') : Consistent w' := by
  have hstepped := stepped_of_step h
  have hapart : Apart w' := hw.apart.step hstepped
  cases hstepped with
  | begin hidle hprepared hfree =>
    obtain ⟨prepared, hprepare, hpair⟩ := bind_eq_ok.mp hprepared
    obtain ⟨rfl, rfl⟩ := mk_eq_ok.mp hpair
    have hchecked := checked_prepare hprepare
    refine ⟨hw.sound, hapart, ?_, ?_, fun o hrequires henforceable => ?_⟩
    · intro t ht
      rcases List.mem_cons.mp ht with rfl | ht
      · exact fun id hid => (hchecked.held id hid).1
      · exact hw.held t ht
    · intro t ht
      rcases List.mem_cons.mp ht with rfl | ht
      · exact fun id hid => (hchecked.held id hid).2
      · exact hw.stored t ht
    · refine (hw.enforced_begin hprepare hundisturbed hrequires henforceable).mono ?_
      rintro id ⟨t, ht, hid⟩
      rcases List.mem_cons.mp ht with rfl | ht
      · exact .inl hid
      · exact .inr ⟨t, ht, hid⟩
  | @commit session t hfound =>
    refine ⟨hw.sound.apply t.change, hapart, ?_, ?_, fun o hrequires henforceable => ?_⟩
    · exact fun u hu => hw.held u (List.mem_of_mem_filter hu)
    · exact fun u hu id hid => (hw.stored u (List.mem_of_mem_filter hu) id hid).trans_le
        (next_le_apply w.db t.change)
    · exact hw.enforced_committed hfound hundisturbed (requires_apply.mp hrequires) henforceable
  | rollback =>
    refine ⟨hw.sound, hapart, ?_, ?_, fun o hrequires henforceable => ?_⟩
    · exact fun u hu => hw.held u (List.mem_of_mem_filter hu)
    · exact fun u hu => hw.stored u (List.mem_of_mem_filter hu)
    · refine (hw.kept o hrequires henforceable).mono ?_
      rintro id ⟨u, hu, hid⟩
      exact ⟨u, List.mem_of_mem_filter hu, hid⟩

end Runs

/-! ## Three runs -/

/-- Nobody is at work on the only offer. -/
def idle : World FupDb Change RowLock := ⟨oneOffer, []⟩

end DotmacSub.Fup
