import DotmacSub.Models.Fup

/-!
# Evaluation of the rules

`evaluate_rules` of `services/fup.py`.  The moment is the wall clock of the subscriber, and the
texts a result shows are left out.
-/

namespace DotmacSub.Fup

open Store

/-- The wall clock of a subscriber: the time of day in microseconds, the weekday from Monday. -/
structure WallClock where
  time : ℕ
  weekday : ℤ

def thresholdGb (rule : FupRule) : ℚ :=
  match rule.thresholdUnit with
  | .mb => rule.thresholdAmount / 1024
  | .gb => rule.thresholdAmount
  | .tb => rule.thresholdAmount * 1024

/-- The time falls within a window; an overnight window ends on the next day. -/
def timeInWindow (time : ℕ) (start stop : Option ℕ) (inverse : Bool := false) : Bool :=
  match start, stop with
  | some start, some stop =>
    let inWindow : Bool := if start ≤ stop then start ≤ time ∧ time ≤ stop
      else start ≤ time ∨ time ≤ stop
    if inverse then !inWindow else inWindow
  | _, _ => true

/-- The weekday is allowed; no list, or an empty one, allows every day. -/
def dayInList (weekday : ℤ) (days : Option (List ℤ)) : Bool :=
  let list := days.getD []
  list = [] ∨ weekday ∈ list

inductive RuleStatus
  | disabled
  | waiting
  | timeSkip
  | daySkip
  | triggered
  | ok
deriving DecidableEq

structure RuleResult where
  ruleId : ℕ
  name : String
  sortOrder : ℤ
  thresholdGb : ℚ
  triggered : Bool
  action : Option FupAction
  speedReductionPercent : Option ℚ
  status : RuleStatus
  blockedBy : Option ℕ := none
deriving DecidableEq

structure Usage where
  currentUsageGb : ℚ
  byPeriod : FupConsumptionPeriod → Option ℚ := fun _ => none

/-- The usage of a rule's own consumption window, else the monthly figure. -/
def Usage.of (usage : Usage) (rule : FupRule) : ℚ :=
  (usage.byPeriod rule.consumptionPeriod).getD usage.currentUsageGb

section Evaluate

variable (policy : FupPolicy) (usage : Usage) (now : WallClock)

def ruleDays (rule : FupRule) : Option (List ℤ) :=
  if rule.daysOfWeek.getD [] = [] then policy.trafficDaysOfWeek else rule.daysOfWeek

/-- The result of a rule that does not get as far as its threshold. -/
def skipped (rule : FupRule) (status : RuleStatus) (blockedBy : Option ℕ := none) : RuleResult where
  ruleId := rule.id
  name := rule.name
  sortOrder := rule.sortOrder
  thresholdGb := thresholdGb rule
  triggered := false
  action := some rule.action
  speedReductionPercent := rule.speedReductionPercent
  status := status
  blockedBy := blockedBy

def prerequisiteFired (fired : Finset ℕ) (rule : FupRule) : Bool :=
  ∀ id ∈ rule.enabledByRuleId, id ∈ fired

def ruleOpen (rule : FupRule) : Bool :=
  timeInWindow now.time rule.timeStart rule.timeEnd ∧ dayInList now.weekday (ruleDays policy rule)

/-- One rule against the usage of its period and the rules that have fired. -/
def evaluateRule (fired : Finset ℕ) (rule : FupRule) : RuleResult :=
  if rule.isActive = false then skipped rule .disabled
  else if prerequisiteFired fired rule = false then skipped rule .waiting rule.enabledByRuleId
  else if timeInWindow now.time rule.timeStart rule.timeEnd = false then skipped rule .timeSkip
  else if dayInList now.weekday (ruleDays policy rule) = false then skipped rule .daySkip
  else
    let triggered : Bool := thresholdGb rule ≤ usage.of rule
    { ruleId := rule.id
      name := rule.name
      sortOrder := rule.sortOrder
      thresholdGb := thresholdGb rule
      triggered := triggered
      action := if triggered then some rule.action else none
      speedReductionPercent := if triggered then rule.speedReductionPercent else none
      status := if triggered then .triggered else .ok }

/-- The rules in order; one that fires enables the rules behind it. -/
def evaluateLoop : List FupRule → Finset ℕ → List RuleResult
  | [], _ => []
  | rule :: rules, fired =>
    let result := evaluateRule policy usage now fired rule
    result :: evaluateLoop rules (if result.triggered then insert rule.id fired else fired)

end Evaluate

/-- The rules of a policy in their order, at a usage. -/
def evaluateRules (db : FupDb) (offerId : ℕ) (usage : Usage) (now : WallClock)
    (firedRuleIds : Finset ℕ := ∅) : List RuleResult :=
  match db.policyByOffer offerId with
  | none => []
  | some policy =>
    if policy.isActive = false then []
    else evaluateLoop policy usage now (db.rulesOf policy.id) firedRuleIds

section Loop

variable (policy : FupPolicy) (usage : Usage) (now : WallClock)

lemma evaluateRule_triggered (fired : Finset ℕ) (rule : FupRule) :
    (evaluateRule policy usage now fired rule).triggered = true ↔
      rule.isActive = true ∧ prerequisiteFired fired rule = true ∧ ruleOpen policy now rule = true ∧
        thresholdGb rule ≤ usage.of rule := by
  unfold evaluateRule ruleOpen
  split_ifs with hinactive hwaiting htime hday <;> simp_all [skipped]

def firedAfter : List FupRule → Finset ℕ → Finset ℕ
  | [], fired => fired
  | rule :: rules, fired => firedAfter rules
      (if (evaluateRule policy usage now fired rule).triggered then insert rule.id fired else fired)

lemma evaluateLoop_append (before after : List FupRule) (fired : Finset ℕ) :
    evaluateLoop policy usage now (before ++ after) fired =
      evaluateLoop policy usage now before fired ++
        evaluateLoop policy usage now after (firedAfter policy usage now before fired) := by
  induction before generalizing fired with
  | nil => rfl
  | cons rule before ih => simp [evaluateLoop, firedAfter, ih]

lemma mem_firedAfter (rules : List FupRule) (fired : Finset ℕ) (id : ℕ) :
    id ∈ firedAfter policy usage now rules fired ↔ id ∈ fired ∨
      ∃ result ∈ evaluateLoop policy usage now rules fired,
        result.triggered = true ∧ result.ruleId = id := by
  induction rules generalizing fired with
  | nil => simp [firedAfter, evaluateLoop]
  | cons rule rules ih =>
    have hid : (evaluateRule policy usage now fired rule).ruleId = rule.id := by
      unfold evaluateRule
      split_ifs <;> rfl
    rw [firedAfter, ih, evaluateLoop]
    by_cases htriggered : (evaluateRule policy usage now fired rule).triggered = true
    · rw [if_pos htriggered, Finset.mem_insert, eq_comm (a := id)]
      simp only [List.mem_cons, exists_eq_or_imp, htriggered, hid, true_and]
      tauto
    · simp [htriggered]

lemma evaluateRule_ruleId (fired : Finset ℕ) (rule : FupRule) :
    (evaluateRule policy usage now fired rule).ruleId = rule.id := by
  unfold evaluateRule
  split_ifs <;> rfl

lemma map_ruleId_evaluateLoop (rules : List FupRule) (fired : Finset ℕ) :
    (evaluateLoop policy usage now rules fired).map RuleResult.ruleId = rules.map FupRule.id := by
  induction rules generalizing fired with
  | nil => rfl
  | cons rule rules ih => simp [evaluateLoop, evaluateRule_ruleId, ih]

end Loop

def Fires (results : List RuleResult) (id : ℕ) : Prop :=
  ∃ result ∈ results, result.ruleId = id ∧ result.triggered = true

instance (results : List RuleResult) (id : ℕ) : Decidable (Fires results id) :=
  inferInstanceAs (Decidable (∃ _ ∈ _, _))

section Fires

variable {policy : FupPolicy} {usage : Usage} {now : WallClock} {fired : Finset ℕ}
  {rules before after : List FupRule} {rule : FupRule}

lemma Fires.mem {id : ℕ} (h : Fires (evaluateLoop policy usage now rules fired) id) :
    id ∈ rules.map FupRule.id := by
  obtain ⟨result, hresult, rfl, -⟩ := h
  rw [← map_ruleId_evaluateLoop policy usage now rules fired]
  exact List.mem_map_of_mem hresult

lemma fires_append (id : ℕ) : Fires (evaluateLoop policy usage now (before ++ after) fired) id ↔
    Fires (evaluateLoop policy usage now before fired) id ∨
      Fires (evaluateLoop policy usage now after (firedAfter policy usage now before fired)) id := by
  simp only [Fires, evaluateLoop_append, List.mem_append, or_and_right, exists_or]

lemma mem_firedAfter_iff (id : ℕ) : id ∈ firedAfter policy usage now before fired ↔
    id ∈ fired ∨ Fires (evaluateLoop policy usage now before fired) id := by
  simp only [mem_firedAfter, Fires, and_comm]

/-- **When a rule fires.**  It is switched on and open, its usage reaches the threshold, and its
prerequisite was given as fired or is an earlier rule that fires. -/
theorem fires_iff (hnodup : ((before ++ rule :: after).map FupRule.id).Nodup) :
    Fires (evaluateLoop policy usage now (before ++ rule :: after) fired) rule.id ↔
      rule.isActive = true ∧ ruleOpen policy now rule = true ∧ thresholdGb rule ≤ usage.of rule ∧
        ∀ id ∈ rule.enabledByRuleId, id ∈ fired ∨ (id ∈ before.map FupRule.id ∧
          Fires (evaluateLoop policy usage now (before ++ rule :: after) fired) id) := by
  have hdistinct := hnodup
  rw [List.map_append, List.map_cons, List.nodup_append, List.nodup_cons] at hdistinct
  obtain ⟨-, ⟨hnotAfter, -⟩, hapart⟩ := hdistinct
  have hself : Fires (evaluateLoop policy usage now (before ++ rule :: after) fired) rule.id ↔
      (evaluateRule policy usage now (firedAfter policy usage now before fired) rule).triggered
        = true := by
    rw [fires_append]
    constructor
    · rintro (hbefore | ⟨result, hresult, hid, htriggered⟩)
      · exact absurd rfl (hapart _ hbefore.mem _ List.mem_cons_self)
      · rcases List.mem_cons.mp hresult with rfl | hresult
        · exact htriggered
        · exact absurd (Fires.mem ⟨result, hresult, hid, htriggered⟩) hnotAfter
    · intro htriggered
      exact .inr ⟨_, List.mem_cons_self, evaluateRule_ruleId policy usage now _ rule, htriggered⟩
  have hearlier : ∀ id, Fires (evaluateLoop policy usage now before fired) id ↔
      id ∈ before.map FupRule.id ∧
        Fires (evaluateLoop policy usage now (before ++ rule :: after) fired) id := by
    intro id
    rw [fires_append]
    constructor
    · exact fun h => ⟨h.mem, .inl h⟩
    · rintro ⟨hmem, h | h⟩
      · exact h
      · exact absurd rfl (hapart _ hmem _ h.mem)
  rw [hself, evaluateRule_triggered, prerequisiteFired, decide_eq_true_eq]
  simp only [mem_firedAfter_iff, hearlier]
  tauto

/-- The active rules of a list in which each waits only for an active rule before it. -/
def InOrder : List FupRule → List FupRule → Prop
  | _, [] => True
  | before, rule :: after =>
    (rule.isActive = true → ∀ id ∈ rule.enabledByRuleId, ∃ earlier ∈ before,
      earlier.id = id ∧ earlier.isActive = true) ∧ InOrder (before ++ [rule]) after

instance decidableInOrder : (before after : List FupRule) → Decidable (InOrder before after)
  | _, [] => .isTrue trivial
  | before, rule :: after =>
    have := decidableInOrder (before ++ [rule]) after
    inferInstanceAs (Decidable (_ ∧ _))

lemma fires_of_inOrder (hnodup : ((before ++ after).map FupRule.id).Nodup)
    (hopen : ∀ rule ∈ before ++ after, rule.isActive = true → ruleOpen policy now rule = true)
    (hreached : ∀ rule ∈ before ++ after, rule.isActive = true → thresholdGb rule ≤ usage.of rule)
    (horder : InOrder before after)
    (hbefore : ∀ rule ∈ before, rule.isActive = true →
      Fires (evaluateLoop policy usage now (before ++ after) fired) rule.id) :
    ∀ rule ∈ before ++ after, rule.isActive = true →
      Fires (evaluateLoop policy usage now (before ++ after) fired) rule.id := by
  induction after generalizing before with
  | nil => simpa using hbefore
  | cons rule after ih =>
    have happend : before ++ rule :: after = (before ++ [rule]) ++ after := by simp
    rw [happend] at hnodup hopen hreached hbefore ⊢
    refine ih hnodup hopen hreached horder.2 fun r hr hactive => ?_
    rcases List.mem_append.mp hr with hr | hr
    · exact hbefore r hr hactive
    · obtain rfl := List.mem_singleton.mp hr
      rw [← happend] at hnodup ⊢
      refine (fires_iff hnodup).mpr ⟨hactive, hopen r (by simp) hactive, hreached r (by simp) hactive,
        fun id hid => ?_⟩
      obtain ⟨earlier, hearlier, rfl, hon⟩ := horder.1 hactive id hid
      rw [happend]
      exact .inr ⟨List.mem_map_of_mem hearlier, hbefore earlier hearlier hon⟩

end Fires

structure Usage.Raised (usage raised : Usage) : Prop where
  current : usage.currentUsageGb ≤ raised.currentUsageGb
  missing : ∀ period, raised.byPeriod period = none ↔ usage.byPeriod period = none
  byPeriod : ∀ period, ∀ gb ∈ usage.byPeriod period, ∀ gb' ∈ raised.byPeriod period, gb ≤ gb'

lemma Usage.Raised.of_le {usage raised : Usage} (h : usage.Raised raised) (rule : FupRule) :
    usage.of rule ≤ raised.of rule := by
  have hmissing := h.missing rule.consumptionPeriod
  have hbyPeriod := h.byPeriod rule.consumptionPeriod
  unfold Usage.of
  cases hgb : usage.byPeriod rule.consumptionPeriod with
  | none => simpa [hmissing.mpr hgb] using h.current
  | some gb =>
    cases hgb' : raised.byPeriod rule.consumptionPeriod with
    | none => exact absurd (hmissing.mp hgb') (by simp [hgb])
    | some gb' => simpa using hbyPeriod gb hgb gb' hgb'

section Growth

variable {policy : FupPolicy} {usage raised : Usage} {now : WallClock} {rules : List FupRule}
  {fired fired' : Finset ℕ} {db : FupDb}

lemma evaluateRule_mono (hraised : usage.Raised raised) (hfired : fired ⊆ fired') {rule : FupRule}
    (h : (evaluateRule policy usage now fired rule).triggered = true) :
    (evaluateRule policy raised now fired' rule).triggered = true := by
  rw [evaluateRule_triggered] at h ⊢
  obtain ⟨hactive, hprerequisite, hopen, hreached⟩ := h
  refine ⟨hactive, ?_, hopen, Rat.le_trans hreached (hraised.of_le rule)⟩
  simp only [prerequisiteFired, decide_eq_true_eq] at hprerequisite ⊢
  intro id hid
  exact hfired (hprerequisite id hid)

lemma fires_mono (hraised : usage.Raised raised) (hfired : fired ⊆ fired') {id : ℕ}
    (h : Fires (evaluateLoop policy usage now rules fired) id) :
    Fires (evaluateLoop policy raised now rules fired') id := by
  induction rules generalizing fired fired' with
  | nil => simp [Fires, evaluateLoop] at h
  | cons rule rules ih =>
    have hrule := @evaluateRule_mono policy usage raised now _ _ hraised hfired rule
    simp only [Fires, evaluateLoop, List.mem_cons, exists_eq_or_imp, evaluateRule_ruleId] at h ⊢
    rcases h with ⟨rfl, htriggered⟩ | hlater
    · exact .inl ⟨rfl, hrule htriggered⟩
    · refine .inr (ih ?_ hlater)
      split_ifs with hbefore hafter hafter
      · exact Finset.insert_subset_insert _ hfired
      · exact absurd (hrule hbefore) hafter
      · exact hfired.trans (Finset.subset_insert _ _)
      · exact hfired

lemma mem_rulesOf {policyId : ℕ} {rule : FupRule} :
    rule ∈ db.rulesOf policyId ↔ rule ∈ db.rules.rows ∧ rule.policyId = policyId := by
  simp [FupDb.rulesOf, List.mem_insertionSort]

lemma nodup_rulesOf (db : FupDb) (policyId : ℕ) : ((db.rulesOf policyId).map FupRule.id).Nodup := by
  have hsorted : (db.rulesOf policyId).Perm (db.rules.rows.filter (·.policyId = policyId)) :=
    List.perm_insertionSort _ _
  exact (hsorted.map _).nodup_iff.mpr (db.rules.nodup.sublist (List.filter_sublist.map _))

/-- The rules of a policy with distinct sort keys, in whatever order they were created. -/
lemma rulesOf_eq {db' : FupDb} (hperm : db'.rules.rows.Perm db.rules.rows)
    (hkeys : ∀ r ∈ db.rules.rows, ∀ s ∈ db.rules.rows,
      r.policyId = s.policyId → r.sortOrder = s.sortOrder → r = s) (policyId : ℕ) :
    db'.rulesOf policyId = db.rulesOf policyId := by
  have hsame : (db'.rulesOf policyId).Perm (db.rulesOf policyId) :=
    (List.perm_insertionSort _ _).trans
      ((hperm.filter _).trans (List.perm_insertionSort _ _).symm)
  refine hsame.eq_of_pairwise (fun r s hr hs hrs hsr => ?_) (List.pairwise_insertionSort _ _)
    (List.pairwise_insertionSort _ _)
  obtain ⟨hr, hpolicy⟩ := mem_rulesOf.mp (hsame.mem_iff.mp hr)
  obtain ⟨hs, hpolicy'⟩ := mem_rulesOf.mp hs
  exact hkeys r hr s hs (hpolicy.trans hpolicy'.symm) (le_antisymm hrs hsr)

end Growth

/-- **Evaluation grows with usage.**  More usage triggers no fewer rules; a chained rule is
triggered only with its prerequisite, or after it; and the order in which rules with distinct sort
keys were created does not matter. -/
theorem evaluateRules_monotone (db : FupDb) (offerId : ℕ) (now : WallClock) (fired : Finset ℕ) :
    (∀ usage raised : Usage, usage.Raised raised → ∀ id,
      Fires (evaluateRules db offerId usage now fired) id →
        Fires (evaluateRules db offerId raised now fired) id) ∧
    (∀ usage, ∀ rule ∈ db.rules.rows, Fires (evaluateRules db offerId usage now fired) rule.id →
      ∀ prerequisite ∈ rule.enabledByRuleId, prerequisite ∈ fired ∨
        Fires (evaluateRules db offerId usage now fired) prerequisite) ∧
    (∀ usage, ∀ rule ∈ db.rules.rows, Fires (evaluateRules db offerId usage now) rule.id →
      ∀ prerequisite ∈ rule.enabledByRuleId,
        Fires (evaluateRules db offerId usage now) prerequisite) ∧
    ∀ db' : FupDb, db'.policies = db.policies → db'.rules.rows.Perm db.rules.rows →
      (∀ r ∈ db.rules.rows, ∀ s ∈ db.rules.rows,
        r.policyId = s.policyId → r.sortOrder = s.sortOrder → r = s) →
      ∀ usage, evaluateRules db' offerId usage now fired =
        evaluateRules db offerId usage now fired := by
  have hchained : ∀ usage fired, ∀ rule ∈ db.rules.rows,
      Fires (evaluateRules db offerId usage now fired) rule.id →
        ∀ prerequisite ∈ rule.enabledByRuleId, prerequisite ∈ fired ∨
          Fires (evaluateRules db offerId usage now fired) prerequisite := by
    intro usage fired rule hrule h prerequisite hprerequisite
    unfold evaluateRules at h ⊢
    split at h
    · simp [Fires] at h
    next policy _ =>
      split_ifs at h with hactive
      · simp [Fires] at h
      · rw [if_neg hactive]
        obtain ⟨same, hsame, hid⟩ := List.mem_map.mp h.mem
        obtain rfl : same = rule := db.rules.eq_of_id_eq (mem_rulesOf.mp hsame).1 hrule hid
        have hnodup := nodup_rulesOf db policy.id
        obtain ⟨before, after, hsplit⟩ := List.append_of_mem hsame
        rw [hsplit] at h hnodup ⊢
        exact (((fires_iff hnodup).mp h).2.2.2 prerequisite hprerequisite).imp_right And.right
  refine ⟨fun usage raised hraised id h => ?_, fun usage => hchained usage fired,
    fun usage rule hrule h prerequisite hprerequisite => ?_,
    fun db' hpolicies hperm hkeys usage => ?_⟩
  · unfold evaluateRules at h ⊢
    split at h
    · exact h
    · split_ifs at h ⊢
      · exact h
      · exact fires_mono hraised (Finset.Subset.refl _) h
  · exact (hchained usage ∅ rule hrule h prerequisite hprerequisite).resolve_left (by simp)
  · simp only [evaluateRules, FupDb.policyByOffer, hpolicies, rulesOf_eq hperm hkeys]

end DotmacSub.Fup
