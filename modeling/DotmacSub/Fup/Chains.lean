import DotmacSub.Core.Cycles
import DotmacSub.Core.Run
import DotmacSub.Fup.CommandSteps
import DotmacSub.Fup.Evaluation

/-!
# Prerequisite chains

What the commands on rules keep of the relation between a rule and the rule it waits for.
-/

namespace DotmacSub.Fup

open Store Checked Relation Cycles

/-- The rule waits for another one to fire. -/
def WaitsFor (db : FupDb) (id prerequisite : ℕ) : Prop :=
  ∃ rule ∈ db.rules.rows, rule.id = id ∧ rule.enabledByRuleId = some prerequisite

/-- Every prerequisite is another rule of the policy. -/
def Chained (db : FupDb) : Prop :=
  ∀ rule ∈ db.rules.rows, ∀ id ∈ rule.enabledByRuleId, id ≠ rule.id ∧
    ∃ other ∈ db.rules.rows, other.id = id ∧ other.policyId = rule.policyId

inductive RuleCommand
  | add (offerId : ℕ) (spec : FupRuleSpec)
  | update (ruleId : ℕ) (patch : FupRulePatch)

def RuleCommand.command : RuleCommand → Command
  | add offerId spec => .addRule offerId spec
  | update ruleId patch => .updateRule ruleId patch

def executeOnRules (db : FupDb) (c : RuleCommand) : Except DomainError FupDb :=
  execute db c.command

def ClosesCycle (db : FupDb) : RuleCommand → Prop
  | .add .. => False
  | .update ruleId patch => "enabled_by_rule_id" ∈ patch.updatedFields ∧
    ∃ id ∈ patch.enabledByRuleId, ReflTransGen (WaitsFor db) id ruleId

section Add

variable {db db' : FupDb} {offerId : ℕ} {spec : FupRuleSpec}

lemma execute_addRule_ok (h : execute db (.addRule offerId spec) = .ok db') :
    ∃ rule : FupRule, rule.id = db.rules.next ∧
      (∀ id ∈ rule.enabledByRuleId, ∃ other ∈ db.rules.rows, other.id = id ∧
        other.policyId = rule.policyId) ∧
      ∀ r, r ∈ db'.rules.rows ↔ r ∈ db.rules.rows ∨ r = rule := by
  simp only [execute, prepare, bind_eq_ok, pure_eq_ok] at h
  obtain ⟨prepared, hadd, rfl⟩ := h
  obtain ⟨fields, hadded⟩ := addRule_ok hadd
  refine ⟨⟨fields, db.rules.next, (ensurePolicy db offerId).2.id⟩, rfl, fun id hid => ?_, fun r => ?_⟩
  · obtain ⟨-, other, hget, hpolicy⟩ := hadded.resolved id hid
    exact ⟨other, (Table.get?_eq_some.mp hget).1, (Table.get?_eq_some.mp hget).2, hpolicy⟩
  · rw [hadded.change_eq]
    exact mem_rules_addRule

lemma chained_addRule (hchained : Chained db) (h : execute db (.addRule offerId spec) = .ok db') :
    Chained db' := by
  obtain ⟨added, hid, hprerequisite, hrows⟩ := execute_addRule_ok h
  intro rule hrule id henabled
  rcases (hrows rule).mp hrule with hold | rfl
  · obtain ⟨hne, other, hother, hsame⟩ := hchained rule hold id henabled
    exact ⟨hne, other, (hrows other).mpr (.inl hother), hsame⟩
  · obtain ⟨other, hother, hotherId, hpolicy⟩ := hprerequisite id henabled
    have hlt : other.id < db.rules.next := db.rules.fresh other hother
    exact ⟨by omega, other, (hrows other).mpr (.inl hother), hotherId, hpolicy⟩

/-- A new rule closes no cycle: nothing waits for it. -/
lemma acyclic_addRule (hchained : Chained db) (hacyclic : Acyclic (WaitsFor db))
    (h : execute db (.addRule offerId spec) = .ok db') : Acyclic (WaitsFor db') := by
  obtain ⟨added, hid, hprerequisite, hrows⟩ := execute_addRule_ok h
  have hfresh : ∀ a, ¬ WaitsFor db a added.id := by
    rintro a ⟨rule, hrule, -, henabled⟩
    obtain ⟨-, other, hother, hotherId, -⟩ := hchained rule hrule _ henabled
    have hlt : other.id < db.rules.next := db.rules.fresh other hother
    omega
  cases henabled : added.enabledByRuleId with
  | none =>
    refine hacyclic.mono fun a b ⟨rule, hrule, ha, hb⟩ => ?_
    rcases (hrows rule).mp hrule with hold | rfl
    · exact ⟨rule, hold, ha, hb⟩
    · exact absurd (henabled.symm.trans hb) (by simp)
  | some prerequisite =>
    obtain ⟨other, hother, hotherId, -⟩ := hprerequisite prerequisite henabled
    have hlt : other.id < db.rules.next := db.rules.fresh other hother
    refine acyclic_of_fresh hacyclic (y := prerequisite) (fun a b ⟨rule, hrule, ha, hb⟩ => ?_)
      hfresh (by omega)
    rcases (hrows rule).mp hrule with hold | rfl
    · exact .inl ⟨rule, hold, ha, hb⟩
    · exact .inr ⟨ha.symm, (Option.mem_unique henabled hb).symm⟩

end Add

section Update

variable {db db' : FupDb} {ruleId : ℕ} {patch : FupRulePatch}

lemma execute_updateRule_ok (h : execute db (.updateRule ruleId patch) = .ok db') :
    ∃ rule updated : FupRule, db.rules.get? ruleId = some rule ∧ updated.id = ruleId ∧
      updated.policyId = rule.policyId ∧
      updated.enabledByRuleId = (if "enabled_by_rule_id" ∈ patch.updatedFields
        then patch.enabledByRuleId else rule.enabledByRuleId) ∧
      ("enabled_by_rule_id" ∈ patch.updatedFields →
        PrerequisiteOf db rule.policyId (some ruleId) patch.enabledByRuleId) ∧
      ∀ r, r ∈ db'.rules.rows ↔ (r ∈ db.rules.rows ∧ r.id ≠ ruleId) ∨ r = updated := by
  simp only [execute, prepare, bind_eq_ok, pure_eq_ok] at h
  obtain ⟨prepared, hupdate, rfl⟩ := h
  obtain ⟨rule, update, hupdated⟩ := updateRule_ok hupdate
  obtain ⟨hmem, hid⟩ := Table.get?_eq_some.mp hupdated.found
  have hprerequisite := hupdated.prerequisite
  refine ⟨rule, update.apply rule, hupdated.found, hid, rfl, ?_, fun hfield => ?_, fun r => ?_⟩
  · show update.enabledByRuleId.getD rule.enabledByRuleId = _
    rw [hprerequisite]
    split_ifs <;> rfl
  · exact hupdated.resolved _ (by rw [hprerequisite, if_pos hfield]; rfl)
  · rw [hupdated.change_eq]
    rw [mem_rules_updateRule]
    refine or_congr Iff.rfl ⟨?_, ?_⟩
    · rintro ⟨other, hother, hotherId, rfl⟩
      rw [Table.eq_of_id_eq hother hmem (hotherId.trans hid.symm)]
    · rintro rfl
      exact ⟨rule, hmem, hid, rfl⟩

lemma chained_updateRule (hchained : Chained db)
    (h : execute db (.updateRule ruleId patch) = .ok db') : Chained db' := by
  obtain ⟨rule, updated, hget, hid, hpolicy, henabledBy, hresolved, hrows⟩ := execute_updateRule_ok h
  obtain ⟨hmem, hruleId⟩ := Table.get?_eq_some.mp hget
  -- every row is still there, under its policy
  have hkept : ∀ other ∈ db.rules.rows, ∃ row ∈ db'.rules.rows, row.id = other.id ∧
      row.policyId = other.policyId := by
    intro other hother
    by_cases heq : other.id = ruleId
    · have hsame : other = rule := Table.eq_of_id_eq hother hmem (heq.trans hruleId.symm)
      exact ⟨updated, (hrows updated).mpr (.inr rfl), hid.trans heq.symm, hsame ▸ hpolicy⟩
    · exact ⟨other, (hrows other).mpr (.inl ⟨hother, heq⟩), rfl, rfl⟩
  intro row hrow id henabled
  rcases (hrows row).mp hrow with ⟨hold, -⟩ | rfl
  · obtain ⟨hne, other, hother, hotherId, hsame⟩ := hchained row hold id henabled
    obtain ⟨row', hrow', hrowId, hrowPolicy⟩ := hkept other hother
    exact ⟨hne, row', hrow', hrowId.trans hotherId, hrowPolicy.trans hsame⟩
  · rw [henabledBy] at henabled
    split_ifs at henabled with hfield
    · obtain ⟨hne, other, hother, hotherPolicy⟩ := hresolved hfield id henabled
      obtain ⟨row', hrow', hrowId, hrowPolicy⟩ := hkept other (Table.get?_eq_some.mp hother).1
      refine ⟨fun heq => hne (congrArg some (heq.trans hid)), row', hrow', ?_, ?_⟩
      · exact hrowId.trans (Table.get?_eq_some.mp hother).2
      · rw [hrowPolicy, hotherPolicy, hpolicy]
    · obtain ⟨hne, other, hother, hotherId, hsame⟩ := hchained rule hmem id henabled
      obtain ⟨row', hrow', hrowId, hrowPolicy⟩ := hkept other hother
      refine ⟨fun heq => hne (heq.trans (hid.trans hruleId.symm)), row', hrow',
        hrowId.trans hotherId, ?_⟩
      rw [hrowPolicy, hsame, hpolicy]

lemma acyclic_updateRule_iff (hacyclic : Acyclic (WaitsFor db))
    (h : execute db (.updateRule ruleId patch) = .ok db') :
    Acyclic (WaitsFor db') ↔ ¬ ClosesCycle db (.update ruleId patch) := by
  obtain ⟨rule, updated, hget, hid, -, henabledBy, -, hrows⟩ := execute_updateRule_ok h
  obtain ⟨hmem, hruleId⟩ := Table.get?_eq_some.mp hget
  have hwaits : ∀ a b, WaitsFor db' a b ↔
      (a ≠ ruleId ∧ WaitsFor db a b) ∨ (a = ruleId ∧ updated.enabledByRuleId = some b) := by
    intro a b
    constructor
    · rintro ⟨row, hrow, rfl, hb⟩
      rcases (hrows row).mp hrow with ⟨hold, hne⟩ | rfl
      · exact .inl ⟨hne, row, hold, rfl, hb⟩
      · exact .inr ⟨hid, hb⟩
    · rintro (⟨hne, row, hrow, rfl, hb⟩ | ⟨rfl, hb⟩)
      · exact ⟨row, (hrows row).mpr (.inl ⟨hrow, hne⟩), rfl, hb⟩
      · exact ⟨updated, (hrows updated).mpr (.inr rfl), hid, hb⟩
  by_cases hfield : "enabled_by_rule_id" ∈ patch.updatedFields
  · rw [if_pos hfield] at henabledBy
    cases hvalue : patch.enabledByRuleId with
    | none =>
      refine iff_of_true (hacyclic.mono fun a b hab => ?_) ?_
      · rcases (hwaits a b).mp hab with ⟨-, hold⟩ | ⟨-, hb⟩
        · exact hold
        · rw [henabledBy, hvalue] at hb
          exact absurd hb (by simp)
      · rintro ⟨-, id, hmem, -⟩
        rw [hvalue] at hmem
        exact absurd hmem (by simp)
    | some prerequisite =>
      rw [acyclic_repoint_iff (x := ruleId) (y := prerequisite) hacyclic fun a b => by
        rw [hwaits, henabledBy, hvalue, Option.some_inj, eq_comm (a := prerequisite)]]
      simp [ClosesCycle, hfield, hvalue]
  · rw [if_neg hfield] at henabledBy
    refine iff_of_true (hacyclic.mono fun a b hab => ?_) fun hcloses => hfield hcloses.1
    rcases (hwaits a b).mp hab with ⟨-, hold⟩ | ⟨ha, hb⟩
    · exact hold
    · exact ⟨rule, hmem, hruleId.trans ha.symm, henabledBy.symm.trans hb⟩

end Update

section Runs

lemma chained_executeOnRules (db : FupDb) (c : RuleCommand) (db' : FupDb) (hchained : Chained db)
    (h : executeOnRules db c = .ok db') : Chained db' := by
  cases c with
  | add offerId spec => exact chained_addRule hchained h
  | update ruleId patch => exact chained_updateRule hchained h

/-- **Only one kind of command closes a cycle.** -/
lemma acyclic_executeOnRules_iff (db : FupDb) (c : RuleCommand) (db' : FupDb)
    (hchained : Chained db) (hacyclic : Acyclic (WaitsFor db))
    (h : executeOnRules db c = .ok db') : Acyclic (WaitsFor db') ↔ ¬ ClosesCycle db c := by
  cases c with
  | add offerId spec => exact iff_of_true (acyclic_addRule hchained hacyclic h) id
  | update ruleId patch => exact acyclic_updateRule_iff hacyclic h

variable {db : FupDb}

lemma acyclic_run_iff (hchained : Chained db) (hacyclic : Acyclic (WaitsFor db))
    (commands : List RuleCommand) :
    (∀ before after, commands = before ++ after →
      Acyclic (WaitsFor (Run.run executeOnRules db before))) ↔
    Run.Guarded executeOnRules (fun db c => ¬ ClosesCycle db c) db commands := by
  let sound : FupDb → Prop := fun db => Chained db ∧ Acyclic (WaitsFor db)
  have hkeep : ∀ s c s', sound s → ¬ ClosesCycle s c → executeOnRules s c = .ok s' → sound s' :=
    fun s c s' hs hc h => ⟨chained_executeOnRules s c s' hs.1 h,
      (acyclic_executeOnRules_iff s c s' hs.1 hs.2 h).mpr hc⟩
  have hbreak : ∀ s c s', sound s → executeOnRules s c = .ok s' → sound s' → ¬ ClosesCycle s c :=
    fun s c s' hs h hs' => (acyclic_executeOnRules_iff s c s' hs.1 hs.2 h).mp hs'.2
  rw [← Run.forall_prefix_iff_guarded hkeep hbreak commands db ⟨hchained, hacyclic⟩]
  refine forall_congr' fun before => forall_congr' fun after => imp_congr_right fun _ => ?_
  exact (and_iff_right (Run.invariant_run (fun s c s' => chained_executeOnRules s c s') before
    hchained)).symm

/-- **Prerequisite chains.**  In every run of commands on rules each prerequisite is another rule of
the policy, and there is no cycle as long as no accepted update points a rule at one that waits for
it.  Once the usage reaches every threshold, a rule fires exactly if it is switched on and open and
its prerequisite was given as fired or is an earlier rule that fires; where every active rule is open
and waits for an earlier active rule at most, all of them fire. -/
theorem prerequisites_of_run (hempty : db.rules.rows = []) (commands : List RuleCommand) :
    Chained (Run.run executeOnRules db commands) ∧
    ((∀ before after, commands = before ++ after →
        Acyclic (WaitsFor (Run.run executeOnRules db before))) ↔
      Run.Guarded executeOnRules (fun db c => ¬ ClosesCycle db c) db commands) ∧
    ∀ offerId policy, (Run.run executeOnRules db commands).policyByOffer offerId = some policy →
      policy.isActive = true → ∀ usage now fired,
      (∀ rule ∈ (Run.run executeOnRules db commands).rulesOf policy.id,
        rule.isActive = true → thresholdGb rule ≤ usage.of rule) →
      let rules := (Run.run executeOnRules db commands).rulesOf policy.id
      let results := evaluateRules (Run.run executeOnRules db commands) offerId usage now fired
      (∀ before rule after, rules = before ++ rule :: after →
        (Fires results rule.id ↔ rule.isActive = true ∧ ruleOpen policy now rule = true ∧
          ∀ id ∈ rule.enabledByRuleId,
            id ∈ fired ∨ (id ∈ before.map FupRule.id ∧ Fires results id))) ∧
      ((∀ rule ∈ rules, rule.isActive = true → ruleOpen policy now rule = true) →
        InOrder [] rules → ∀ rule ∈ rules, rule.isActive = true → Fires results rule.id) := by
  have hchained : Chained db := by
    intro rule hrule
    rw [hempty] at hrule
    exact absurd hrule List.not_mem_nil
  have hacyclic : Acyclic (WaitsFor db) := by
    intro a ha
    obtain ⟨b, ⟨rule, hrule, -⟩, -⟩ := TransGen.head'_iff.mp ha
    rw [hempty] at hrule
    exact absurd hrule List.not_mem_nil
  refine ⟨Run.invariant_run (fun s c s' => chained_executeOnRules s c s') commands hchained,
    acyclic_run_iff hchained hacyclic commands, ?_⟩
  intro offerId policy hpolicy hactive usage now fired hreached
  have hnodup := nodup_rulesOf (Run.run executeOnRules db commands) policy.id
  have hresults : evaluateRules (Run.run executeOnRules db commands) offerId usage now fired =
      evaluateLoop policy usage now ((Run.run executeOnRules db commands).rulesOf policy.id)
        fired := by
    simp only [evaluateRules, hpolicy, hactive, Bool.true_eq_false, if_false]
  dsimp only
  rw [hresults]
  refine ⟨fun before rule after hsplit => ?_, fun hopen horder => ?_⟩
  · rw [hsplit] at hnodup hreached ⊢
    rw [fires_iff hnodup]
    constructor
    · rintro ⟨hon, hopen, -, hwaits⟩
      exact ⟨hon, hopen, hwaits⟩
    · rintro ⟨hon, hopen, hwaits⟩
      exact ⟨hon, hopen, hreached rule (by simp) hon, hwaits⟩
  · exact @fires_of_inOrder policy usage now fired [] _ hnodup hopen hreached horder
      fun _ hrule => absurd hrule List.not_mem_nil

end Runs

/-! ## Two runs -/

/-- One offer, on sale, without a policy. -/
def oneOffer : FupDb :=
  ⟨⟨[⟨0, true, some "home_flex"⟩], 1, by decide, by decide⟩, .empty, .empty⟩

def monthlyRule (name action : String) (gigabytes : ℚ) : FupRuleSpec where
  name := name
  consumptionPeriod := "monthly"
  direction := "up_down"
  thresholdAmount := gigabytes
  thresholdUnit := "gb"
  action := action

def warningThenThrottle : List RuleCommand :=
  [.add 0 (monthlyRule "warn" "notify" 100),
    .add 0 { monthlyRule "throttle" "reduce_speed" 200 with enabledByRuleId := some 0 }]

/-- Both rules fire on a terabyte. -/
theorem warningThenThrottle_fires :
    Chained (Run.run executeOnRules oneOffer warningThenThrottle) ∧
    ∀ rule ∈ (Run.run executeOnRules oneOffer warningThenThrottle).rulesOf 0, rule.isActive = true →
      Fires (evaluateRules (Run.run executeOnRules oneOffer warningThenThrottle) 0 ⟨1000, fun _ => none⟩
        ⟨0, 0⟩ ∅) rule.id := by
  have hpolicy : (Run.run executeOnRules oneOffer warningThenThrottle).policyByOffer 0 =
      some ⟨0, 0, none, none, true⟩ := by decide +kernel
  obtain ⟨hchained, -, hfires⟩ := prerequisites_of_run (rfl : oneOffer.rules.rows = [])
    warningThenThrottle
  refine ⟨hchained, (hfires 0 _ hpolicy rfl ⟨1000, fun _ => none⟩ ⟨0, 0⟩ ∅ ?_).2 ?_ ?_⟩
  · decide +kernel
  · decide +kernel
  · decide +kernel

def nightRule : List RuleCommand :=
  [.add 0 { monthlyRule "night" "reduce_speed" 100 with
    timeStart := some 79200000000
    timeEnd := some 82800000000 }]

/-- At noon no usage fires a rule of the night. -/
theorem nightRule_rests : ¬ ∀ (db : FupDb) (commands : List RuleCommand), db.rules.rows = [] →
    Acyclic (WaitsFor (Run.run executeOnRules db commands)) ∧
    ∀ offerId policy, (Run.run executeOnRules db commands).policyByOffer offerId = some policy →
      policy.isActive = true → ∃ bound : ℚ, ∀ usage, bound ≤ usage → ∀ now,
        ∀ rule ∈ (Run.run executeOnRules db commands).rulesOf policy.id, rule.isActive = true →
          Fires (evaluateRules (Run.run executeOnRules db commands) offerId ⟨usage, fun _ => none⟩ now)
            rule.id := by
  intro hall
  have hpolicy : (Run.run executeOnRules oneOffer nightRule).policyByOffer 0 =
      some ⟨0, 0, none, none, true⟩ := by decide +kernel
  obtain ⟨rule, hrules, hactive, hclosed⟩ : ∃ rule,
      (Run.run executeOnRules oneOffer nightRule).rulesOf 0 = [rule] ∧ rule.isActive = true ∧
        ruleOpen ⟨0, 0, none, none, true⟩ ⟨43200000000, 0⟩ rule = false := by
    refine ⟨⟨⟨"night", 1, .monthly, .upDown, 100, .gb, .reduceSpeed, none, some 79200000000,
      some 82800000000, none, 0, none, true⟩, 0, 0⟩, ?_, rfl, ?_⟩
    · decide +kernel
    · decide +kernel
  obtain ⟨bound, hbound⟩ := (hall oneOffer nightRule rfl).2 0 _ hpolicy rfl
  have hfires := hbound bound Rat.le_refl ⟨43200000000, 0⟩ rule (by simp [hrules]) hactive
  simp only [evaluateRules, hpolicy, Bool.true_eq_false, if_false, hrules] at hfires
  obtain ⟨-, hopen, -⟩ := (@fires_iff _ _ _ _ [] [] rule (by simp)).mp hfires
  exact Bool.false_ne_true (hclosed.symm.trans hopen)

end DotmacSub.Fup
