import DotmacSub.Collections.FinancialAccess
import DotmacSub.Core.Updates

/-!
# Throttles and their restoration

A throttle gives every credential of an account the configured profile, and remembers the profile
that the credential had.  A restoration looks for the credentials that carry the profile configured
then.  A credential without a profile remembers nothing, and one throttled under another setting is
not found.
-/

namespace DotmacSub.FinancialAccess

open Store Checked Lifecycle Run

/-- A command about the throttles of an account, or a change of what they read. -/
inductive ThrottleCommand
  | throttle (facts : AccountFacts) (now : ℤ) (reason : EnforcementReason)
      (origin : FinancialAccessOrigin) (fingerprint : Decision) (key : AccessKey) (source : String)
      (dunningCaseId : Option ℕ) (overdueDays : Option ℤ)
  | restore (facts : AccountFacts) (now : ℤ) (origin : FinancialAccessOrigin)
      (fingerprint : Decision) (key : AccessKey) (overdueTrigger resolvedBy : String)
  | configure (throttleRadiusProfileId : Option ℕ)
  | changeProfiles (radiusProfiles : Table RadiusProfile)

/-- The tables, with the profiles that throttles have used. -/
structure ThrottleState where
  db : AccessDb
  used : List ℕ

/-- The profile that a confirmed throttle uses. -/
def usedBy (db : AccessDb) (result : ConsequenceResult) : List ℕ :=
  if result.preview.eligible ∧ ¬result.idempotentReplay then
    ((throttleProfile db).map (·.id)).toList
  else []

def throttleStep (accountId : ℕ) (state : ThrottleState) :
    ThrottleCommand → Except AccessError ThrottleState
  | .throttle facts now reason origin fingerprint key source dunningCaseId overdueDays => do
    let (db, result) ← confirmFinancialAccessConsequence state.db facts accountId now .throttle
      reason origin fingerprint key source dunningCaseId overdueDays
    return ⟨db, usedBy state.db result ++ state.used⟩
  | .restore facts now origin fingerprint key overdueTrigger resolvedBy => do
    let (db, _) ← confirmFinancialAccessRestoration state.db facts accountId now origin fingerprint
      key overdueTrigger resolvedBy
    return ⟨db, state.used⟩
  | .configure throttleRadiusProfileId =>
    return { state with db := { state.db with throttleRadiusProfileId } }
  | .changeProfiles radiusProfiles => return { state with db := { state.db with radiusProfiles } }

def credentialsOf (db : AccessDb) (accountId : ℕ) : List AccessCredential :=
  db.credentials.rows.filter (·.subscriberId = accountId)

def AccessCredential.ownProfileId (credential : AccessCredential) : Option ℕ :=
  credential.preThrottleRadiusProfileId.or credential.radiusProfileId

def AccessCredential.isThrottled (credential : AccessCredential) : Bool :=
  credential.preThrottleRadiusProfileId.isSome

/-- A throttle to a profile can be undone: no credential has it for its own, each active one has
some profile of its own, and those that are throttled carry it already. -/
def ThrottleUndoable (db : AccessDb) (accountId profileId : ℕ) : Prop :=
  ∀ credential ∈ credentialsOf db accountId, credential.ownProfileId ≠ some profileId ∧
    (credential.isActive → credential.ownProfileId ≠ none ∧
      (credential.isThrottled → credential.radiusProfileId = some profileId))

def RestoreFinds (db : AccessDb) (accountId : ℕ) : Prop :=
  ∀ credential ∈ credentialsOf db accountId, credential.isActive → credential.isThrottled →
    credential.radiusProfileId = db.throttleRadiusProfileId

instance (db : AccessDb) (accountId : ℕ) : Decidable (RestoreFinds db accountId) :=
  inferInstanceAs (Decidable (∀ credential ∈ credentialsOf db accountId, credential.isActive →
    credential.isThrottled → credential.radiusProfileId = db.throttleRadiusProfileId))

/-- Every throttled credential can be found again. -/
def Undoable (accountId : ℕ) (state : ThrottleState) : ThrottleCommand → Prop
  | .throttle facts _ reason origin _ _ _ dunningCaseId overdueDays =>
    (decideConsequence state.db facts accountId .throttle reason origin dunningCaseId
        overdueDays).eligible = true →
      ∀ profile ∈ throttleProfile state.db, ThrottleUndoable state.db accountId profile.id
  | .restore facts _ _ _ _ _ _ => facts.accountStatus ≠ some .canceled → facts.receivables = [] →
      RestoreFinds state.db accountId
  | .configure _ => True
  | .changeProfiles _ => True

section Writes

variable {db db' : AccessDb} {facts : AccountFacts} {accountId : ℕ} {now : ℤ}
  {reason : EnforcementReason} {origin : FinancialAccessOrigin} {source : String}
  {dunningCaseId : Option ℕ} {overdueDays : Option ℤ} {credential : AccessCredential}

def AccessCredential.throttle (credential : AccessCredential) (profileId : ℕ) : AccessCredential :=
  { credential with
    preThrottleRadiusProfileId :=
      credential.radiusProfileId.or credential.preThrottleRadiusProfileId
    radiusProfileId := some profileId }

def AccessCredential.unthrottle (credential : AccessCredential) : AccessCredential :=
  { credential with
    preThrottleRadiusProfileId := none
    radiusProfileId := credential.preThrottleRadiusProfileId }

def CredentialChange.throttles (change : CredentialChange) (row : AccessCredential) :
    AccessCredential :=
  { row with
    preThrottleRadiusProfileId := row.radiusProfileId.or row.preThrottleRadiusProfileId
    radiusProfileId := change.profileAfterId }

/-- What a turn of a restoration makes of a row. -/
def CredentialChange.unthrottles (change : CredentialChange) (row : AccessCredential) :
    AccessCredential :=
  { row with preThrottleRadiusProfileId := none, radiusProfileId := change.profileAfterId }

lemma throttleCredential_eq {credentials credentials' : Table AccessCredential}
    {change : CredentialChange} (h : throttleCredential credentials change = .ok credentials') :
    credentials' = credentials.update change.credentialId change.throttles fun _ => rfl := by
  obtain ⟨_, -, h⟩ := bind_eq_ok.mp h
  exact (pure_eq_ok.mp (ensure_bind_eq_ok.mp h).2).symm

lemma unthrottleCredential_eq {credentials credentials' : Table AccessCredential}
    {change : CredentialChange} (h : unthrottleCredential credentials change = .ok credentials') :
    credentials' = credentials.update change.credentialId change.unthrottles fun _ => rfl := by
  obtain ⟨_, -, h⟩ := bind_eq_ok.mp h
  exact (pure_eq_ok.mp h).symm

/-- **A loop over credentials** changes each row that its changes are made of. -/
lemma rows_changed {f : Table AccessCredential → CredentialChange →
      Except AccessError (Table AccessCredential)}
    {g : CredentialChange → AccessCredential → AccessCredential} {p : AccessCredential → Bool}
    {make : AccessCredential → CredentialChange} {credentials : Table AccessCredential}
    (hg : ∀ change row, Row.id (g change row) = Row.id row)
    (hturn : ∀ t change t', f t change = .ok t' → t' = t.update change.credentialId (g change)
      (hg change)) (hmake : ∀ row, (make row).credentialId = Row.id row)
    (h : ((db.credentials.rows.filter p).map make).foldlM f db.credentials = .ok credentials)
    (hmem : credential ∈ credentials.rows) :
    ∃ before ∈ db.credentials.rows,
      credential = if p before then g (make before) before else before := by
  have hnodup : (((db.credentials.rows.filter p).map make).map (·.credentialId)).Nodup := by
    rw [List.map_map, show (fun change : CredentialChange => change.credentialId) ∘ make =
      Row.id from funext hmake]
    exact (db.credentials.filter p).nodup
  have hget := Table.get?_foldlM_update hg hturn hnodup h (Row.id credential)
  rw [Table.get?_eq_some.mpr ⟨hmem, rfl⟩] at hget
  obtain ⟨before, hbefore, hchanged⟩ := Option.map_eq_some_iff.mp hget.symm
  obtain ⟨hrow, hid⟩ := Table.get?_eq_some.mp hbefore
  refine ⟨before, hrow, ?_⟩
  rw [← hid, Table.find?_changes hmake hrow] at hchanged
  rw [← hchanged]
  split_ifs <;> rfl

/-- **The credentials after a throttle.** -/
lemma rows_throttled {profile : RadiusProfile} {credentials : Table AccessCredential}
    (h : (throttleChanges db accountId profile).foldlM throttleCredential db.credentials =
      .ok credentials) (hmem : credential ∈ credentials.rows) :
    ∃ before ∈ db.credentials.rows, credential =
      if (before.subscriberId = accountId ∧ before.isActive) ∧
          before.radiusProfileId ≠ some profile.id then before.throttle profile.id else before := by
  unfold throttleChanges activeCredentials at h
  rw [List.filter_filter] at h
  obtain ⟨before, hbefore, rfl⟩ := rows_changed (g := CredentialChange.throttles)
    (fun _ _ => rfl) (fun _ _ _ => throttleCredential_eq) (fun _ => rfl) h hmem
  refine ⟨before, hbefore, ?_⟩
  simp only [Bool.and_eq_true, decide_eq_true_eq, and_comm]
  rfl

/-- **The credentials after a restoration** without a receivable. -/
lemma rows_unthrottled {credentials : Table AccessCredential} (hclear : facts.receivables = [])
    (h : (unthrottleChanges db facts accountId).foldlM unthrottleCredential db.credentials =
      .ok credentials) (hmem : credential ∈ credentials.rows) :
    ∃ before ∈ db.credentials.rows, credential =
      if (before.subscriberId = accountId ∧ before.isActive) ∧ before.isThrottled ∧
          db.throttleRadiusProfileId ≠ none ∧
          before.radiusProfileId = db.throttleRadiusProfileId then before.unthrottle
      else before := by
  unfold unthrottleChanges throttledCredentials at h
  cases hsetting : db.throttleRadiusProfileId with
  | none =>
    rw [hsetting] at h
    obtain rfl := foldlM_nil_eq_ok.mp h
    exact ⟨credential, hmem, (if_neg fun hfound => hfound.2.2.1 rfl).symm⟩
  | some profileId =>
    rw [hsetting] at h
    dsimp only at h
    rw [if_pos hclear, activeCredentials, List.filter_filter, List.filter_filter] at h
    obtain ⟨before, hbefore, rfl⟩ := rows_changed (g := CredentialChange.unthrottles)
      (fun _ _ => rfl) (fun _ _ _ => unthrottleCredential_eq) (fun _ => rfl) h hmem
    refine ⟨before, hbefore, ?_⟩
    have hfound : (before.preThrottleRadiusProfileId.isSome && decide (before.radiusProfileId =
        some profileId) && decide (before.subscriberId = accountId ∧ before.isActive = true)) =
          true ↔ (before.subscriberId = accountId ∧ before.isActive = true) ∧
            before.isThrottled = true ∧ some profileId ≠ none ∧
              before.radiusProfileId = some profileId := by
      simp only [Bool.and_eq_true, decide_eq_true_eq, AccessCredential.isThrottled, ne_eq,
        reduceCtorEq, not_false_eq_true, true_and]
      tauto
    exact if_congr hfound rfl rfl

lemma Eligible.throttle {inputs : ConsequenceInputs}
    (h : Eligible db facts accountId .throttle reason overdueDays inputs) :
    ∃ profile ∈ throttleProfile db,
      inputs.credentialChanges = throttleChanges db accountId profile := by
  have hready := h.ready
  have hchanges := h.changes
  unfold consequenceTargets at hready hchanges
  cases hprofile : throttleProfile db with
  | none =>
    rw [hprofile] at hready
    cases hready
  | some profile =>
    rw [hprofile] at hchanges
    exact ⟨profile, rfl, hchanges⟩

variable {fingerprint : Decision} {key used : AccessKey} {result : ConsequenceResult}
  {overdueTrigger resolvedBy : String}

lemma Confirmed.credentials (h : Confirmed db facts accountId now .throttle reason origin
    fingerprint key source dunningCaseId overdueDays db' result) :
    db'.throttleRadiusProfileId = db.throttleRadiusProfileId ∧
      (fingerprint.eligible = false ∧ db'.credentials = db.credentials ∨
        fingerprint.eligible = true ∧ ∃ profile ∈ throttleProfile db,
          (throttleChanges db accountId profile).foldlM throttleCredential db.credentials =
            .ok db'.credentials) := by
  have haction : fingerprint.action = .throttle := by
    rw [h.decision]
    exact action_decideConsequence
  obtain ⟨heffected, hkept, -⟩ := h.effected
  refine ⟨hkept.setting, ?_⟩
  cases heffected with
  | refused heligible _ hcredentials => exact .inl ⟨heligible, hcredentials⟩
  | throttled heligible _ _ hloop =>
    have hready := heligible
    rw [h.decision] at hready hloop
    obtain ⟨inputs, hinputs, hready⟩ := eligible_of_decide hready
    obtain ⟨profile, hprofile, hchanges⟩ := hready.throttle
    rw [Decision.credentialChanges, hinputs] at hloop
    exact .inr ⟨heligible, profile, hprofile, hchanges ▸ hloop⟩
  | suspended _ _ _ hne => exact absurd haction hne

lemma credentialChanges_decideRestoration
    (hfound : (db.lifecycle.subscribers.get? accountId).isSome) :
    (decideRestoration db facts accountId origin).credentialChanges =
      if facts.accountStatus = some .canceled then []
      else unthrottleChanges db facts accountId := by
  have hmissing : ¬(db.lifecycle.subscribers.get? accountId).isNone = true := by
    rw [Option.isNone_iff_eq_none, ← ne_eq, ← Option.isSome_iff_ne_none]
    exact hfound
  unfold decideRestoration
  rw [if_neg hmissing]
  dsimp only
  split_ifs <;> rfl

lemma RestorationConfirmed.credentials (h : RestorationConfirmed db facts accountId now origin
    fingerprint key overdueTrigger resolvedBy db' result) :
    db'.throttleRadiusProfileId = db.throttleRadiusProfileId ∧
      (if facts.accountStatus = some .canceled then [] else unthrottleChanges db facts
        accountId).foldlM unthrottleCredential db.credentials = .ok db'.credentials := by
  obtain ⟨⟨-, -, hloop, -, hsetting⟩, -⟩ := h.effected
  rw [← credentialChanges_decideRestoration h.found, ← h.decision]
  exact ⟨hsetting, hloop⟩

end Writes

/-- A credential, as a run of undoable commands leaves it: its own profile is the one it started
with, it is none that a throttle used, and it is throttled only while active. -/
structure Traced (original : AccessCredential) (used : List ℕ) (credential : AccessCredential) :
    Prop where
  id : credential.id = original.id
  own : credential.ownProfileId = original.radiusProfileId
  unused : ∀ profileId ∈ used, credential.ownProfileId ≠ some profileId
  throttled : credential.isThrottled →
    credential.isActive ∧ ∃ profileId ∈ used, credential.radiusProfileId = some profileId

def TracedFrom (start : AccessDb) (accountId : ℕ) (state : ThrottleState) : Prop :=
  ∀ credential ∈ credentialsOf state.db accountId, ∃ original ∈ credentialsOf start accountId,
    Traced original state.used credential

section Traces

variable {start : AccessDb} {accountId : ℕ} {state state' : ThrottleState}
  {original credential : AccessCredential} {used : List ℕ} {command : ThrottleCommand}

lemma Traced.throttle {profileId : ℕ} (h : Traced original used credential)
    (hunused : credential.ownProfileId ≠ some profileId)
    (hactive : credential.isActive = true) (hown : credential.ownProfileId ≠ none)
    (hcarries : credential.isThrottled = true → credential.radiusProfileId = some profileId)
    (hchanged : credential.radiusProfileId ≠ some profileId) :
    Traced original (profileId :: used) (credential.throttle profileId) := by
  have hnone : credential.preThrottleRadiusProfileId = none := by
    rw [← Option.not_isSome_iff_eq_none]
    exact fun hthrottled => hchanged (hcarries hthrottled)
  have hsame : (credential.throttle profileId).ownProfileId = credential.ownProfileId := by
    unfold AccessCredential.ownProfileId at hown ⊢
    rw [hnone, Option.none_or] at hown ⊢
    rw [AccessCredential.throttle, hnone, Option.or_none]
    exact Option.or_of_isSome (Option.isSome_iff_ne_none.mpr hown)
  refine ⟨h.id, hsame.trans h.own, ?_, fun _ => ⟨hactive, profileId, List.mem_cons_self, rfl⟩⟩
  rw [hsame, List.forall_mem_cons]
  exact ⟨hunused, h.unused⟩

lemma Traced.unthrottle (h : Traced original used credential)
    (hthrottled : credential.isThrottled = true) : Traced original used credential.unthrottle := by
  have hsame : credential.unthrottle.ownProfileId = credential.ownProfileId := by
    unfold AccessCredential.ownProfileId
    rw [Option.or_of_isSome hthrottled]
    exact Option.none_or
  exact ⟨h.id, hsame.trans h.own, hsame ▸ h.unused, nofun⟩

lemma mem_credentialsOf {db : AccessDb} : credential ∈ credentialsOf db accountId ↔
    credential ∈ db.credentials.rows ∧ credential.subscriberId = accountId := by
  rw [credentialsOf, List.mem_filter, decide_eq_true_eq]

/-- **A restoration leaves the profiles that the credentials started with.** -/
lemma Traced.restored (h : Traced original used credential)
    (hfree : credential.isThrottled = false) :
    credential.radiusProfileId = original.radiusProfileId ∧
      ∀ profileId ∈ used, credential.radiusProfileId ≠ some profileId := by
  have hnone : credential.preThrottleRadiusProfileId = none :=
    Option.not_isSome_iff_eq_none.mp (Bool.eq_false_iff.mp hfree)
  have hsame : credential.ownProfileId = credential.radiusProfileId := by
    rw [AccessCredential.ownProfileId, hnone, Option.none_or]
  exact ⟨hsame ▸ h.own, hsame ▸ h.unused⟩

lemma tracedFrom_of_rows {db' : AccessDb} {used' : List ℕ}
    (hrows : ∀ credential ∈ db'.credentials.rows, credential.subscriberId = accountId →
      ∃ original ∈ credentialsOf start accountId, Traced original used' credential) :
    TracedFrom start accountId ⟨db', used'⟩ := fun credential hmem =>
  hrows credential (mem_credentialsOf.mp hmem).1 (mem_credentialsOf.mp hmem).2

/-- **Step**: what an undoable command keeps. -/
lemma traced_step (h : TracedFrom start accountId state) (hundoable : Undoable accountId state
    command) (hok : throttleStep accountId state command = .ok state') :
    TracedFrom start accountId state' := by
  cases command with
  | configure => exact pure_eq_ok.mp hok ▸ h
  | changeProfiles => exact pure_eq_ok.mp hok ▸ h
  | throttle facts now reason origin fingerprint key source dunningCaseId overdueDays =>
    obtain ⟨⟨db', result⟩, hconfirm, hok⟩ := bind_eq_ok.mp hok
    obtain rfl := pure_eq_ok.mp hok
    obtain ⟨_, -, ⟨rfl, hreplay⟩ | hconfirmed⟩ := confirmConsequence_cases hconfirm
    · rw [usedBy, if_neg fun hnew => hnew.2 hreplay.replay, List.nil_append]
      exact h
    · have heligible : result.preview.eligible = fingerprint.eligible := by
        rw [hconfirmed.preview]
        rfl
      obtain ⟨-, ⟨hnot, hsame⟩ | ⟨hyes, profile, hprofile, hloop⟩⟩ := hconfirmed.credentials
      · rw [usedBy, if_neg fun hnew => Bool.false_ne_true (hnot ▸ heligible ▸ hnew.1),
          List.nil_append]
        refine tracedFrom_of_rows fun credential hmem haccount => h credential ?_
        exact mem_credentialsOf.mpr ⟨hsame ▸ hmem, haccount⟩
      · have hused : usedBy state.db result = [profile.id] := by
          rw [usedBy, if_pos ⟨heligible.trans hyes, Bool.eq_false_iff.mp hconfirmed.replay⟩,
              hprofile]
          rfl
        rw [hconfirmed.decision] at hyes
        have hundone := hundoable hyes profile hprofile
        rw [hused]
        refine tracedFrom_of_rows fun credential hmem haccount => ?_
        obtain ⟨before, hbefore, rfl⟩ := rows_throttled hloop hmem
        split_ifs at haccount ⊢ with hchanged
        · have hmem := mem_credentialsOf.mpr ⟨hbefore, hchanged.1.1⟩
          obtain ⟨original, horiginal, htraced⟩ := h before hmem
          obtain ⟨hunused, hfound⟩ := hundone before hmem
          obtain ⟨hown, hcarries⟩ := hfound hchanged.1.2
          exact ⟨original, horiginal, htraced.throttle hunused hchanged.1.2 hown hcarries
              hchanged.2⟩
        · have hmem := mem_credentialsOf.mpr ⟨hbefore, haccount⟩
          obtain ⟨original, horiginal, htraced⟩ := h before hmem
          refine ⟨original, horiginal, htraced.id, htraced.own, ?_, fun hthrottled => ?_⟩
          · rw [List.singleton_append, List.forall_mem_cons]
            exact ⟨(hundone before hmem).1, htraced.unused⟩
          · obtain ⟨hactive, profileId, hmem, hradius⟩ := htraced.throttled hthrottled
            exact ⟨hactive, profileId, List.mem_append_right _ hmem, hradius⟩
  | restore facts now origin fingerprint key overdueTrigger resolvedBy =>
    obtain ⟨⟨db', result⟩, hconfirm, hok⟩ := bind_eq_ok.mp hok
    obtain rfl := pure_eq_ok.mp hok
    obtain ⟨_, -, ⟨rfl, -⟩ | hconfirmed⟩ := confirmRestoration_cases hconfirm
    · exact h
    · have hloop := hconfirmed.credentials.2
      refine tracedFrom_of_rows fun credential hmem haccount => ?_
      by_cases hlooked : facts.accountStatus ≠ some .canceled ∧ facts.receivables = []
      · rw [if_neg hlooked.1] at hloop
        obtain ⟨before, hbefore, rfl⟩ := rows_unthrottled hlooked.2 hloop hmem
        split_ifs at haccount ⊢ with hchanged
        · obtain ⟨original, horiginal, htraced⟩ :=
            h before (mem_credentialsOf.mpr ⟨hbefore, hchanged.1.1⟩)
          exact ⟨original, horiginal, htraced.unthrottle hchanged.2.1⟩
        · exact h before (mem_credentialsOf.mpr ⟨hbefore, haccount⟩)
      · have hnone : (if facts.accountStatus = some .canceled then [] else
            unthrottleChanges state.db facts accountId) = [] := by
          split_ifs with hcanceled
          · rfl
          · have hreceivables : facts.receivables ≠ [] := fun hclear => hlooked ⟨hcanceled, hclear⟩
            unfold unthrottleChanges throttledCredentials
            cases state.db.throttleRadiusProfileId with
            | none => rfl
            | some profileId =>
              dsimp only
              rw [if_neg hreceivables]
              rfl
        rw [hnone] at hloop
        have hsame := foldlM_nil_eq_ok.mp hloop
        exact h credential (mem_credentialsOf.mpr ⟨hsame ▸ hmem, haccount⟩)

end Traces

variable {start : AccessDb} {accountId : ℕ} {commands : List ThrottleCommand}

lemma tracedFrom_start (hfresh : ∀ credential ∈ credentialsOf start accountId,
    credential.isThrottled = false) : TracedFrom start accountId ⟨start, []⟩ := by
  intro credential hmem
  have hfree := hfresh credential hmem
  have hnone : credential.preThrottleRadiusProfileId = none :=
    Option.not_isSome_iff_eq_none.mp (Bool.eq_false_iff.mp hfree)
  refine ⟨credential, hmem, rfl, ?_, nofun, fun hthrottled => ?_⟩
  · rw [AccessCredential.ownProfileId, hnone, Option.none_or]
  · exact absurd hthrottled (Bool.eq_false_iff.mp hfree)

/-- **Throttling is undone** after every run of undoable throttles: no throttle profile is
remembered, and a restoration that finds no receivable leaves every credential of the account with
the profile that it had before, none with a throttle profile. -/
theorem throttle_undone (hfresh : ∀ credential ∈ credentialsOf start accountId,
      credential.isThrottled = false)
    (hrun : Guarded (throttleStep accountId) (Undoable accountId) ⟨start, []⟩ commands) :
    (∀ credential ∈ credentialsOf (run (throttleStep accountId) ⟨start, []⟩ commands).db accountId,
      ∀ profileId ∈ (run (throttleStep accountId) ⟨start, []⟩ commands).used,
        credential.preThrottleRadiusProfileId ≠ some profileId) ∧
    ∀ (facts : AccountFacts) (now : ℤ) (origin : FinancialAccessOrigin) (fingerprint : Decision)
      (key : AccessKey) (overdueTrigger resolvedBy : String) (db' : AccessDb)
      (result : ConsequenceResult),
      confirmFinancialAccessRestoration (run (throttleStep accountId) ⟨start, []⟩ commands).db facts
        accountId now origin fingerprint key overdueTrigger resolvedBy = .ok (db', result) →
      result.idempotentReplay = false → facts.accountStatus ≠ some .canceled →
      facts.receivables = [] →
      RestoreFinds (run (throttleStep accountId) ⟨start, []⟩ commands).db accountId →
        ∀ credential ∈ credentialsOf db' accountId, ∃ original ∈ credentialsOf start accountId,
          credential.id = original.id ∧ credential.radiusProfileId = original.radiusProfileId ∧
            credential.isThrottled = false ∧
            ∀ profileId ∈ (run (throttleStep accountId) ⟨start, []⟩ commands).used,
              credential.radiusProfileId ≠ some profileId := by
  have htraced : TracedFrom start accountId (run (throttleStep accountId) ⟨start, []⟩ commands) :=
    invariant_guarded (fun _ _ _ h hundoable hok => traced_step h hundoable hok) commands _
      (tracedFrom_start hfresh) hrun
  generalize run (throttleStep accountId) ⟨start, []⟩ commands = state at htraced
  constructor
  · intro credential hmem profileId hused hremembered
    obtain ⟨original, -, htrace⟩ := htraced credential hmem
    refine htrace.unused profileId hused ?_
    rw [AccessCredential.ownProfileId, hremembered]
    rfl
  · intro facts now origin fingerprint key overdueTrigger resolvedBy db' result hconfirm hnew
      hactive hclear hfinds credential hmem
    obtain ⟨_, -, ⟨-, hreplay⟩ | hconfirmed⟩ := confirmRestoration_cases hconfirm
    · exact absurd hreplay.replay (Bool.eq_false_iff.mp hnew)
    have hloop := hconfirmed.credentials.2
    rw [if_neg hactive] at hloop
    obtain ⟨hrow, haccount⟩ := mem_credentialsOf.mp hmem
    obtain ⟨before, hbefore, rfl⟩ := rows_unthrottled hclear hloop hrow
    have hbeforeAccount : before.subscriberId = accountId := by
      split_ifs at haccount <;> exact haccount
    have hmem := mem_credentialsOf.mpr ⟨hbefore, hbeforeAccount⟩
    obtain ⟨original, horiginal, htrace⟩ := htraced before hmem
    refine ⟨original, horiginal, ?_⟩
    by_cases hthrottled : before.isThrottled = true
    · obtain ⟨hactive, profileId, -, hradius⟩ := htrace.throttled hthrottled
      have hsetting := hfinds before hmem hactive hthrottled
      have hchanged : (before.subscriberId = accountId ∧ before.isActive = true) ∧
          before.isThrottled = true ∧ state.db.throttleRadiusProfileId ≠ none ∧
            before.radiusProfileId = state.db.throttleRadiusProfileId := by
        refine ⟨⟨hbeforeAccount, hactive⟩, hthrottled, ?_, hsetting⟩
        rw [← hsetting, hradius]
        exact Option.some_ne_none _
      rw [if_pos hchanged]
      have hback := htrace.unthrottle hthrottled
      exact ⟨hback.id, (hback.restored rfl).1, rfl, (hback.restored rfl).2⟩
    · rw [if_neg fun hchanged => hthrottled hchanged.2.1]
      have hfree := Bool.eq_false_iff.mpr hthrottled
      exact ⟨htrace.id, (htrace.restored hfree).1, hfree, (htrace.restored hfree).2⟩

/-- A throttle of the account for its overdue invoice, as it is previewed in a state. -/
def throttleOverdue (key : String) (db : AccessDb) : ThrottleCommand :=
  .throttle (postpaidFacts [overdueInvoice]) 1 .overdue .dunning (decideConsequence db
    (postpaidFacts [overdueInvoice]) 0 .throttle .overdue .dunning none none) (.given key) "dunning"
    none none

def restoreSettled (db : AccessDb) : Except AccessError (AccessDb × ConsequenceResult) :=
  confirmFinancialAccessRestoration db (postpaidFacts []) 0 2 .financialReconciliation
    (decideRestoration db (postpaidFacts []) 0 .financialReconciliation) (.given "restore")
        "payment"
    "system"

def afterThrottle (radiusProfileId : Option ℕ) : ThrottleState :=
  run (throttleStep 0) ⟨oneService radiusProfileId, []⟩
    [throttleOverdue "throttle" (oneService radiusProfileId)]

/-- A login with a profile gets it back. -/
theorem throttle_undone_oneService :
    ∃ restored, restoreSettled (afterThrottle (some 3)).db = .ok restored ∧
      ∀ credential ∈ credentialsOf restored.1 0,
        ∃ original ∈ credentialsOf (oneService (some 3)) 0, credential.id = original.id ∧
          credential.radiusProfileId = original.radiusProfileId ∧ credential.isThrottled = false ∧
            ∀ profileId ∈ (afterThrottle (some 3)).used,
              credential.radiusProfileId ≠ some profileId := by
  have hrun : Guarded (throttleStep 0) (Undoable 0) ⟨oneService (some 3), []⟩
      [throttleOverdue "throttle" (oneService (some 3))] := by
    refine ⟨fun _ _ profile hprofile => ?_, trivial⟩
    obtain rfl : ⟨5, true⟩ = profile := Option.some.inj hprofile
    exact List.forall_mem_singleton.mpr (by decide)
  have hfinds : RestoreFinds (afterThrottle (some 3)).db 0 := by
    decide +kernel
  obtain ⟨restored, hrestored, hnew⟩ : ∃ restored,
      restoreSettled (afterThrottle (some 3)).db = .ok restored ∧
        restored.2.idempotentReplay = false := by
    decide +kernel
  exact ⟨restored, hrestored, (throttle_undone (by decide) hrun).2 _ _ _ _ _ _ _ _ _ hrestored hnew
    (by decide) rfl hfinds⟩

/-- A login without a profile keeps the throttle profile when the account is restored, and a
throttle to another profile remembers the one before. -/
theorem throttle_kept :
    (∃ restored, restoreSettled (afterThrottle none).db = .ok restored ∧
      restored.2.idempotentReplay = false ∧
      (credentialsOf restored.1 0).map (·.radiusProfileId) = [some 5]) ∧
    (credentialsOf (run (throttleStep 0) (afterThrottle (some 3)) [.configure (some 6),
      throttleOverdue "again" (next (throttleStep 0) (afterThrottle (some 3))
        (.configure (some 6))).db]).db 0).map (·.preThrottleRadiusProfileId) = [some 5] ∧
      5 ∈ (afterThrottle (some 3)).used := by
  decide +kernel

end DotmacSub.FinancialAccess
