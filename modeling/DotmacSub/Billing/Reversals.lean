import DotmacSub.Billing.CustomerSubledger
import DotmacSub.Core.Run
import Mathlib.Data.List.Pairwise

/-!
# Reversals of posted groups

A reversal is a group with the effects of the group it reverses, and its link makes it count
negatively.  Whether it undoes that group therefore depends on the link of the group itself: a
reversal counts negatively already, and its own reversal counts negatively once more.  It also
depends on the reversal being a new group: a key that is taken answers with the recorded group, and
the link of that group is overwritten.
-/

namespace DotmacSub

namespace CustomerSubledger

open Store Checked Decimal Run

variable {manifest : BillingRecordAuthority} {db db' : Subledger} {context : PostingContext}
  {command : StagePostingGroupCommand} {group x g : PostingGroup}

/-- A recorded group that replays a command: the same meaning, and the same effects in any order. -/
structure Replays (existing : PostingGroup) (command : StagePostingGroupCommand) : Prop where
  meaning : ∃ occurredAt, command.occurredAt = .aware occurredAt ∧
    sameMeaning existing command occurredAt
  effects : (recordedEffects existing).Perm (commandedEffects command.effects)

lemma assertReplayMatches_ok {existing : PostingGroup} {u : Unit}
    (h : assertReplayMatches existing command = .ok u) : Replays existing command := by
  obtain ⟨recorded, hr, h⟩ := bind_eq_ok.mp h
  obtain ⟨commanded, hc, h⟩ := bind_eq_ok.mp h
  obtain ⟨-, hr⟩ := ensure_bind_eq_ok.mp hr
  obtain ⟨-, hr⟩ := ensure_bind_eq_ok.mp hr
  obtain ⟨-, hc⟩ := ensure_bind_eq_ok.mp hc
  obtain ⟨-, hc⟩ := ensure_bind_eq_ok.mp hc
  obtain rfl := Except.ok.inj hr
  obtain rfl := Except.ok.inj hc
  have hsame := ensure_eq_ok.mp h
  cases hm : command.occurredAt with
  | naive wall => simp [hm] at hsame
  | aware occurredAt =>
    simp only [hm, decide_eq_true_eq] at hsame
    exact ⟨⟨occurredAt, hm, hsame.1⟩, hsame.2⟩

lemma flush_ok {groups : Table PostingGroup} {cutover : Bool}
    (h : flush groups cutover = .ok db') : db'.groups = groups ∧ db'.cutover = cutover := by
  rw [flush] at h
  split_ifs at h
  obtain rfl := Except.ok.inj h
  exact ⟨rfl, rfl⟩

lemma validate_ok {key : String} {occurredAt : ℤ}
    (h : validate command context = .ok (key, occurredAt)) :
    key = keyOr command.idempotencyKey context := by
  obtain ⟨k, hk, h⟩ := bind_eq_ok.mp h
  obtain ⟨-, h⟩ := ensure_bind_eq_ok.mp h
  obtain ⟨i, -, h⟩ := bind_eq_ok.mp h
  obtain ⟨_, -, h⟩ := bind_eq_ok.mp h
  obtain ⟨-, hk⟩ := ensure_bind_eq_ok.mp hk
  exact (mk_eq_ok.mp h).1.symm.trans (Except.ok.inj hk).symm

/-- **Staging** answers with the group of the key, or appends a group without a link. -/
inductive StageStep (manifest : BillingRecordAuthority) (db : Subledger)
    (command : StagePostingGroupCommand) (context : PostingContext) (db' : Subledger)
    (group : PostingGroup) : Prop
  | replayed (hkey : withKey db command.producerOwner (keyOr command.idempotencyKey context)
        = some group)
      (hreplays : Replays group command) (hdb : db' = db)
  | recorded (key : String) (occurredAt : ℤ)
      (hkey : withKey db command.producerOwner (keyOr command.idempotencyKey context) = none)
      (hgroups : db'.groups = db.groups.insert (groupRow command (permittedAuthority manifest db)
        key occurredAt) fun _ => rfl)
      (hcutover : db'.cutover = db.cutover)
      (hgroup : group = groupRow command (permittedAuthority manifest db) key occurredAt
        db.groups.next)

theorem stagePostingGroup_ok
    (h : stagePostingGroup manifest db command context = .ok (db', group)) :
    StageStep manifest db command context db' group := by
  obtain ⟨-, h⟩ := ensure_bind_eq_ok.mp h
  obtain ⟨⟨key, occurredAt⟩, hv, h⟩ := bind_eq_ok.mp h
  obtain rfl := validate_ok hv
  dsimp only at h
  split at h
  · rename_i existing hkey
    obtain ⟨_, hmatch, h⟩ := bind_eq_ok.mp h
    obtain ⟨rfl, rfl⟩ := mk_eq_ok.mp h
    exact .replayed hkey (assertReplayMatches_ok hmatch) rfl
  · rename_i hkey
    obtain ⟨db₁, hflush, h⟩ := bind_eq_ok.mp h
    obtain ⟨rfl, rfl⟩ := mk_eq_ok.mp h
    obtain ⟨hgroups, hcutover⟩ := flush_ok hflush
    exact .recorded _ occurredAt hkey hgroups hcutover rfl

/-- **Reversing** answers with the recorded reversal, or links the staged group to the original. -/
inductive ReversalStep (manifest : BillingRecordAuthority) (db : Subledger)
    (command : StageReversalCommand) (context : PostingContext) (db' : Subledger)
    (original group : PostingGroup) : Prop
  | replayed (halready : reversalOf db original.id = some group)
      (hreplays : Replays group (reversalCommand original command)) (hdb : db' = db)
  | linked (staged : PostingGroup) (mid : Subledger) (hnone : reversalOf db original.id = none)
      (hstage : StageStep manifest db (reversalCommand original command) context mid staged)
      (hgroups : db'.groups = mid.groups.update staged.id (linked original.id)
        (id_linked original.id))
      (hcutover : db'.cutover = mid.cutover)
      (hgroup : group = CustomerSubledger.linked original.id staged)

theorem stageReversal_ok {command : StageReversalCommand}
    (h : stageReversal manifest db command context = .ok (db', group)) :
    ∃ original, db.groups.get? command.originalGroupId = some original ∧
      ReversalStep manifest db command context db' original group := by
  obtain ⟨-, h⟩ := ensure_bind_eq_ok.mp h
  obtain ⟨original, horiginal, h⟩ := orRefuse_bind_eq_ok.mp h
  refine ⟨original, horiginal, ?_⟩
  split at h
  · rename_i already halready
    obtain ⟨-, h⟩ := ensure_bind_eq_ok.mp h
    obtain ⟨_, hmatch, h⟩ := bind_eq_ok.mp h
    obtain ⟨rfl, rfl⟩ := mk_eq_ok.mp h
    exact .replayed halready (assertReplayMatches_ok hmatch) rfl
  · rename_i hnone
    obtain ⟨⟨mid, staged⟩, hstage, h⟩ := bind_eq_ok.mp h
    obtain ⟨db₁, hflush, h⟩ := bind_eq_ok.mp h
    obtain ⟨rfl, rfl⟩ := mk_eq_ok.mp h
    obtain ⟨hgroups, hcutover⟩ := flush_ok hflush
    exact .linked staged mid hnone (stagePostingGroup_ok hstage) hgroups hcutover rfl

inductive Command
  | stage (command : StagePostingGroupCommand) (context : PostingContext)
  | reverse (command : StageReversalCommand) (context : PostingContext)

def step (manifest : BillingRecordAuthority) (db : Subledger) :
    Command → Except DomainError Subledger
  | .stage command context => do
      let (db, _) ← stagePostingGroup manifest db command context
      return db
  | .reverse command context => do
      let (db, _) ← stageReversal manifest db command context
      return db

def noGroups : Subledger := ⟨.empty, false, by decide⟩

def receivable (amount : ℚ) (key : String) : StagePostingGroupCommand where
  accountId := 7
  currency := "NGN"
  commandKind := .receivableIssue
  producerOwner := .accountAdjustments
  sourceKind := .invoice
  sourceId := 40
  occurredAt := .aware 0
  effects := [⟨.receivableIssued, amount, {}⟩]
  idempotencyKey := key

def reversal (originalGroupId : ℕ) (key : String) : StageReversalCommand where
  originalGroupId
  producerOwner := .accountAdjustments
  sourceKind := .ledgerEntry
  sourceId := 50
  occurredAt := .aware 0
  idempotencyKey := key

def ownerCommand : PostingContext := ⟨true, ""⟩

def issued : Subledger := run (step .shadow) noGroups [.stage (receivable 100 "issue") ownerCommand]

/-- A receivable that was issued and reversed. -/
def undone : Subledger := run (step .shadow) issued [.reverse (reversal 0 "undo") ownerCommand]

/-- A group that belongs to the same account as another one and has the same movements. -/
structure Alike (x g : PostingGroup) : Prop where
  accountId : x.accountId = g.accountId
  currency : x.currency = g.currency
  netMove : ∀ lane, netMove x.effects lane = netMove g.effects lane

lemma Alike.refl (g : PostingGroup) : Alike g g := ⟨rfl, rfl, fun _ => rfl⟩

lemma Alike.linked (h : Alike x g) (i : ℕ) : Alike (linked i x) g :=
  ⟨h.accountId, h.currency, h.netMove⟩

lemma alike_of_replays {command : StageReversalCommand}
    (h : Replays x (reversalCommand g command)) : Alike x g := by
  obtain ⟨_, -, hmeaning⟩ := h.meaning
  have heffects := h.effects
  rw [recordedEffects, commandedEffects, reversalCommand, List.map_map] at heffects
  exact ⟨hmeaning.1, hmeaning.2.1, netMove_eq_of_canonical heffects⟩

/-- The staged reversal of `g` stores the movements of `g`: they are column values already. -/
lemma alike_groupRow {g : PostingGroup} {command : StageReversalCommand}
    {authority : BillingRecordAuthority} {key : String} {occurredAt : ℤ} {id : ℕ} :
    Alike (groupRow (reversalCommand g command) authority key occurredAt id) g := by
  refine ⟨rfl, rfl, fun lane => ?_⟩
  simp only [groupRow, reversalCommand, List.map_map, Function.comp_def, Numeric.store_value,
    List.map_id']

def weight (scope : List BillingRecordAuthority) (g : PostingGroup) : ℚ :=
  if g.authority ∈ scope then signOf g.reversesGroupId else 0

def moved (accountId : ℕ) (currency : String) (lane : Lane) (g : PostingGroup) : ℚ :=
  if g.accountId = accountId ∧ g.currency = currency then netMove g.effects lane else 0

lemma contribution_of_alike (h : Alike x g) (accountId : ℕ) (currency : String)
    (scope : List BillingRecordAuthority) (lane : Lane) :
    contribution accountId currency scope lane x
      = weight scope x * moved accountId currency lane g := by
  simp only [contribution, inScope, weight, moved, h.accountId, h.currency, h.netMove]
  split_ifs <;> simp_all

lemma mul_moved_eq_zero {k : ℚ} {g : PostingGroup} :
    (∀ accountId currency lane, k * moved accountId currency lane g = 0) ↔
      k = 0 ∨ ∀ lane, netMove g.effects lane = 0 := by
  constructor
  · intro h
    rcases eq_or_ne k 0 with hk | hk
    · exact .inl hk
    · refine .inr fun lane => ?_
      have := (mul_eq_zero.mp (h g.accountId g.currency lane)).resolve_left hk
      rwa [moved, if_pos ⟨rfl, rfl⟩] at this
  · rintro (rfl | h) accountId currency lane
    · rw [zero_mul]
    · rw [moved, h lane, ite_self, mul_zero]

lemma position_eq_total (db : Subledger) (accountId : ℕ) (currency : String)
    (authority : Option BillingRecordAuthority) (lane : Lane) :
    (resolvePosition db accountId currency authority).lanes lane
      = db.groups.total (contribution accountId currency (authorityScope db.cutover authority)
          lane) := lanesOf_eq_sum _ _ _ _ _

/-- A reversal undoes a group: it changes every position by exactly minus what the group
contributed (where it was not reversed before), and the position is the one without both. -/
structure Undone (db db' : Subledger) (original reversal : PostingGroup)
    (authority : Option BillingRecordAuthority) : Prop where
  change : reversalOf db original.id = none → ∀ accountId currency lane,
    (resolvePosition db' accountId currency authority).lanes lane
      = (resolvePosition db accountId currency authority).lanes lane
        - lanesOf [original] accountId currency (authorityScope db.cutover authority) lane
  leftOut : ∀ accountId currency lane,
    (resolvePosition db' accountId currency authority).lanes lane
      = lanesOf (db'.groups.rows.filter fun g => g.id ≠ original.id ∧ g.id ≠ reversal.id)
          accountId currency (authorityScope db'.cutover authority) lane

def answerAuthority (manifest : BillingRecordAuthority) (db : Subledger) (original : PostingGroup)
    (producer : PostingProducer) (key : String) : BillingRecordAuthority :=
  ((reversalOf db original.id <|> withKey db producer key).map PostingGroup.authority).getD
    (permittedAuthority manifest db)

/-- The reversal can undo the group: the group moves no lane; or it and the answer are out of the
scope; or both are in it, the group is no reversal, and the key of a new reversal is free. -/
def Undoes (manifest : BillingRecordAuthority) (db : Subledger) (original : PostingGroup)
    (producer : PostingProducer) (key : String) (scope : List BillingRecordAuthority) : Prop :=
  (∀ lane, netMove original.effects lane = 0) ∨
    (original.authority ∉ scope ∧ answerAuthority manifest db original producer key ∉ scope) ∨
    (original.authority ∈ scope ∧ answerAuthority manifest db original producer key ∈ scope ∧
      original.reversesGroupId = none ∧
      (reversalOf db original.id = none → withKey db producer key = none))

section Undoing

variable {original reversal staged : PostingGroup} {authority : Option BillingRecordAuthority}
  {groups : Table PostingGroup}

lemma lanesOf_leftOut {g r : PostingGroup} (hg : g ∈ groups.rows) (hr : r ∈ groups.rows)
    (hne : r.id ≠ g.id) (accountId : ℕ) (currency : String)
    (scope : List BillingRecordAuthority) (lane : Lane) :
    lanesOf (groups.rows.filter fun x => x.id ≠ g.id ∧ x.id ≠ r.id) accountId currency scope lane
      = groups.total (contribution accountId currency scope lane)
        - contribution accountId currency scope lane g
        - contribution accountId currency scope lane r := by
  rw [lanesOf_eq_sum]
  exact Table.total_filter_ne_ne hg hr hne

lemma lanesOf_leftOut_self {g r : PostingGroup} (hr : r ∈ groups.rows) (heq : r.id = g.id)
    (accountId : ℕ) (currency : String) (scope : List BillingRecordAuthority) (lane : Lane) :
    lanesOf (groups.rows.filter fun x => x.id ≠ g.id ∧ x.id ≠ r.id) accountId currency scope lane
      = groups.total (contribution accountId currency scope lane)
        - contribution accountId currency scope lane r := by
  rw [lanesOf_eq_sum, ← heq]
  simp only [and_self]
  exact Table.total_filter_ne hr

/-- **A replay** adds nothing: the position is the one without both groups when their factors
cancel, or when the group is its own reversal and has no factor. -/
lemma undone_replayed_iff (halready : reversalOf db original.id = some reversal)
    (hg : original ∈ db.groups.rows) (halike : Alike reversal original) :
    Undone db db original reversal authority ↔
      (if reversal.id = original.id then 0
          else weight (authorityScope db.cutover authority) original)
        + weight (authorityScope db.cutover authority) reversal = 0
      ∨ ∀ lane, netMove original.effects lane = 0 := by
  have hr : reversal ∈ db.groups.rows := List.mem_of_find?_eq_some halready
  rw [← mul_moved_eq_zero (g := original)]
  constructor
  · intro h accountId currency lane
    have hleft := h.leftOut accountId currency lane
    rw [position_eq_total] at hleft
    split_ifs with hid
    · rw [lanesOf_leftOut_self hr hid, contribution_of_alike halike] at hleft
      linarith
    · rw [lanesOf_leftOut hg hr hid, contribution_of_alike halike,
        contribution_of_alike (.refl original)] at hleft
      linarith
  · intro h
    refine ⟨fun hnone => ?_, fun accountId currency lane => ?_⟩
    · exact absurd (halready.symm.trans hnone) (Option.some_ne_none reversal)
    · have hzero := h accountId currency lane
      rw [position_eq_total]
      split_ifs at hzero with hid
      · rw [lanesOf_leftOut_self hr hid, contribution_of_alike halike]
        linarith
      · rw [lanesOf_leftOut hg hr hid, contribution_of_alike halike,
          contribution_of_alike (.refl original)]
        linarith

/-- **A linked group**: `k` is what staging it added, before the link. -/
lemma undone_linked_iff {k : ℚ} (hnone : reversalOf db original.id = none)
    (hg : original ∈ groups.rows) (hs : staged ∈ groups.rows) (halike : Alike staged original)
    (hgroups : db'.groups = groups.update staged.id (linked original.id) (id_linked original.id))
    (hcutover : db'.cutover = db.cutover)
    (htotal : ∀ accountId currency lane,
      groups.total (contribution accountId currency (authorityScope db.cutover authority) lane)
        = db.groups.total (contribution accountId currency (authorityScope db.cutover authority)
            lane) + k * moved accountId currency lane original) :
    Undone db db' original (linked original.id staged) authority ↔
      (k - weight (authorityScope db.cutover authority) staged
          + weight (authorityScope db.cutover authority) (linked original.id staged)
          + weight (authorityScope db.cutover authority) original = 0 ∧
        (if staged.id = original.id then 0
            else weight (authorityScope db.cutover authority) original)
          + weight (authorityScope db.cutover authority) (linked original.id staged) = 0)
      ∨ ∀ lane, netMove original.effects lane = 0 := by
  have hlinked : linked original.id staged ∈ db'.groups.rows :=
    hgroups ▸ Table.mem_update.mpr (.inr ⟨staged, hs, rfl, rfl⟩)
  have hposition (accountId currency lane) :
      (resolvePosition db' accountId currency authority).lanes lane
        = db.groups.total (contribution accountId currency (authorityScope db.cutover authority)
            lane)
          + (k - weight (authorityScope db.cutover authority) staged
            + weight (authorityScope db.cutover authority) (linked original.id staged))
            * moved accountId currency lane original := by
    have hupdate := Table.total_update
      (f := contribution accountId currency (authorityScope db.cutover authority) lane)
      (h := id_linked original.id) hs
    rw [htotal, contribution_of_alike halike, contribution_of_alike (halike.linked _)] at hupdate
    rw [position_eq_total, hgroups, hcutover]
    refine hupdate.trans ?_
    ring
  have hleft (accountId currency lane) :
      lanesOf (db'.groups.rows.filter fun g =>
          g.id ≠ original.id ∧ g.id ≠ (linked original.id staged).id)
          accountId currency (authorityScope db'.cutover authority) lane
        = (resolvePosition db' accountId currency authority).lanes lane
          - ((if staged.id = original.id then 0
              else weight (authorityScope db.cutover authority) original)
            + weight (authorityScope db.cutover authority) (linked original.id staged))
            * moved accountId currency lane original := by
    rw [position_eq_total, ← hcutover]
    split_ifs with hid
    · rw [lanesOf_leftOut_self hlinked hid, contribution_of_alike (halike.linked _)]
      ring
    · have hg' : original ∈ db'.groups.rows :=
        hgroups ▸ Table.mem_update.mpr (.inl ⟨hg, fun h => hid h.symm⟩)
      rw [lanesOf_leftOut hg' hlinked hid, contribution_of_alike (halike.linked _),
        contribution_of_alike (.refl original)]
      ring
  have hsingle (accountId currency lane) :
      lanesOf [original] accountId currency (authorityScope db.cutover authority) lane
        = weight (authorityScope db.cutover authority) original
          * moved accountId currency lane original := by
    rw [lanesOf_eq_sum, List.map_singleton, List.sum_singleton,
      contribution_of_alike (.refl original)]
  rw [and_or_right, ← mul_moved_eq_zero (g := original), ← mul_moved_eq_zero (g := original)]
  constructor
  · intro h
    constructor
    · intro accountId currency lane
      have := h.change hnone accountId currency lane
      rw [hposition, hsingle, position_eq_total] at this
      linarith
    · intro accountId currency lane
      have := h.leftOut accountId currency lane
      rw [hleft] at this
      linarith
  · rintro ⟨hchange, hout⟩
    refine ⟨fun _ accountId currency lane => ?_, fun accountId currency lane => ?_⟩
    · have := hchange accountId currency lane
      rw [hposition, hsingle, position_eq_total]
      linarith
    · have := hout accountId currency lane
      rw [hleft]
      linarith

end Undoing

/-- **A reversal undoes a group exactly when the group is no reversal itself, both are counted, and
the reversal is new or recorded before** (or the group moves nothing, or neither is counted). -/
theorem reversal_undoes_iff (authority : Option BillingRecordAuthority)
    {command : StageReversalCommand} {original reversal : PostingGroup}
    (horiginal : db.groups.get? command.originalGroupId = some original)
    (h : stageReversal manifest db command context = .ok (db', reversal)) :
    Undone db db' original reversal authority ↔
      Undoes manifest db original command.producerOwner
        (keyOr command.idempotencyKey context) (authorityScope db.cutover authority) := by
  obtain ⟨_, h', hstep⟩ := stageReversal_ok h
  obtain rfl := Option.mem_unique horiginal h'
  obtain ⟨hg, -⟩ := Table.get?_eq_some.mp horiginal
  rw [Undoes, answerAuthority]
  have htwice : (-1 : ℚ) + -1 ≠ 0 := by norm_num
  generalize hscope : authorityScope db.cutover authority = scope
  cases hstep with
  | replayed halready hreplays hdb =>
    subst hdb
    have hlink : reversal.reversesGroupId = some original.id := by
      simpa using List.find?_some halready
    rw [undone_replayed_iff halready hg (alike_of_replays hreplays), hscope, or_comm]
    refine or_congr_right ?_
    by_cases hid : reversal.id = original.id
    · obtain rfl : reversal = original :=
        Table.eq_of_id_eq (List.mem_of_find?_eq_some halready) hg hid
      simp [halready, hlink, weight, signOf]
    · simp only [weight, signOf, halready, hlink, if_neg hid]
      by_cases ho : original.authority ∈ scope <;> by_cases hr : reversal.authority ∈ scope <;>
        cases hl : original.reversesGroupId <;> simp [ho, hr, htwice]
  | linked staged mid hnone hstage hgroups hcutover hgroup =>
    subst hgroup
    cases hstage with
    | replayed hkey hreplays hdb =>
      subst hdb
      have hanswer : withKey mid command.producerOwner
        (keyOr command.idempotencyKey context) = some staged := hkey
      rw [undone_linked_iff (k := 0) hnone hg (List.mem_of_find?_eq_some hkey)
        (alike_of_replays hreplays) hgroups hcutover fun _ _ _ => by rw [zero_mul, add_zero],
        hscope, or_comm]
      refine or_congr_right ?_
      by_cases hid : staged.id = original.id
      · obtain rfl : staged = original :=
          Table.eq_of_id_eq (List.mem_of_find?_eq_some hkey) hg hid
        simp [hnone, hanswer, linked, weight, signOf]
      · simp only [weight, signOf, hnone, hanswer, linked, if_neg hid]
        by_cases ho : original.authority ∈ scope <;> by_cases hr : staged.authority ∈ scope <;>
          cases hl : original.reversesGroupId <;> cases hs : staged.reversesGroupId <;>
          simp [ho, hr, htwice]
    | recorded key occurredAt hkey hgroups' hcutover' hgroup =>
      have hanswer : withKey db command.producerOwner
        (keyOr command.idempotencyKey context) = none := hkey
      have hauthority : staged.authority = permittedAuthority manifest db := hgroup ▸ rfl
      have hs : staged ∈ mid.groups.rows :=
        hgroups' ▸ hgroup ▸ Table.mem_insert.mpr (.inr rfl)
      have hid : staged.id ≠ original.id := by
        rw [hgroup]
        exact (db.groups.fresh _ hg).ne'
      have halike : Alike staged original := hgroup ▸ alike_groupRow
      rw [undone_linked_iff (k := weight scope staged) hnone
        (hgroups' ▸ Table.mem_insert.mpr (.inl hg)) hs halike hgroups
        (hcutover.trans hcutover') ?_, hscope, or_comm]
      · refine or_congr_right ?_
        simp only [weight, signOf, hnone, hanswer, linked, if_neg hid, ← hauthority]
        by_cases ho : original.authority ∈ scope <;> by_cases hr : staged.authority ∈ scope <;>
          cases hl : original.reversesGroupId <;> simp [ho, hr, htwice]
      · intro accountId currency lane
        rw [hgroups', ← contribution_of_alike halike, hscope, hgroup]
        exact Table.total_insert

/-- The reversal of an issued receivable takes it out of the position. -/
theorem reversal_undoes_receivable :
    ∃ p, stageReversal .shadow issued (reversal 0 "undo") ownerCommand = .ok p ∧
      Undone issued p.1 (groupRow (receivable 100 "issue") .shadow "issue" 0 0) p.2 none := by
  have hok : ∃ p, stageReversal .shadow issued (reversal 0 "undo") ownerCommand = .ok p ∧ True := by
    decide +kernel
  obtain ⟨p, hp, -⟩ := hok
  refine ⟨p, hp, (reversal_undoes_iff none (by decide +kernel) hp).mpr ?_⟩
  exact .inr (.inr ⟨by decide +kernel, by decide +kernel, rfl, fun _ => by decide +kernel⟩)

/-- **A reversal of a reversal** counts negatively once more: the receivable that was reversed is
not restored, it is taken away again. -/
theorem reversal_of_reversal :
    ∃ p original, stageReversal .shadow undone (reversal 1 "redo") ownerCommand = .ok p ∧
      undone.groups.get? 1 = some original ∧ ¬ Undone undone p.1 original p.2 none := by
  have hposition : ∃ p, stageReversal .shadow undone (reversal 1 "redo") ownerCommand = .ok p ∧
      (resolvePosition p.1 7 "NGN" none).lanes .collectibleReceivable = -100 ∧
      lanesOf (p.1.groups.rows.filter fun g => g.id ≠ 1 ∧ g.id ≠ p.2.id) 7 "NGN"
        (authorityScope p.1.cutover none) .collectibleReceivable = 100 := by
    decide +kernel
  obtain ⟨p, hp, hnow, hleft⟩ := hposition
  obtain ⟨original, horiginal, -⟩ := stageReversal_ok hp
  refine ⟨p, original, hp, horiginal, fun hundone => ?_⟩
  obtain ⟨-, hid⟩ := Table.get?_eq_some.mp horiginal
  have hequal := hundone.leftOut 7 "NGN" .collectibleReceivable
  rw [show original.id = 1 from hid, hleft, hnow] at hequal
  norm_num at hequal

/-- Every recorded group is still there, with the reversal link it had, or still without one. -/
def LinksKept (db db' : Subledger) : Prop :=
  ∀ g ∈ db.groups.rows, ∃ g' ∈ db'.groups.rows,
    g'.id = g.id ∧ g'.reversesGroupId = g.reversesGroupId

instance (db db' : Subledger) : Decidable (LinksKept db db') :=
  inferInstanceAs (Decidable (∀ g ∈ db.groups.rows, ∃ g' ∈ db'.groups.rows, _))

/-- No group is reversed twice. -/
def OneReversal (db : Subledger) : Prop :=
  ∀ g ∈ db.groups.rows, ∀ g' ∈ db.groups.rows, ∀ originalId,
    g.reversesGroupId = some originalId → g'.reversesGroupId = some originalId → g = g'

/-- The key of a new reversal belongs to no recorded group. -/
def FreshReversal (db : Subledger) : Command → Prop
  | .stage _ _ => True
  | .reverse command context =>
    ∀ original, db.groups.get? command.originalGroupId = some original →
      reversalOf db original.id = none →
        withKey db command.producerOwner (keyOr command.idempotencyKey context) = none

lemma LinksKept.refl (db : Subledger) : LinksKept db db := fun g hg => ⟨g, hg, rfl, rfl⟩

lemma LinksKept.trans {db₁ db₂ db₃ : Subledger} (h : LinksKept db₁ db₂) (h' : LinksKept db₂ db₃) :
    LinksKept db₁ db₃ := by
  intro g hg
  obtain ⟨g', hg', hid, hlink⟩ := h g hg
  obtain ⟨g'', hg'', hid', hlink'⟩ := h' g' hg'
  exact ⟨g'', hg'', hid'.trans hid, hlink'.trans hlink⟩

/-- The table constraint: a group is the target of at most one reversal. -/
lemma oneReversal (db : Subledger) : OneReversal db := by
  intro g hg g' hg' originalId hlink hlink'
  by_contra hne
  have hpair := List.pairwise_filterMap.mp db.consistent.2.1
  have : Std.Symm fun x y : PostingGroup => ∀ b, x.reversesGroupId = some b →
      ∀ b', y.reversesGroupId = some b' → b ≠ b' :=
    ⟨fun x y h b hb b' hb' heq => h b' hb' b hb heq.symm⟩
  exact hpair.forall hg hg' hne originalId hlink originalId hlink' rfl

lemma linksKept_of_stage (h : StageStep manifest db command context db' group) :
    LinksKept db db' := by
  cases h with
  | replayed hkey hreplays hdb => exact hdb ▸ .refl db
  | recorded key occurredAt hkey hgroups hcutover hgroup =>
    exact fun g hg => ⟨g, hgroups ▸ Table.mem_insert.mpr (.inl hg), rfl, rfl⟩

/-- **A reversal keeps the links exactly when its key is free or it was recorded before.** -/
theorem linksKept_reversal_iff {command : StageReversalCommand}
    (h : stageReversal manifest db command context = .ok (db', group)) :
    LinksKept db db' ↔ FreshReversal db (.reverse command context) := by
  obtain ⟨original, horiginal, hstep⟩ := stageReversal_ok h
  cases hstep with
  | replayed halready hreplays hdb =>
    refine iff_of_true (hdb ▸ .refl db) fun original' horiginal' hnone => ?_
    obtain rfl := Option.mem_unique horiginal horiginal'
    exact absurd (halready.symm.trans hnone) (Option.some_ne_none group)
  | linked staged mid hnone hstage hgroups hcutover hgroup =>
    cases hstage with
    | replayed hkey hreplays hdb =>
      -- the recorded group of the key is linked anew: no reversal of the original was recorded
      subst hdb
      have hstaged := List.mem_of_find?_eq_some hkey
      refine iff_of_false (fun hkept => ?_) fun hfresh => ?_
      · obtain ⟨g', hg', hid, hlink⟩ := hkept staged hstaged
        rw [hgroups] at hg'
        obtain ⟨-, hne⟩ | ⟨s, -, -, rfl⟩ := Table.mem_update.mp hg'
        · exact hne hid
        · exact List.find?_eq_none.mp hnone staged hstaged (decide_eq_true hlink.symm)
      · exact Option.some_ne_none staged
          (hkey.symm.trans (hfresh original horiginal hnone))
    | recorded key occurredAt hkey hgroups' hcutover' hgroup' =>
      refine iff_of_true (fun g hg => ⟨g, ?_, rfl, rfl⟩) fun _ _ _ => hkey
      rw [hgroups, hgroups']
      refine (Table.mem_update (h := id_linked original.id)).mpr
        (.inl ⟨Table.mem_insert.mpr (.inl hg), ?_⟩)
      rw [hgroup']
      exact (db.groups.fresh g hg).ne

/-- What an accepted command keeps when the key of a new reversal is free. -/
lemma linksKept_step {command : Command} (hfresh : FreshReversal db command)
    (h : step manifest db command = .ok db') : LinksKept db db' := by
  cases command with
  | stage command context =>
    obtain ⟨⟨db₁, group⟩, hstage, h⟩ := bind_eq_ok.mp h
    exact Except.ok.inj h ▸ linksKept_of_stage (stagePostingGroup_ok hstage)
  | reverse command context =>
    obtain ⟨⟨db₁, group⟩, hreverse, h⟩ := bind_eq_ok.mp h
    exact Except.ok.inj h ▸ (linksKept_reversal_iff hreverse).mpr hfresh

/-- **Links never move** along a run whose new reversals use free keys: what is recorded at any
point of the run keeps its link, set or not, and no group is reversed twice. -/
theorem links_kept (manifest : BillingRecordAuthority) (db : Subledger) (cs ds : List Command)
    (hfresh : Guarded (step manifest) FreshReversal db (cs ++ ds)) :
    LinksKept (run (step manifest) db cs) (run (step manifest) db (cs ++ ds)) ∧
      OneReversal (run (step manifest) db (cs ++ ds)) := by
  refine ⟨?_, oneReversal _⟩
  rw [run_append]
  have hstep : ∀ mid command db', LinksKept (run (step manifest) db cs) mid →
      FreshReversal mid command → step manifest mid command = .ok db' →
      LinksKept (run (step manifest) db cs) db' :=
    fun _ _ _ hkept hguard h => hkept.trans (linksKept_step hguard h)
  exact invariant_guarded hstep ds _ (.refl _) (hfresh.append_right cs db)

/-- A reversal that is replayed keeps its link. -/
theorem links_kept_replayed :
    LinksKept undone (run (step .shadow) undone [.reverse (reversal 0 "undo") ownerCommand]) ∧
      OneReversal (run (step .shadow) undone [.reverse (reversal 0 "undo") ownerCommand]) := by
  refine links_kept .shadow undone [] _ ⟨fun _ original horiginal hnone => ?_, trivial⟩
  obtain ⟨-, hid⟩ := Table.get?_eq_some.mp horiginal
  rw [show original.id = 0 from hid] at hnone
  exact absurd hnone (by decide +kernel)

/-- Two receivables, the first of them reversed. -/
def firstUndone : Subledger := run (step .shadow) noGroups [
  .stage (receivable 100 "first") ownerCommand, .stage (receivable 100 "second") ownerCommand,
  .reverse (reversal 0 "undo") ownerCommand]

/-- **A shared key moves a link**: the reversal of the second receivable answers with the recorded
reversal of the first, and links it anew. -/
theorem reversal_link_moves : ¬ LinksKept firstUndone
    (run (step .shadow) firstUndone [.reverse (reversal 1 "undo") ownerCommand]) := by
  decide +kernel

end CustomerSubledger

end DotmacSub
