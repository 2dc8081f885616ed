import DotmacSub.Billing.Reversals

/-!
# Replay checks

A replayed key answers with its recorded group when the command has the meaning of that group.  The
check sorts the comparison forms of both lists of effects, and a form mixes texts with absent links:
two effects of one kind and amount that differ in whether they have a link cannot be ordered.
-/

namespace DotmacSub

namespace CustomerSubledger

open Store Checked Decimal

variable {existing : PostingGroup} {command : StagePostingGroupCommand}

def recordedFacts (e : PositionEffect) : PositionEffectKind × ℚ × EffectLinks :=
  (e.effect, e.amount.value, e.links)

def commandedFacts (e : EffectInput) : PositionEffectKind × ℚ × EffectLinks :=
  (e.effect, e.amount, e.links)

/-- The command repeats the recorded group: its header facts, and its effects with multiplicity. -/
structure SameGroup (existing : PostingGroup) (command : StagePostingGroupCommand) : Prop where
  meaning : ∃ occurredAt, command.occurredAt = .aware occurredAt ∧
    sameMeaning existing command occurredAt
  effects : (existing.effects.map recordedFacts).Perm (command.effects.map commandedFacts)

/-- The refusal of a command with another meaning. -/
def idempotencyConflict (existing : PostingGroup) : DomainError :=
  error "idempotency_conflict"
    ("A replayed idempotency key carries a different financial " ++
      "meaning than the recorded posting group.")
    [("group_id", .id existing.id), ("idempotency_key", .text existing.idempotencyKey)]

/-- The check accepts a repeated group, and refuses everything else as a conflict. -/
structure ReplayExact (existing : PostingGroup) (command : StagePostingGroupCommand) : Prop where
  accepted : SameGroup existing command → assertReplayMatches existing command = .ok ()
  refused : ¬SameGroup existing command →
    assertReplayMatches existing command = .error (idempotencyConflict existing)

/-- A list of comparison forms that is rounded and sorted without an error. -/
structure Sortable (effects : List Canonical) : Prop where
  quantizable : ∀ x ∈ effects, quantizable x
  comparable : ∀ x ∈ effects, ∀ y ∈ effects, comparable x y = true

lemma sortCanonical_of_sortable {effects : List Canonical} (h : Sortable effects) :
    sortCanonical effects = .ok effects := by
  rw [sortCanonical, ensure_of h.quantizable, ok_bind, ensure_of h.comparable, ok_bind]
  rfl

lemma ne_idempotencyConflict {e : DomainError} (h : e.code ≠ owner ++ "." ++ "idempotency_conflict")
    (group : PostingGroup) : e ≠ idempotencyConflict group :=
  fun he => h (congrArg DomainError.code he)

lemma sortCanonical_of_not_sortable {effects : List Canonical} (h : ¬Sortable effects) :
    ∃ e, sortCanonical effects = .error e ∧ ∀ group, e ≠ idempotencyConflict group := by
  by_cases hq : ∀ x ∈ effects, quantizable x
  · have hc : ¬∀ x ∈ effects, ∀ y ∈ effects, comparable x y = true := fun hc => h ⟨hq, hc⟩
    refine ⟨unorderable, ?_, ne_idempotencyConflict (by decide)⟩
    rw [sortCanonical, ensure_of hq, ok_bind, ensure, if_neg hc]
    rfl
  · refine ⟨invalidOperation, ?_, ne_idempotencyConflict (by decide)⟩
    rw [sortCanonical, ensure, if_neg hq]
    rfl

structure SortsBoth (existing : PostingGroup) (command : StagePostingGroupCommand) : Prop where
  recorded : Sortable (recordedEffects existing)
  commanded : Sortable (commandedEffects command.effects)

/-- **The check on lists that can be sorted** compares meaning and comparison forms. -/
theorem assertReplayMatches_eq (h : SortsBoth existing command) :
    (Replays existing command → assertReplayMatches existing command = .ok ()) ∧
      (¬Replays existing command →
        assertReplayMatches existing command = .error (idempotencyConflict existing)) := by
  rw [assertReplayMatches, sortCanonical_of_sortable h.recorded, ok_bind,
    sortCanonical_of_sortable h.commanded, ok_bind]
  constructor
  · rintro ⟨⟨occurredAt, haware, hmeaning⟩, heffects⟩
    refine ensure_of ?_
    simp only [haware, hmeaning, heffects, and_self, decide_true]
  · intro hreplays
    rw [ensure, if_neg]
    · rfl
    intro hsame
    refine hreplays ?_
    cases hm : command.occurredAt with
    | naive wall => simp [hm] at hsame
    | aware occurredAt =>
      simp only [hm, decide_eq_true_eq] at hsame
      exact ⟨⟨occurredAt, hm, hsame.1⟩, hsame.2⟩

/-- A list that cannot be sorted ends the check with another error. -/
lemma assertReplayMatches_of_not_sortsBoth (h : ¬SortsBoth existing command) :
    ∃ e, assertReplayMatches existing command = .error e ∧ ∀ group, e ≠ idempotencyConflict group := by
  by_cases hr : Sortable (recordedEffects existing)
  · have hc : ¬Sortable (commandedEffects command.effects) := fun hc => h ⟨hr, hc⟩
    obtain ⟨e, he, hother⟩ := sortCanonical_of_not_sortable hc
    refine ⟨e, ?_, hother⟩
    rw [assertReplayMatches, sortCanonical_of_sortable hr, ok_bind, he]
    rfl
  · obtain ⟨e, he, hother⟩ := sortCanonical_of_not_sortable hr
    refine ⟨e, ?_, hother⟩
    rw [assertReplayMatches, he]
    rfl

/-! ## Amounts of more than four places -/

def formOf (facts : PositionEffectKind × ℚ × EffectLinks) : Canonical :=
  canonical facts.1 facts.2.1 facts.2.2

lemma recordedEffects_eq : recordedEffects existing
    = (existing.effects.map recordedFacts).map formOf := by
  rw [List.map_map]
  rfl

lemma commandedEffects_eq : commandedEffects command.effects
    = (command.effects.map commandedFacts).map formOf := by
  rw [List.map_map]
  rfl

lemma SameGroup.replays (h : SameGroup existing command) : Replays existing command := by
  refine ⟨h.meaning, ?_⟩
  rw [recordedEffects_eq, commandedEffects_eq]
  exact h.effects.map formOf

lemma SameGroup.onGrid (h : SameGroup existing command) {e : EffectInput}
    (he : e ∈ command.effects) : OnGrid 4 e.amount := by
  obtain ⟨r, -, hr⟩ := List.mem_map.mp
    (h.effects.mem_iff.mpr (List.mem_map_of_mem (f := commandedFacts) he))
  have hamount : r.amount.value = e.amount := congrArg (·.2.1) hr
  exact hamount ▸ r.amount.onGrid

/-- The facts that a comparison form keeps when its amount has four places. -/
def factsOf (x : Canonical) : PositionEffectKind × ℚ × EffectLinks := (x.effect, x.amount, x.links)

lemma factsOf_formOf {facts : PositionEffectKind × ℚ × EffectLinks} (h : OnGrid 4 facts.2.1) :
    factsOf (formOf facts) = facts := by
  simp only [factsOf, formOf, canonical, quantize_of_onGrid h]

lemma map_factsOf_formOf {l : List (PositionEffectKind × ℚ × EffectLinks)}
    (h : ∀ facts ∈ l, OnGrid 4 facts.2.1) : (l.map formOf).map factsOf = l := by
  rw [List.map_map]
  conv_rhs => rw [← List.map_id l]
  exact List.map_congr_left fun facts hf => factsOf_formOf (h facts hf)

/-- Commanded amounts of the column's places repeat the group when the comparison forms do. -/
lemma Replays.sameGroup (h : Replays existing command)
    (hgrid : ∀ e ∈ command.effects, OnGrid 4 e.amount) : SameGroup existing command := by
  refine ⟨h.meaning, ?_⟩
  have hforms := h.effects.map factsOf
  rw [recordedEffects_eq, commandedEffects_eq, map_factsOf_formOf, map_factsOf_formOf] at hforms
  · exact hforms
  · intro facts hf
    obtain ⟨e, he, rfl⟩ := List.mem_map.mp hf
    exact hgrid e he
  · intro facts hf
    obtain ⟨e, -, rfl⟩ := List.mem_map.mp hf
    exact e.amount.onGrid

/-- **A replay is decided exactly** when both lists of effects can be sorted, and a command that
agrees with the group at four places has amounts of four places. -/
theorem replayExact_iff (existing : PostingGroup) (command : StagePostingGroupCommand) :
    ReplayExact existing command ↔ SortsBoth existing command ∧
      (Replays existing command → ∀ e ∈ command.effects, OnGrid 4 e.amount) := by
  constructor
  · intro hexact
    have hsorts : SortsBoth existing command := by
      by_contra hsorts
      obtain ⟨e, he, hother⟩ := assertReplayMatches_of_not_sortsBoth hsorts
      by_cases hsame : SameGroup existing command
      · exact nomatch he.symm.trans (hexact.accepted hsame)
      · exact hother existing (Except.error.inj (he.symm.trans (hexact.refused hsame)))
    refine ⟨hsorts, fun hreplays e he => ?_⟩
    have hok := (assertReplayMatches_eq hsorts).1 hreplays
    have hsame : SameGroup existing command := by
      by_contra hsame
      exact nomatch hok.symm.trans (hexact.refused hsame)
    exact hsame.onGrid he
  · rintro ⟨hsorts, hgrid⟩
    obtain ⟨haccept, hrefuse⟩ := assertReplayMatches_eq hsorts
    refine ⟨fun hsame => haccept hsame.replays, fun hsame => hrefuse fun hreplays => ?_⟩
    exact hsame (hreplays.sameGroup (hgrid hreplays))

/-- Two settlements of one amount, of which one has an invoice. -/
def mixedSettlement : StagePostingGroupCommand where
  accountId := 1
  currency := "NGN"
  commandKind := .paymentSettlement
  producerOwner := .paymentProviderEvents
  sourceKind := .payment
  sourceId := 1
  occurredAt := .aware 0
  effects := [⟨.receivableSettled, 5, { invoiceId := some 1 }⟩, ⟨.receivableSettled, 5, {}⟩]
  idempotencyKey := "payment-1"

/-- **A recorded command is not answered when it comes again**: its effects cannot be ordered. -/
theorem mixedSettlement_not_exact :
    ∃ p, stagePostingGroup .shadow noGroups mixedSettlement ownerCommand = .ok p ∧
      SameGroup p.2 mixedSettlement ∧ ¬ReplayExact p.2 mixedSettlement := by
  have hrun : ∃ p, stagePostingGroup .shadow noGroups mixedSettlement ownerCommand = .ok p ∧
      (sameMeaning p.2 mixedSettlement 0 ∧
        (p.2.effects.map recordedFacts).Perm (mixedSettlement.effects.map commandedFacts)) ∧
      assertReplayMatches p.2 mixedSettlement = .error unorderable := by
    decide +kernel
  obtain ⟨p, hp, ⟨hmeaning, heffects⟩, hraised⟩ := hrun
  have hsame : SameGroup p.2 mixedSettlement := ⟨⟨0, rfl, hmeaning⟩, heffects⟩
  exact ⟨p, hp, hsame, fun hexact => nomatch hraised.symm.trans (hexact.accepted hsame)⟩

end CustomerSubledger

end DotmacSub
