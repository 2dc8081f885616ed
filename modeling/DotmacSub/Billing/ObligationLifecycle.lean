import DotmacSub.Billing.LineCoverage

/-!
# The life of an obligation

Every obligation is scheduled, opened, resolved in parts and ended, by commands of its owner.  A
part is added in memory and compared there; what is stored of it is the value of the column.
-/

namespace DotmacSub

namespace Obligations

open Store Checked Decimal Cadence Contracts Rating Run

def Terminal (state : ObligationState) : Prop :=
  state = .resolved ∨ state = .canceled ∨ state = .writtenOff

instance (state : ObligationState) : Decidable (Terminal state) :=
  inferInstanceAs (Decidable (_ ∨ _ ∨ _))

def Untouched (o : BillingObligation) : Prop := o.state = .scheduled ∧ o.resolvedAmount.value = 0

/-- What one command does to one obligation; `amounts` are those it may resolve by. -/
inductive Transition (amounts : ℕ → ℚ → Prop) : BillingObligation → BillingObligation → Prop
  | stays (o : BillingObligation) : Transition amounts o o
  | opens {o : BillingObligation} (openedAt : Option ℤ) (hstate : o.state = .scheduled) :
      Transition amounts o (opened openedAt o)
  | resolves {o : BillingObligation} (kind : ObligationResolutionKind) {amount : ℚ}
      (resolvedAt : Option ℤ) (hstate : o.state = .open ∨ o.state = .partiallyResolved)
      (hamount : amounts o.id amount) (hpos : 0 < amount)
      (hroom : add o.resolvedAmount.value amount ≤ o.grossAmount.value) :
      Transition amounts o (resolved kind (add o.resolvedAmount.value amount) resolvedAt o)

/-- What one command does to all obligations. -/
structure Evolves (amounts : ℕ → ℚ → Prop) (db db' : BillingDb) : Prop where
  consistent : obligationsConsistent db.obligations.rows → obligationsConsistent db'.obligations.rows
  forward : ∀ o ∈ db.obligations.rows, ∃ o' ∈ db'.obligations.rows, Transition amounts o o'
  backward : ∀ o' ∈ db'.obligations.rows,
    Untouched o' ∨ ∃ o ∈ db.obligations.rows, Transition amounts o o'

section Step

variable {env : RatingEnv} {amounts : ℕ → ℚ → Prop} {db db' db'' : BillingDb} {i : ℕ}

lemma Evolves.of_eq (h : db'.obligations = db.obligations) : Evolves amounts db db' := by
  refine ⟨fun hc => h ▸ hc, fun o ho => ⟨o, h ▸ ho, .stays o⟩, fun o ho => .inr ⟨o, h ▸ ho, .stays o⟩⟩

lemma flush_consistent {e : DomainError} (h : flushObligations db e = .ok db') :
    obligationsConsistent db'.obligations.rows := by
  obtain ⟨hcons, h⟩ := ensure_bind_eq_ok.mp h
  exact Except.ok.inj h ▸ hcons

lemma schedule_grows {command : ScheduleObligationCommand} {context : CommandContext}
    {result : ObligationResult} (h : schedule env db command context = .ok (db', result)) :
    (obligationsConsistent db.obligations.rows → obligationsConsistent db'.obligations.rows) ∧
      (∀ o ∈ db.obligations.rows, o ∈ db'.obligations.rows) ∧
      ∀ o' ∈ db'.obligations.rows, Untouched o' ∨ o' ∈ db.obligations.rows := by
  obtain ⟨⟨version, line, period⟩, -, h⟩ := bind_eq_ok.mp h
  dsimp only at h
  split at h
  · obtain ⟨rated, -, h⟩ := bind_eq_ok.mp h
    obtain ⟨db₁, hflush, h⟩ := bind_eq_ok.mp h
    obtain ⟨rfl, -⟩ := mk_eq_ok.mp h
    refine ⟨fun _ => flush_consistent hflush, ?_⟩
    obtain rfl := flushObligations_ok hflush
    refine ⟨fun o ho => (Table.mem_insert (h := fun _ => rfl)).mpr (.inl ho), fun o' ho' => ?_⟩
    obtain ho' | rfl := (Table.mem_insert (h := fun _ => rfl)).mp ho'
    · exact .inr ho'
    · exact .inl ⟨rfl, quantize_zero⟩
  · obtain ⟨r, -, h⟩ := bind_eq_ok.mp h
    obtain ⟨rfl, -⟩ := mk_eq_ok.mp h
    exact ⟨id, fun _ => id, fun _ => .inr⟩
  · cases h

lemma scheduleAll_grows {context : CommandContext} :
    ∀ {commands : List ScheduleObligationCommand} {db db' : BillingDb}
      {results : List ObligationResult},
      scheduleAll env context commands db = .ok (db', results) →
      (obligationsConsistent db.obligations.rows → obligationsConsistent db'.obligations.rows) ∧
        (∀ o ∈ db.obligations.rows, o ∈ db'.obligations.rows) ∧
        ∀ o' ∈ db'.obligations.rows, Untouched o' ∨ o' ∈ db.obligations.rows
  | [], _, _, _, h => by
    obtain ⟨rfl, -⟩ := mk_eq_ok.mp h
    exact ⟨id, fun _ => id, fun _ => .inr⟩
  | command :: commands, db, _, _, h => by
    obtain ⟨⟨db₁, r⟩, h₁, h⟩ := bind_eq_ok.mp h
    obtain ⟨⟨db₂, rs⟩, h₂, h⟩ := bind_eq_ok.mp h
    obtain ⟨rfl, -⟩ := mk_eq_ok.mp h
    obtain ⟨hc₁, hf₁, hb₁⟩ := schedule_grows h₁
    obtain ⟨hc₂, hf₂, hb₂⟩ := scheduleAll_grows h₂
    exact ⟨hc₂ ∘ hc₁, fun o ho => hf₂ o (hf₁ o ho),
      fun o' ho' => (hb₂ o' ho').elim .inl (hb₁ o')⟩

lemma Evolves.of_grows
    (h : (obligationsConsistent db.obligations.rows → obligationsConsistent db'.obligations.rows) ∧
      (∀ o ∈ db.obligations.rows, o ∈ db'.obligations.rows) ∧
      ∀ o' ∈ db'.obligations.rows, Untouched o' ∨ o' ∈ db.obligations.rows) :
    Evolves amounts db db' :=
  ⟨h.1, fun o ho => ⟨o, h.2.1 o ho, .stays o⟩,
    fun o' ho' => (h.2.2 o' ho').imp id fun ho => ⟨o', ho, .stays o'⟩⟩

lemma Evolves.of_update {f : BillingObligation → BillingObligation}
    (hf : ∀ o, Row.id (f o) = Row.id o) {o : BillingObligation} (ho : o ∈ db.obligations.rows)
    (hid : o.id = i) (htransition : Transition amounts o (f o))
    (hrows : db'.obligations = db.obligations.update i f hf)
    (hcons : obligationsConsistent db'.obligations.rows) : Evolves amounts db db' := by
  refine ⟨fun _ => hcons, fun p hp => ?_, fun p' hp' => .inr ?_⟩
  · rw [hrows]
    by_cases hpi : p.id = i
    · obtain rfl := Table.eq_of_id_eq hp ho (hpi.trans hid.symm)
      exact ⟨f p, Table.mem_update.mpr (.inr ⟨p, hp, hpi, rfl⟩), htransition⟩
    · exact ⟨p, Table.mem_update.mpr (.inl ⟨hp, hpi⟩), .stays p⟩
  · rw [hrows] at hp'
    obtain ⟨hp', -⟩ | ⟨p, hp, hpi, rfl⟩ := Table.mem_update.mp hp'
    · exact ⟨p', hp', .stays p'⟩
    · obtain rfl := Table.eq_of_id_eq hp ho (hpi.trans hid.symm)
      exact ⟨p, hp, htransition⟩

lemma open_evolves {openedAt : Option ℤ} {state : ObligationState}
    (h : open_ db i openedAt = .ok (db', state)) : Evolves amounts db db' := by
  obtain ⟨o, ho, h⟩ := orRefuse_bind_eq_ok.mp h
  obtain ⟨hmem, hid⟩ := Table.get?_eq_some.mp ho
  split_ifs at h
  · obtain ⟨rfl, -⟩ := mk_eq_ok.mp h
    exact .of_eq rfl
  · obtain ⟨hstate, h⟩ := ensure_bind_eq_ok.mp h
    obtain ⟨db₁, hflush, h⟩ := bind_eq_ok.mp h
    obtain ⟨rfl, -⟩ := mk_eq_ok.mp h
    refine .of_update (id_opened openedAt) hmem hid (.opens openedAt hstate) ?_
      (flush_consistent hflush)
    rw [flushObligations_ok hflush]

lemma resolve_evolves {kind : ObligationResolutionKind} {amount : ℚ} {resolvedAt : Option ℤ}
    {state : ObligationState} (h : resolve db i kind amount resolvedAt = .ok (db', state))
    (hamount : amounts i amount) :
    Evolves amounts db db' := by
  obtain ⟨o, ho, h⟩ := orRefuse_bind_eq_ok.mp h
  obtain ⟨hmem, (hid : o.id = i)⟩ := Table.get?_eq_some.mp ho
  obtain ⟨hstate, h⟩ := ensure_bind_eq_ok.mp h
  obtain ⟨hpos, h⟩ := ensure_bind_eq_ok.mp h
  obtain ⟨hroom, h⟩ := ensure_bind_eq_ok.mp h
  obtain ⟨db₁, hflush, h⟩ := bind_eq_ok.mp h
  obtain ⟨rfl, -⟩ := mk_eq_ok.mp h
  refine .of_update (id_resolved kind _ resolvedAt) hmem hid
    (.resolves kind resolvedAt hstate (hid ▸ hamount) hpos hroom) ?_ (flush_consistent hflush)
  rw [flushObligations_ok hflush]

def ResolvesBy : BillingCommand → ℕ → ℚ → Prop
  | .resolve i _ amount _, j, a => i = j ∧ amount = a
  | _, _, _ => False

/-- **One command** of any owner evolves the obligations. -/
theorem step_evolves {command : BillingCommand} (h : billingStep env db command = .ok db') :
    Evolves (ResolvesBy command) db db' := by
  cases command with
  | record command context =>
    obtain ⟨⟨_, r⟩, hok, rfl⟩ := map_eq_ok.mp h
    obtain ⟨s, -, ⟨-, -, hobl⟩ | ⟨-, hrecord⟩⟩ := recordVersion_ok hok
    · exact .of_eq hobl
    · exact .of_eq hrecord.obligations
  | purchase term eventId context =>
    obtain ⟨⟨_, r⟩, hok, rfl⟩ := map_eq_ok.mp h
    obtain ⟨-, -, hobl⟩ | hpurchase := purchase_ok hok
    · exact .of_eq hobl
    · exact .of_eq hpurchase.obligations
  | backfill snapshot eventId context =>
    obtain ⟨⟨_, r⟩, hok, rfl⟩ := map_eq_ok.mp h
    obtain rfl | hbackfill := backfill_ok hok
    · exact .of_eq rfl
    · exact .of_eq hbackfill.obligations
  | fireDueTimers now batchLimit =>
    obtain rfl := Except.ok.inj h
    exact .of_eq rfl
  | activate due eventId context =>
    obtain ⟨⟨_, r⟩, hok, rfl⟩ := map_eq_ok.mp h
    obtain rfl | hactivation := activation_ok hok
    · exact .of_eq rfl
    · exact .of_eq hactivation.obligations
  | cancel versionId context =>
    obtain ⟨⟨_, r⟩, hok, rfl⟩ := map_eq_ok.mp h
    obtain rfl | rfl := cancelVersion_ok hok <;> exact .of_eq rfl
  | schedule command context =>
    obtain ⟨⟨_, r⟩, hok, rfl⟩ := map_eq_ok.mp h
    exact .of_grows (schedule_grows hok)
  | consumeShadow commands eventId context =>
    obtain ⟨⟨_, r⟩, hok, rfl⟩ := map_eq_ok.mp h
    obtain ⟨rfl, -⟩ | ⟨db₁, a, hop, -, rfl⟩ := consumeOwnerOutput_ok hok
    · exact .of_eq rfl
    · have hgrows : Evolves (ResolvesBy (.consumeShadow commands eventId context)) db db₁ :=
        .of_grows (scheduleAll_grows hop)
      exact ⟨hgrows.1, hgrows.2, hgrows.3⟩
  | openObligation i openedAt =>
    obtain ⟨⟨_, r⟩, hok, rfl⟩ := map_eq_ok.mp h
    exact open_evolves hok
  | resolve i kind amount resolvedAt =>
    obtain ⟨⟨_, r⟩, hok, rfl⟩ := map_eq_ok.mp h
    exact resolve_evolves hok ⟨rfl, rfl⟩

end Step

/-- What holds of every reachable obligation. -/
structure RowLawful (o : BillingObligation) : Prop where
  nonneg : 0 ≤ o.resolvedAmount.value
  digits : ctx o.resolvedAmount.value = o.resolvedAmount.value
  unresolved : o.state = .scheduled ∨ o.state = .open → o.resolvedAmount.value = 0
  complete : o.state = .resolved → o.resolvedAmount.value = o.grossAmount.value

/-- What an obligation resolved by amounts of the column scale satisfies as well. -/
def Accounted (o : BillingObligation) : Prop :=
  o.state = .partiallyResolved →
    0 < o.resolvedAmount.value ∧ o.resolvedAmount.value < o.grossAmount.value

/-- What stays or grows while an obligation is resolved. -/
structure Later (o o' : BillingObligation) : Prop where
  id : o'.id = o.id
  gross : o'.grossAmount = o.grossAmount
  grows : o.resolvedAmount.value ≤ o'.resolvedAmount.value
  final : Terminal o.state → o' = o

section Rows

variable {amounts : ℕ → ℚ → Prop} {o o' o'' : BillingObligation} {kind : ObligationResolutionKind}
  {applied gross : ℚ}

lemma Later.refl (o : BillingObligation) : Later o o := ⟨rfl, rfl, le_rfl, fun _ => rfl⟩

lemma Later.trans (h : Later o o') (h' : Later o' o'') : Later o o'' where
  id := h'.id.trans h.id
  gross := h'.gross.trans h.gross
  grows := h.grows.trans h'.grows
  final := fun hterminal => by
    have hsame := h.final hterminal
    rw [h'.final (hsame ▸ hterminal), hsame]

lemma RowLawful.of_untouched (h : Untouched o) : RowLawful o :=
  ⟨h.2.ge, by rw [h.2, ctx_zero], fun _ => h.2, fun hstate => by rw [h.1] at hstate; cases hstate⟩

lemma Accounted.of_untouched (h : Untouched o) : Accounted o :=
  fun hstate => by rw [h.1] at hstate; cases hstate

lemma resolvedState_resolved (h : resolvedState kind applied gross = .resolved) :
    applied = gross := by
  unfold resolvedState at h
  split_ifs at h with h₁ h₂ h₃
  exact h₃

lemma resolvedState_partly (h : resolvedState kind applied gross = .partiallyResolved) :
    applied ≠ gross := by
  unfold resolvedState at h
  split_ifs at h with h₁ h₂ h₃
  exact h₃

lemma resolvedState_ne :
    resolvedState kind applied gross ≠ .scheduled ∧ resolvedState kind applied gross ≠ .open := by
  unfold resolvedState
  split_ifs <;> exact ⟨nofun, nofun⟩

/-- **A transition keeps what holds of an obligation.** -/
theorem Transition.rowLawful (h : Transition amounts o o') (hlawful : RowLawful o) :
    RowLawful o' := by
  cases h with
  | stays => exact hlawful
  | opens openedAt hstate =>
    exact ⟨hlawful.nonneg, hlawful.digits, fun _ => hlawful.unresolved (.inl hstate), nofun⟩
  | resolves kind resolvedAt hstate hamount hpos hroom =>
    refine ⟨?_, ctx_quantize_ctx halfUp 4 _, fun hunresolved => ?_, fun hcomplete => ?_⟩
    · exact quantize_nonneg (ctx_nonneg (by linarith [hlawful.nonneg]))
    · exact absurd hunresolved (not_or.mpr resolvedState_ne)
    · show quantize halfUp 4 _ = o.grossAmount.value
      rw [resolvedState_resolved hcomplete, quantize_of_onGrid o.grossAmount.onGrid]

/-- **A transition adds to the resolved amount**, and leaves a final state alone. -/
theorem Transition.later (h : Transition amounts o o') (hlawful : RowLawful o) : Later o o' := by
  cases h with
  | stays => exact .refl o
  | opens openedAt hstate =>
    refine ⟨rfl, rfl, le_rfl, fun hterminal => ?_⟩
    rw [hstate] at hterminal
    simp [Terminal] at hterminal
  | @resolves kind amount resolvedAt hstate hamount hpos hroom =>
    refine ⟨rfl, rfl, ?_, fun hterminal => ?_⟩
    · calc o.resolvedAmount.value = quantize halfUp 4 (ctx o.resolvedAmount.value) := by
            rw [hlawful.digits, quantize_of_onGrid o.resolvedAmount.onGrid]
        _ ≤ quantize halfUp 4 (ctx (o.resolvedAmount.value + amount)) :=
            quantize_mono (ctx_mono hlawful.nonneg (by linarith))
    · obtain hstate | hstate := hstate <;> rw [hstate] at hterminal <;>
        simp [Terminal] at hterminal

/-- A part the column can hold leaves a partly resolved obligation strictly in between. -/
lemma Transition.accounted (h : Transition amounts o o') (haccounted : Accounted o)
    (hgrid : ∀ amount, amounts o.id amount → OnGrid 4 amount)
    (hnonneg : 0 ≤ o.resolvedAmount.value) : Accounted o' := by
  cases h with
  | stays => exact haccounted
  | opens openedAt hstate => exact nofun
  | @resolves kind amount resolvedAt hstate hamount hpos hroom =>
    intro hpartial
    have hstored : (resolved kind (add o.resolvedAmount.value amount) resolvedAt o).resolvedAmount.value
        = add o.resolvedAmount.value amount :=
      quantize_of_onGrid (o.resolvedAmount.onGrid.add (hgrid amount hamount)).ctx
    rw [hstored]
    exact ⟨ctx_pos (by linarith), lt_of_le_of_ne hroom (resolvedState_partly hpartial)⟩

end Rows

section Runs

variable {env : RatingEnv} {db db' : BillingDb} {o : BillingObligation}

/-- What holds of the obligations of a reachable database. -/
structure DbLawful (db : BillingDb) : Prop where
  consistent : obligationsConsistent db.obligations.rows
  rows : ∀ o ∈ db.obligations.rows, RowLawful o

structure OnlyScheduled (db : BillingDb) : Prop where
  consistent : obligationsConsistent db.obligations.rows
  untouched : ∀ o ∈ db.obligations.rows, Untouched o

lemma OnlyScheduled.lawful (h : OnlyScheduled db) : DbLawful db :=
  ⟨h.consistent, fun o ho => .of_untouched (h.untouched o ho)⟩

lemma DbLawful.bounded (h : DbLawful db) (ho : o ∈ db.obligations.rows) :
    0 ≤ o.resolvedAmount.value ∧ o.resolvedAmount.value ≤ o.grossAmount.value :=
  (h.consistent.1 o ho).2.2.1

lemma DbLawful.step (h : DbLawful db) {command : BillingCommand}
    (hstep : billingStep env db command = .ok db') : DbLawful db' := by
  obtain ⟨hcons, -, hback⟩ := step_evolves hstep
  refine ⟨hcons h.consistent, fun o' ho' => ?_⟩
  obtain hfresh | ⟨o, ho, htransition⟩ := hback o' ho'
  · exact .of_untouched hfresh
  · exact htransition.rowLawful (h.rows o ho)

lemma DbLawful.run (env : RatingEnv) (h : DbLawful db) (commands : List BillingCommand) :
    DbLawful (Run.run (billingStep env) db commands) :=
  invariant_run (fun _ _ _ hs hstep => hs.step hstep) commands h

/-- **Along a run** an obligation keeps its gross, its resolved amount grows, and a final state
stays. -/
theorem later_of_run (h : DbLawful db) (ho : o ∈ db.obligations.rows)
    (commands : List BillingCommand) :
    ∃ o' ∈ (Run.run (billingStep env) db commands).obligations.rows, Later o o' := by
  have hstep : ∀ s command s', (DbLawful s ∧ ∃ o' ∈ s.obligations.rows, Later o o') →
      billingStep env s command = .ok s' →
      DbLawful s' ∧ ∃ o' ∈ s'.obligations.rows, Later o o' := by
    rintro s command s' ⟨hs, o', ho', hlater⟩ hstep
    obtain ⟨o'', ho'', htransition⟩ := (step_evolves hstep).forward o' ho'
    exact ⟨hs.step hstep, o'', ho'', hlater.trans (htransition.later (hs.rows o' ho'))⟩
  exact (invariant_run hstep commands ⟨h, o, ho, .refl o⟩).2

/-- The commands resolve the obligation by amounts that the column can hold. -/
def OnScale (commands : List BillingCommand) (i : ℕ) : Prop :=
  ∀ command ∈ commands, ∀ amount, ResolvesBy command i amount → OnGrid 4 amount

/-- **Along a run** whose amounts the column can hold, a partly resolved obligation stays strictly
in between. -/
theorem accounted_of_run (h : OnlyScheduled db) (commands : List BillingCommand)
    (hscale : OnScale commands o.id)
    (ho : o ∈ (Run.run (billingStep env) db commands).obligations.rows) : Accounted o := by
  have hstep : ∀ s command s', (DbLawful s ∧ ∀ p ∈ s.obligations.rows, p.id = o.id → Accounted p) →
      (∀ amount, ResolvesBy command o.id amount → OnGrid 4 amount) →
      billingStep env s command = .ok s' →
      DbLawful s' ∧ ∀ p ∈ s'.obligations.rows, p.id = o.id → Accounted p := by
    rintro s command s' ⟨hs, haccounted⟩ hgrid hstep
    refine ⟨hs.step hstep, fun p' hp' hid => ?_⟩
    obtain hfresh | ⟨p, hp, htransition⟩ := (step_evolves hstep).backward p' hp'
    · exact .of_untouched hfresh
    · have hpid : p.id = o.id := (htransition.later (hs.rows p hp)).id.symm.trans hid
      exact htransition.accounted (haccounted p hp hpid) (hpid ▸ hgrid) (hs.rows p hp).nonneg
  have hguarded : Guarded (billingStep env)
      (fun _ command => ∀ amount, ResolvesBy command o.id amount → OnGrid 4 amount) db commands :=
    guarded_of_forall_mem commands db fun command hcommand _ => hscale command hcommand
  exact (invariant_guarded hstep commands db
    ⟨h.lawful, fun p hp _ => .of_untouched (h.untouched p hp)⟩ hguarded).2 o ho rfl

/-- A change of one obligation that the constraints of the table allow. -/
lemma DbLawful.consistent_update (h : DbLawful db) {f : BillingObligation → BillingObligation}
    (hf : ∀ p, Row.id (f p) = Row.id p) (hidentity : ∀ p, naturalIdentity (f p) = naturalIdentity p)
    (ho : o ∈ db.obligations.rows) (hwell : obligationWellFormed (f o)) :
    obligationsConsistent (db.obligations.update o.id f hf).rows := by
  refine ⟨fun p' hp' => ?_, ?_⟩
  · obtain ⟨hp', -⟩ | ⟨p, hp, hpo, rfl⟩ := Table.mem_update.mp hp'
    · exact h.consistent.1 p' hp'
    · obtain rfl := Table.eq_of_id_eq hp ho hpo
      exact hwell
  · have hsame : naturalIdentity ∘ (fun p => if Row.id p = o.id then f p else p)
        = naturalIdentity := by
      funext p
      simp only [Function.comp_apply]
      split_ifs
      · exact hidentity p
      · rfl
    show ((db.obligations.rows.map _).map naturalIdentity).Nodup
    rw [List.map_map, hsame]
    exact h.consistent.2

lemma mem_updated {f : BillingObligation → BillingObligation} (hf : ∀ p, Row.id (f p) = Row.id p)
    (ho : o ∈ db.obligations.rows) : f o ∈ (db.obligations.update o.id f hf).rows :=
  Table.mem_update.mpr (.inr ⟨o, ho, rfl, rfl⟩)

lemma locked_of_mem (ho : o ∈ db.obligations.rows) : locked db o.id = .ok o := by
  have hget : db.obligations.get? o.id = some o := Table.get?_eq_some.mpr ⟨ho, rfl⟩
  rw [locked, hget, orRefuse_some]

lemma open_accepted (env : RatingEnv) (h : DbLawful db) (ho : o ∈ db.obligations.rows)
    (hstate : o.state = .scheduled) :
    ∃ db', billingStep env db (.openObligation o.id none) = .ok db' ∧
      opened none o ∈ db'.obligations.rows := by
  have hcons := h.consistent_update (id_opened none) (fun _ => rfl) ho (h.consistent.1 o ho)
  refine ⟨{ db with obligations := db.obligations.update o.id (opened none) (id_opened none) },
    map_eq_ok.mpr ⟨(_, .open), ?_, rfl⟩, mem_updated (id_opened none) ho⟩
  rw [open_, locked_of_mem ho, ok_bind, if_neg (by rw [hstate]; nofun), ensure_of hstate, ok_bind,
    flushObligations, ensure_of hcons]
  rfl

lemma resolve_accepted (env : RatingEnv) (h : DbLawful db) (ho : o ∈ db.obligations.rows)
    (hstate : o.state = .open ∨ o.state = .partiallyResolved) (kind : ObligationResolutionKind)
    {amount : ℚ} (hpos : 0 < amount)
    (hroom : add o.resolvedAmount.value amount ≤ o.grossAmount.value) :
    ∃ db', billingStep env db (.resolve o.id kind amount none) = .ok db' ∧
      resolved kind (add o.resolvedAmount.value amount) none o ∈ db'.obligations.rows := by
  obtain ⟨hperiod, hsigns, -, hrating⟩ := h.consistent.1 o ho
  have hbounded : 0 ≤ quantize halfUp 4 (add o.resolvedAmount.value amount) ∧
      quantize halfUp 4 (add o.resolvedAmount.value amount) ≤ o.grossAmount.value := by
    refine ⟨quantize_nonneg (ctx_nonneg (by linarith [(h.rows o ho).nonneg])), ?_⟩
    exact (quantize_mono hroom).trans (quantize_of_onGrid o.grossAmount.onGrid).le
  have hcons := h.consistent_update (id_resolved kind _ none) (fun _ => rfl) ho
    (show obligationWellFormed (resolved kind (add o.resolvedAmount.value amount) none o) from
      ⟨hperiod, hsigns, hbounded, hrating⟩)
  let applied := add o.resolvedAmount.value amount
  let change := resolved kind applied none
  refine ⟨{ db with obligations := db.obligations.update o.id change (id_resolved kind _ none) },
    map_eq_ok.mpr ⟨(_, resolvedState kind applied o.grossAmount.value), ?_, rfl⟩,
    mem_updated (id_resolved kind _ none) ho⟩
  rw [Obligations.resolve, locked_of_mem ho, ok_bind, ensure_of hstate, ok_bind, ensure_of hpos,
    ok_bind]
  dsimp only
  rw [ensure_of hroom, ok_bind, flushObligations, ensure_of hcons]
  rfl

lemma exists_room (h : DbLawful db) (ho : o ∈ db.obligations.rows) (hgross : 0 < o.grossAmount.value) :
    ∃ amount, 0 < amount ∧ add o.resolvedAmount.value amount ≤ o.grossAmount.value := by
  obtain ⟨hnonneg, hle⟩ := h.bounded ho
  rcases hnonneg.eq_or_lt with hzero | hpos
  · -- the smallest amount of the column
    refine ⟨1 / 10 ^ 4, by norm_num, ?_⟩
    obtain ⟨n, hn⟩ := o.grossAmount.onGrid
    have hn1 : (1 : ℤ) ≤ n := by
      have : (0 : ℚ) < n := hn ▸ mul_pos hgross (by norm_num)
      exact_mod_cast this
    have hexact : ctx (1 / 10 ^ 4) = 1 / 10 ^ 4 :=
      ctx_eq_self (n := 1) (s := 4) (by norm_num) (by norm_num)
    have hn1' : (1 : ℚ) ≤ o.grossAmount.value * 10 ^ 4 := by
      rw [hn]
      exact_mod_cast hn1
    rw [add, ← hzero, zero_add, hexact]
    linarith
  · -- an amount below the digits of the sum
    obtain ⟨amount, hamount, hsum⟩ := exists_ctx_add_eq hpos (h.rows o ho).digits
    exact ⟨amount, hamount, hsum.le.trans hle⟩

/-- **An open obligation of something can be ended.** -/
lemma exists_end_of_open (env : RatingEnv) (h : DbLawful db) (ho : o ∈ db.obligations.rows)
    (hgross : 0 < o.grossAmount.value) (hstate : o.state = .open ∨ o.state = .partiallyResolved) :
    ∃ command db', billingStep env db command = .ok db' ∧
      ∃ o' ∈ db'.obligations.rows, o'.id = o.id ∧ Terminal o'.state := by
  obtain ⟨amount, hpos, hroom⟩ := exists_room h ho hgross
  obtain ⟨db', hok, hmem⟩ := resolve_accepted env h ho hstate .writeOff hpos hroom
  exact ⟨_, db', hok, _, hmem, rfl, .inr (.inr rfl)⟩

/-- **Every obligation of something can end.** -/
lemma exists_end (env : RatingEnv) (h : DbLawful db) (ho : o ∈ db.obligations.rows)
    (hgross : 0 < o.grossAmount.value) (hstate : ¬ Terminal o.state) :
    ∃ later db', List.foldlM (billingStep env) db later = .ok db' ∧
      ∃ o' ∈ db'.obligations.rows, o'.id = o.id ∧ Terminal o'.state := by
  have hopen : o.state = .scheduled ∨ o.state = .open ∨ o.state = .partiallyResolved := by
    cases hs : o.state <;> simp [Terminal, hs] at hstate ⊢
  obtain hs | hs := hopen
  · obtain ⟨db₁, hok₁, hmem⟩ := open_accepted env h ho hs
    obtain ⟨command, db₂, hok₂, hend⟩ := exists_end_of_open env (h.step hok₁) hmem hgross (.inl rfl)
    refine ⟨[.openObligation o.id none, command], db₂, ?_, hend⟩
    rw [List.foldlM_cons, hok₁, ok_bind, List.foldlM_cons, hok₂]
    rfl
  · obtain ⟨command, db₁, hok₁, hend⟩ := exists_end_of_open env h ho hgross hs
    refine ⟨[command], db₁, ?_, hend⟩
    rw [List.foldlM_cons, hok₁]
    rfl

/-- What resolving promises of a database: bounds, monotone amounts, final states, and an end for
every obligation of something. -/
structure Resolves (env : RatingEnv) (db : BillingDb) : Prop where
  bounded : ∀ o ∈ db.obligations.rows,
    0 ≤ o.resolvedAmount.value ∧ o.resolvedAmount.value ≤ o.grossAmount.value
  later : ∀ o ∈ db.obligations.rows, ∀ commands,
    ∃ o' ∈ (Run.run (billingStep env) db commands).obligations.rows, Later o o'
  ends : ∀ o ∈ db.obligations.rows, 0 < o.grossAmount.value → ¬ Terminal o.state →
    ∃ commands db', List.foldlM (billingStep env) db commands = .ok db' ∧
      ∃ o' ∈ db'.obligations.rows, o'.id = o.id ∧ Terminal o'.state

/-- **Resolution is monotone and can end.**  Along every run of commands, an obligation of something
that was neither written off nor canceled is resolved exactly when its amount is, and partially
resolved exactly in between, if the column could hold the amounts it was resolved by. -/
theorem resolves_of_run (h : OnlyScheduled db) (commands : List BillingCommand) :
    Resolves env (Run.run (billingStep env) db commands) ∧
      ∀ o ∈ (Run.run (billingStep env) db commands).obligations.rows, OnScale commands o.id →
        0 < o.grossAmount.value → o.state ≠ .writtenOff → o.state ≠ .canceled →
        (o.state = .resolved ↔ o.resolvedAmount.value = o.grossAmount.value) ∧
        (o.state = .partiallyResolved ↔
          0 < o.resolvedAmount.value ∧ o.resolvedAmount.value < o.grossAmount.value) := by
  have hlawful := h.lawful.run env commands
  refine ⟨⟨fun o => hlawful.bounded, fun o => later_of_run hlawful, fun o => exists_end env hlawful⟩,
    fun o ho hscale hgross hwritten hcanceled => ?_⟩
  have hrow := hlawful.rows o ho
  have haccounted := accounted_of_run h commands hscale ho
  have hzero := hrow.unresolved
  have hcomplete := hrow.complete
  match hs : o.state with
  | .scheduled => simp [hzero (.inl hs), hgross.ne]
  | .open => simp [hzero (.inr hs), hgross.ne]
  | .partiallyResolved =>
    obtain ⟨hpos, hlt⟩ := haccounted hs
    simp [hpos, hlt, hlt.ne]
  | .resolved => simp [hcomplete hs]
  | .canceled => exact absurd hs hcanceled
  | .writtenOff => exact absurd hs hwritten

/-- **An obligation of nothing never ends**: there is no positive amount to resolve it by. -/
theorem zero_gross_never_ends (h : DbLawful db) (ho : o ∈ db.obligations.rows)
    (hzero : o.grossAmount.value = 0) (hstate : o.state = .scheduled ∨ o.state = .open)
    (commands : List BillingCommand) :
    ∀ o' ∈ (Run.run (billingStep env) db commands).obligations.rows, o'.id = o.id →
      ¬ Terminal o'.state := by
  have hstep : ∀ s command s', (DbLawful s ∧ ∃ p ∈ s.obligations.rows, p.id = o.id ∧
        p.grossAmount.value = 0 ∧ (p.state = .scheduled ∨ p.state = .open)) →
      billingStep env s command = .ok s' →
      DbLawful s' ∧ ∃ p ∈ s'.obligations.rows, p.id = o.id ∧
        p.grossAmount.value = 0 ∧ (p.state = .scheduled ∨ p.state = .open) := by
    rintro s command s' ⟨hs, p, hp, hid, hgross, hp'⟩ hstep
    refine ⟨hs.step hstep, ?_⟩
    obtain ⟨q, hq, htransition⟩ := (step_evolves hstep).forward p hp
    cases htransition with
    | stays => exact ⟨p, hq, hid, hgross, hp'⟩
    | opens openedAt _ => exact ⟨_, hq, hid, hgross, .inr rfl⟩
    | resolves kind resolvedAt _ _ hpos hroom =>
      rw [(hs.rows p hp).unresolved hp', hgross, add, zero_add] at hroom
      exact absurd (ctx_pos hpos) (not_lt.mpr hroom)
  obtain ⟨-, p, hp, hid, -, hp'⟩ := invariant_run hstep commands ⟨h, o, ho, rfl, hzero, hstate⟩
  intro o' ho' hid'
  obtain rfl := Table.eq_of_id_eq ho' hp (hid'.trans hid.symm)
  obtain hp' | hp' := hp' <;> rw [hp'] <;> decide

end Runs

/-! ## Ends that are no resolution

A monthly line of 100 is opened and then written off in full, or resolved up to less than the
column can tell from the gross; a free line is opened and stays so.
-/

def openedFirst (version : RecordContractVersionCommand) : List BillingCommand := [
  .record version ⟨"Sold", "first"⟩,
  .schedule { contractVersionId := 0, contractLineKey := 0, periodIndex := 0 } ⟨"", "charge"⟩,
  .openObligation 0 none]

def freeVersion : RecordContractVersionCommand :=
  { monthlyVersion (utcMidnight 2026 1 1) with
    contractedPrice := 0
    lines := [{
      chargeComponent := .recurringService, description := "Internet", unitPrice := 0,
      currency := "NGN", accountingTreatment := .receivable }] }

lemma onlyScheduled_noContracts : OnlyScheduled noContracts :=
  ⟨⟨fun _ ho => absurd ho List.not_mem_nil, List.nodup_nil⟩,
    fun _ ho => absurd ho List.not_mem_nil⟩

/-- Settled in part. -/
theorem resolves_of_partial_settlement :
    (∃ o ∈ (run (billingStep utcRating) noContracts
      (openedFirst (monthlyVersion (utcMidnight 2026 1 1)) ++
        [.resolve 0 .settlement 40 none])).obligations.rows, o.state = .partiallyResolved) ∧
    Resolves utcRating (run (billingStep utcRating) noContracts
      (openedFirst (monthlyVersion (utcMidnight 2026 1 1)) ++ [.resolve 0 .settlement 40 none])) :=
  ⟨by decide +kernel, (resolves_of_run onlyScheduled_noContracts _).1⟩

/-- **The exceptions**: an obligation written off in full has its gross as the resolved amount, so
has one that is only partially resolved, and an open obligation of nothing never ends. -/
theorem resolution_exceptions :
    (∃ o ∈ (run (billingStep utcRating) noContracts
      (openedFirst (monthlyVersion (utcMidnight 2026 1 1)) ++
        [.resolve 0 .writeOff 100 none])).obligations.rows,
      o.resolvedAmount.value = o.grossAmount.value ∧ o.state = .writtenOff) ∧
    (∃ o ∈ (run (billingStep utcRating) noContracts
      (openedFirst (monthlyVersion (utcMidnight 2026 1 1)) ++
        [.resolve 0 .settlement (9999999 / 100000) none])).obligations.rows,
      o.resolvedAmount.value = o.grossAmount.value ∧ o.state = .partiallyResolved) ∧
    ∃ o ∈ (run (billingStep utcRating) noContracts (openedFirst freeVersion)).obligations.rows,
      o.state = .open ∧ ∀ commands, ∀ o' ∈ (run (billingStep utcRating)
        (run (billingStep utcRating) noContracts (openedFirst freeVersion))
        commands).obligations.rows, o'.id = o.id → ¬ Terminal o'.state := by
  refine ⟨by decide +kernel, by decide +kernel, ?_⟩
  have hopen : ∃ o ∈ (run (billingStep utcRating) noContracts
      (openedFirst freeVersion)).obligations.rows,
      o.state = .open ∧ o.grossAmount.value = 0 := by
    decide +kernel
  obtain ⟨o, ho, hstate, hzero⟩ := hopen
  exact ⟨o, ho, hstate, zero_gross_never_ends (onlyScheduled_noContracts.lawful.run _ _) ho hzero
    (.inr hstate)⟩

end Obligations

end DotmacSub
