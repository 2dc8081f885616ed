import DotmacSub.Core.Run
import DotmacSub.Models.Runtime

/-!
# The life of a durable timer

`runtime_durable_timers`: owners schedule and cancel timers inside their own commands, and the
runtime fires the due ones and emits a trigger event for each.
-/

namespace DotmacSub.DurableTimers

open Store Checked

/-- One owner's entity and purpose. -/
structure TimerKey where
  owner : String
  entityKind : String
  entityId : ℕ
  purpose : String
deriving DecidableEq

def key (timer : DurableTimer) : TimerKey :=
  ⟨timer.owner, timer.entityKind, timer.entityId, timer.purpose⟩

def keyOf (command : ScheduleTimerCommand) : TimerKey :=
  ⟨command.owner, command.entityKind, command.entityId, command.purpose⟩

/-- The trigger event of a fired timer; `firedAt` and the identifier are kept on the timer too. -/
structure TriggerEvent where
  eventId : ℕ
  firedAt : ℤ
  trigger : String
  timerId : ℕ
  timerOwner : String
  entityKind : String
  entityId : ℕ
  purpose : String
  generation : ℕ
  expectedSourceVersion : ℕ
  dueAt : ℤ
deriving DecidableEq

instance : Row TriggerEvent := ⟨TriggerEvent.eventId⟩

def triggerOf (now : ℤ) (timer : DurableTimer) (eventId : ℕ) : TriggerEvent where
  eventId := eventId
  firedAt := now
  trigger := timer.outputEventType
  timerId := timer.id
  timerOwner := timer.owner
  entityKind := timer.entityKind
  entityId := timer.entityId
  purpose := timer.purpose
  generation := timer.generation
  expectedSourceVersion := timer.expectedSourceVersion
  dueAt := timer.dueAt

structure TimerDb where
  timers : Table DurableTimer
  events : Table TriggerEvent

/-- Timers are staged only inside the owning transition's command. -/
def requireParticipant (active : Bool) (action : String) : Except DomainError Unit :=
  ensure active ⟨"runtime.durable_timers.timer_requires_owner_command",
    "Timers are staged only inside the owning transition's command.", [("action", .text action)]⟩

def currentTimer (timers : Table DurableTimer) (k : TimerKey) : Option DurableTimer :=
  timers.rows.find? fun t => key t = k ∧ t.status = .scheduled

/-- Cancel the timer of a key that waits. -/
def cancelTimer (timers : Table DurableTimer) (k : TimerKey) : Table DurableTimer × Bool :=
  match currentTimer timers k with
  | none => (timers, false)
  | some current =>
    (timers.update current.id (fun t => { t with status := .canceled }) fun _ => rfl, true)

/-- The timers of one bounded due scan; those due at the same instant come in any order. -/
def dueScan (timers : Table DurableTimer) (now : ℤ) (batchLimit : ℕ) (rank : DurableTimer → ℕ) :
    List DurableTimer :=
  ((timers.rows.filter fun t => t.status = .scheduled ∧ t.dueAt ≤ now).insertionSort
    fun a b => a.dueAt < b.dueAt ∨ (a.dueAt = b.dueAt ∧ rank a ≤ rank b)).take batchLimit

/-- Emit the trigger event of a timer and mark it fired. -/
def fireTimer (now : ℤ) (db : TimerDb) (timer : DurableTimer) : TimerDb where
  timers := db.timers.update timer.id (fun t => { t with status := .fired }) fun _ => rfl
  events := db.events.insert (triggerOf now timer) fun _ => rfl

/-- Fire the due timers of one batch. -/
def fireDueTimers (db : TimerDb) (now : ℤ) (batchLimit : ℕ) (rank : DurableTimer → ℕ) : TimerDb :=
  (dueScan db.timers now batchLimit rank).foldl (fireTimer now) db

inductive TimerCommand
  | schedule (active : Bool) (command : ScheduleTimerCommand)
  | cancel (active : Bool) (k : TimerKey)
  | fire (now : ℤ) (batchLimit : ℕ) (rank : DurableTimer → ℕ)

def step (db : TimerDb) : TimerCommand → Except DomainError TimerDb
  | .schedule active command => do
    requireParticipant active "schedule"
    let (timers, _) ← scheduleTimer db.timers command
    return { db with timers }
  | .cancel active k => do
    requireParticipant active "cancel"
    return { db with timers := (cancelTimer db.timers k).1 }
  | .fire now batchLimit rank => .ok (fireDueTimers db now batchLimit rank)

def generations (timers : Table DurableTimer) (k : TimerKey) : List ℕ :=
  (timers.rows.filter (key · = k)).map DurableTimer.generation

/-- Generations are counted without gaps, and only the newest one may be scheduled. -/
structure Generational (timers : Table DurableTimer) : Prop where
  gapless : ∀ k, generations timers k = List.range' 1 (generations timers k).length
  newest : ∀ t ∈ timers.rows, t.status = .scheduled →
    ∀ u ∈ timers.rows, key u = key t → u.generation ≤ t.generation

/-- Every fired timer has one event, which says what the timer is, and no other timer has any. -/
structure Traced (db : TimerDb) : Prop where
  once : (db.events.rows.map TriggerEvent.timerId).Nodup
  fired : ∀ t ∈ db.timers.rows, t.status = .fired →
    ∃ e ∈ db.events.rows, e = triggerOf e.firedAt t e.eventId ∧ t.dueAt ≤ e.firedAt
  traced : ∀ e ∈ db.events.rows, ∃ t ∈ db.timers.rows,
    e = triggerOf e.firedAt t e.eventId ∧ t.status = .fired

def TimerDb.empty : TimerDb := ⟨.empty, .empty⟩

section Generations

variable {timers : Table DurableTimer} {k : TimerKey} {f : DurableTimer → DurableTimer}
  {command : ScheduleTimerCommand}

lemma matches_iff {t : DurableTimer} : command.matches t ↔ key t = keyOf command := by
  simp [ScheduleTimerCommand.matches, key, keyOf]

lemma mem_generations {t : DurableTimer} (ht : t ∈ timers.rows) :
    t.generation ∈ generations timers (key t) :=
  List.mem_map_of_mem (List.mem_filter.mpr ⟨ht, decide_eq_true rfl⟩)

lemma foldl_max_range' : ∀ n : ℕ, (List.range' 1 n).foldl max 0 = n
  | 0 => rfl
  | n + 1 => by
    rw [List.range'_1_concat, List.foldl_append, foldl_max_range' n]
    simp [Nat.add_comm]

lemma latestGeneration_eq (h : Generational timers) :
    latestGeneration timers command = (generations timers (keyOf command)).length := by
  have hrows : latestGeneration timers command =
      (generations timers (keyOf command)).foldl max 0 := by
    simp only [latestGeneration, generations, matches_iff]
  rw [hrows, h.gapless, foldl_max_range', List.length_range']

lemma generation_le (h : Generational timers) {t : DurableTimer} (ht : t ∈ timers.rows) :
    t.generation ≤ (generations timers (key t)).length := by
  have hmem := mem_generations ht
  rw [h.gapless, List.mem_range'_1] at hmem
  omega

lemma generation_of_scheduled (h : Generational timers) {t : DurableTimer} (ht : t ∈ timers.rows)
    (hstatus : t.status = .scheduled) : t.generation = (generations timers (key t)).length := by
  have hmem := mem_generations ht
  have hlast : (generations timers (key t)).length ∈ generations timers (key t) := by
    have hpos : 0 < (generations timers (key t)).length := List.length_pos_of_mem hmem
    rw [h.gapless, List.mem_range'_1, List.length_range']
    omega
  obtain ⟨u, hu, hgeneration⟩ := List.mem_map.mp hlast
  obtain ⟨hu, hkey⟩ := List.mem_filter.mp hu
  have hnewest := h.newest t ht hstatus u hu (of_decide_eq_true hkey)
  exact le_antisymm (generation_le h ht) (hgeneration ▸ hnewest)

lemma eq_of_generation (h : Generational timers) {t u : DurableTimer} (ht : t ∈ timers.rows)
    (hu : u ∈ timers.rows) (hkey : key t = key u) (hgeneration : t.generation = u.generation) :
    t = u := by
  have hnodup : (generations timers (key u)).Nodup := by
    rw [h.gapless]
    exact List.nodup_range'
  exact List.inj_on_of_nodup_map hnodup (List.mem_filter.mpr ⟨ht, decide_eq_true hkey⟩)
    (List.mem_filter.mpr ⟨hu, decide_eq_true rfl⟩) hgeneration

lemma eq_of_scheduled (h : Generational timers) {t u : DurableTimer} (ht : t ∈ timers.rows)
    (hu : u ∈ timers.rows) (hkey : key t = key u) (htStatus : t.status = .scheduled)
    (huStatus : u.status = .scheduled) : t = u := by
  refine eq_of_generation h ht hu hkey ?_
  rw [generation_of_scheduled h ht htStatus, generation_of_scheduled h hu huStatus, hkey]

lemma Generational.map (h : Generational timers) {hid : ∀ t, Row.id (f t) = Row.id t}
    (hkey : ∀ t, key (f t) = key t) (hgeneration : ∀ t, (f t).generation = t.generation)
    (hstatus : ∀ t ∈ timers.rows, (f t).status = .scheduled → t.status = .scheduled) :
    Generational (timers.map f hid) := by
  have hkept : ∀ k, generations (timers.map f hid) k = generations timers k := by
    intro k
    simp only [generations, Table.map, List.filter_map, List.map_map, Function.comp_def, hkey,
      hgeneration]
  refine ⟨fun k => hkept k ▸ h.gapless k, ?_⟩
  intro t ht htStatus u hu hkeys
  obtain ⟨t, ht', rfl⟩ := Table.mem_map.mp ht
  obtain ⟨u, hu', rfl⟩ := Table.mem_map.mp hu
  rw [hkey, hkey] at hkeys
  rw [hgeneration, hgeneration]
  exact h.newest t ht' (hstatus t ht' htStatus) u hu' hkeys

lemma Generational.insert (h : Generational timers) {g : ℕ → DurableTimer}
    (hid : ∀ i, Row.id (g i) = i) {k : TimerKey} (hkey : key (g timers.next) = k)
    (hnone : ∀ t ∈ timers.rows, key t = k → t.status ≠ .scheduled)
    (hgeneration : (g timers.next).generation = (generations timers k).length + 1) :
    Generational (timers.insert g hid) := by
  have hrows : ∀ k', generations (timers.insert g hid) k' = generations timers k' ++
      if k = k' then [(generations timers k).length + 1] else [] := by
    intro k'
    by_cases hk : k = k'
    · simp [generations, Table.insert, hkey, hk, hgeneration]
    · simp [generations, Table.insert, hkey, hk]
  refine ⟨fun k' => ?_, ?_⟩
  · rw [hrows]
    split_ifs with hk
    · subst hk
      rw [List.length_append, List.length_singleton, List.range'_1_concat, ← h.gapless,
        Nat.add_comm 1]
    · rw [List.append_nil]
      exact h.gapless k'
  · intro t ht hstatus u hu hkeys
    rcases Table.mem_insert.mp ht with ht | rfl
    · rcases Table.mem_insert.mp hu with hu | rfl
      · exact h.newest t ht hstatus u hu hkeys
      · exact absurd hstatus (hnone t ht (hkeys.symm.trans hkey))
    · rcases Table.mem_insert.mp hu with hu | rfl
      · have hle := generation_le h hu
        rw [hkeys, hkey] at hle
        omega
      · exact le_rfl

end Generations

def settle (chosen : DurableTimer → Bool) (status : TimerStatus) (t : DurableTimer) : DurableTimer :=
  if chosen t then { t with status } else t

section Settle

variable {timers : Table DurableTimer} {db : TimerDb} {chosen : DurableTimer → Bool}
  {status : TimerStatus} {t : DurableTimer}

lemma settle_id : Row.id (settle chosen status t) = Row.id t := by
  unfold settle
  split_ifs <;> rfl

lemma settle_key : key (settle chosen status t) = key t := by
  unfold settle
  split_ifs <;> rfl

lemma settle_generation : (settle chosen status t).generation = t.generation := by
  unfold settle
  split_ifs <;> rfl

lemma settle_dueAt : (settle chosen status t).dueAt = t.dueAt := by
  unfold settle
  split_ifs <;> rfl

lemma triggerOf_settle {now : ℤ} {eventId : ℕ} :
    triggerOf now (settle chosen status t) eventId = triggerOf now t eventId := by
  unfold settle
  split_ifs <;> rfl

lemma settle_of_not (h : chosen t = false) : settle chosen status t = t := by
  rw [settle, h, if_neg Bool.false_ne_true]

lemma status_of_settle_scheduled (hstatus : status ≠ .scheduled)
    (h : (settle chosen status t).status = .scheduled) : t.status = .scheduled := by
  unfold settle at h
  split_ifs at h with hchosen
  · exact absurd h hstatus
  · exact h

lemma Generational.settled (h : Generational timers) (hstatus : status ≠ .scheduled) :
    Generational (timers.map (settle chosen status) fun _ => settle_id) :=
  h.map (fun _ => settle_key) (fun _ => settle_generation)
    fun _ _ => status_of_settle_scheduled hstatus

lemma mem_settle (hchosen : ∀ t ∈ timers.rows, chosen t = true → t.status = .scheduled)
    (ht : t ∈ timers.rows) (hstatus : t.status ≠ .scheduled) :
    t ∈ (timers.map (settle chosen status) fun _ => settle_id).rows := by
  refine Table.mem_map.mpr ⟨t, ht, settle_of_not ?_⟩
  rw [← Bool.not_eq_true]
  exact fun h => hstatus (hchosen t ht h)

lemma Traced.settled (h : Traced db)
    (hchosen : ∀ t ∈ db.timers.rows, chosen t = true → t.status = .scheduled)
    (hstatus : status ≠ .fired) :
    Traced { db with timers := db.timers.map (settle chosen status) fun _ => settle_id } := by
  refine ⟨h.once, ?_, ?_⟩
  · intro t ht hfired
    obtain ⟨u, hu, rfl⟩ := List.mem_map.mp ht
    have hkept : settle chosen status u = u := by
      by_contra hne
      unfold settle at hfired hne
      split_ifs at hfired hne
      · exact hstatus hfired
      · exact hne rfl
    rw [hkept] at hfired ⊢
    exact h.fired u hu hfired
  · intro e he
    obtain ⟨t, ht, htrigger, hfired⟩ := h.traced e he
    exact ⟨t, mem_settle hchosen ht (by rw [hfired]; decide), htrigger, hfired⟩

end Settle

section Commands

variable {timers timers' : Table DurableTimer} {command : ScheduleTimerCommand} {t : DurableTimer}
  {now : ℤ}

lemma scheduleTimer_eq (h : Generational timers)
    (hok : scheduleTimer timers command = .ok (timers', t)) :
    ∃ (g : ℕ → DurableTimer) (hid : ∀ i, Row.id (g i) = i),
      timers' = ((timers.map (settle (fun u => key u = keyOf command ∧ u.status = .scheduled)
        .superseded) fun _ => settle_id).insert g hid) ∧
      ∀ i, key (g i) = keyOf command ∧ (g i).status = .scheduled ∧
        (g i).generation = (generations timers (keyOf command)).length + 1 := by
  unfold scheduleTimer at hok
  simp only [bind_eq_ok, pure_eq_ok, Prod.mk.injEq] at hok
  obtain ⟨-, -, rfl, -⟩ := hok
  refine ⟨fun id => ⟨id, command.owner, command.entityKind, command.entityId, command.purpose,
    latestGeneration timers command + 1, command.dueAt, command.expectedSourceVersion,
    command.outputEventType, .scheduled⟩, fun _ => rfl, ?_, fun i => ⟨rfl, rfl, ?_⟩⟩
  · congr 1
    refine Table.ext_rows (List.map_congr_left fun u hu => ?_) rfl
    have hnewest : key u = keyOf command → u.status = .scheduled →
        u.generation + 1 = latestGeneration timers command + 1 := by
      intro hkey hstatus
      rw [latestGeneration_eq h, generation_of_scheduled h hu hstatus, hkey]
    simp only [settle, matches_iff, decide_eq_true_eq]
    refine if_congr ?_ rfl rfl
    constructor
    · rintro ⟨hkey, -, hstatus⟩
      exact ⟨hkey, hstatus⟩
    · rintro ⟨hkey, hstatus⟩
      exact ⟨hkey, hnewest hkey hstatus, hstatus⟩
  · exact congrArg (· + 1) (latestGeneration_eq h)

/-- What a command may do: keep the laws, and leave alone what has left the schedule. -/
structure Keeps (db db' : TimerDb) : Prop where
  generational : Generational db'.timers
  traced : Traced db'
  settled : ∀ t ∈ db.timers.rows, t.status ≠ .scheduled → t ∈ db'.timers.rows
  remembered : ∀ e ∈ db.events.rows, e ∈ db'.events.rows

lemma Keeps.refl {db : TimerDb} (h : Generational db.timers) (htraced : Traced db) : Keeps db db :=
  ⟨h, htraced, fun _ ht _ => ht, fun _ he => he⟩

lemma Keeps.trans {db₁ db₂ db₃ : TimerDb} (h : Keeps db₁ db₂) (h' : Keeps db₂ db₃) :
    Keeps db₁ db₃ :=
  ⟨h'.generational, h'.traced, fun t ht hstatus => h'.settled t (h.settled t ht hstatus) hstatus,
    fun e he => h'.remembered e (h.remembered e he)⟩

lemma Traced.insert {db : TimerDb} (h : Traced db) {g : ℕ → DurableTimer}
    (hid : ∀ i, Row.id (g i) = i) (hstatus : ∀ i, (g i).status = .scheduled) :
    Traced { db with timers := db.timers.insert g hid } := by
  refine ⟨h.once, ?_, ?_⟩
  · intro t ht hfired
    rcases (Table.mem_insert (h := hid)).mp ht with ht | rfl
    · exact h.fired t ht hfired
    · rw [hstatus] at hfired
      exact absurd hfired (by decide)
  · intro e he
    obtain ⟨t, ht, htrace⟩ := h.traced e he
    exact ⟨t, (Table.mem_insert (h := hid)).mpr (.inl ht), htrace⟩

lemma keeps_schedule {db : TimerDb} (h : Generational db.timers) (htraced : Traced db)
    (hok : scheduleTimer db.timers command = .ok (timers', t)) :
    Keeps db { db with timers := timers' } := by
  obtain ⟨g, hid, rfl, hg⟩ := scheduleTimer_eq h hok
  have hchosen : ∀ u ∈ db.timers.rows,
      decide (key u = keyOf command ∧ u.status = .scheduled) = true → u.status = .scheduled :=
    fun u _ hu => (of_decide_eq_true hu).2
  refine ⟨?_, (htraced.settled hchosen (by decide)).insert hid fun i => (hg i).2.1, ?_,
    fun _ he => he⟩
  · refine (h.settled (by decide)).insert hid (hg _).1 ?_ ?_
    · intro u hu hkey hstatus
      obtain ⟨u, hu', rfl⟩ := Table.mem_map.mp hu
      rw [settle_key] at hkey
      have hscheduled := status_of_settle_scheduled (by decide) hstatus
      rw [settle, if_pos (decide_eq_true ⟨hkey, hscheduled⟩)] at hstatus
      exact TimerStatus.noConfusion hstatus
    · have hkept : generations (db.timers.map
          (settle (fun u => key u = keyOf command ∧ u.status = .scheduled) .superseded)
          fun _ => settle_id) (keyOf command) = generations db.timers (keyOf command) := by
        simp only [generations, Table.map, List.filter_map, List.map_map, Function.comp_def,
          settle_key, settle_generation]
      rw [(hg _).2.2, hkept]
  · intro u hu hstatus
    exact (Table.mem_insert (h := hid)).mpr (.inl (mem_settle hchosen hu hstatus))

/-- Cancelling takes the current timer off the schedule. -/
lemma keeps_cancel {db : TimerDb} (h : Generational db.timers) (htraced : Traced db) (k : TimerKey) :
    Keeps db { db with timers := (cancelTimer db.timers k).1 } := by
  unfold cancelTimer
  cases hcurrent : currentTimer db.timers k with
  | none => exact .refl h htraced
  | some current =>
    have hfound := List.find?_some hcurrent
    obtain ⟨-, hscheduled⟩ := of_decide_eq_true hfound
    have hmem : current ∈ db.timers.rows := List.mem_of_find?_eq_some hcurrent
    have hupdate : db.timers.update current.id (fun t => { t with status := .canceled })
        (fun _ => rfl) = db.timers.map (settle (fun t => Row.id t = current.id) .canceled)
          fun _ => settle_id :=
      Table.ext_rows (List.map_congr_left fun u _ => by simp only [settle, decide_eq_true_eq]) rfl
    have hchosen : ∀ t ∈ db.timers.rows, decide (Row.id t = current.id) = true →
        t.status = .scheduled := by
      intro t ht hid
      rw [Table.eq_of_id_eq ht hmem (of_decide_eq_true hid)]
      exact hscheduled
    simp only [hupdate]
    exact ⟨h.settled (by decide), htraced.settled hchosen (by decide),
      fun t ht hstatus => mem_settle hchosen ht hstatus, fun _ he => he⟩

lemma keeps_fireTimer {db : TimerDb} (h : Generational db.timers) (htraced : Traced db)
    (ht : t ∈ db.timers.rows) (hstatus : t.status = .scheduled) (hdue : t.dueAt ≤ now) :
    Keeps db (fireTimer now db t) := by
  have hupdate : (fireTimer now db t).timers =
      db.timers.map (settle (fun u => Row.id u = t.id) .fired) fun _ => settle_id :=
    Table.ext_rows (List.map_congr_left fun u _ => by simp only [settle, decide_eq_true_eq]) rfl
  have hchosen : ∀ u ∈ db.timers.rows, decide (Row.id u = t.id) = true →
      u.status = .scheduled := by
    intro u hu hid
    rw [Table.eq_of_id_eq hu ht (of_decide_eq_true hid)]
    exact hstatus
  have hkept : ∀ u ∈ db.timers.rows, u.status ≠ .scheduled →
      u ∈ (fireTimer now db t).timers.rows := by
    intro u hu huStatus
    rw [hupdate]
    exact mem_settle hchosen hu huStatus
  have hfired : { t with status := .fired } ∈ (fireTimer now db t).timers.rows := by
    rw [hupdate]
    have hself : decide (Row.id t = t.id) = true := decide_eq_true rfl
    refine Table.mem_map.mpr ⟨t, ht, ?_⟩
    rw [settle, if_pos hself]
  have hgenerational : Generational (fireTimer now db t).timers := by
    rw [hupdate]
    exact h.settled (by decide)
  refine ⟨hgenerational, ⟨?_, ?_, ?_⟩, hkept, fun e he => List.mem_append_left _ he⟩
  · -- no event names the timer yet, as a timer with an event is fired
    simp only [fireTimer, Table.insert, List.map_append, List.map_singleton, List.nodup_append,
      List.nodup_singleton, true_and, List.mem_singleton, forall_eq]
    refine ⟨htraced.once, fun i hi hsame => ?_⟩
    obtain ⟨e, he, rfl⟩ := List.mem_map.mp hi
    obtain ⟨u, hu, htrigger, huStatus⟩ := htraced.traced e he
    rw [htrigger] at hsame
    rw [Table.eq_of_id_eq hu ht hsame, hstatus] at huStatus
    exact absurd huStatus (by decide)
  · intro u hu huStatus
    rw [hupdate] at hu
    obtain ⟨u, hu', rfl⟩ := Table.mem_map.mp hu
    by_cases hid : Row.id u = t.id
    · refine ⟨triggerOf now t db.events.next,
        List.mem_append_right _ (List.mem_singleton_self _), ?_, ?_⟩
      · rw [triggerOf_settle, Table.eq_of_id_eq hu' ht hid]
        rfl
      · rw [settle_dueAt, Table.eq_of_id_eq hu' ht hid]
        exact hdue
    · have hsame : settle (fun u => Row.id u = t.id) .fired u = u :=
        settle_of_not (decide_eq_false hid)
      rw [hsame] at huStatus ⊢
      obtain ⟨e, he, htrace⟩ := htraced.fired u hu' huStatus
      exact ⟨e, List.mem_append_left _ he, htrace⟩
  · intro e he
    rcases List.mem_append.mp he with he | he
    · obtain ⟨u, hu, htrigger, huStatus⟩ := htraced.traced e he
      exact ⟨u, hkept u hu (by rw [huStatus]; decide), htrigger, huStatus⟩
    · rw [List.mem_singleton.mp he]
      exact ⟨_, hfired, rfl, rfl⟩

lemma mem_dueScan {batchLimit : ℕ} {rank : DurableTimer → ℕ}
    (ht : t ∈ dueScan timers now batchLimit rank) :
    t ∈ timers.rows ∧ t.status = .scheduled ∧ t.dueAt ≤ now := by
  have hsorted := List.mem_of_mem_take ht
  rw [List.mem_insertionSort, List.mem_filter] at hsorted
  exact ⟨hsorted.1, of_decide_eq_true hsorted.2⟩

lemma nodup_dueScan {batchLimit : ℕ} {rank : DurableTimer → ℕ} :
    (dueScan timers now batchLimit rank).Nodup := by
  have hrows : timers.rows.Nodup := .of_map Row.id timers.nodup
  refine .sublist (List.take_sublist _ _) ?_
  exact (List.perm_insertionSort _ _).nodup_iff.mpr (hrows.filter _)

lemma mem_fireTimer {db : TimerDb} {u : DurableTimer} :
    u ∈ (fireTimer now db t).timers.rows ↔ (u ∈ db.timers.rows ∧ Row.id u ≠ t.id) ∨
      ∃ r ∈ db.timers.rows, Row.id r = t.id ∧ { r with status := .fired } = u :=
  Table.mem_update (g := fun r : DurableTimer => { r with status := .fired }) (h := fun _ => rfl)

lemma keeps_fire : ∀ (due : List DurableTimer) {db : TimerDb},
    Generational db.timers → Traced db → due.Nodup →
    (∀ t ∈ due, t ∈ db.timers.rows ∧ t.status = .scheduled ∧ t.dueAt ≤ now) →
    Keeps db (due.foldl (fireTimer now) db)
  | [], _, h, htraced, _, _ => .refl h htraced
  | t :: due, db, h, htraced, hnodup, hdue => by
    obtain ⟨ht, hstatus, hnow⟩ := hdue t List.mem_cons_self
    have hfirst : Keeps db (fireTimer now db t) := keeps_fireTimer h htraced ht hstatus hnow
    refine hfirst.trans (keeps_fire due hfirst.generational hfirst.traced hnodup.of_cons ?_)
    intro u hu
    obtain ⟨hmem, huDue⟩ := hdue u (List.mem_cons_of_mem _ hu)
    have hne : Row.id u ≠ t.id := by
      intro hid
      rw [Table.eq_of_id_eq hmem ht hid] at hu
      exact (List.nodup_cons.mp hnodup).1 hu
    exact ⟨mem_fireTimer.mpr (.inl ⟨hmem, hne⟩), huDue⟩

lemma mem_fire {u : DurableTimer} : ∀ (due : List DurableTimer) {db : TimerDb},
    u ∈ (due.foldl (fireTimer now) db).timers.rows →
    u ∈ db.timers.rows ∨
      ∃ t ∈ due, ∃ r ∈ db.timers.rows, Row.id r = t.id ∧ u = { r with status := .fired }
  | [], _, hu => .inl hu
  | t :: due, db, hu => by
    rcases mem_fire due hu with hu | ⟨v, hv, r, hr, hid, rfl⟩
    · rcases mem_fireTimer.mp hu with ⟨hu, -⟩ | ⟨r, hr, hid, rfl⟩
      · exact .inl hu
      · exact .inr ⟨t, List.mem_cons_self, r, hr, hid, rfl⟩
    · rcases mem_fireTimer.mp hr with ⟨hr, -⟩ | ⟨s, hs, -, rfl⟩
      · exact .inr ⟨v, List.mem_cons_of_mem _ hv, r, hr, hid, rfl⟩
      · exact .inr ⟨v, List.mem_cons_of_mem _ hv, s, hs, hid, rfl⟩

lemma mem_fire_events {e : TriggerEvent} : ∀ (due : List DurableTimer) {db : TimerDb},
    e ∈ (due.foldl (fireTimer now) db).events.rows → e ∈ db.events.rows ∨ e.firedAt = now
  | [], _, he => .inl he
  | t :: due, db, he => by
    rcases mem_fire_events due he with he | he
    · rcases List.mem_append.mp he with he | he
      · exact .inl he
      · rw [List.mem_singleton.mp he]
        exact .inr rfl
    · exact .inr he

end Commands

/-- The command fires the timer, which is due and the newest generation of its key. -/
def Fires (db : TimerDb) (c : TimerCommand) (t : DurableTimer) : Prop :=
  ∃ now batchLimit rank, c = .fire now batchLimit rank ∧
    { t with status := .scheduled } ∈ db.timers.rows ∧ t.dueAt ≤ now ∧
    ∀ u ∈ db.timers.rows, key u = key t → u.generation ≤ t.generation

variable {db db' : TimerDb} {c : TimerCommand} {t : DurableTimer}

lemma keeps_step (h : Generational db.timers) (htraced : Traced db) (hok : step db c = .ok db') :
    Keeps db db' := by
  cases c with
  | schedule active command =>
    simp only [step, bind_eq_ok, pure_eq_ok] at hok
    obtain ⟨-, -, ⟨timers, timer⟩, hschedule, rfl⟩ := hok
    exact keeps_schedule h htraced hschedule
  | cancel active k =>
    simp only [step, bind_eq_ok, pure_eq_ok] at hok
    obtain ⟨-, -, rfl⟩ := hok
    exact keeps_cancel h htraced k
  | fire now batchLimit rank =>
    obtain rfl := Except.ok.inj hok
    exact keeps_fire _ h htraced nodup_dueScan fun _ => mem_dueScan

lemma status_of_settle_fired {chosen : DurableTimer → Bool} {status : TimerStatus}
    (hstatus : status ≠ .fired) (h : (settle chosen status t).status = .fired) :
    settle chosen status t = t := by
  unfold settle at h ⊢
  split_ifs at h ⊢
  · exact absurd h hstatus
  · rfl

lemma fires_of_step (h : Generational db.timers) (hok : step db c = .ok db')
    (ht : t ∈ db'.timers.rows) (hfired : t.status = .fired) : t ∈ db.timers.rows ∨ Fires db c t := by
  cases c with
  | schedule active command =>
    simp only [step, bind_eq_ok, pure_eq_ok] at hok
    obtain ⟨-, -, ⟨timers, timer⟩, hschedule, rfl⟩ := hok
    obtain ⟨g, hid, rfl, hg⟩ := scheduleTimer_eq h hschedule
    rcases (Table.mem_insert (h := hid)).mp ht with ht | rfl
    · obtain ⟨u, hu, rfl⟩ := Table.mem_map.mp ht
      rw [status_of_settle_fired (by decide) hfired]
      exact .inl hu
    · rw [(hg _).2.1] at hfired
      exact absurd hfired (by decide)
  | cancel active k =>
    simp only [step, bind_eq_ok, pure_eq_ok] at hok
    obtain ⟨-, -, rfl⟩ := hok
    refine .inl ?_
    unfold cancelTimer at ht
    cases hcurrent : currentTimer db.timers k with
    | none =>
      rw [hcurrent] at ht
      exact ht
    | some current =>
      rw [hcurrent] at ht
      obtain ⟨u, hu, rfl⟩ := List.mem_map.mp ht
      by_cases hid : Row.id u = current.id
      · rw [if_pos hid] at hfired
        exact TimerStatus.noConfusion hfired
      · rw [if_neg hid]
        exact hu
  | fire now batchLimit rank =>
    obtain rfl := Except.ok.inj hok
    rcases mem_fire _ ht with ht | ⟨s, hs, r, hr, hid, rfl⟩
    · exact .inl ht
    · obtain ⟨hmem, hscheduled, hdue⟩ := mem_dueScan hs
      obtain rfl := Table.eq_of_id_eq hr hmem hid
      have hself : { r with status := .scheduled } = r := by
        rw [← hscheduled]
      exact .inr ⟨now, batchLimit, rank, rfl, hself ▸ hr, hdue, h.newest r hr hscheduled⟩

lemma emitted_of_step {e : TriggerEvent} (hok : step db c = .ok db') (he : e ∈ db'.events.rows) :
    e ∈ db.events.rows ∨ ∃ batchLimit rank, c = .fire e.firedAt batchLimit rank := by
  cases c with
  | schedule active command =>
    simp only [step, bind_eq_ok, pure_eq_ok] at hok
    obtain ⟨-, -, _, -, rfl⟩ := hok
    exact .inl he
  | cancel active k =>
    simp only [step, bind_eq_ok, pure_eq_ok] at hok
    obtain ⟨-, -, rfl⟩ := hok
    exact .inl he
  | fire now batchLimit rank =>
    obtain rfl := Except.ok.inj hok
    rcases mem_fire_events _ he with he | hat
    · exact .inl he
    · exact .inr ⟨batchLimit, rank, hat ▸ rfl⟩

lemma laws_run {db : TimerDb} (h : Generational db.timers ∧ Traced db) (cs : List TimerCommand) :
    Keeps db (Run.run step db cs) := by
  induction cs generalizing db with
  | nil => exact .refl h.1 h.2
  | cons c cs ih =>
    have hnext : Keeps db (Run.next step db c) := by
      cases hc : step db c with
      | ok db' =>
        rw [Run.next_of_ok hc]
        exact keeps_step h.1 h.2 hc
      | error e =>
        rw [Run.next_of_error hc]
        exact .refl h.1 h.2
    exact hnext.trans (ih ⟨hnext.generational, hnext.traced⟩)

lemma laws_empty : Generational TimerDb.empty.timers ∧ Traced TimerDb.empty :=
  ⟨⟨fun _ => rfl, fun _ h => nomatch h⟩, ⟨.nil, fun _ h => (nomatch h), fun _ h => nomatch h⟩⟩

/-- **A timer fires at most once, and only while it is the newest generation of its key.**  After
every sequence of commands the generations of a key are 1, 2, 3, …, at most one is scheduled, and
events and fired timers are one to one; whatever commands follow, a timer that has left the schedule
stays as it is, and the next one fires only scheduled timers that are due and newest. -/
theorem lawful_run (cs : List TimerCommand) :
    (∀ k, generations (Run.run step .empty cs).timers k =
      List.range' 1 (generations (Run.run step .empty cs).timers k).length) ∧
    (∀ t ∈ (Run.run step .empty cs).timers.rows, ∀ u ∈ (Run.run step .empty cs).timers.rows,
      key t = key u → t.status = .scheduled → u.status = .scheduled → t = u) ∧
    Traced (Run.run step .empty cs) ∧
    (∀ t ∈ (Run.run step .empty cs).timers.rows, t.status ≠ .scheduled →
      ∀ ds, t ∈ (Run.run step .empty (cs ++ ds)).timers.rows) ∧
    ∀ c, (∀ t ∈ (Run.run step .empty (cs ++ [c])).timers.rows, t.status = .fired →
        t ∈ (Run.run step .empty cs).timers.rows ∨ Fires (Run.run step .empty cs) c t) ∧
      ∀ e ∈ (Run.run step .empty (cs ++ [c])).events.rows,
        e ∈ (Run.run step .empty cs).events.rows ∨
          ∃ batchLimit rank, c = .fire e.firedAt batchLimit rank := by
  have hlaws := laws_run laws_empty cs
  have hnow : Generational (Run.run step .empty cs).timers ∧ Traced (Run.run step .empty cs) :=
    ⟨hlaws.generational, hlaws.traced⟩
  refine ⟨hnow.1.gapless, fun t ht u hu => eq_of_scheduled hnow.1 ht hu, hnow.2, ?_, ?_⟩
  · intro t ht hstatus ds
    rw [Run.run_append]
    exact (laws_run hnow ds).settled t ht hstatus
  · intro c
    rw [Run.run_append, Run.run_cons, Run.run_nil]
    cases hc : step (Run.run step .empty cs) c with
    | ok db' =>
      rw [Run.next_of_ok hc]
      exact ⟨fun t ht hfired => fires_of_step hnow.1 hc ht hfired, fun e he => emitted_of_step hc he⟩
    | error e =>
      rw [Run.next_of_error hc]
      exact ⟨fun t ht _ => .inl ht, fun e he => .inl he⟩

end DotmacSub.DurableTimers
