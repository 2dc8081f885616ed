import DotmacSub.Core.Run
import DotmacSub.Network.ServicePorts

/-!
# What the pool caches say

Whether the cached number of available indices and the cached next index of every pool are right
after every call, with ports imported from the OLTs between the calls.
-/

namespace DotmacSub.ServicePorts

open Store Checked Run

variable {π : Type}

namespace OltServicePortPool

variable {pool : OltServicePortPool} {allocated : Finset ℤ} {start : Option ℤ} {i : ℤ}

lemma reserved_subset : ∀ i ∈ pool.reserved, pool.minIndex ≤ i ∧ i ≤ pool.maxIndex := by
  intro i hi
  simp only [reserved, List.mem_toFinset, List.mem_filter, decide_eq_true_eq] at hi
  exact hi.2

lemma chooseIndex_mem (h : pool.chooseIndex allocated = some i) :
    i ∈ IndexRange.free pool.minIndex pool.maxIndex allocated pool.reserved := by
  simp only [chooseIndex, Option.orElse_eq_orElse, Option.orElse_eq_or, Option.or_eq_some_iff,
    Option.filter_eq_some_iff, decide_eq_true_eq] at h
  obtain (⟨-, hcached⟩ | ⟨-, hfound⟩) | ⟨-, hfound⟩ := h
  · exact IndexRange.mem_free.mpr hcached
  · exact IndexRange.search_start_mem hfound
  · exact IndexRange.search_start_mem hfound

lemma chooseIndex_isSome_iff : (pool.chooseIndex allocated).isSome ↔
    (IndexRange.free pool.minIndex pool.maxIndex allocated pool.reserved).Nonempty := by
  constructor
  · intro h
    obtain ⟨i, hi⟩ := Option.isSome_iff_exists.mp h
    exact ⟨i, chooseIndex_mem hi⟩
  · intro h
    rw [Option.isSome_iff_ne_none]
    intro hnone
    simp only [chooseIndex, Option.orElse_eq_orElse, Option.orElse_eq_or,
      Option.or_eq_none_iff] at hnone
    exact h.ne_empty (IndexRange.search_eq_none hnone.2)

end OltServicePortPool

namespace PortDb

/-- The indices a pool can hand out. -/
def allocatable (db : PortDb π) (pool : OltServicePortPool) : Finset ℤ :=
  IndexRange.free pool.minIndex pool.maxIndex (db.unavailableIndices pool) pool.reserved

/-- The pool that a call for an OLT works with, created or not. -/
def poolFor (db : PortDb π) (oltId : ℕ) : Option OltServicePortPool :=
  match db.activePool oltId with
  | some pool => some pool
  | none =>
    if oltId ∈ db.oltDevices ∧ ∀ pool ∈ db.pools.rows, pool.oltDeviceId ≠ oltId then
      some (.new db.pools.next oltId 0 65535)
    else none

end PortDb

/-- The cache of a pool says how many indices can be allocated, and names one of them. -/
structure CacheExact (db : PortDb π) (pool : OltServicePortPool) : Prop where
  count : pool.availableCount = some ((db.allocatable pool).card : ℤ)
  next : ∀ i, pool.nextAvailableIndex = some i → i ∈ db.allocatable pool

/-- The range of the pool is not inverted, no row and no observed port of its OLT lies outside of
it, and none of them is reserved. -/
structure WellPlaced (db : PortDb π) (pool : OltServicePortPool) : Prop where
  range : pool.minIndex ≤ pool.maxIndex + 1
  inside : ∀ i ∈ db.unavailableIndices pool, pool.minIndex ≤ i ∧ i ≤ pool.maxIndex
  unreserved : Disjoint (db.unavailableIndices pool) pool.reserved

/-- The pools of `worked` have their caches recomputed, and the others stay; an allocation takes an
index of its pool and searches the next one behind it. -/
structure Effect (db db' : PortDb π) (worked : List OltServicePortPool) (start : Option ℤ) :
    Prop where
  rows : ∀ row, row ∈ db'.pools.rows ↔
    (∃ pool ∈ worked, row = pool.withCache (db'.unavailableIndices pool) start) ∨
      (row ∈ db.pools.rows ∧ ∀ pool ∈ worked, pool.id ≠ row.id)
  others : ∀ row : OltServicePortPool, (∀ pool ∈ worked, pool.id ≠ row.id) →
    db'.unavailableIndices row = db.unavailableIndices row
  taken : ∀ pool ∈ worked,
    (start = none ∧ db'.unavailableIndices pool = db.unavailableIndices pool) ∨
      ∃ i ∈ db.allocatable pool, start = some (i + 1) ∧
        db'.unavailableIndices pool = insert i (db.unavailableIndices pool)

section Effects

variable {db db' : PortDb π} {pool row : OltServicePortPool} {worked : List OltServicePortPool}
  {start : Option ℤ}

lemma effect_refl : Effect db db [] none where
  rows row := by simp
  others _ _ := rfl
  taken pool h := absurd h List.not_mem_nil

lemma Effect.next_mem (h : Effect db db' worked start) (hpool : pool ∈ worked) {i : ℤ}
    (hi : pool.findNextAvailable (db'.unavailableIndices pool) start = some i) :
    i ∈ db'.allocatable pool := by
  obtain ⟨rfl, -⟩ | ⟨j, hj, rfl, -⟩ := h.taken pool hpool
  · exact IndexRange.search_start_mem hi
  · obtain ⟨⟨hlo, hhi⟩, -⟩ := IndexRange.mem_free.mp hj
    exact IndexRange.search_mem (le_add_of_le_of_nonneg hlo zero_le_one)
      (add_le_add_left hhi 1) hi

/-- Taking an index that could be allocated leaves a pool well placed, or not, as it was. -/
lemma Effect.wellPlaced_iff (h : Effect db db' worked start) (hpool : pool ∈ worked) :
    WellPlaced db' pool ↔ WellPlaced db pool := by
  obtain ⟨-, heq⟩ | ⟨i, hi, -, heq⟩ := h.taken pool hpool
  · exact ⟨fun ⟨hr, hs, hd⟩ => ⟨hr, heq ▸ hs, heq ▸ hd⟩,
      fun ⟨hr, hs, hd⟩ => ⟨hr, heq.symm ▸ hs, heq.symm ▸ hd⟩⟩
  · obtain ⟨hrange, -, hunreserved⟩ := IndexRange.mem_free.mp hi
    constructor
    · rintro ⟨hr, hs, hd⟩
      rw [heq] at hs hd
      exact ⟨hr, fun j hj => hs j (Finset.mem_insert_of_mem hj),
        (Finset.disjoint_insert_left.mp hd).2⟩
    · rintro ⟨hr, hs, hd⟩
      refine ⟨hr, ?_, ?_⟩
      · rw [heq]
        exact (Finset.forall_mem_insert _ _ _).mpr ⟨hrange, hs⟩
      · rw [heq]
        exact Finset.disjoint_insert_left.mpr ⟨hunreserved, hd⟩

/-- **A recomputed cache is exact** exactly if the pool is well placed. -/
lemma Effect.cacheExact_iff (h : Effect db db' worked start) (hpool : pool ∈ worked) :
    CacheExact db' (pool.withCache (db'.unavailableIndices pool) start) ↔ WellPlaced db pool := by
  have hcount : pool.maxIndex - pool.minIndex + 1 - (db'.unavailableIndices pool).card -
      pool.reserved.card = ((db'.allocatable pool).card : ℤ) ↔ _ :=
    IndexRange.span_sub_card_iff pool.reserved_subset
  rw [← h.wellPlaced_iff hpool]
  constructor
  · rintro ⟨hc, -⟩
    obtain ⟨hr, hs, hd⟩ := hcount.mp (Option.some.inj hc)
    exact ⟨hr, hs, hd⟩
  · rintro ⟨hr, hs, hd⟩
    exact ⟨congrArg some (hcount.mpr ⟨hr, hs, hd⟩), fun i hi => h.next_mem hpool hi⟩

theorem Effect.forall_cacheExact_iff (h : Effect db db' worked start) :
    (∀ row ∈ db'.pools.rows, CacheExact db' row) ↔
      (∀ pool ∈ worked, WellPlaced db pool) ∧
        ∀ row ∈ db.pools.rows, (∀ pool ∈ worked, pool.id ≠ row.id) → CacheExact db row := by
  have hkept : ∀ row, (∀ pool ∈ worked, pool.id ≠ row.id) →
      (CacheExact db' row ↔ CacheExact db row) := by
    intro row hrow
    have hsame : db'.allocatable row = db.allocatable row := by
      rw [PortDb.allocatable, h.others row hrow, PortDb.allocatable]
    constructor
    · rintro ⟨hc, hn⟩
      exact ⟨hsame ▸ hc, hsame ▸ hn⟩
    · rintro ⟨hc, hn⟩
      exact ⟨hsame.symm ▸ hc, hsame.symm ▸ hn⟩
  constructor
  · intro hall
    refine ⟨fun pool hpool => ?_, fun row hrow huntouched => ?_⟩
    · exact (h.cacheExact_iff hpool).mp (hall _ ((h.rows _).mpr (.inl ⟨pool, hpool, rfl⟩)))
    · exact (hkept row huntouched).mp (hall row ((h.rows row).mpr (.inr ⟨hrow, huntouched⟩)))
  · rintro ⟨hworked, huntouched⟩ row hrow
    obtain ⟨pool, hpool, rfl⟩ | ⟨hmem, hne⟩ := (h.rows row).mp hrow
    · exact (h.cacheExact_iff hpool).mpr (hworked pool hpool)
    · exact (hkept row hne).mpr (huntouched row hmem hne)

end Effects

section Calls

variable {db db' : PortDb π} {pool row : OltServicePortPool} {ids : List ℕ} {oltId : ℕ}
  {request : AllocationRequest}

lemma mem_unavailableIndices {i : ℤ} : i ∈ db.unavailableIndices pool ↔
    (∃ row ∈ db.allocations.rows, row.poolId = pool.id ∧ row.portIndex = i) ∨
      i ∈ db.importedServicePortIndices pool.oltDeviceId := by
  simp only [PortDb.unavailableIndices, PortDb.allocatedIndices, Finset.mem_union,
    List.mem_toFinset, List.mem_map, List.mem_filter, decide_eq_true_eq, and_assoc]

lemma mem_deactivate {p : ServicePortAllocation π → Prop} [DecidablePred p] {now : ℤ}
    {row : ServicePortAllocation π} : row ∈ (db.deactivate p now).allocations.rows ↔
      ∃ before ∈ db.allocations.rows, (if p before then before.released now else before) = row :=
  List.mem_map

@[simp] lemma unavailableIndices_deactivate {p : ServicePortAllocation π → Prop} [DecidablePred p]
    {now : ℤ} : (db.deactivate p now).unavailableIndices pool = db.unavailableIndices pool := by
  ext i
  rw [mem_unavailableIndices, mem_unavailableIndices]
  refine or_congr_left ⟨?_, ?_⟩
  · rintro ⟨row, hrow, hpool, hi⟩
    obtain ⟨before, hbefore, rfl⟩ := mem_deactivate.mp hrow
    refine ⟨before, hbefore, ?_⟩
    split_ifs at hpool hi with hp
    · exact ⟨hpool, hi⟩
    · exact ⟨hpool, hi⟩
  · rintro ⟨row, hrow, hpool, hi⟩
    refine ⟨_, mem_deactivate.mpr ⟨row, hrow, rfl⟩, ?_⟩
    split_ifs with hp
    · exact ⟨hpool, hi⟩
    · exact ⟨hpool, hi⟩

lemma rows_refresh (hnodup : ids.Nodup) :
    (ids.foldl PortDb.refreshPoolCache db).pools.rows = db.pools.rows.map fun row =>
      if row.id ∈ ids then row.withCache (db.unavailableIndices row) else row := by
  induction ids generalizing db with
  | nil => simp
  | cons id ids ih =>
    obtain ⟨hid, hnodup⟩ := List.nodup_cons.mp hnodup
    rw [List.foldl_cons, ih hnodup]
    show (db.pools.rows.map _).map _ = _
    rw [List.map_map]
    refine List.map_congr_left fun row _ => ?_
    let turn (pool : OltServicePortPool) : OltServicePortPool :=
      if pool.id ∈ ids then pool.withCache (db.unavailableIndices pool) else pool
    by_cases hrow : row.id = id
    · refine (congrArg turn (if_pos hrow)).trans ?_
      rw [if_pos (hrow ▸ List.mem_cons_self)]
      exact if_neg (show ¬ row.id ∈ ids from hrow ▸ hid)
    · refine (congrArg turn (if_neg hrow)).trans ?_
      simp only [turn, List.mem_cons, hrow, false_or]

@[simp] lemma unavailableIndices_refresh :
    (ids.foldl PortDb.refreshPoolCache db).unavailableIndices pool =
      db.unavailableIndices pool := by
  induction ids generalizing db with
  | nil => rfl
  | cons id ids ih => exact ih

lemma effect_refresh (hnodup : ids.Nodup) :
    Effect db (ids.foldl PortDb.refreshPoolCache db)
      (db.pools.rows.filter (·.id ∈ ids)) none where
  rows row := by
    simp only [rows_refresh hnodup, List.mem_map, List.mem_filter, decide_eq_true_eq,
      unavailableIndices_refresh]
    constructor
    · rintro ⟨pool, hpool, rfl⟩
      by_cases hid : pool.id ∈ ids
      · exact .inl ⟨pool, ⟨hpool, hid⟩, if_pos hid⟩
      · rw [if_neg hid]
        exact .inr ⟨hpool, fun other hother heq => hid (heq ▸ hother.2)⟩
    · rintro (⟨pool, ⟨hpool, hid⟩, rfl⟩ | ⟨hrow, hne⟩)
      · exact ⟨pool, hpool, if_pos hid⟩
      · exact ⟨row, hrow, if_neg fun hid => hne row ⟨hrow, hid⟩ rfl⟩
  others _ _ := unavailableIndices_refresh
  taken _ _ := .inl ⟨rfl, unavailableIndices_refresh⟩

lemma Effect.of_deactivate {p : ServicePortAllocation π → Prop} [DecidablePred p] {now : ℤ}
    {worked : List OltServicePortPool} (h : Effect (db.deactivate p now) db' worked none) :
    Effect db db' worked none where
  rows := h.rows
  others row hrow := (h.others row hrow).trans unavailableIndices_deactivate
  taken pool hpool := by
    obtain ⟨-, heq⟩ | ⟨i, -, hnone, -⟩ := h.taken pool hpool
    · exact .inl ⟨rfl, heq.trans unavailableIndices_deactivate⟩
    · exact absurd hnone nofun

lemma getOrCreatePool_eq_ok : db.getOrCreatePool oltId = .ok (db', pool) ↔
    db.poolFor oltId = some pool ∧
      ((db.activePool oltId = some pool ∧ db' = db) ∨
        (db.activePool oltId = none ∧
          db' = { db with pools := db.pools.insert (.new · oltId 0 65535) fun _ => rfl })) := by
  rw [PortDb.getOrCreatePool, PortDb.poolFor]
  cases hactive : db.activePool oltId with
  | some active =>
    simp only [Except.ok.injEq, Prod.mk.injEq, Option.some.injEq, reduceCtorEq, false_and, or_false]
    constructor
    · rintro ⟨rfl, rfl⟩
      exact ⟨rfl, rfl, rfl⟩
    · rintro ⟨rfl, -, rfl⟩
      exact ⟨rfl, rfl⟩
  | none =>
    simp only [ensure_bind_eq_ok, pure_eq_ok, Prod.mk.injEq, reduceCtorEq, false_and, false_or,
      true_and, Option.ite_none_right_eq_some, Option.some.injEq]
    constructor
    · rintro ⟨holt, hnone, rfl, rfl⟩
      exact ⟨⟨⟨holt, hnone⟩, rfl⟩, rfl⟩
    · rintro ⟨⟨⟨holt, hnone⟩, rfl⟩, rfl⟩
      exact ⟨holt, hnone, rfl, rfl⟩

lemma mem_of_getOrCreatePool (h : db.getOrCreatePool oltId = .ok (db', pool)) :
    pool ∈ db'.pools.rows ∧ ∀ row : OltServicePortPool,
      (row ∈ db'.pools.rows ∧ row.id ≠ pool.id ↔ row ∈ db.pools.rows ∧ row.id ≠ pool.id) ∧
        db'.unavailableIndices row = db.unavailableIndices row := by
  obtain ⟨hfor, ⟨hactive, rfl⟩ | ⟨hactive, rfl⟩⟩ := getOrCreatePool_eq_ok.mp h
  · exact ⟨List.mem_of_find?_eq_some hactive, fun row => ⟨Iff.rfl, rfl⟩⟩
  · rw [PortDb.poolFor, hactive] at hfor
    simp only [Option.ite_none_right_eq_some, Option.some.injEq] at hfor
    obtain ⟨-, rfl⟩ := hfor
    refine ⟨Table.mem_insert.mpr (.inr rfl), fun row => ⟨?_, rfl⟩⟩
    constructor
    · rintro ⟨hrow, hne⟩
      obtain hrow | rfl := Table.mem_insert.mp hrow
      · exact ⟨hrow, hne⟩
      · exact absurd rfl hne
    · rintro ⟨hrow, hne⟩
      exact ⟨Table.mem_insert.mpr (.inl hrow), hne⟩

/-- What is done to other columns, or to the pool itself, before its cache is recomputed. -/
lemma Effect.of_rows {db₁ : PortDb π} {start : Option ℤ} (h : Effect db₁ db' [pool] start)
    (hrows : ∀ row : OltServicePortPool, row.id ≠ pool.id →
      (row ∈ db₁.pools.rows ↔ row ∈ db.pools.rows))
    (hsame : ∀ row : OltServicePortPool, db₁.unavailableIndices row = db.unavailableIndices row) :
    Effect db db' [pool] start where
  rows row := by
    rw [h.rows row]
    refine or_congr_right (and_congr_left fun hne => hrows row ?_)
    exact (hne pool List.mem_cons_self).symm
  others row hrow := (h.others row hrow).trans (hsame row)
  taken other hother := by
    have hfree : db₁.allocatable other = db.allocatable other := by
      rw [PortDb.allocatable, hsame, PortDb.allocatable]
    rw [← hsame, ← hfree]
    exact h.taken other hother

lemma Effect.congr {worked other : List OltServicePortPool} {start : Option ℤ}
    (h : Effect db db' worked start) (hmem : ∀ row, row ∈ worked ↔ row ∈ other) :
    Effect db db' other start where
  rows row := by simpa only [hmem] using h.rows row
  others row hrow := h.others row fun pool hpool => hrow pool ((hmem pool).mp hpool)
  taken row hrow := h.taken row ((hmem row).mpr hrow)

lemma effect_refresh_one (hpool : pool ∈ db.pools.rows) :
    Effect db (db.refreshPoolCache pool.id) [pool] none := by
  have h : Effect db (db.refreshPoolCache pool.id) _ none :=
    effect_refresh (List.nodup_singleton pool.id)
  refine h.congr fun row => ?_
  simp only [List.mem_filter, List.mem_singleton, decide_eq_true_eq]
  constructor
  · rintro ⟨hrow, hid⟩
    exact Table.eq_of_id_eq hrow hpool hid
  · rintro rfl
    exact ⟨hpool, rfl⟩

lemma effect_sync {actualPorts : List ℤ} {now : ℤ} {counts : PortDb.SyncCounts}
    (h : db.syncAllocationsFromOlt oltId actualPorts now = .ok (db', counts)) :
    ∃ pool, db.poolFor oltId = some pool ∧ Effect db db' [pool] none := by
  simp only [PortDb.syncAllocationsFromOlt, bind_eq_ok, pure_eq_ok, Prod.mk.injEq] at h
  obtain ⟨⟨created, pool⟩, hcreate, rfl, -⟩ := h
  obtain ⟨hpool, hrows⟩ := mem_of_getOrCreatePool hcreate
  refine ⟨pool, (getOrCreatePool_eq_ok.mp hcreate).1, ?_⟩
  refine Effect.of_rows (effect_refresh_one hpool) (fun row hne => ?_) fun row => ?_
  · have hiff := (hrows row).1
    simp only [hne, ne_eq, not_false_eq_true, and_true] at hiff
    exact hiff
  · exact unavailableIndices_deactivate.trans (hrows row).2

lemma mem_writeReserved {id : ℕ} {indices : List ℤ} :
    row ∈ (db.writeReserved id indices).pools.rows ↔ (row ∈ db.pools.rows ∧ row.id ≠ id) ∨
      ∃ pool ∈ db.pools.rows, pool.id = id ∧ pool.reserving indices = row :=
  Table.mem_update (t := db.pools) (g := fun pool => pool.reserving indices) (h := fun _ => rfl)

lemma effect_reserve {indices : List ℤ} (h : db.reserveIndices oltId indices = .ok db') :
    ∃ pool, db.poolFor oltId = some pool ∧ Effect db db' [pool.reserving indices] none := by
  simp only [PortDb.reserveIndices, bind_eq_ok, pure_eq_ok] at h
  obtain ⟨⟨created, pool⟩, hcreate, rfl⟩ := h
  obtain ⟨hpool, hrows⟩ := mem_of_getOrCreatePool hcreate
  refine ⟨pool, (getOrCreatePool_eq_ok.mp hcreate).1, ?_⟩
  have hmem : pool.reserving indices ∈ (created.writeReserved pool.id indices).pools.rows :=
    mem_writeReserved.mpr (.inr ⟨pool, hpool, rfl, rfl⟩)
  have hrefresh := effect_refresh_one hmem
  refine Effect.of_rows hrefresh (fun row hne => ?_) fun row => (hrows row).2
  have hiff := (hrows row).1
  simp only [show row.id ≠ pool.id from hne, ne_eq, not_false_eq_true, and_true] at hiff
  rw [← hiff]
  refine mem_writeReserved.trans ⟨?_, ?_⟩
  · rintro (⟨hrow, -⟩ | ⟨other, -, hid, rfl⟩)
    · exact hrow
    · exact absurd hid hne
  · exact fun hrow => .inl ⟨hrow, hne⟩

lemma unavailableIndices_addAllocation {portIndex : ℤ} :
    (db.addAllocation pool.id portIndex request).1.unavailableIndices row =
      if pool.id = row.id then insert portIndex (db.unavailableIndices row)
      else db.unavailableIndices row := by
  have hadd : ∀ i, i ∈ (db.addAllocation pool.id portIndex request).1.unavailableIndices row ↔
      (pool.id = row.id ∧ portIndex = i) ∨ i ∈ db.unavailableIndices row := by
    intro i
    rw [mem_unavailableIndices, mem_unavailableIndices]
    simp only [PortDb.addAllocation, Table.mem_insert, or_and_right, exists_or, exists_eq_left]
    rw [or_assoc, or_left_comm]
    rfl
  ext i
  rw [hadd]
  split_ifs with hid
  · simp only [hid, true_and, Finset.mem_insert, eq_comm]
  · simp only [hid, false_and, false_or]

def PortDb.CanAllocate (db : PortDb π) (request : AllocationRequest) (pool : OltServicePortPool) :
    Prop :=
  request.ontId ∈ db.ontUnits ∧ (db.allocatable pool).Nonempty ∧ ¬ db.KeyTaken request

instance (request : AllocationRequest) (pool : OltServicePortPool) :
    Decidable (db.CanAllocate request pool) := inferInstanceAs (Decidable (_ ∧ _ ∧ _))

/-- What an accepted allocation, not a replay, has done: an index of the pool is taken, its row is
added, and the cache is searched behind it. -/
lemma allocate_eq_ok_iff {allocation : ServicePortAllocation π}
    (hreplay : db.replayed request = none) :
    db.allocateServicePort request = .ok (db', allocation) ↔
      ∃ created pool i, db.getOrCreatePool request.oltId = .ok (created, pool) ∧
        request.ontId ∈ created.ontUnits ∧
        pool.chooseIndex (created.unavailableIndices pool) = some i ∧
        ¬ created.KeyTaken request ∧
        allocation = (created.addAllocation pool.id i request).2 ∧
        db' = (created.addAllocation pool.id i request).1.cachePool
          (pool.withCache (insert i (created.unavailableIndices pool)) (some (i + 1))) := by
  simp only [PortDb.allocateServicePort, hreplay, bind_eq_ok, orRefuse_eq_ok, ensure_eq_ok,
    pure_eq_ok, Prod.mk.injEq]
  constructor
  · rintro ⟨⟨created, pool⟩, hcreate, -, hont, i, hi, -, hkey, rfl, rfl⟩
    exact ⟨created, pool, i, hcreate, hont, hi, hkey, rfl, rfl⟩
  · rintro ⟨created, pool, i, hcreate, hont, hi, hkey, rfl, rfl⟩
    exact ⟨(created, pool), hcreate, (), hont, i, hi, (), hkey, rfl, rfl⟩

lemma getOrCreatePool_frame (h : db.getOrCreatePool oltId = .ok (db', pool)) :
    db'.ontUnits = db.ontUnits ∧ db'.allocations = db.allocations ∧
      db'.servicePorts = db.servicePorts ∧ db'.oltDevices = db.oltDevices := by
  obtain ⟨-, ⟨-, rfl⟩ | ⟨-, rfl⟩⟩ := getOrCreatePool_eq_ok.mp h
  · exact ⟨rfl, rfl, rfl, rfl⟩
  · exact ⟨rfl, rfl, rfl, rfl⟩

lemma mem_cachePool {cached : OltServicePortPool} : row ∈ (db.cachePool cached).pools.rows ↔
    (row ∈ db.pools.rows ∧ row.id ≠ cached.id) ∨ ∃ pool ∈ db.pools.rows, pool.id = cached.id ∧
      { pool with
        nextAvailableIndex := cached.nextAvailableIndex
        availableCount := cached.availableCount } = row :=
  Table.mem_update (t := db.pools)
    (g := fun pool => { pool with
      nextAvailableIndex := cached.nextAvailableIndex
      availableCount := cached.availableCount }) (h := fun _ => rfl)

/-- An accepted allocation works on the pool of its OLT, and hands out an index it could. -/
lemma effect_allocate {allocation : ServicePortAllocation π} (hreplay : db.replayed request = none)
    (h : db.allocateServicePort request = .ok (db', allocation)) :
    ∃ pool start, db.poolFor request.oltId = some pool ∧ db.CanAllocate request pool ∧
      allocation.portIndex ∈ db.allocatable pool ∧ allocation.poolId = pool.id ∧
      Effect db db' [pool] start := by
  obtain ⟨created, pool, i, hcreate, hont, hi, hkey, rfl, rfl⟩ := (allocate_eq_ok_iff hreplay).mp h
  obtain ⟨hpool, hrows⟩ := mem_of_getOrCreatePool hcreate
  obtain ⟨honts, hallocations, -, -⟩ := getOrCreatePool_frame hcreate
  have hfree : created.allocatable pool = db.allocatable pool := by
    rw [PortDb.allocatable, (hrows pool).2, PortDb.allocatable]
  have hmem : i ∈ created.allocatable pool := OltServicePortPool.chooseIndex_mem hi
  have htaken : ∀ row : OltServicePortPool,
      ((created.addAllocation pool.id i request).1.cachePool
        (pool.withCache (insert i (created.unavailableIndices pool))
          (some (i + 1)))).unavailableIndices row =
        if pool.id = row.id then insert i (created.unavailableIndices row)
        else created.unavailableIndices row := fun row => unavailableIndices_addAllocation
  refine ⟨pool, some (i + 1), (getOrCreatePool_eq_ok.mp hcreate).1, ⟨honts ▸ hont, ?_, ?_⟩,
    hfree ▸ hmem, rfl, ?_⟩
  · exact ⟨i, hfree ▸ hmem⟩
  · simpa only [PortDb.KeyTaken, hallocations] using hkey
  have heffect : Effect created _ [pool] (some (i + 1)) :=
    { rows := fun row => ?_
      others := fun row hrow => (htaken row).trans (if_neg (hrow pool List.mem_cons_self))
      taken := fun row hrow => ?_ }
  · refine heffect.of_rows (fun row hne => ?_) fun row => (hrows row).2
    have hiff := (hrows row).1
    simp only [hne, ne_eq, not_false_eq_true, and_true] at hiff
    exact hiff
  · simp only [List.mem_singleton, exists_eq_left, forall_eq, htaken, if_true]
    rw [mem_cachePool, or_comm]
    refine or_congr ⟨?_, ?_⟩ (and_congr_right fun _ => ne_comm)
    · rintro ⟨other, hother, hid, rfl⟩
      rw [Table.eq_of_id_eq hother hpool hid]
      rfl
    · rintro rfl
      exact ⟨pool, hpool, rfl, rfl⟩
  · rw [List.mem_singleton.mp hrow]
    exact .inr ⟨i, hmem, rfl, (htaken pool).trans (if_pos rfl)⟩

end Calls

inductive PortCall
  | allocate (request : AllocationRequest)
  | release (allocationId : ℕ)
  | releaseAll (ontId : ℕ)
  | sync (oltId : ℕ) (actualPorts : List ℤ)
  | reserve (oltId : ℕ) (indices : List ℤ)
deriving DecidableEq

def callStep (db : PortDb π) (now : ℤ) : PortCall → Except DomainError (PortDb π)
  | .allocate request => Prod.fst <$> db.allocateServicePort request
  | .release allocationId => .ok (db.releaseServicePort allocationId now).1
  | .releaseAll ontId => .ok (db.releaseAllForOnt ontId now).1
  | .sync oltId actualPorts => Prod.fst <$> db.syncAllocationsFromOlt oltId actualPorts now
  | .reserve oltId indices => db.reserveIndices oltId indices

/-- The pools whose cache a call recomputes. -/
def PortCall.worksOn (db : PortDb π) : PortCall → List OltServicePortPool
  | .allocate request =>
    if (db.replayed request).isSome then []
    else ((db.poolFor request.oltId).filter (db.CanAllocate request ·)).toList
  | .release allocationId =>
    match (db.allocations.get? allocationId).filter (·.isActive) with
    | none => []
    | some allocation => db.pools.rows.filter (·.id ∈ [allocation.poolId])
  | .releaseAll ontId =>
    let allocations := db.allocations.rows.filter fun row => row.ontUnitId = ontId ∧ row.isActive
    db.pools.rows.filter (·.id ∈ (allocations.map (·.poolId)).dedup)
  | .sync oltId _ => (db.poolFor oltId).toList
  | .reserve oltId indices => ((db.poolFor oltId).map (·.reserving indices)).toList

section Steps

variable {db db' : PortDb π} {call : PortCall} {now : ℤ}

lemma effect_release {allocationId : ℕ} :
    Effect db (db.releaseServicePort allocationId now).1
      ((PortCall.release allocationId).worksOn db) none := by
  rw [PortDb.releaseServicePort, PortCall.worksOn]
  cases (db.allocations.get? allocationId).filter (·.isActive) with
  | none => exact effect_refl
  | some allocation => exact Effect.of_deactivate (effect_refresh (List.nodup_singleton _))

lemma effect_releaseAll {ontId : ℕ} :
    Effect db (db.releaseAllForOnt ontId now).1 ((PortCall.releaseAll ontId).worksOn db) none :=
  Effect.of_deactivate (effect_refresh (List.nodup_dedup _))

/-- **An accepted call** recomputes the caches of the pools it works on. -/
lemma effect_callStep (h : callStep db now call = .ok db') :
    ∃ start, Effect db db' (call.worksOn db) start := by
  cases call with
  | allocate request =>
    obtain ⟨⟨_, allocation⟩, hok, rfl⟩ := map_eq_ok.mp h
    rw [PortCall.worksOn]
    cases hreplay : db.replayed request with
    | some existing =>
      rw [PortDb.allocateServicePort, hreplay] at hok
      obtain ⟨rfl, -⟩ := mk_eq_ok.mp hok
      exact ⟨none, effect_refl⟩
    | none =>
      obtain ⟨pool, start, hpool, hcan, -, -, heffect⟩ := effect_allocate hreplay hok
      refine ⟨start, ?_⟩
      rw [hpool, Option.filter_some, if_pos (decide_eq_true hcan)]
      exact heffect
  | release allocationId =>
    obtain rfl := Except.ok.inj h
    exact ⟨none, effect_release⟩
  | releaseAll ontId =>
    obtain rfl := Except.ok.inj h
    exact ⟨none, effect_releaseAll⟩
  | sync oltId actualPorts =>
    obtain ⟨⟨_, counts⟩, hok, rfl⟩ := map_eq_ok.mp h
    obtain ⟨pool, hpool, heffect⟩ := effect_sync hok
    exact ⟨none, by rwa [PortCall.worksOn, hpool]⟩
  | reserve oltId indices =>
    obtain ⟨pool, hpool, heffect⟩ := effect_reserve h
    exact ⟨none, by rwa [PortCall.worksOn, hpool]⟩

lemma getOrCreatePool_of_poolFor {oltId : ℕ} {pool : OltServicePortPool}
    (h : db.poolFor oltId = some pool) :
    ∃ created, db.getOrCreatePool oltId = .ok (created, pool) := by
  cases hactive : db.activePool oltId with
  | some active =>
    refine ⟨db, getOrCreatePool_eq_ok.mpr ⟨h, .inl ⟨?_, rfl⟩⟩⟩
    rw [PortDb.poolFor, hactive] at h
    rw [hactive]
    exact h
  | none => exact ⟨_, getOrCreatePool_eq_ok.mpr ⟨h, .inr ⟨hactive, rfl⟩⟩⟩

lemma allocate_of_canAllocate {request : AllocationRequest} {pool : OltServicePortPool}
    (hreplay : db.replayed request = none) (hpool : db.poolFor request.oltId = some pool)
    (hcan : db.CanAllocate request pool) :
    ∃ result, db.allocateServicePort request = .ok result := by
  obtain ⟨hont, hfree, hkey⟩ := hcan
  obtain ⟨created, hcreate⟩ := getOrCreatePool_of_poolFor hpool
  obtain ⟨-, hrows⟩ := mem_of_getOrCreatePool hcreate
  obtain ⟨honts, hallocations, -, -⟩ := getOrCreatePool_frame hcreate
  have hsome : (pool.chooseIndex (created.unavailableIndices pool)).isSome := by
    rw [OltServicePortPool.chooseIndex_isSome_iff, (hrows pool).2]
    exact hfree
  obtain ⟨i, hi⟩ := Option.isSome_iff_exists.mp hsome
  refine ⟨(_, _), (allocate_eq_ok_iff hreplay).mpr
    ⟨created, pool, i, hcreate, honts ▸ hont, hi, ?_, rfl, rfl⟩⟩
  simpa only [PortDb.KeyTaken, hallocations] using hkey

lemma worksOn_of_error {e : DomainError} (h : callStep db now call = .error e) :
    call.worksOn db = [] := by
  cases call with
  | allocate request =>
    rw [PortCall.worksOn]
    cases hreplay : db.replayed request with
    | some existing => rfl
    | none =>
      cases hpool : db.poolFor request.oltId with
      | none => rfl
      | some pool =>
        have hcan : ¬ db.CanAllocate request pool := by
          intro hcan
          obtain ⟨result, hok⟩ := allocate_of_canAllocate hreplay hpool hcan
          rw [callStep, hok] at h
          exact absurd h nofun
        rw [Option.filter_some, decide_eq_false hcan]
        rfl
  | release allocationId => exact absurd h nofun
  | releaseAll ontId => exact absurd h nofun
  | sync oltId actualPorts =>
    cases hpool : db.poolFor oltId with
    | none => rw [PortCall.worksOn, hpool, Option.toList_none]
    | some pool =>
      obtain ⟨created, hcreate⟩ := getOrCreatePool_of_poolFor hpool
      rw [callStep, PortDb.syncAllocationsFromOlt, hcreate] at h
      exact absurd h nofun
  | reserve oltId indices =>
    cases hpool : db.poolFor oltId with
    | none => rw [PortCall.worksOn, hpool, Option.map_none, Option.toList_none]
    | some pool =>
      obtain ⟨created, hcreate⟩ := getOrCreatePool_of_poolFor hpool
      rw [callStep, PortDb.reserveIndices, hcreate] at h
      exact absurd h nofun

end Steps

/-- The imports between two calls leave these ports observed, and then the call is made. -/
structure PortTurn where
  servicePorts : List OltServicePort
  call : PortCall
  now : ℤ
deriving DecidableEq

/-- The database that the call of a turn is made in. -/
def PortDb.imported (db : PortDb π) (turn : PortTurn) : PortDb π :=
  { db with servicePorts := turn.servicePorts }

/-- One turn; a refused call is rolled back. -/
def portStep (db : PortDb π) (turn : PortTurn) : Except Empty (PortDb π) :=
  match callStep (db.imported turn) turn.now turn.call with
  | .ok db' => .ok db'
  | .error _ => .ok (db.imported turn)

/-- Nothing is handed out that could not be allocated, only an exhausted pool refuses, and after
the call every cache is exact. -/
structure Exact (db : PortDb π) (turn : PortTurn) : Prop where
  handedOut : ∀ request db' allocation, turn.call = .allocate request →
    (db.imported turn).allocateServicePort request = .ok (db', allocation) →
    ((db.imported turn).replayed request = some allocation ∧ db' = db.imported turn) ∨
      ∃ pool, (db.imported turn).poolFor request.oltId = some pool ∧
        allocation.poolId = pool.id ∧ allocation.portIndex ∈ (db.imported turn).allocatable pool
  refused : ∀ request e pool, turn.call = .allocate request →
    (db.imported turn).allocateServicePort request = .error e →
    (db.imported turn).poolFor request.oltId = some pool → request.ontId ∈ db.ontUnits →
    (db.imported turn).allocatable pool = ∅
  cached : ∀ db', portStep db turn = .ok db' → ∀ pool ∈ db'.pools.rows, CacheExact db' pool

/-- The imports took as many indices of the pool as they freed, and not the cached one. -/
structure Undisturbed (before after : PortDb π) (pool : OltServicePortPool) : Prop where
  count : (after.allocatable pool).card = (before.allocatable pool).card
  next : ∀ i, pool.nextAvailableIndex = some i → i ∈ after.allocatable pool

/-- Every pool the call works on is well placed, the imports have not disturbed the others, and a
new allocation does not carry the correlation key of a row. -/
structure Placed (db : PortDb π) (turn : PortTurn) : Prop where
  placed : ∀ pool ∈ turn.call.worksOn (db.imported turn), WellPlaced (db.imported turn) pool
  undisturbed : ∀ pool ∈ db.pools.rows,
    (∀ worked ∈ turn.call.worksOn (db.imported turn), worked.id ≠ pool.id) →
    Undisturbed db (db.imported turn) pool
  keyed : ∀ request pool, turn.call = .allocate request →
    (db.imported turn).replayed request = none →
    (db.imported turn).poolFor request.oltId = some pool → request.ontId ∈ db.ontUnits →
    (db.imported turn).KeyTaken request → (db.imported turn).allocatable pool = ∅

def AllExact (db : PortDb π) : Prop := ∀ pool ∈ db.pools.rows, CacheExact db pool

variable {db db' : PortDb π} {turn : PortTurn}

lemma allExact_portStep_iff (h : AllExact db) (hstep : portStep db turn = .ok db') :
    AllExact db' ↔
      (∀ pool ∈ turn.call.worksOn (db.imported turn), WellPlaced (db.imported turn) pool) ∧
        ∀ pool ∈ db.pools.rows,
          (∀ worked ∈ turn.call.worksOn (db.imported turn), worked.id ≠ pool.id) →
          Undisturbed db (db.imported turn) pool := by
  have heffect : ∃ start, Effect (db.imported turn) db'
      (turn.call.worksOn (db.imported turn)) start := by
    rw [portStep] at hstep
    cases hcall : callStep (db.imported turn) turn.now turn.call with
    | ok after =>
      rw [hcall] at hstep
      obtain rfl := Except.ok.inj hstep
      exact effect_callStep hcall
    | error e =>
      rw [hcall] at hstep
      obtain rfl := Except.ok.inj hstep
      rw [worksOn_of_error hcall]
      exact ⟨none, effect_refl⟩
  obtain ⟨start, heffect⟩ := heffect
  refine heffect.forall_cacheExact_iff.trans (and_congr_right fun _ => ?_)
  refine forall₂_congr fun pool hpool => imp_congr_right fun _ => ?_
  obtain ⟨hcount, -⟩ := h pool hpool
  constructor
  · rintro ⟨hc, hn⟩
    exact ⟨by simpa using hc.symm.trans hcount, hn⟩
  · rintro ⟨hc, hn⟩
    exact ⟨by rw [hcount, hc], hn⟩

lemma portStep_ok (db : PortDb π) (turn : PortTurn) : ∃ db', portStep db turn = .ok db' := by
  rw [portStep]
  cases callStep (db.imported turn) turn.now turn.call with
  | ok db' => exact ⟨db', rfl⟩
  | error e => exact ⟨db.imported turn, rfl⟩

/-- **Only allocatable indices are handed out**, in every state and for every request. -/
lemma handedOut_of_ok {request : AllocationRequest} {allocation : ServicePortAllocation π}
    (h : db.allocateServicePort request = .ok (db', allocation)) :
    (db.replayed request = some allocation ∧ db' = db) ∨
      ∃ pool, db.poolFor request.oltId = some pool ∧ allocation.poolId = pool.id ∧
        allocation.portIndex ∈ db.allocatable pool := by
  cases hreplay : db.replayed request with
  | some existing =>
    rw [PortDb.allocateServicePort, hreplay] at h
    obtain ⟨rfl, rfl⟩ := mk_eq_ok.mp h
    exact .inl ⟨rfl, rfl⟩
  | none =>
    obtain ⟨pool, start, hpool, -, hfree, hid, -⟩ := effect_allocate hreplay h
    exact .inr ⟨pool, hpool, hid, hfree⟩

/-- **When an allocation is refused** although the ONT is known: no index is left, or a row has
the correlation key. -/
lemma allocate_error_iff {request : AllocationRequest} {pool : OltServicePortPool}
    (hpool : db.poolFor request.oltId = some pool) (hont : request.ontId ∈ db.ontUnits) :
    (∃ e, db.allocateServicePort request = .error e) ↔
      db.replayed request = none ∧ (db.KeyTaken request ∨ db.allocatable pool = ∅) := by
  constructor
  · rintro ⟨e, h⟩
    cases hreplay : db.replayed request with
    | some existing =>
      rw [PortDb.allocateServicePort, hreplay] at h
      exact absurd h nofun
    | none =>
      refine ⟨rfl, or_iff_not_imp_left.mpr fun hkey => ?_⟩
      by_contra hfree
      obtain ⟨result, hok⟩ := allocate_of_canAllocate hreplay hpool
        ⟨hont, Finset.nonempty_iff_ne_empty.mpr hfree, hkey⟩
      exact absurd (h.symm.trans hok) nofun
  · rintro ⟨hreplay, hfull⟩
    cases h : db.allocateServicePort request with
    | error e => exact ⟨e, rfl⟩
    | ok result =>
      obtain ⟨pool', start, hpool', ⟨-, hfree, hkey⟩, -⟩ := effect_allocate hreplay h
      obtain rfl := Option.mem_unique hpool hpool'
      exact (hfull.elim hkey hfree.ne_empty).elim

/-- **When a turn is exact.** -/
lemma exact_iff_placed (h : AllExact db) : Exact db turn ↔ Placed db turn := by
  obtain ⟨after, hstep⟩ := portStep_ok db turn
  have hcached := allExact_portStep_iff h hstep
  constructor
  · rintro ⟨-, hrefused, hexact⟩
    obtain ⟨hplaced, hundisturbed⟩ := hcached.mp (hexact after hstep)
    refine ⟨hplaced, hundisturbed, fun request pool hcall hreplay hpool hont hkey => ?_⟩
    obtain ⟨e, herror⟩ := (allocate_error_iff hpool hont).mpr ⟨hreplay, .inl hkey⟩
    exact hrefused request e pool hcall herror hpool hont
  · rintro ⟨hplaced, hundisturbed, hkeyed⟩
    refine ⟨fun _ _ _ _ hok => handedOut_of_ok hok, ?_, ?_⟩
    · intro request e pool hcall herror hpool hont
      obtain ⟨hreplay, hkey | hfull⟩ := (allocate_error_iff hpool hont).mp ⟨e, herror⟩
      · exact hkeyed request pool hcall hreplay hpool hont hkey
      · exact hfull
    · intro db' hstep'
      obtain rfl := Except.ok.inj (hstep.symm.trans hstep')
      exact hcached.mpr ⟨hplaced, hundisturbed⟩

/-- **The service port allocator is exact** in the runs whose turns are all placed. -/
theorem exact_run_iff (h : AllExact db) (turns : List PortTurn) :
    (∀ before turn after, turns = before ++ turn :: after → Exact (run portStep db before) turn) ↔
      ∀ before turn after, turns = before ++ turn :: after →
        Placed (run portStep db before) turn := by
  have hguarded : Guarded portStep Exact db turns ↔ Guarded portStep Placed db turns := by
    refine guarded_congr ?_ ?_ turns db h
    · intro s turn s' hs hplaced hstep
      exact (allExact_portStep_iff hs hstep).mpr ⟨hplaced.placed, hplaced.undisturbed⟩
    · intro s turn s' hs _
      exact exact_iff_placed hs
  simpa only [guarded_iff_forall_split, portStep_ok, true_imp_iff] using hguarded

/-- An OLT with four indices, none of them taken. -/
def fourPorts : PortDb Unit where
  oltDevices := [0]
  ontUnits := [0]
  pools := Table.empty.insert (fun id => ⟨id, 0, 0, 3, none, some 0, some 4, true⟩) fun _ => rfl
  allocations := .empty
  servicePorts := []

lemma allExact_fourPorts : AllExact fourPorts := by
  intro pool hpool
  obtain rfl : pool = ⟨0, 0, 0, 3, none, some 0, some 4, true⟩ := List.mem_singleton.mp hpool
  refine ⟨by decide +kernel, ?_⟩
  rintro i ⟨⟩
  decide +kernel

theorem exact_run_iff_fourPorts :
    (∀ before turn after, [⟨[], .allocate ⟨0, 0, none, none, none, none⟩, 0⟩] =
        before ++ turn :: after → Exact (run portStep fourPorts before) turn) ↔
      ∀ before turn after, [⟨[], .allocate ⟨0, 0, none, none, none, none⟩, 0⟩] =
        before ++ turn :: after → Placed (run portStep fourPorts before) turn :=
  exact_run_iff allExact_fourPorts _

/-- An index that is reserved after it was allocated is subtracted twice. -/
theorem not_exact_reserveAllocated :
    ¬ Exact (run portStep fourPorts [⟨[], .allocate ⟨0, 0, none, none, none, none⟩, 0⟩])
      ⟨[], .reserve 0 [0], 1⟩ := by
  intro h
  have hexact := h.cached _ rfl ⟨0, 0, 0, 3, some [0], some 1, some 2, true⟩ (by decide +kernel)
  exact absurd hexact.count (by decide +kernel)

end DotmacSub.ServicePorts
