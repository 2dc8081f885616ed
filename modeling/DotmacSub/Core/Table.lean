import Mathlib.Algebra.BigOperators.Group.List.Basic
import Mathlib.Data.List.Nodup
import Mathlib.Tactic.Abel

/-!
# Tables with a primary key

A table is a list of rows with distinct identifiers, in insertion order, together with the next
identifier.  Both facts about identifiers are fields, so an insertion is always fresh and an update
by identifier always touches one row; no proof about a program that uses tables re-establishes
them.

* `Table.insert` — a new row, under the next identifier.
* `Table.map` — a change to every row that keeps its identifier; `Table.update` changes one row.
* `Table.get?` — the row with an identifier, which determines it (`eq_of_id_eq`).
* `Table.filter` — a deletion.
-/

namespace Store

/-- Rows that carry their identifier. -/
class Row (α : Type*) where
  id : α → ℕ

/-- Rows with distinct identifiers, all below the next one. -/
structure Table (α : Type*) [Row α] where
  rows : List α
  next : ℕ
  nodup : (rows.map Row.id).Nodup
  fresh : ∀ r ∈ rows, Row.id r < next

namespace Table

variable {α : Type*} [Row α]

def empty : Table α := ⟨[], 0, List.nodup_nil, nofun⟩

def get? (t : Table α) (i : ℕ) : Option α := t.rows.find? (Row.id · = i)

/-- Append the row built from the next identifier. -/
def insert (t : Table α) (f : ℕ → α) (h : ∀ i, Row.id (f i) = i) : Table α where
  rows := t.rows ++ [f t.next]
  next := t.next + 1
  nodup := by
    rw [List.map_append, List.nodup_append]
    refine ⟨t.nodup, List.nodup_singleton _, ?_⟩
    intro a ha b hb
    obtain ⟨r, hr, rfl⟩ := List.mem_map.mp ha
    simp only [List.map_cons, List.map_nil, List.mem_singleton, h] at hb
    exact hb ▸ Nat.ne_of_lt (t.fresh r hr)
  fresh := by
    intro r hr
    rcases List.mem_append.mp hr with hr | hr
    · exact Nat.lt_succ_of_lt (t.fresh r hr)
    · rw [List.mem_singleton.mp hr, h]
      exact Nat.lt_succ_self _

/-- Change every row, keeping the identifiers. -/
def map (t : Table α) (f : α → α) (h : ∀ r, Row.id (f r) = Row.id r) : Table α where
  rows := t.rows.map f
  next := t.next
  nodup := by
    rw [List.map_map, show Row.id ∘ f = Row.id from funext h]
    exact t.nodup
  fresh := by
    intro r hr
    obtain ⟨s, hs, rfl⟩ := List.mem_map.mp hr
    exact (h s).symm ▸ t.fresh s hs

def update (t : Table α) (i : ℕ) (f : α → α) (h : ∀ r, Row.id (f r) = Row.id r) : Table α :=
  t.map (fun r => if Row.id r = i then f r else r) fun r => by
    split_ifs with hi
    · exact h r
    · rfl

/-- Keep the rows that satisfy `p`. -/
def filter (t : Table α) (p : α → Bool) : Table α where
  rows := t.rows.filter p
  next := t.next
  nodup := t.nodup.sublist ((List.filter_sublist).map _)
  fresh := fun r hr => t.fresh r (List.mem_of_mem_filter hr)

section Rows

variable {t : Table α} {f : ℕ → α} {g : α → α} {i : ℕ} {r s : α}

lemma mem_insert {h : ∀ i, Row.id (f i) = i} :
    r ∈ (t.insert f h).rows ↔ r ∈ t.rows ∨ r = f t.next := by
  simp [insert]

lemma mem_map {h : ∀ r, Row.id (g r) = Row.id r} :
    r ∈ (t.map g h).rows ↔ ∃ s ∈ t.rows, g s = r := List.mem_map

lemma mem_update {h : ∀ r, Row.id (g r) = Row.id r} :
    r ∈ (t.update i g h).rows ↔
      (r ∈ t.rows ∧ Row.id r ≠ i) ∨ ∃ s ∈ t.rows, Row.id s = i ∧ g s = r := by
  rw [update, mem_map]
  constructor
  · rintro ⟨s, hs, hr⟩
    split_ifs at hr with hi
    · exact .inr ⟨s, hs, hi, hr⟩
    · exact .inl ⟨hr ▸ hs, hr ▸ hi⟩
  · rintro (⟨hr, hi⟩ | ⟨s, hs, hi, hr⟩)
    · exact ⟨r, hr, if_neg hi⟩
    · exact ⟨s, hs, (if_pos hi).trans hr⟩

theorem eq_of_id_eq (hr : r ∈ t.rows) (hs : s ∈ t.rows) (h : Row.id r = Row.id s) : r = s :=
  List.inj_on_of_nodup_map t.nodup hr hs h

lemma exists_split (hr : r ∈ t.rows) : ∃ as bs, t.rows = as ++ r :: bs ∧
    (∀ s ∈ as, Row.id s ≠ Row.id r) ∧ ∀ s ∈ bs, Row.id s ≠ Row.id r := by
  obtain ⟨as, bs, h⟩ := List.append_of_mem hr
  have hnodup := t.nodup
  rw [h, List.map_append, List.nodup_append, List.map_cons, List.nodup_cons] at hnodup
  obtain ⟨-, ⟨hr', -⟩, hne⟩ := hnodup
  refine ⟨as, bs, h, fun s hs => ?_, fun s hs heq => ?_⟩
  · exact hne _ (List.mem_map_of_mem hs) _ List.mem_cons_self
  · exact hr' (heq ▸ List.mem_map_of_mem hs)

lemma get?_eq_some : t.get? i = some r ↔ r ∈ t.rows ∧ Row.id r = i := by
  constructor
  · intro h
    exact ⟨List.mem_of_find?_eq_some h, by simpa using List.find?_some h⟩
  · rintro ⟨hr, rfl⟩
    obtain ⟨as, bs, h, has, -⟩ := exists_split hr
    rw [get?, List.find?_eq_some_iff_append]
    exact ⟨by simp, as, bs, h, fun a ha => by simpa using has a ha⟩

/-- The row with an identifier, after a change that keeps the identifiers. -/
lemma get?_map {h : ∀ r, Row.id (g r) = Row.id r} : (t.map g h).get? i = (t.get? i).map g := by
  show (t.rows.map g).find? (Row.id · = i) = (t.rows.find? (Row.id · = i)).map g
  rw [List.find?_map]
  simp only [Function.comp_def, h]

lemma get?_update_self {h : ∀ r, Row.id (g r) = Row.id r} (hr : t.get? i = some r) :
    (t.update i g h).get? i = some (g r) := by
  rw [update, get?_map, hr, Option.map_some, if_pos (get?_eq_some.mp hr).2]

lemma get?_update_ne {h : ∀ r, Row.id (g r) = Row.id r} {j : ℕ} (hne : j ≠ i) :
    (t.update i g h).get? j = t.get? j := by
  rw [update, get?_map]
  cases hr : t.get? j with
  | none => rfl
  | some r => rw [Option.map_some, if_neg fun hi => hne ((get?_eq_some.mp hr).2.symm.trans hi)]

lemma get?_insert_self {h : ∀ i, Row.id (f i) = i} :
    (t.insert f h).get? t.next = some (f t.next) :=
  get?_eq_some.mpr ⟨mem_insert.mpr (.inr rfl), h _⟩

lemma get?_insert_of_ne {h : ∀ i, Row.id (f i) = i} (hi : i ≠ t.next) :
    (t.insert f h).get? i = t.get? i := by
  show (t.rows ++ [f t.next]).find? _ = t.rows.find? _
  rw [List.find?_append, List.find?_singleton, if_neg, Option.or_none]
  rw [h]
  exact fun heq => hi (of_decide_eq_true heq).symm

/-- An identifier that is used is below the next one. -/
lemma lt_next_of_get? (hr : t.get? i = some r) : i < t.next :=
  (get?_eq_some.mp hr).2 ▸ t.fresh r (get?_eq_some.mp hr).1

lemma get?_insert_of_some {h : ∀ i, Row.id (f i) = i} (hr : t.get? i = some r) :
    (t.insert f h).get? i = some r := by
  rw [get?_insert_of_ne (lt_next_of_get? hr).ne, hr]

/-- A change that changes no row changes nothing. -/
lemma map_eq_self {h : ∀ r, Row.id (g r) = Row.id r} (hg : ∀ r ∈ t.rows, g r = r) :
    t.map g h = t := by
  have hrows : t.rows.map g = t.rows := by
    rw [List.map_congr_left hg, List.map_id']
  cases t
  simp only [map] at hrows ⊢
  congr

lemma ext_rows {t t' : Table α} (hrows : t.rows = t'.rows) (hnext : t.next = t'.next) : t = t' := by
  cases t
  cases t'
  simp only at hrows hnext
  subst hrows hnext
  rfl

lemma update_eq_self {h : ∀ r, Row.id (g r) = Row.id r} (hr : t.get? i = some r) (hg : g r = r) :
    t.update i g h = t := by
  obtain ⟨hmem, hid⟩ := get?_eq_some.mp hr
  refine map_eq_self fun s hs => ?_
  split_ifs with hi
  · rw [eq_of_id_eq hs hmem (hi.trans hid.symm), hg]
  · rfl

lemma rows_update_insert {h : ∀ i, Row.id (f i) = i} {h' : ∀ r, Row.id (g r) = Row.id r} :
    ((t.insert f h).update t.next g h').rows = t.rows ++ [g (f t.next)] := by
  show (t.rows ++ [f t.next]).map (fun r => if Row.id r = t.next then g r else r) = _
  rw [List.map_append, List.map_singleton, if_pos (h _)]
  congr 1
  refine (List.map_congr_left fun r hr => ?_).trans (List.map_id' _)
  rw [if_neg (t.fresh r hr).ne]

end Rows

variable {α M : Type*} [Row α] [AddCommGroup M] {t : Table α} {f : α → M} {r : α}

/-- The sum of a quantity over the rows. -/
def total (t : Table α) (f : α → M) : M := (t.rows.map f).sum

lemma total_insert {g : ℕ → α} {h : ∀ i, Row.id (g i) = i} :
    (t.insert g h).total f = t.total f + f (g t.next) := by
  simp [total, insert]

/-- A change of one row exchanges its quantity. -/
lemma total_map_of_ne {g : α → α} {h : ∀ r, Row.id (g r) = Row.id r} (hr : r ∈ t.rows)
    (hg : ∀ s ∈ t.rows, Row.id s ≠ Row.id r → g s = s) :
    (t.map g h).total f = t.total f - f r + f (g r) := by
  obtain ⟨as, bs, hrows, has, hbs⟩ := exists_split hr
  have hkeep : ∀ l : List α, (∀ s ∈ l, s ∈ t.rows) → (∀ s ∈ l, Row.id s ≠ Row.id r) →
      (l.map g).map f = l.map f := by
    intro l hmem hl
    rw [List.map_map]
    exact List.map_congr_left fun s hs => congrArg f (hg s (hmem s hs) (hl s hs))
  have hmap : (t.map g h).rows.map f = as.map f ++ f (g r) :: bs.map f := by
    show (t.rows.map g).map f = _
    rw [hrows, List.map_append, List.map_append, List.map_cons, List.map_cons,
      hkeep as (fun s hs => hrows ▸ List.mem_append_left _ hs) has,
      hkeep bs (fun s hs => hrows ▸ List.mem_append_right _ (List.mem_cons_of_mem _ hs)) hbs]
  rw [total, total, hmap, hrows, List.map_append, List.map_cons]
  simp only [List.sum_append, List.sum_cons]
  abel

lemma total_update {g : α → α} {h : ∀ r, Row.id (g r) = Row.id r} (hr : r ∈ t.rows) :
    (t.update (Row.id r) g h).total f = t.total f - f r + f (g r) := by
  rw [update, total_map_of_ne hr fun s _ hs => if_neg hs, if_pos rfl]

/-- Leaving a row out takes its quantity away. -/
lemma total_filter_ne (hr : r ∈ t.rows) :
    (t.filter fun s => Row.id s ≠ Row.id r).total f = t.total f - f r := by
  obtain ⟨as, bs, hrows, has, hbs⟩ := exists_split hr
  have hkeep : ∀ l : List α, (∀ s ∈ l, Row.id s ≠ Row.id r) →
      l.filter (fun s => decide (Row.id s ≠ Row.id r)) = l :=
    fun l hl => List.filter_eq_self.mpr fun s hs => decide_eq_true (hl s hs)
  have hfilter : (t.filter fun s => Row.id s ≠ Row.id r).rows = as ++ bs := by
    show t.rows.filter (fun s => decide (Row.id s ≠ Row.id r)) = _
    rw [hrows, List.filter_append, List.filter_cons_of_neg (by simp), hkeep as has, hkeep bs hbs]
  rw [total, total, hfilter, hrows, List.map_append, List.map_append, List.map_cons]
  simp only [List.sum_append, List.sum_cons]
  abel

/-- Leaving two rows out takes both quantities away. -/
lemma total_filter_ne_ne {s : α} (hr : r ∈ t.rows) (hs : s ∈ t.rows)
    (hne : Row.id s ≠ Row.id r) :
    (t.filter fun x => Row.id x ≠ Row.id r ∧ Row.id x ≠ Row.id s).total f
      = t.total f - f r - f s := by
  have hmem : s ∈ (t.filter fun x => Row.id x ≠ Row.id r).rows :=
    List.mem_filter.mpr ⟨hs, decide_eq_true hne⟩
  have htwice : (t.filter fun x => Row.id x ≠ Row.id r ∧ Row.id x ≠ Row.id s).rows
      = ((t.filter fun x => Row.id x ≠ Row.id r).filter fun x => Row.id x ≠ Row.id s).rows := by
    show t.rows.filter _ = (t.rows.filter _).filter _
    rw [List.filter_filter]
    refine List.filter_congr fun x _ => ?_
    rw [Bool.decide_and, Bool.and_comm]
  rw [total, htwice, ← total, total_filter_ne hmem, total_filter_ne hr]

end Table

end Store
