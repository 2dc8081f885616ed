import Mathlib.Data.Finset.Card

/-!
# Breadth-first search

A queue of elements with the depth they were found at, over an adjacency given by lists.  The
elements found are those that the roots reach, each with the length of a shortest walk to it.
-/

namespace BreadthFirst

universe u

open Relation

variable {α : Type u}

/-- A walk of a relation, with its length. -/
inductive Walk (r : α → α → Prop) : ℕ → α → α → Prop
  | refl {x : α} : Walk r 0 x x
  | tail {k : ℕ} {x y z : α} : Walk r k x y → r y z → Walk r (k + 1) x z

namespace Walk

variable {r : α → α → Prop} {k m : ℕ} {x y z : α}

lemma trans (hxy : Walk r k x y) (hyz : Walk r m y z) : Walk r (k + m) x z := by
  induction hyz with
  | refl => exact hxy
  | tail _ hstep ih => exact .tail (ih hxy) hstep

lemma single (h : r x y) : Walk r 1 x y := .tail .refl h

/-- A walk that a symmetric relation allows, it allows backwards. -/
lemma reverse (hsymm : ∀ a b, r a b → r b a) (h : Walk r k x y) : Walk r k y x := by
  induction h with
  | refl => exact .refl
  | @tail k _ _ _ _ hstep ih =>
    rw [Nat.add_comm]
    exact (single (hsymm _ _ hstep)).trans ih

lemma reflTransGen (h : Walk r k x y) : ReflTransGen r x y := by
  induction h with
  | refl => exact .refl
  | tail _ hstep ih => exact ih.tail hstep

end Walk

lemma exists_walk {r : α → α → Prop} {x y : α} (h : ReflTransGen r x y) : ∃ k, Walk r k x y := by
  induction h with
  | refl => exact ⟨0, .refl⟩
  | tail _ hstep ih =>
    obtain ⟨k, hwalk⟩ := ih
    exact ⟨k + 1, hwalk.tail hstep⟩

def Next (next : α → List α) (x y : α) : Prop := y ∈ next x

/-- A root reaches the element in so many steps. -/
def Reached (next : α → List α) (roots : List α) (k : ℕ) (x : α) : Prop :=
  ∃ root ∈ roots, Walk (Next next) k root x

/-- The least number of steps in which a root reaches the element. -/
def Depth (next : α → List α) (roots : List α) (x : α) (d : ℕ) : Prop :=
  Reached next roots d x ∧ ∀ k, Reached next roots k x → d ≤ k

/-- What the search knows between two visits. -/
structure Sweep (next : α → List α) (roots : List α) (queue found : List (α × ℕ)) : Prop where
  reached : ∀ p ∈ found, Reached next roots p.2 p.1
  unique : ∀ p ∈ found, ∀ q ∈ found, p.1 = q.1 → p.2 = q.2
  listed : ∀ p ∈ queue, p ∈ found
  sorted : queue.Pairwise fun p q => p.2 ≤ q.2
  near : ∀ p ∈ found, ∀ q ∈ queue, p.2 ≤ q.2 + 1
  rooted : ∀ x ∈ roots, (x, 0) ∈ found
  closed : ∀ p ∈ found, p ∈ queue ∨ ∀ y ∈ next p.1, ∃ e ≤ p.2 + 1, (y, e) ∈ found

section Sweep

variable {next : α → List α} {roots : List α} {found : List (α × ℕ)} {x : α} {d : ℕ}

lemma sweep_start : Sweep next roots (roots.map (·, 0)) (roots.map (·, 0)) := by
  have hzero : ∀ p ∈ roots.map (fun x => (x, 0)), p.2 = 0 ∧ p.1 ∈ roots := by
    intro p hp
    obtain ⟨x, hx, rfl⟩ := List.mem_map.mp hp
    exact ⟨rfl, hx⟩
  refine ⟨fun p hp => ?_, fun p hp q hq _ => ?_, fun _ hp => hp, ?_, fun p hp q _ => ?_,
    fun x hx => List.mem_map_of_mem hx, fun p hp => .inl hp⟩
  · rw [(hzero p hp).1]
    exact ⟨p.1, (hzero p hp).2, .refl⟩
  · rw [(hzero p hp).1, (hzero q hq).1]
  · refine List.pairwise_map.mpr (List.pairwise_of_forall fun _ _ => le_rfl)
  · rw [(hzero p hp).1]
    exact Nat.zero_le _

/-- Once the queue is empty, everything reached is found, no deeper than it was reached. -/
lemma Sweep.complete (h : Sweep next roots [] found) {k : ℕ} {root : α} (hroot : root ∈ roots)
    (hwalk : Walk (Next next) k root x) : ∃ e ≤ k, (x, e) ∈ found := by
  induction hwalk with
  | refl => exact ⟨0, le_rfl, h.rooted _ hroot⟩
  | tail _ hstep ih =>
    obtain ⟨e, he, hmem⟩ := ih hroot
    rcases h.closed _ hmem with hqueue | hclosed
    · exact absurd hqueue List.not_mem_nil
    · obtain ⟨e', he', hmem'⟩ := hclosed _ hstep
      exact ⟨e', he'.trans (Nat.succ_le_succ he), hmem'⟩

lemma Sweep.mem_iff (h : Sweep next roots [] found) : (x, d) ∈ found ↔ Depth next roots x d := by
  constructor
  · intro hmem
    refine ⟨h.reached _ hmem, fun k ⟨root, hroot, hwalk⟩ => ?_⟩
    obtain ⟨e, he, hmem'⟩ := h.complete hroot hwalk
    exact (h.unique _ hmem _ hmem' rfl).le.trans he
  · rintro ⟨⟨root, hroot, hwalk⟩, hleast⟩
    obtain ⟨e, he, hmem⟩ := h.complete hroot hwalk
    obtain rfl : d = e := le_antisymm (hleast e (h.reached _ hmem)) he
    exact hmem

end Sweep

variable [DecidableEq α]

/-- Note the neighbours that are new, and queue them. -/
def visit (depth : ℕ) : List α → List (α × ℕ) → List (α × ℕ) → List (α × ℕ) × List (α × ℕ)
  | [], queue, found => (queue, found)
  | y :: ys, queue, found =>
    if y ∈ found.map Prod.fst then visit depth ys queue found
    else visit depth ys (queue ++ [(y, depth)]) (found ++ [(y, depth)])

/-- Work through the queue. -/
def search (next : α → List α) : ℕ → List (α × ℕ) → List (α × ℕ) → List (α × ℕ)
  | 0, _, found => found
  | _ + 1, [], found => found
  | fuel + 1, (x, depth) :: queue, found =>
    let visited := visit (depth + 1) (next x) queue found
    search next fuel visited.1 visited.2

/-- The elements that the roots reach, each with its depth. -/
def searchFrom (next : α → List α) (fuel : ℕ) (roots : List α) : List (α × ℕ) :=
  search next fuel (roots.map (·, 0)) (roots.map (·, 0))

lemma visit_eq (depth : ℕ) : ∀ (ys : List α) (queue found : List (α × ℕ)), ∃ fresh : List α,
    visit depth ys queue found = (queue ++ fresh.map (·, depth), found ++ fresh.map (·, depth)) ∧
      fresh.Nodup ∧ (∀ y ∈ fresh, y ∈ ys ∧ y ∉ found.map Prod.fst) ∧
      ∀ y ∈ ys, y ∈ found.map Prod.fst ∨ y ∈ fresh
  | [], queue, found => ⟨[], by simp [visit], List.nodup_nil, by simp, by simp⟩
  | y :: ys, queue, found => by
    by_cases hy : y ∈ found.map Prod.fst
    · obtain ⟨fresh, heq, hnodup, hfresh, hall⟩ := visit_eq depth ys queue found
      refine ⟨fresh, by rw [visit, if_pos hy, heq], hnodup, fun z hz => ?_, fun z hz => ?_⟩
      · exact ⟨List.mem_cons_of_mem y (hfresh z hz).1, (hfresh z hz).2⟩
      · rcases List.mem_cons.mp hz with rfl | hz
        · exact .inl hy
        · exact hall z hz
    · obtain ⟨fresh, heq, hnodup, hfresh, hall⟩ :=
        visit_eq depth ys (queue ++ [(y, depth)]) (found ++ [(y, depth)])
      have hkeys : (found ++ [(y, depth)]).map Prod.fst = found.map Prod.fst ++ [y] := by
        rw [List.map_append, List.map_singleton]
      rw [hkeys] at hfresh hall
      refine ⟨y :: fresh, ?_, ?_, fun z hz => ?_, fun z hz => ?_⟩
      · rw [visit, if_neg hy, heq]
        simp
      · refine List.nodup_cons.mpr ⟨fun hmem => ?_, hnodup⟩
        exact (hfresh y hmem).2 (List.mem_append_right _ List.mem_cons_self)
      · rcases List.mem_cons.mp hz with rfl | hz
        · exact ⟨List.mem_cons_self, hy⟩
        · obtain ⟨hmem, hnew⟩ := hfresh z hz
          exact ⟨List.mem_cons_of_mem y hmem, fun h => hnew (List.mem_append_left _ h)⟩
      · rcases List.mem_cons.mp hz with rfl | hz
        · exact .inr List.mem_cons_self
        · rcases hall z hz with h | h
          · rcases List.mem_append.mp h with h | h
            · exact .inl h
            · exact .inr (List.mem_cons.mpr (.inl (List.mem_singleton.mp h)))
          · exact .inr (List.mem_cons_of_mem y h)

section Sweep

variable {next : α → List α} {roots : List α} {queue found : List (α × ℕ)} {x : α} {d : ℕ}

lemma Sweep.visit (h : Sweep next roots ((x, d) :: queue) found) :
    Sweep next roots (visit (d + 1) (next x) queue found).1
      (visit (d + 1) (next x) queue found).2 := by
  obtain ⟨fresh, heq, -, hfresh, hall⟩ := visit_eq (d + 1) (next x) queue found
  rw [heq]
  have hhead : (x, d) ∈ found := h.listed _ List.mem_cons_self
  have htail : ∀ q ∈ queue, q ∈ found := fun q hq => h.listed q (List.mem_cons_of_mem _ hq)
  obtain ⟨hlower, hsorted⟩ := List.pairwise_cons.mp h.sorted
  have hupper : ∀ p ∈ found, p.2 ≤ d + 1 := fun p hp => h.near p hp _ List.mem_cons_self
  have hnew : ∀ p ∈ fresh.map (·, d + 1), p.1 ∈ fresh ∧ p.2 = d + 1 := by
    intro p hp
    obtain ⟨y, hy, rfl⟩ := List.mem_map.mp hp
    exact ⟨hy, rfl⟩
  have hapart : ∀ p ∈ found, ∀ q ∈ fresh.map (·, d + 1), p.1 ≠ q.1 := by
    intro p hp q hq heq
    exact (hfresh q.1 (hnew q hq).1).2 (heq ▸ List.mem_map_of_mem hp)
  constructor
  · intro p hp
    rcases List.mem_append.mp hp with hp | hp
    · exact h.reached p hp
    · obtain ⟨root, hroot, hwalk⟩ := h.reached _ hhead
      rw [(hnew p hp).2]
      exact ⟨root, hroot, hwalk.tail (hfresh p.1 (hnew p hp).1).1⟩
  · intro p hp q hq hkey
    rcases List.mem_append.mp hp with hp | hp <;> rcases List.mem_append.mp hq with hq | hq
    · exact h.unique p hp q hq hkey
    · exact absurd hkey (hapart p hp q hq)
    · exact absurd hkey.symm (hapart q hq p hp)
    · rw [(hnew p hp).2, (hnew q hq).2]
  · intro p hp
    rcases List.mem_append.mp hp with hp | hp
    · exact List.mem_append_left _ (htail p hp)
    · exact List.mem_append_right _ hp
  · refine List.pairwise_append.mpr ⟨hsorted, ?_, fun p hp q hq => ?_⟩
    · exact List.pairwise_map.mpr (List.pairwise_of_forall fun _ _ => le_rfl)
    · rw [(hnew q hq).2]
      exact hupper p (htail p hp)
  · intro p hp q hq
    have hle : p.2 ≤ d + 1 := by
      rcases List.mem_append.mp hp with hp | hp
      · exact hupper p hp
      · exact (hnew p hp).2.le
    rcases List.mem_append.mp hq with hq | hq
    · exact hle.trans (Nat.succ_le_succ (hlower q hq))
    · rw [(hnew q hq).2]
      exact hle.trans (Nat.le_succ _)
  · exact fun y hy => List.mem_append_left _ (h.rooted y hy)
  · intro p hp
    rcases List.mem_append.mp hp with hp | hp
    · rcases h.closed p hp with hqueue | hclosed
      · rcases List.mem_cons.mp hqueue with rfl | hqueue
        · right
          intro y hy
          rcases hall y hy with hy | hy
          · obtain ⟨q, hq, rfl⟩ := List.mem_map.mp hy
            exact ⟨q.2, hupper q hq, List.mem_append_left _ hq⟩
          · exact ⟨d + 1, le_rfl, List.mem_append_right _ (List.mem_map_of_mem hy)⟩
        · exact .inl (List.mem_append_left _ hqueue)
      · right
        intro y hy
        obtain ⟨e, he, hmem⟩ := hclosed y hy
        exact ⟨e, he, List.mem_append_left _ hmem⟩
    · exact .inl (List.mem_append_right _ hp)

def work (nodes : Finset α) (queue found : List (α × ℕ)) : ℕ :=
  queue.length + (nodes \ (found.map Prod.fst).toFinset).card

lemma work_visit {nodes : Finset α} (hnodes : ∀ y ∈ next x, y ∈ nodes) :
    work nodes (visit (d + 1) (next x) queue found).1 (visit (d + 1) (next x) queue found).2 <
      work nodes ((x, d) :: queue) found := by
  obtain ⟨fresh, heq, hnodup, hfresh, -⟩ := visit_eq (d + 1) (next x) queue found
  have hkeys : ((found ++ fresh.map (·, d + 1)).map Prod.fst).toFinset =
      (found.map Prod.fst).toFinset ∪ fresh.toFinset := by
    simp [List.toFinset_append, Function.comp_def]
  have hsub : fresh.toFinset ⊆ nodes \ (found.map Prod.fst).toFinset := by
    intro y hy
    obtain ⟨hmem, hnew⟩ := hfresh y (List.mem_toFinset.mp hy)
    exact Finset.mem_sdiff.mpr ⟨hnodes y hmem, fun h => hnew (List.mem_toFinset.mp h)⟩
  have hcard : (nodes \ ((found.map Prod.fst).toFinset ∪ fresh.toFinset)).card + fresh.length =
      (nodes \ (found.map Prod.fst).toFinset).card := by
    have hsplit : nodes \ ((found.map Prod.fst).toFinset ∪ fresh.toFinset) =
        (nodes \ (found.map Prod.fst).toFinset) \ fresh.toFinset := sdiff_sdiff_left.symm
    rw [hsplit, ← List.toFinset_card_of_nodup hnodup]
    exact Finset.card_sdiff_add_card_eq_card hsub
  rw [heq, work, work, hkeys]
  simp only [List.length_append, List.length_map, List.length_cons]
  omega

lemma Sweep.search {nodes : Finset α} (hnodes : ∀ x, ∀ y ∈ next x, y ∈ nodes) :
    ∀ (fuel : ℕ) (queue found : List (α × ℕ)), work nodes queue found ≤ fuel →
      Sweep next roots queue found → Sweep next roots [] (search next fuel queue found)
  | 0, queue, found, hfuel, h => by
    have hnil : queue = [] := List.eq_nil_of_length_eq_zero (by unfold work at hfuel; omega)
    exact hnil ▸ h
  | _ + 1, [], found, _, h => h
  | fuel + 1, (x, d) :: queue, found, hfuel, h => by
    have hless := @work_visit _ _ next queue found x d nodes (hnodes x)
    exact Sweep.search hnodes fuel _ _ (by omega) h.visit

lemma lookup_eq_some_iff (hunique : ∀ p ∈ found, ∀ q ∈ found, p.1 = q.1 → p.2 = q.2) :
    found.lookup x = some d ↔ (x, d) ∈ found := by
  constructor
  · intro hlookup
    obtain ⟨before, after, rfl, -⟩ := List.lookup_eq_some_iff.mp hlookup
    exact List.mem_append_right _ List.mem_cons_self
  · intro hmem
    cases hlookup : found.lookup x with
    | none => exact absurd (List.lookup_eq_none_iff.mp hlookup _ hmem) (by simp)
    | some e =>
      obtain ⟨before, after, heq, -⟩ := List.lookup_eq_some_iff.mp hlookup
      have hmem' : (x, e) ∈ found := heq ▸ List.mem_append_right _ List.mem_cons_self
      exact congrArg some (hunique _ hmem' _ hmem rfl)

end Sweep

/-- Fuel for a search whose elements are all among `nodes`. -/
def enough (nodes : Finset α) (roots : List α) : ℕ := roots.length + nodes.card

variable {next : α → List α} {nodes : Finset α} {roots : List α} {x : α} {d : ℕ}

lemma sweep_searchFrom (hnodes : ∀ x, ∀ y ∈ next x, y ∈ nodes) :
    Sweep next roots [] (searchFrom next (enough nodes roots) roots) := by
  refine Sweep.search hnodes _ _ _ ?_ sweep_start
  rw [work, enough, List.length_map]
  exact Nat.add_le_add_left (Finset.card_le_card Finset.sdiff_subset) _

/-- **The depths that are found are the least.** -/
theorem lookup_searchFrom (hnodes : ∀ x, ∀ y ∈ next x, y ∈ nodes) :
    (searchFrom next (enough nodes roots) roots).lookup x = some d ↔ Depth next roots x d :=
  (lookup_eq_some_iff (sweep_searchFrom hnodes).unique).trans (sweep_searchFrom hnodes).mem_iff

/-- **The elements that are found are those the roots reach.** -/
theorem mem_searchFrom (hnodes : ∀ x, ∀ y ∈ next x, y ∈ nodes) :
    x ∈ (searchFrom next (enough nodes roots) roots).map Prod.fst ↔
      ∃ root ∈ roots, ReflTransGen (Next next) root x := by
  have hsweep : Sweep next roots [] _ := sweep_searchFrom hnodes
  constructor
  · intro hmem
    obtain ⟨p, hp, rfl⟩ := List.mem_map.mp hmem
    obtain ⟨root, hroot, hwalk⟩ := hsweep.reached p hp
    exact ⟨root, hroot, hwalk.reflTransGen⟩
  · rintro ⟨root, hroot, hreach⟩
    obtain ⟨k, hwalk⟩ := exists_walk hreach
    obtain ⟨e, -, hmem⟩ := hsweep.complete hroot hwalk
    exact List.mem_map_of_mem (f := Prod.fst) hmem

end BreadthFirst
