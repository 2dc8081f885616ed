import DotmacSub.Core.BreadthFirst
import DotmacSub.Core.Cycles

/-!
# Cycles by depth-first search

A walk over the successors of an element that reports a cycle once it meets an element of its own
path.  The elements seen and the path are kept in one state, which every call passes on.
-/

namespace DepthFirst

open Relation Cycles

open BreadthFirst (Next)

universe u

variable {α : Type u} [DecidableEq α]

structure Seen (α : Type u) where
  visited : Finset α
  stack : Finset α

def unseen : Seen α := ⟨∅, ∅⟩

def anySeen (call : α → Seen α → Bool × Seen α) : List α → Seen α → Bool × Seen α
  | [], seen => (false, seen)
  | x :: xs, seen =>
    match call x seen with
    | (true, seen) => (true, seen)
    | (false, seen) => anySeen call xs seen

/-- Search from an element; without fuel a cycle is reported. -/
def walk (next : α → List α) : ℕ → α → Seen α → Bool × Seen α
  | 0, _, seen => (true, seen)
  | fuel + 1, x, seen =>
    if x ∈ seen.stack then (true, seen)
    else if x ∈ seen.visited then (false, seen)
    else
      let found := anySeen (walk next fuel) (next x) ⟨insert x seen.visited, insert x seen.stack⟩
      if found.1 then found else (false, { found.2 with stack := found.2.stack.erase x })

section AnySeen

variable {call : α → Seen α → Bool × Seen α} {p : Seen α → Prop}

omit [DecidableEq α] in
/-- What a call that reports nothing keeps and adds, all of them together do. -/
lemma anySeen_false {q : α → Seen α → Prop}
    (hcall : ∀ x s, p s → (call x s).1 = false → p (call x s).2 ∧ q x (call x s).2)
    (hlater : ∀ x y s, p s → q x s → (call y s).1 = false → q x (call y s).2) :
    ∀ (xs : List α) (s : Seen α), p s → (anySeen call xs s).1 = false →
      p (anySeen call xs s).2 ∧ (∀ x ∈ xs, q x (anySeen call xs s).2) ∧
        ∀ x, q x s → q x (anySeen call xs s).2
  | [], s, hs, _ => ⟨hs, fun _ h => absurd h List.not_mem_nil, fun _ h => h⟩
  | x :: xs, s, hs, h => by
    simp only [anySeen] at h ⊢
    split at h
    · exact absurd h (by simp)
    next seen heq =>
      have hfalse : (call x s).1 = false := by rw [heq]
      obtain ⟨hseen, hx⟩ := hcall x s hs hfalse
      rw [heq] at hseen hx
      obtain ⟨hp, hxs, hkeep⟩ := anySeen_false hcall hlater xs seen hseen h
      refine ⟨hp, fun y hy => ?_, fun y hy => hkeep y ?_⟩
      · rcases List.mem_cons.mp hy with rfl | hy
        · exact hkeep y hx
        · exact hxs y hy
      · have hlate := hlater y x s hs hy hfalse
        rwa [heq] at hlate

omit [DecidableEq α] in
/-- A report comes from one of the calls, in a state that the calls before it keep. -/
lemma anySeen_true (hcall : ∀ x s, p s → (call x s).1 = false → p (call x s).2) :
    ∀ (xs : List α) (s : Seen α), p s → (anySeen call xs s).1 = true →
      ∃ x ∈ xs, ∃ s, p s ∧ (call x s).1 = true
  | [], s, _, h => absurd h (by simp [anySeen])
  | x :: xs, s, hs, h => by
    simp only [anySeen] at h
    split at h
    next seen heq => exact ⟨x, List.mem_cons_self, s, hs, by rw [heq]⟩
    next seen heq =>
      have hseen := hcall x s hs (by rw [heq])
      rw [heq] at hseen
      obtain ⟨y, hy, hrest⟩ := anySeen_true hcall xs seen hseen h
      exact ⟨y, List.mem_cons_of_mem x hy, hrest⟩

end AnySeen

variable {next : α → List α}

def Behind (s : Seen α) (x : α) : Prop := x ∈ s.visited ∧ x ∉ s.stack

/-- What is behind the search has its successors behind it, and lies on no cycle. -/
structure Proper (next : α → List α) (s : Seen α) : Prop where
  path : s.stack ⊆ s.visited
  closed : ∀ x, Behind s x → ∀ y ∈ next x, Behind s y
  acyclic : ∀ x, Behind s x → ¬ TransGen (Next next) x x

omit [DecidableEq α] in
lemma Proper.reached {s : Seen α} (h : Proper next s) {x y : α} (hx : Behind s x)
    (hxy : ReflTransGen (Next next) x y) : Behind s y := by
  induction hxy with
  | refl => exact hx
  | tail _ hstep ih => exact h.closed _ ih _ hstep

/-- Once the successors of an element are behind, it can be left behind. -/
lemma Proper.leave {s : Seen α} (h : Proper next s) {x : α} (hx : x ∈ s.stack)
    (hnext : ∀ y ∈ next x, Behind s y) : Proper next { s with stack := s.stack.erase x } := by
  have hcases : ∀ y, Behind { s with stack := s.stack.erase x } y → y = x ∨ Behind s y := by
    rintro y ⟨hvisited, hstack⟩
    by_cases heq : y = x
    · exact .inl heq
    · exact .inr ⟨hvisited, fun hmem => hstack (Finset.mem_erase.mpr ⟨heq, hmem⟩)⟩
  have hmono : ∀ y, Behind s y → Behind { s with stack := s.stack.erase x } y :=
    fun y hy => ⟨hy.1, fun hmem => hy.2 (Finset.mem_of_mem_erase hmem)⟩
  refine ⟨(Finset.erase_subset _ _).trans h.path, fun y hy z hz => ?_, fun y hy hcycle => ?_⟩
  · rcases hcases y hy with rfl | hy
    · exact hmono z (hnext z hz)
    · exact hmono z (h.closed y hy z hz)
  · rcases hcases y hy with rfl | hy
    · obtain ⟨z, hstep, hback⟩ := TransGen.head'_iff.mp hcycle
      exact (h.reached (hnext z hstep) hback).2 hx
    · exact h.acyclic y hy hcycle

/-- An element that is entered is not behind yet. -/
lemma Proper.enter {s : Seen α} (h : Proper next s) {x : α} (hx : x ∉ s.visited) :
    Proper next ⟨insert x s.visited, insert x s.stack⟩ := by
  have hcases : ∀ y, Behind ⟨insert x s.visited, insert x s.stack⟩ y ↔ Behind s y := by
    intro y
    simp only [Behind, Finset.mem_insert, not_or]
    constructor
    · rintro ⟨rfl | hy, hne, hnot⟩
      · exact absurd rfl hne
      · exact ⟨hy, hnot⟩
    · rintro ⟨hy, hnot⟩
      exact ⟨.inr hy, fun heq => hx (heq ▸ hy), hnot⟩
  refine ⟨Finset.insert_subset_insert x h.path, fun y hy z hz => ?_, fun y hy => ?_⟩
  · exact (hcases z).mpr (h.closed y ((hcases y).mp hy) z hz)
  · exact h.acyclic y ((hcases y).mp hy)

/-- What the calls for the successors of `x` keep while `x` is on the path. -/
structure Below (next : α → List α) (x : α) (s t : Seen α) : Prop where
  proper : Proper next t
  path : t.stack = insert x s.stack
  grown : insert x s.visited ⊆ t.visited

lemma below_enter {s : Seen α} (h : Proper next s) {x : α} (hx : x ∉ s.visited) :
    Below next x s ⟨insert x s.visited, insert x s.stack⟩ :=
  ⟨h.enter hx, rfl, subset_rfl⟩

/-- **A search that reports nothing** leaves its element behind and the path as it was. -/
theorem walk_false : ∀ (fuel : ℕ) (x : α) (s : Seen α), Proper next s →
    (walk next fuel x s).1 = false →
      Proper next (walk next fuel x s).2 ∧ (walk next fuel x s).2.stack = s.stack ∧
        s.visited ⊆ (walk next fuel x s).2.visited ∧ Behind (walk next fuel x s).2 x
  | 0, _, _, _, h => absurd h (by simp [walk])
  | fuel + 1, x, s, hs, h => by
    simp only [walk] at h ⊢
    split_ifs at h ⊢ with hstack hvisited hfound
    · exact ⟨hs, rfl, subset_rfl, hvisited, hstack⟩
    · exact absurd (hfound.symm.trans h) (by simp)
    · rw [Bool.not_eq_true] at hfound
      obtain ⟨hbelow, hnext, -⟩ := @anySeen_false α (walk next fuel) (Below next x s)
        (fun y t => Behind t y) (fun y t ht hfalse => by
          obtain ⟨hproper, hpath, hgrown, hbehind⟩ := walk_false fuel y t ht.proper hfalse
          exact ⟨⟨hproper, hpath.trans ht.path, ht.grown.trans hgrown⟩, hbehind⟩)
        (fun y z t ht hbehind hfalse => by
          obtain ⟨-, hpath, hgrown, -⟩ := walk_false fuel z t ht.proper hfalse
          exact ⟨hgrown hbehind.1, by rw [hpath]; exact hbehind.2⟩)
        (next x) _ (below_enter hs hvisited) hfound
      have hentered : x ∈ insert x s.visited := Finset.mem_insert_self x _
      refine ⟨hbelow.proper.leave ?_ hnext, ?_, ?_, ?_, ?_⟩
      · rw [hbelow.path]
        exact Finset.mem_insert_self x _
      · show Finset.erase _ x = s.stack
        rw [hbelow.path, Finset.erase_insert hstack]
      · exact (Finset.subset_insert x _).trans hbelow.grown
      · exact hbelow.grown hentered
      · exact Finset.notMem_erase x _

omit [DecidableEq α] in
lemma proper_unseen : Proper next (unseen : Seen α) := by
  refine ⟨subset_rfl, fun x hx => ?_, fun x hx => ?_⟩
  · exact absurd hx.1 (Finset.notMem_empty x)
  · exact absurd hx.1 (Finset.notMem_empty x)

/-- A search that reports nothing has met no cycle. -/
theorem not_cycle_of_walk {fuel : ℕ} {x : α} (h : (walk next fuel x unseen).1 = false) :
    ¬ TransGen (Next next) x x := by
  obtain ⟨hproper, -, -, hbehind⟩ := walk_false fuel x unseen proper_unseen h
  exact hproper.acyclic x hbehind

/-- **A search with enough fuel** reports only if there is a cycle. -/
theorem exists_cycle_of_walk {nodes : Finset α} (hnodes : ∀ x, ∀ y ∈ next x, y ∈ nodes) :
    ∀ (fuel : ℕ) (x : α) (s : Seen α), Proper next s → (nodes \ s.visited).card < fuel →
      x ∈ nodes → (∀ y ∈ s.stack, TransGen (Next next) y x) → (walk next fuel x s).1 = true →
        ∃ y, TransGen (Next next) y y
  | 0, _, _, _, hfuel, _, _, _ => absurd hfuel (Nat.not_lt_zero _)
  | fuel + 1, x, s, hs, hfuel, hx, hstack, h => by
    simp only [walk] at h
    split_ifs at h with hmem hvisited hfound
    · exact ⟨x, hstack x hmem⟩
    · obtain ⟨y, hy, t, ht, hreport⟩ := @anySeen_true α (walk next fuel) (Below next x s)
        (fun y t ht hfalse => by
          obtain ⟨hproper, hpath, hgrown, -⟩ := walk_false fuel y t ht.proper hfalse
          exact ⟨hproper, hpath.trans ht.path, ht.grown.trans hgrown⟩)
        (next x) _ (below_enter hs hvisited) hfound
      have hless : (nodes \ t.visited).card < (nodes \ s.visited).card := by
        refine Finset.card_lt_card ⟨Finset.sdiff_subset_sdiff subset_rfl ?_, fun hsub => ?_⟩
        · exact (Finset.subset_insert x _).trans ht.grown
        · have hfresh : x ∈ nodes \ t.visited := hsub (Finset.mem_sdiff.mpr ⟨hx, hvisited⟩)
          exact (Finset.mem_sdiff.mp hfresh).2 (ht.grown (Finset.mem_insert_self x _))
      refine exists_cycle_of_walk hnodes fuel y t ht.proper (by omega) (hnodes x y hy) ?_ hreport
      intro z hz
      rw [ht.path] at hz
      rcases Finset.mem_insert.mp hz with rfl | hz
      · exact .single hy
      · exact (hstack z hz).tail hy

/-- Does the search from an element report a cycle? -/
def reports (next : α → List α) (nodes : Finset α) (x : α) : Bool :=
  (walk next (nodes.card + 1) x unseen).1

/-- **The searches from everywhere** report nothing exactly if there is no cycle. -/
theorem forall_reports_iff {nodes : Finset α} (hnodes : ∀ x, ∀ y ∈ next x, y ∈ nodes)
    {starts : List α} (hsub : ∀ x ∈ starts, x ∈ nodes) (hstarts : ∀ x, next x ≠ [] → x ∈ starts) :
    (∀ x ∈ starts, reports next nodes x = false) ↔ Acyclic (Next next) := by
  constructor
  · intro h x hcycle
    obtain ⟨y, hstep, -⟩ := TransGen.head'_iff.mp hcycle
    exact not_cycle_of_walk (h x (hstarts x (List.ne_nil_of_mem hstep))) hcycle
  · intro h x hx
    rw [← Bool.not_eq_true]
    intro hreport
    have hfuel : (nodes \ (unseen : Seen α).visited).card < nodes.card + 1 :=
      Nat.lt_succ_of_le (Finset.card_le_card Finset.sdiff_subset)
    obtain ⟨y, hcycle⟩ := exists_cycle_of_walk hnodes _ x unseen proper_unseen hfuel (hsub x hx)
      (fun y hy => absurd hy (Finset.notMem_empty y)) hreport
    exact h y hcycle

/-- **One search from everywhere**, which remembers what it has seen, reports nothing exactly if
there is no cycle. -/
theorem anySeen_walk_iff {nodes : Finset α} {fuel : ℕ} (hfuel : nodes.card < fuel)
    (hnodes : ∀ x, ∀ y ∈ next x, y ∈ nodes) {starts : List α} (hsub : ∀ x ∈ starts, x ∈ nodes)
    (hstarts : ∀ x, next x ≠ [] → x ∈ starts) :
    (anySeen (walk next fuel) starts unseen).1 = false ↔ Acyclic (Next next) := by
  constructor
  · intro h x hcycle
    obtain ⟨hproper, hbehind, -⟩ := @anySeen_false α (walk next fuel) (Proper next)
      (fun y s => Behind s y) (fun y s hs hfalse => by
        obtain ⟨hproper, -, -, hbehind⟩ := walk_false fuel y s hs hfalse
        exact ⟨hproper, hbehind⟩)
      (fun y z s hs hbehind hfalse => by
        obtain ⟨-, hpath, hgrown, -⟩ := walk_false fuel z s hs hfalse
        exact ⟨hgrown hbehind.1, by rw [hpath]; exact hbehind.2⟩)
      starts unseen proper_unseen h
    obtain ⟨y, hstep, -⟩ := TransGen.head'_iff.mp hcycle
    exact hproper.acyclic x (hbehind x (hstarts x (List.ne_nil_of_mem hstep))) hcycle
  · intro h
    rw [← Bool.not_eq_true]
    intro hreport
    obtain ⟨x, hx, s, ⟨hs, hpath⟩, hfound⟩ :=
      @anySeen_true α (walk next fuel) (fun s => Proper next s ∧ s.stack = ∅)
        (fun y s hs hfalse => by
          obtain ⟨hproper, hpath, -⟩ := walk_false fuel y s hs.1 hfalse
          exact ⟨hproper, hpath.trans hs.2⟩)
        starts unseen ⟨proper_unseen, rfl⟩ hreport
    have hcard : (nodes \ s.visited).card < fuel :=
      lt_of_le_of_lt (Finset.card_le_card Finset.sdiff_subset) hfuel
    obtain ⟨y, hcycle⟩ := exists_cycle_of_walk hnodes fuel x s hs hcard (hsub x hx)
      (fun y hy => absurd (hpath ▸ hy) (Finset.notMem_empty y)) hfound
    exact h y hcycle

end DepthFirst
