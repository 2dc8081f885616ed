import DotmacSub.Core.BreadthFirst

/-!
# Counting the shortest routes

A breadth-first search that also counts, as far as two, the shortest routes to what it finds, and
does not expand what lies as deep as its limit.  Edges have names: parallel ones make two routes.
-/

namespace RouteCounts

open BreadthFirst

universe u v

variable {α : Type u} {ε : Type v}

/-- A route from a root: for each transition the element it leaves and its edge. -/
inductive Route (Step : α → α × ε → Prop) (roots : List α) : List (α × ε) → α → Prop
  | root {x : α} : x ∈ roots → Route Step roots [] x
  | step {route : List (α × ε)} {x y : α} {e : ε} :
      Route Step roots route x → Step x (y, e) → Route Step roots ((x, e) :: route) y

/-- The edges of an element are listed. -/
def Listed (next : α → List (α × ε)) (x : α) (edge : α × ε) : Prop := edge ∈ next x

structure Labels (α : Type u) (ε : Type v) where
  queue : List (α × ℕ)
  distance : List (α × ℕ)
  pathCount : α → ℕ
  predecessor : α → Option (α × ε)

section Search

variable [DecidableEq α]

/-- Look along an edge of `x` to an element that would be at the distance `d`. -/
def note (x : α) (d : ℕ) (s : Labels α ε) (edge : α × ε) : Labels α ε :=
  if edge.1 ∈ s.distance.map Prod.fst then
    if (edge.1, d) ∈ s.distance then
      { s with
        pathCount := Function.update s.pathCount edge.1
          (min 2 (s.pathCount edge.1 + s.pathCount x)) }
    else s
  else
    { queue := s.queue ++ [(edge.1, d)]
      distance := s.distance ++ [(edge.1, d)]
      pathCount := Function.update s.pathCount edge.1 (s.pathCount x)
      predecessor := Function.update s.predecessor edge.1 (some (x, edge.2)) }

def search (next : α → List (α × ε)) (limit : ℕ) : ℕ → Labels α ε → Labels α ε
  | 0, s => s
  | fuel + 1, s =>
    match s.queue with
    | [] => s
    | (x, d) :: queue =>
      if limit ≤ d then search next limit fuel { s with queue }
      else search next limit fuel ((next x).foldl (note x (d + 1)) { s with queue })

def start (roots : List α) : Labels α ε :=
  { queue := roots.map (·, 0)
    distance := roots.map (·, 0)
    pathCount := fun x => if x ∈ roots then 1 else 0
    predecessor := fun _ => none }

end Search

/-- Follow the predecessors back to a root. -/
def trace (predecessor : α → Option (α × ε)) : ℕ → α → List (α × ε)
  | 0, _ => []
  | fuel + 1, y =>
    match predecessor y with
    | none => []
    | some (x, e) => (x, e) :: trace predecessor fuel x

section Expanding

variable {next : α → List (α × ε)} {roots : List α} {Seen Seen' : α → α × ε → Prop}
  {s s' : Labels α ε} {x y : α} {e : ε} {d k : ℕ}

/-- What the labels of an element at a distance say: it is a root, or of the transitions seen that
come from one step nearer there is only its predecessor, with that count, or another one. -/
inductive Labelled (roots : List α) (Seen : α → α × ε → Prop) (s : Labels α ε) (y : α) : ℕ → Prop
  | root : y ∈ roots → s.pathCount y = 1 → Labelled roots Seen s y 0
  | step {x : α} {e : ε} {k : ℕ} : s.predecessor y = some (x, e) → (x, k) ∈ s.distance →
      Seen x (y, e) →
      ((s.pathCount y = s.pathCount x ∧
          ∀ w e', Seen w (y, e') → (w, k) ∈ s.distance → (w, e') = (x, e)) ∨
        (s.pathCount y = 2 ∧
          ∃ w e', Seen w (y, e') ∧ (w, k) ∈ s.distance ∧ (w, e') ≠ (x, e))) →
      Labelled roots Seen s y (k + 1)

/-- The labels of an element depend on what is nearer, and on the transitions seen from there. -/
lemma Labelled.congr (h : Labelled roots Seen s y k)
    (hpredecessor : s'.predecessor y = s.predecessor y) (hcount : s'.pathCount y = s.pathCount y)
    (hnear : ∀ w, ∀ j < k, (w, j) ∈ s.distance → s'.pathCount w = s.pathCount w)
    (hdistance : ∀ w, ∀ j < k, (w, j) ∈ s'.distance ↔ (w, j) ∈ s.distance)
    (hseen : ∀ w e j, j + 1 = k → (w, j) ∈ s.distance → (Seen' w (y, e) ↔ Seen w (y, e))) :
    Labelled roots Seen' s' y k := by
  cases h with
  | root hroot hone => exact .root hroot (hcount.trans hone)
  | @step x e k hsome hx hlast hor =>
    have hk : k < k + 1 := Nat.lt_succ_self k
    refine .step (hpredecessor.trans hsome) ((hdistance x k hk).mpr hx)
      ((hseen x e k rfl hx).mpr hlast) ?_
    rw [hcount, hnear x k hk hx]
    refine hor.imp (.imp_right fun honly w e' hw hmem => ?_) (.imp_right fun hother => ?_)
    · rw [hdistance w k hk] at hmem
      exact honly w e' ((hseen w e' k rfl hmem).mp hw) hmem
    · obtain ⟨w, e', hw, hmem, hne⟩ := hother
      exact ⟨w, e', (hseen w e' k rfl hmem).mpr hw, (hdistance w k hk).mpr hmem, hne⟩

/-- What holds of the labels while the edges of `x`, found at `d`, are noted. -/
structure Expanding (roots : List α) (x : α) (d : ℕ) (Seen : α → α × ε → Prop)
    (s : Labels α ε) : Prop where
  unique : ∀ p ∈ s.distance, ∀ q ∈ s.distance, p.1 = q.1 → p.2 = q.2
  near : ∀ p ∈ s.distance, p.2 ≤ d + 1
  here : (x, d) ∈ s.distance
  noted : ∀ w edge, Seen w edge → edge.1 ∈ s.distance.map Prod.fst
  counted : ∀ p ∈ s.distance, s.pathCount p.1 = 1 ∨ s.pathCount p.1 = 2
  labelled : ∀ p ∈ s.distance, Labelled roots Seen s p.1 p.2

variable [DecidableEq α]

lemma Expanding.note (h : Expanding roots x d Seen s) (hnew : y ≠ x → ¬ Seen x (y, e)) :
    Expanding roots x d (fun w edge => Seen w edge ∨ (w = x ∧ edge = (y, e)))
      (note x (d + 1) s (y, e)) := by
  have hseen : ∀ z k, ¬ (z = y ∧ k = d + 1) → ∀ w e' j, j + 1 = k → (w, j) ∈ s.distance →
      (Seen w (z, e') ∨ (w = x ∧ (z, e') = (y, e)) ↔ Seen w (z, e')) := by
    intro z k hne w e' j hj hmem
    refine or_iff_left fun ⟨hw, heq⟩ => hne ⟨congrArg Prod.fst heq, ?_⟩
    exact hj ▸ congrArg (· + 1) (h.unique _ hmem _ h.here hw)
  unfold RouteCounts.note
  split_ifs with hkey hnext
  · have hapart : ∀ w, ∀ j < d + 1, (w, j) ∈ s.distance → w ≠ y := by
      rintro w j hj hmem rfl
      exact absurd (h.unique _ hmem _ hnext rfl) hj.ne
    have htwo : min 2 (s.pathCount y + s.pathCount x) = 2 := by
      rcases h.counted _ hnext with hy | hy <;> rcases h.counted _ h.here with hx | hx <;>
        simp [hy, hx]
    refine ⟨h.unique, h.near, h.here, ?_, fun p hp => ?_, fun p hp => ?_⟩
    · rintro w edge (hw | ⟨-, rfl⟩)
      · exact h.noted w edge hw
      · exact hkey
    · by_cases hy : p.1 = y
      · exact .inr (by dsimp only; rw [hy, Function.update_self, htwo])
      · exact (h.counted p hp).imp (Function.update_of_ne hy ..).trans
          (Function.update_of_ne hy ..).trans
    · obtain ⟨z, k⟩ := p
      have hk : k ≤ d + 1 := h.near _ hp
      by_cases hy : z = y
      · subst hy
        obtain rfl : k = d + 1 := h.unique _ hp _ hnext rfl
        cases h.labelled _ hp with
        | @step w e' _ hsome hw hlast _ =>
          refine .step hsome hw (.inl hlast) (.inr ⟨?_, x, e, .inr ⟨rfl, rfl⟩, h.here, ?_⟩)
          · exact (Function.update_self ..).trans htwo
          · rintro heq
            obtain ⟨rfl, rfl⟩ := Prod.mk.inj heq
            exact hnew (hapart x d (Nat.lt_succ_self d) h.here).symm hlast
      · refine (h.labelled _ hp).congr rfl (Function.update_of_ne hy ..) (fun w j hj hmem => ?_)
          (fun _ _ _ => Iff.rfl) (hseen z k fun heq => hy heq.1)
        exact Function.update_of_ne (hapart w j (hj.trans_le hk) hmem) ..
  · refine ⟨h.unique, h.near, h.here, ?_, h.counted, fun p hp => ?_⟩
    · rintro w edge (hw | ⟨-, rfl⟩)
      · exact h.noted w edge hw
      · exact hkey
    · refine (h.labelled p hp).congr rfl rfl (fun _ _ _ _ => rfl) (fun _ _ _ => Iff.rfl)
        (hseen _ _ fun heq => hnext ?_)
      rwa [← (Prod.ext heq.1 heq.2 : p = (y, d + 1))]
  · have hapart : ∀ p ∈ s.distance, p.1 ≠ y := fun p hp heq => hkey (heq ▸ List.mem_map_of_mem hp)
    have hlast : ∀ {p}, p ∈ s.distance ++ [(y, d + 1)] → p ∈ s.distance ∨ p = (y, d + 1) :=
      fun hp => (List.mem_append.mp hp).imp_right List.mem_singleton.mp
    refine ⟨fun p hp q hq heq => ?_, fun p hp => ?_, List.mem_append_left _ h.here, ?_,
      fun p hp => ?_, fun p hp => ?_⟩
    · rcases hlast hp with hp | rfl <;> rcases hlast hq with hq | rfl
      · exact h.unique p hp q hq heq
      · exact absurd heq (hapart p hp)
      · exact absurd heq.symm (hapart q hq)
      · rfl
    · rcases hlast hp with hp | rfl
      · exact h.near p hp
      · exact le_rfl
    · rw [List.map_append]
      rintro w edge (hw | ⟨-, rfl⟩)
      · exact List.mem_append_left _ (h.noted w edge hw)
      · exact List.mem_append_right _ List.mem_cons_self
    · rcases hlast hp with hp | rfl
      · exact (h.counted p hp).imp (Function.update_of_ne (hapart p hp) ..).trans
          (Function.update_of_ne (hapart p hp) ..).trans
      · exact (h.counted _ h.here).imp (Function.update_self ..).trans
          (Function.update_self ..).trans
    · rcases hlast hp with hp | rfl
      · have hk := h.near p hp
        refine (h.labelled p hp).congr (Function.update_of_ne (hapart p hp) ..)
          (Function.update_of_ne (hapart p hp) ..)
          (fun w j _ hmem => Function.update_of_ne (hapart _ hmem) ..)
          (fun w j hj => ⟨fun hmem => (hlast hmem).resolve_right fun heq => ?_,
            List.mem_append_left _⟩) (hseen _ _ fun heq => hapart p hp heq.1)
        exact absurd (congrArg Prod.snd heq) (hj.trans_le hk).ne
      · refine .step (Function.update_self ..) (List.mem_append_left _ h.here)
          (.inr ⟨rfl, rfl⟩) (.inl ⟨?_, fun w e' hw _ => ?_⟩)
        · exact (Function.update_self ..).trans (Function.update_of_ne (hapart _ h.here) ..).symm
        · rcases hw with hw | ⟨rfl, heq⟩
          · exact absurd (h.noted w _ hw) hkey
          · rw [(Prod.mk.inj heq).2]

lemma Expanding.foldl : ∀ {edges : List (α × ε)} {Seen : α → α × ε → Prop} {s : Labels α ε},
    (∀ edge ∈ edges, edge.1 ≠ x → ¬ Seen x edge) →
    (edges.Pairwise fun a b => b.1 ≠ x → b ≠ a) → Expanding roots x d Seen s →
    Expanding roots x d (fun w edge => Seen w edge ∨ (w = x ∧ edge ∈ edges))
      (edges.foldl (RouteCounts.note x (d + 1)) s)
  | [], Seen, s, _, _, h => by
    simpa only [List.not_mem_nil, and_false, or_false, List.foldl_nil] using h
  | (y, e) :: edges, Seen, s, hnew, hpairwise, h => by
    obtain ⟨hapart, hpairwise⟩ := List.pairwise_cons.mp hpairwise
    have hrest := Expanding.foldl (fun edge hmem hne hor => ?_) hpairwise
      (h.note (hnew _ List.mem_cons_self))
    · simpa only [List.mem_cons, and_or_left, or_assoc, List.foldl_cons] using hrest
    · exact hor.elim (hnew edge (List.mem_cons_of_mem _ hmem) hne)
        fun heq => hapart edge hmem hne heq.2

/-- The edges are noted as the plain search visits their ends. -/
lemma foldl_note (x : α) (d : ℕ) : ∀ (edges : List (α × ε)) (s : Labels α ε),
    ((edges.foldl (note x d) s).queue, (edges.foldl (note x d) s).distance) =
      visit d (edges.map Prod.fst) s.queue s.distance
  | [], _ => rfl
  | edge :: edges, s => by
    rw [List.foldl_cons, foldl_note, List.map_cons, visit, note]
    split_ifs <;> rfl

end Expanding

variable {next : α → List (α × ε)} {roots : List α} {limit : ℕ} {s : Labels α ε}

/-- What holds before every turn of the loop: what is found is done or queued, in this order. -/
structure Sound (next : α → List (α × ε)) (roots : List α) (limit : ℕ) (done : List (α × ℕ))
    (s : Labels α ε) : Prop where
  sweep : Sweep (fun x => (next x).map Prod.fst) roots s.queue s.distance
  split : s.distance = done ++ s.queue
  nodup : (s.distance.map Prod.fst).Nodup
  short : ∀ p ∈ s.distance, p.2 ≤ limit
  counted : ∀ p ∈ s.distance, s.pathCount p.1 = 1 ∨ s.pathCount p.1 = 2
  labelled : ∀ p ∈ s.distance,
    Labelled roots (fun w edge => w ∈ done.map Prod.fst ∧ edge ∈ next w) s p.1 p.2

variable [DecidableEq α]

lemma Sound.turn {x : α} {d : ℕ} {done queue : List (α × ℕ)} (h : Sound next roots limit done s)
    (hqueue : s.queue = (x, d) :: queue) (hd : d < limit)
    (hpairwise : (next x).Pairwise fun a b => b.1 ≠ x → b ≠ a) :
    Sound next roots limit (done ++ [(x, d)])
      ((next x).foldl (note x (d + 1)) { s with queue }) := by
  have hsweep := hqueue ▸ h.sweep
  have hsplit : s.distance = done ++ (x, d) :: queue := hqueue ▸ h.split
  have hnodup := h.nodup
  rw [hsplit, List.map_append, List.map_cons] at hnodup
  have hapart := (List.nodup_append.mp hnodup).2.2
  have hstart : Expanding roots x d (fun w edge => w ∈ done.map Prod.fst ∧ edge ∈ next w)
      { s with queue } := by
    refine ⟨hsweep.unique, fun p hp => hsweep.near p hp _ List.mem_cons_self,
      hsweep.listed _ List.mem_cons_self, fun w edge hseen => ?_, h.counted, fun p hp => ?_⟩
    · obtain ⟨hdone, hedge⟩ := hseen
      obtain ⟨p, hp, rfl⟩ := List.mem_map.mp hdone
      have hclosed := (hsweep.closed p (hsplit ▸ List.mem_append_left _ hp)).resolve_left
        fun hq => hapart _ hdone _ (List.mem_map_of_mem (f := Prod.fst) hq) rfl
      obtain ⟨e, -, hfound⟩ := hclosed _ (List.mem_map_of_mem (f := Prod.fst) hedge)
      exact List.mem_map_of_mem (f := Prod.fst) hfound
    · exact (h.labelled p hp).congr rfl rfl (fun _ _ _ _ => rfl) (fun _ _ _ => Iff.rfl)
        fun _ _ _ _ _ => Iff.rfl
  have hexpanded := hstart.foldl
    (fun edge _ _ hseen => hapart _ hseen.1 _ List.mem_cons_self rfl) hpairwise
  obtain ⟨fresh, heq, hfresh, hnew, -⟩ := visit_eq (d + 1) ((next x).map Prod.fst) queue s.distance
  obtain ⟨hqueue', hdistance'⟩ :=
    Prod.mk.inj ((foldl_note x (d + 1) (next x) { s with queue }).trans heq)
  have hsame : (fun w edge => (w ∈ done.map Prod.fst ∧ edge ∈ next w) ∨ (w = x ∧ edge ∈ next x)) =
      fun w edge => w ∈ (done ++ [(x, d)]).map Prod.fst ∧ edge ∈ next w := by
    ext w edge
    rw [List.map_append, List.mem_append, or_and_right, List.map_singleton, List.mem_singleton]
    exact or_congr_right (and_congr_right fun hw => by rw [hw])
  refine ⟨?_, ?_, ?_, fun p hp => (hexpanded.near p hp).trans hd, hexpanded.counted,
    hsame ▸ hexpanded.labelled⟩
  · have hvisited := hsweep.visit
    rw [heq] at hvisited
    rw [hqueue', hdistance']
    exact hvisited
  · rw [hqueue', hdistance', hsplit, List.append_assoc, List.append_assoc]
    rfl
  · rw [hdistance', List.map_append, List.map_map]
    refine h.nodup.append (hfresh.map fun _ _ => id) fun y hy hy' => ?_
    obtain ⟨z, hz, rfl⟩ := List.mem_map.mp hy'
    exact (hnew z hz).2 hy

/-- A queue that lies at the limit is emptied, and nothing else changes. -/
lemma search_idle : ∀ (fuel : ℕ) (s : Labels α ε), (∀ q ∈ s.queue, limit ≤ q.2) →
    ∃ queue, search next limit fuel s = { s with queue }
  | 0, s, _ => ⟨s.queue, rfl⟩
  | _ + 1, ⟨[], _, _, _⟩, _ => ⟨[], rfl⟩
  | fuel + 1, ⟨(x, d) :: queue, distance, pathCount, predecessor⟩, hb => by
    rw [search]
    dsimp only
    rw [if_pos (hb _ List.mem_cons_self)]
    exact search_idle fuel ⟨queue, distance, pathCount, predecessor⟩
      fun q hq => hb q (List.mem_cons_of_mem _ hq)

lemma Sound.search {nodes : Finset α} (hnodes : ∀ x, ∀ edge ∈ next x, edge.1 ∈ nodes)
    (hpairwise : ∀ x, (next x).Pairwise fun a b => b.1 ≠ x → b ≠ a) {fuel : ℕ}
    {done : List (α × ℕ)} (hfuel : work nodes s.queue s.distance ≤ fuel)
    (h : Sound next roots limit done s) :
    ∃ done' s', Sound next roots limit done' s' ∧ (∀ q ∈ s'.queue, limit ≤ q.2) ∧
      ∃ queue, search next limit fuel s = { s' with queue } := by
  induction fuel generalizing done s with
  | zero =>
    have hnil : s.queue = [] := List.eq_nil_of_length_eq_zero (by unfold work at hfuel; omega)
    exact ⟨done, s, h, by simp [hnil], s.queue, rfl⟩
  | succ fuel ih =>
    by_cases hidle : ∀ q ∈ s.queue, limit ≤ q.2
    · exact ⟨done, s, h, hidle, search_idle _ s hidle⟩
    cases hqueue : s.queue with
    | nil => exact absurd (by simp [hqueue]) hidle
    | cons p queue =>
      obtain ⟨x, d⟩ := p
      have hd : ¬ limit ≤ d := by
        intro hd
        rw [hqueue] at hidle
        refine hidle fun q hq => (List.mem_cons.mp hq).elim (fun heq => heq ▸ hd) fun hq => ?_
        exact hd.trans ((List.pairwise_cons.mp (hqueue ▸ h.sweep.sorted)).1 q hq)
      have hless := @work_visit _ _ (fun x => (next x).map Prod.fst) queue s.distance x d nodes
        fun y hy => by
          obtain ⟨edge, hedge, rfl⟩ := List.mem_map.mp hy
          exact hnodes x edge hedge
      rw [← foldl_note x (d + 1) (next x) { s with queue }] at hless
      rw [RouteCounts.search, hqueue]
      dsimp only
      rw [if_neg hd]
      rw [hqueue] at hfuel
      dsimp only at hless
      exact ih (by omega) (h.turn hqueue (not_le.mp hd) (hpairwise x))

omit [DecidableEq α] in
/-- What lies below the limit is done, and what its edges lead to is found. -/
lemma Sound.closed {done : List (α × ℕ)} (h : Sound next roots limit done s)
    (hb : ∀ q ∈ s.queue, limit ≤ q.2) {x y : α} {e : ε} {k : ℕ} (hmem : (x, k) ∈ s.distance)
    (hk : k < limit) (he : (y, e) ∈ next x) :
    x ∈ done.map Prod.fst ∧ ∃ j ≤ k + 1, (y, j) ∈ s.distance := by
  have hnot : (x, k) ∉ s.queue := fun hqueue => absurd (hb _ hqueue) (not_le.mpr hk)
  have hdone := (List.mem_append.mp (h.split ▸ hmem)).resolve_right hnot
  exact ⟨List.mem_map_of_mem (f := Prod.fst) hdone,
    (h.sweep.closed _ hmem).resolve_left hnot y (List.mem_map_of_mem (f := Prod.fst) he)⟩

omit [DecidableEq α] in
/-- What a route within the limit reaches is found. -/
lemma Sound.complete {done : List (α × ℕ)} (h : Sound next roots limit done s)
    (hb : ∀ q ∈ s.queue, limit ≤ q.2) {route : List (α × ε)} {y : α}
    (hroute : Route (Listed next) roots route y) (hlength : route.length ≤ limit) :
    ∃ k ≤ route.length, (y, k) ∈ s.distance := by
  induction hroute with
  | root hroot => exact ⟨0, le_rfl, h.sweep.rooted _ hroot⟩
  | step hrest he ih =>
    obtain ⟨k, hk, hmem⟩ := ih (Nat.le_of_succ_le hlength)
    obtain ⟨-, j, hj, hfound⟩ := h.closed hb hmem (hk.trans_lt hlength) he
    exact ⟨j, hj.trans (Nat.succ_le_succ hk), hfound⟩

/-- The count of an element is one, and the traced route its only shortest one, or it is two, and
there is another. -/
structure Exact (Step : α → α × ε → Prop) (roots : List α) (s : Labels α ε) (y : α) (k : ℕ) :
    Prop where
  route : Route Step roots (trace s.predecessor k y) y
  length : (trace s.predecessor k y).length = k
  count : (s.pathCount y = 1 ∧ ∀ route, Route Step roots route y → route.length = k →
      route = trace s.predecessor k y) ∨
    (s.pathCount y = 2 ∧ ∃ route, Route Step roots route y ∧ route.length = k ∧
      route ≠ trace s.predecessor k y)

omit [DecidableEq α] in
lemma Sound.exact {done : List (α × ℕ)} (h : Sound next roots limit done s)
    (hb : ∀ q ∈ s.queue, limit ≤ q.2) {k : ℕ} {y : α} (hmem : (y, k) ∈ s.distance) :
    Exact (Listed next) roots s y k := by
  induction k generalizing y with
  | zero =>
    cases h.labelled _ hmem with
    | root hroot hone =>
      exact ⟨.root hroot, rfl, .inl ⟨hone, fun _ _ => List.eq_nil_of_length_eq_zero⟩⟩
  | succ k ih =>
    have hk : k < limit := h.short _ hmem
    cases h.labelled _ hmem with
    | @step x e _ hsome hx hlast hor =>
      obtain ⟨hroute, hlength, hcount⟩ := ih hx
      have htrace : trace s.predecessor (k + 1) y = (x, e) :: trace s.predecessor k x := by
        rw [trace, hsome]
      refine ⟨htrace ▸ .step hroute hlast.2, by rw [htrace, List.length_cons, hlength], ?_⟩
      rw [htrace]
      rcases hor with ⟨heq, honly⟩ | ⟨htwo, w, e', hw, hmem', hne⟩
      · rw [heq]
        refine hcount.imp (.imp_right fun hunique route hroute' hlength' => ?_)
          (.imp_right fun ⟨route, hroute', hlength', hne⟩ => ?_)
        · cases hroute' with
          | root => exact absurd hlength' (Nat.succ_ne_zero k).symm
          | @step rest w _ e' hrest he' =>
            -- the last transition starts where the search has been, one step nearer
            have hrest' : rest.length = k := Nat.succ.inj hlength'
            obtain ⟨j, hj, hmem'⟩ := h.complete hb hrest (by omega)
            obtain ⟨hdone, i, hi, hfound⟩ := h.closed hb hmem' (by omega) he'
            have hi' : k + 1 = i := h.sweep.unique _ hmem _ hfound rfl
            obtain rfl : j = k := by omega
            obtain ⟨rfl, rfl⟩ := Prod.mk.inj (honly w e' ⟨hdone, he'⟩ hmem')
            rw [hunique rest hrest hrest']
        · exact ⟨(x, e) :: route, .step hroute' hlast.2, congrArg (· + 1) hlength',
            fun heq => hne (List.cons.inj heq).2⟩
      · obtain ⟨hroute', hlength', -⟩ := ih hmem'
        exact .inr ⟨htwo, _, .step hroute' hw.2, congrArg (· + 1) hlength',
          fun heq => hne (List.cons.inj heq).1⟩

/-- **The labels are exact**: what a route within the limit reaches is found, no further than the
route is long, and a count is one exactly if the traced route is the only shortest one. -/
theorem search_exact (next : α → List (α × ε)) (limit : ℕ) (nodes : Finset α)
    (hroots : roots.Nodup)
    (hnodes : ∀ x, ∀ edge ∈ next x, edge.1 ∈ nodes)
    (hpairwise : ∀ x, (next x).Pairwise fun a b => b.1 ≠ x → b ≠ a) :
    let s := search next limit (enough nodes roots) (start roots)
    (∀ p ∈ s.distance, ∀ q ∈ s.distance, p.1 = q.1 → p.2 = q.2) ∧
      (∀ p ∈ s.distance, p.2 ≤ limit ∧ Exact (Listed next) roots s p.1 p.2) ∧
      ∀ route y, Route (Listed next) roots route y → route.length ≤ limit →
        ∃ k ≤ route.length, (y, k) ∈ s.distance := by
  have hzero : ∀ p ∈ (start (ε := ε) roots).distance, p.1 ∈ roots ∧ p.2 = 0 := by
    intro p hp
    obtain ⟨x, hx, rfl⟩ := List.mem_map.mp hp
    exact ⟨hx, rfl⟩
  have hstart : Sound next roots limit [] (start roots) :=
    { sweep := sweep_start
      split := rfl
      nodup := by simpa [start, Function.comp_def] using hroots
      short := fun p hp => (hzero p hp).2 ▸ Nat.zero_le _
      counted := fun p hp => .inl (if_pos (hzero p hp).1)
      labelled := fun p hp => (hzero p hp).2 ▸ .root (hzero p hp).1 (if_pos (hzero p hp).1) }
  have hfuel : work nodes (start (ε := ε) roots).queue (start (ε := ε) roots).distance ≤
      enough nodes roots := by
    rw [work, enough, start, List.length_map]
    exact Nat.add_le_add_left (Finset.card_le_card Finset.sdiff_subset) _
  obtain ⟨done, s, h, hb, queue, heq⟩ := hstart.search hnodes hpairwise hfuel
  rw [heq]
  refine ⟨h.sweep.unique, fun p hp => ⟨h.short p hp, ?_⟩,
    fun route y hroute hlength => h.complete hb hroute hlength⟩
  obtain ⟨hroute, hlength, hcount⟩ := h.exact hb hp
  exact ⟨hroute, hlength, hcount⟩

end RouteCounts
