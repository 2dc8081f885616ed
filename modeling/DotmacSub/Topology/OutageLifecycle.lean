import DotmacSub.Topology.OutagePass

/-!
# The debounced lifecycle

What is known of an incident after any number of reconcile passes.
-/

namespace DotmacSub.Topology

open Store

section Incident

variable {windows : Windows} {now : ℤ} {c : Candidate} {i : OutageIncident} {id : ℕ}

def Due (windows : Windows) (now : ℤ) (c : Candidate) (i : OutageIncident) : Prop :=
  i.status = .suspected ∧
    HasElapsed now i.suspectedAt (confirmWindowSeconds c.affectedCount windows)

instance : Decidable (Due windows now c i) := inferInstanceAs (Decidable (_ ∧ _))

lemma claimed_fst : (claimed windows now c i).1 =
    { i with
      rootNodeId := i.rootNodeId.map fun _ => c.rootNodeId
      affectedCount := c.affectedCount
      confidence := c.confidence.or i.confidence
      classification := some c.classification
      status := if i.status = .clearing ∨ Due windows now c i then .confirmed else i.status
      confirmedAt := if Due windows now c i then some now else i.confirmedAt
      clearedAt := if i.status = .clearing then none else i.clearedAt } := by
  have hroot : (if i.rootNodeId.isSome then repointRoot c.rootNodeId (i, []) else (i, [])).1 =
      { i with rootNodeId := i.rootNodeId.map fun _ => c.rootNodeId } := by
    obtain ⟨_, root, _⟩ := i
    cases root with
    | none => rfl
    | some node =>
      by_cases hsame : node = c.rootNodeId
      · simp [repointRoot, hsame]
      · simp [repointRoot, hsame]
  simp only [claimed, followCandidate, updateClassifierSnapshot, hroot, Due]
  by_cases hclearing : i.status = .clearing
  · simp [hclearing, reopenIncident, debounceUp]
  · by_cases hdue : i.status = .suspected ∧
        HasElapsed now i.suspectedAt (confirmWindowSeconds c.affectedCount windows)
    · simp [debounceUp, hdue, confirmIncident]
    · simp [hclearing, debounceUp, hdue]

lemma opened_fst : (opened windows now c id).1 =
    { (openClassifierIncident now c id).1 with
      status := if Due windows now c (openClassifierIncident now c id).1 then .confirmed
        else .suspected
      confirmedAt := if Due windows now c (openClassifierIncident now c id).1 then some now
        else none } := by
  by_cases hdue : Due windows now c (openClassifierIncident now c id).1
  · have hstep : opened windows now c id = confirmIncident now (openClassifierIncident now c id) :=
      if_pos hdue
    rw [if_pos hdue, if_pos hdue, hstep]
    rfl
  · have hstep : opened windows now c id = openClassifierIncident now c id := if_neg hdue
    rw [if_neg hdue, if_neg hdue, hstep]
    rfl

/-- What becomes of an open incident that nobody claims. -/
inductive Recovery (windows : Windows) (now : ℤ) (i : OutageIncident) : OutageIncident → Prop
  | discarded (hstatus : i.status = .suspected) :
      Recovery windows now i { i with status := .discarded }
  | clearing (hstatus : i.status = .confirmed) :
      Recovery windows now i { i with status := .clearing, clearedAt := some now }
  | resolved (hstatus : i.status = .clearing) (hwindow : HasElapsed now i.clearedAt windows.resolve) :
      Recovery windows now i { i with status := .resolved, resolvedAt := some now }
  | waiting (hstatus : i.status = .clearing) : Recovery windows now i i

lemma recovery (hopen : i.IsOpen) : Recovery windows now i (recover windows now i).1 := by
  obtain ⟨-, hstatus | hstatus | hstatus⟩ := hopen
  · simp only [recover, hstatus]
    exact .discarded hstatus
  · simp only [recover, hstatus]
    exact .clearing hstatus
  · simp only [recover, hstatus]
    split_ifs with hwindow
    · exact .resolved hstatus hwindow
    · exact .waiting hstatus

end Incident

def tableAfter (start : Table OutageIncident) (passes : List PassInput) : Table OutageIncident :=
  passes.foldl (fun t input => (reconcileDetectedOutages input t).incidents) start

/-- Every incident after a pass: opened, claimed, recovered or left alone. -/
inductive Fate (input : PassInput) (t : Table OutageIncident) (id : ℕ) : OutageIncident → Prop
  | opened (c : Candidate) (hclaimed : id ∈ (reconcileDetectedOutages input t).used)
      (hnew : t.get? id = none) :
      Fate input t id (opened (resolveWindows input.settings) input.now c id).1
  | claimed (c : Candidate) {i : OutageIncident}
      (hclaimed : id ∈ (reconcileDetectedOutages input t).used) (hget : t.get? id = some i)
      (hopen : i.IsOpen) : Fate input t id (claimed (resolveWindows input.settings) input.now c i).1
  | recovered {i j : OutageIncident} (hfree : id ∉ (reconcileDetectedOutages input t).used)
      (hget : t.get? id = some i) (hopen : i.IsOpen)
      (hrecovery : Recovery (resolveWindows input.settings) input.now i j) : Fate input t id j
  | kept {i : OutageIncident} (hget : t.get? id = some i) (hclosed : ¬ i.IsOpen) : Fate input t id i

section Pass

variable {input : PassInput} {t : Table OutageIncident} {id : ℕ} {i j : OutageIncident}

lemma fate_of_get (h : (reconcileDetectedOutages input t).incidents.get? id = some j) :
    Fate input t id j := by
  have hpass := reconciled input t
  by_cases hused : id ∈ (reconcileDetectedOutages input t).used
  · obtain ⟨⟨b, id⟩, hclaim, rfl⟩ := List.mem_map.mp hused
    obtain ⟨c, -, -, n, hclaimant, hget⟩ := hpass.claim b id hclaim
    obtain rfl : n.1 = j := Option.mem_unique hget h
    cases hclaimant with
    | new hnew => exact .opened c hused hnew
    | old hbefore hopen _ => exact .claimed c hused hbefore hopen
  · by_cases hopen : ∃ i, t.get? id = some i ∧ i.IsOpen
    · obtain ⟨i, hget, hopen⟩ := hopen
      obtain ⟨hrow, rfl⟩ := Table.get?_eq_some.mp hget
      obtain rfl : (recover (resolveWindows input.settings) input.now i).1 = j :=
        Option.mem_unique (hpass.recovered i ⟨hrow, hopen, hused⟩) h
      exact .recovered hused hget hopen (recovery hopen)
    · simp only [not_exists, not_and] at hopen
      have hget : t.get? id = some j := (hpass.kept id hused hopen).symm.trans h
      exact .kept hget (hopen j hget)

lemma exists_get (h : t.get? id = some i) :
    ∃ j, (reconcileDetectedOutages input t).incidents.get? id = some j := by
  have hpass := reconciled input t
  by_cases hused : id ∈ (reconcileDetectedOutages input t).used
  · obtain ⟨⟨b, id⟩, hclaim, rfl⟩ := List.mem_map.mp hused
    obtain ⟨c, -, -, n, -, hget⟩ := hpass.claim b id hclaim
    exact ⟨_, hget⟩
  · obtain ⟨hrow, rfl⟩ := Table.get?_eq_some.mp h
    by_cases hopen : i.IsOpen
    · exact ⟨_, hpass.recovered i ⟨hrow, hopen, hused⟩⟩
    · refine ⟨i, (hpass.kept i.id hused fun k hk => ?_).trans h⟩
      obtain rfl : i = k := Option.mem_unique h hk
      exact hopen

lemma get_of_closed (h : t.get? id = some i) (hclosed : ¬ i.IsOpen) :
    (reconcileDetectedOutages input t).incidents.get? id = some i := by
  obtain ⟨j, hj⟩ := @exists_get input _ _ _ h
  cases fate_of_get hj with
  | opened c _ hnew => exact absurd (hnew.symm.trans h) (by simp)
  | claimed c _ hget hopen =>
    obtain rfl := Option.mem_unique hget h
    exact absurd hopen hclosed
  | recovered _ hget hopen _ =>
    obtain rfl := Option.mem_unique hget h
    exact absurd hopen hclosed
  | kept hget _ => rw [hj, ← hget, h]

end Pass

def Throughout (q : Pass → Prop) : Table OutageIncident → List PassInput → Prop
  | _, [] => True
  | t, input :: passes => q (reconcileDetectedOutages input t) ∧
      Throughout q (reconcileDetectedOutages input t).incidents passes

def ClaimedThroughout (id : ℕ) : Table OutageIncident → List PassInput → Prop :=
  Throughout fun p => id ∈ p.used

def UnclaimedThroughout (id : ℕ) : Table OutageIncident → List PassInput → Prop :=
  Throughout fun p => id ∉ p.used

section Runs

variable {start t : Table OutageIncident} {passes before : List PassInput} {input : PassInput}
  {id : ℕ} {i j : OutageIncident} {q : Pass → Prop}

lemma tableAfter_append : tableAfter start (before ++ [input]) =
    (reconcileDetectedOutages input (tableAfter start before)).incidents := by
  rw [tableAfter, List.foldl_append]
  rfl

lemma throughout_append : ∀ {t : Table OutageIncident} {passes : List PassInput},
    Throughout q t passes → q (reconcileDetectedOutages input (tableAfter t passes)) →
      Throughout q t (passes ++ [input])
  | _, [], _, h => ⟨h, trivial⟩
  | _, _ :: _, hall, h => ⟨hall.1, throughout_append hall.2 h⟩

def ClaimedSinceSuspected (start : Table OutageIncident) (passes : List PassInput)
    (i : OutageIncident) : Prop :=
  ∃ first opening middle, passes = first ++ opening :: middle ∧
    (tableAfter start first).get? i.id = none ∧ i.suspectedAt = some opening.now ∧
    ClaimedThroughout i.id (tableAfter start first) (opening :: middle)

/-- The incident, then confirmed, was stamped by a pass of the run and has not been claimed since. -/
def UnclaimedSinceCleared (start : Table OutageIncident) (passes : List PassInput)
    (i : OutageIncident) : Prop :=
  ∃ first clearing middle, passes = first ++ clearing :: middle ∧
    (∃ j, (tableAfter start first).get? i.id = some j ∧ j.status = .confirmed) ∧
    i.clearedAt = some clearing.now ∧
    UnclaimedThroughout i.id (tableAfter start first) (clearing :: middle)

lemma ClaimedSinceSuspected.append (h : ClaimedSinceSuspected start before i) (hid : j.id = i.id)
    (hstamp : j.suspectedAt = i.suspectedAt)
    (hclaimed : i.id ∈ (reconcileDetectedOutages input (tableAfter start before)).used) :
    ClaimedSinceSuspected start (before ++ [input]) j := by
  obtain ⟨first, opening, middle, rfl, hnew, hsuspected, hthroughout⟩ := h
  refine ⟨first, opening, middle ++ [input], by simp, hid ▸ hnew, hstamp.trans hsuspected, ?_⟩
  rw [hid]
  refine throughout_append hthroughout ?_
  rwa [tableAfter, List.foldl_append] at hclaimed

lemma UnclaimedSinceCleared.append (h : UnclaimedSinceCleared start before i) (hid : j.id = i.id)
    (hstamp : j.clearedAt = i.clearedAt)
    (hfree : i.id ∉ (reconcileDetectedOutages input (tableAfter start before)).used) :
    UnclaimedSinceCleared start (before ++ [input]) j := by
  obtain ⟨first, clearing, middle, rfl, hconfirmed, hcleared, hthroughout⟩ := h
  refine ⟨first, clearing, middle ++ [input], by simp, hid ▸ hconfirmed, hstamp.trans hcleared, ?_⟩
  rw [hid]
  refine throughout_append hthroughout ?_
  rwa [tableAfter, List.foldl_append] at hfree

/-- What the stamps of an incident of the classifier say. -/
structure History (start : Table OutageIncident) (passes : List PassInput) (i : OutageIncident) :
    Prop where
  suspected : i.status = .suspected → i.confirmedAt = none ∧ ClaimedSinceSuspected start passes i
  clearing : i.status = .clearing → UnclaimedSinceCleared start passes i

lemma History.step (h : ∀ id i, (tableAfter start before).get? id = some i →
      i.detectionSource = .classifier → History start before i)
    (hj : (tableAfter start (before ++ [input])).get? id = some j)
    (hsource : j.detectionSource = .classifier) : History start (before ++ [input]) j := by
  rw [tableAfter_append] at hj
  obtain ⟨-, hid⟩ := Table.get?_eq_some.mp hj
  cases fate_of_get hj with
  | opened c hclaimed hnew =>
    rw [opened_fst] at hid ⊢
    constructor
    · intro hstatus
      by_cases hdue : Due (resolveWindows input.settings) input.now c
          (openClassifierIncident input.now c id).1
      · simp [hdue] at hstatus
      · simp only [hdue, if_false]
        exact ⟨trivial, before, input, [], rfl, hnew, rfl, hclaimed, trivial⟩
    · intro hstatus
      split_ifs at hstatus
  | @claimed c i hclaimed hget hopen =>
    obtain rfl : i.id = id := (Table.get?_eq_some.mp hget).2
    have hhistory := h i.id i hget hopen.1
    rw [claimed_fst] at hid ⊢
    constructor
    · intro hstatus
      by_cases hdue : i.status = .clearing ∨ Due (resolveWindows input.settings) input.now c i
      · simp [hdue] at hstatus
      · simp only [hdue, if_false] at hstatus
        obtain ⟨hconfirmed, hsince⟩ := hhistory.suspected hstatus
        rw [not_or] at hdue
        refine ⟨?_, hsince.append rfl rfl hclaimed⟩
        simp only [hdue.2, if_false]
        exact hconfirmed
    · intro hstatus
      by_cases hdue : i.status = .clearing ∨ Due (resolveWindows input.settings) input.now c i
      · simp [hdue] at hstatus
      · simp only [hdue, if_false] at hstatus
        exact absurd (.inl hstatus) hdue
  | @recovered i j hfree hget hopen hrecovery =>
    obtain rfl : i.id = id := (Table.get?_eq_some.mp hget).2
    cases hrecovery with
    | discarded hwas => exact ⟨fun hstatus => (nomatch hstatus), fun hstatus => (nomatch hstatus)⟩
    | clearing hwas =>
      refine ⟨fun hstatus => (nomatch hstatus), fun _ => ?_⟩
      exact ⟨before, input, [], rfl, ⟨i, hget, hwas⟩, rfl, hfree, trivial⟩
    | resolved hwas _ => exact ⟨fun hstatus => (nomatch hstatus), fun hstatus => (nomatch hstatus)⟩
    | waiting hwas =>
      refine ⟨fun hstatus => absurd (hwas.symm.trans hstatus) (by simp), fun _ => ?_⟩
      exact ((h j.id j hget hopen.1).clearing hwas).append rfl rfl hfree
  | kept hget hclosed =>
    refine ⟨fun hstatus => ?_, fun hstatus => ?_⟩
    · exact absurd ⟨hsource, .inl hstatus⟩ hclosed
    · exact absurd ⟨hsource, .inr (.inr hstatus)⟩ hclosed

/-- The stamps of every incident of the classifier, in any run from a table without any. -/
theorem history_of_run (hstart : ∀ i ∈ start.rows, i.detectionSource = .operator)
    (passes : List PassInput) : ∀ id i, (tableAfter start passes).get? id = some i →
      i.detectionSource = .classifier → History start passes i := by
  induction passes using List.reverseRecOn with
  | nil =>
    intro id i hget hsource
    have hoperator := hstart i (Table.get?_eq_some.mp hget).1
    exact absurd (hoperator.symm.trans hsource) (by simp)
  | append_singleton passes input ih =>
    exact fun id i hget hsource => History.step ih hget hsource

end Runs

/-- What the last pass of a run may do to an incident, given the passes before it. -/
structure Debounced (start : Table OutageIncident) (before : List PassInput) (input : PassInput) :
    Prop where
  /-- A suspected or new incident is confirmed once it was claimed for its window. -/
  confirmed : ∀ id j, (tableAfter start (before ++ [input])).get? id = some j →
    j.status = .confirmed →
    (∀ i ∈ (tableAfter start before).get? id, i.status ≠ .confirmed ∧ i.status ≠ .clearing) →
      (∀ i ∈ (tableAfter start before).get? id, i.status = .suspected) ∧
      ClaimedSinceSuspected start (before ++ [input]) j ∧
      HasElapsed input.now j.suspectedAt
        (confirmWindowSeconds j.affectedCount (resolveWindows input.settings))
  /-- A clearing incident is confirmed again only when it is claimed. -/
  reopened : ∀ id i j, (tableAfter start before).get? id = some i → i.status = .clearing →
    (tableAfter start (before ++ [input])).get? id = some j → j.status = .confirmed →
      id ∈ (reconcileDetectedOutages input (tableAfter start before)).used
  /-- An incident is resolved once it was unclaimed for the window of recovery. -/
  resolved : ∀ id j, (tableAfter start (before ++ [input])).get? id = some j →
    j.status = .resolved → (∀ i ∈ (tableAfter start before).get? id, i.status ≠ .resolved) →
      (∃ i, (tableAfter start before).get? id = some i ∧ i.status = .clearing) ∧
      UnclaimedSinceCleared start (before ++ [input]) j ∧
      HasElapsed input.now j.clearedAt (resolveWindows input.settings).resolve
  /-- Only a suspected incident is discarded. -/
  discarded : ∀ id j, (tableAfter start (before ++ [input])).get? id = some j →
    j.status = .discarded → (∀ i ∈ (tableAfter start before).get? id, i.status ≠ .discarded) →
      ∃ i, (tableAfter start before).get? id = some i ∧ i.status = .suspected
  /-- A resolved or discarded incident never changes. -/
  terminal : ∀ id i, (tableAfter start before).get? id = some i →
    i.status = .resolved ∨ i.status = .discarded →
      (tableAfter start (before ++ [input])).get? id = some i
  /-- Every candidate claims one incident, and no two claim the same. -/
  claims : (reconcileDetectedOutages input (tableAfter start before)).claims.map Prod.fst =
      input.candidates.items.map Candidate.rootNodeId ∧
    (reconcileDetectedOutages input (tableAfter start before)).used.Nodup
  /-- The stamp of the confirmation stays. -/
  confirmedAt : ∀ id i stamp, (tableAfter start before).get? id = some i →
    i.confirmedAt = some stamp →
      ∃ j, (tableAfter start (before ++ [input])).get? id = some j ∧ j.confirmedAt = some stamp

section Transitions

variable {start : Table OutageIncident} {before : List PassInput} {input : PassInput} {id : ℕ}
  {i j : OutageIncident}

lemma confirmed_of_run (hstart : ∀ i ∈ start.rows, i.detectionSource = .operator)
    (hj : (tableAfter start (before ++ [input])).get? id = some j) (hstatus : j.status = .confirmed)
    (hbefore : ∀ i ∈ (tableAfter start before).get? id,
      i.status ≠ .confirmed ∧ i.status ≠ .clearing) :
    (∀ i ∈ (tableAfter start before).get? id, i.status = .suspected) ∧
      ClaimedSinceSuspected start (before ++ [input]) j ∧
      HasElapsed input.now j.suspectedAt
        (confirmWindowSeconds j.affectedCount (resolveWindows input.settings)) := by
  rw [tableAfter_append] at hj
  obtain ⟨-, hid⟩ := Table.get?_eq_some.mp hj
  cases fate_of_get hj with
  | opened c hclaimed hnew =>
    rw [opened_fst] at hid hstatus ⊢
    by_cases hdue : Due (resolveWindows input.settings) input.now c
        (openClassifierIncident input.now c id).1
    · refine ⟨by simp [hnew], ?_, hdue.2⟩
      exact ⟨before, input, [], rfl, hnew, rfl, hclaimed, trivial⟩
    · simp [hdue] at hstatus
  | @claimed c i hclaimed hget hopen =>
    obtain rfl : i.id = id := (Table.get?_eq_some.mp hget).2
    obtain ⟨hnotConfirmed, hnotClearing⟩ := hbefore i hget
    rw [claimed_fst] at hid hstatus ⊢
    by_cases hdue : Due (resolveWindows input.settings) input.now c i
    · obtain ⟨-, hsince⟩ := (history_of_run hstart before i.id i hget hopen.1).suspected hdue.1
      refine ⟨fun k hk => ?_, hsince.append rfl rfl hclaimed, hdue.2⟩
      obtain rfl : i = k := Option.mem_unique hget hk
      exact hdue.1
    · simp only [hnotClearing, hdue, or_self, if_false] at hstatus
      exact absurd hstatus hnotConfirmed
  | @recovered i j hfree hget hopen hrecovery =>
    cases hrecovery with
    | waiting hwas => exact absurd hwas (hbefore j hget).2
    | _ => exact nomatch hstatus
  | kept hget _ => exact absurd hstatus (hbefore j hget).1

lemma status_of_claimed {windows : Windows} {now : ℤ} {c : Candidate} {status : OutageStatus}
    (h : (claimed windows now c i).1.status = status) (hne : status ≠ .confirmed) :
    i.status = status := by
  rw [claimed_fst] at h
  exact (if_neg fun hdue => hne (h.symm.trans (if_pos hdue))).symm.trans h

lemma resolved_of_run (hstart : ∀ i ∈ start.rows, i.detectionSource = .operator)
    (hj : (tableAfter start (before ++ [input])).get? id = some j) (hstatus : j.status = .resolved)
    (hbefore : ∀ i ∈ (tableAfter start before).get? id, i.status ≠ .resolved) :
    (∃ i, (tableAfter start before).get? id = some i ∧ i.status = .clearing) ∧
      UnclaimedSinceCleared start (before ++ [input]) j ∧
      HasElapsed input.now j.clearedAt (resolveWindows input.settings).resolve := by
  rw [tableAfter_append] at hj
  cases fate_of_get hj with
  | opened c hclaimed hnew =>
    rw [opened_fst] at hstatus
    split_ifs at hstatus
  | @claimed c i hclaimed hget hopen =>
    exact absurd (status_of_claimed hstatus (by decide)) (hbefore i hget)
  | @recovered i j hfree hget hopen hrecovery =>
    obtain rfl : i.id = id := (Table.get?_eq_some.mp hget).2
    cases hrecovery with
    | resolved hwas hwindow =>
      have hcleared := (history_of_run hstart before i.id i hget hopen.1).clearing hwas
      exact ⟨⟨i, hget, hwas⟩, hcleared.append rfl rfl hfree, hwindow⟩
    | waiting hwas => exact absurd (hwas.symm.trans hstatus) (by simp)
    | _ => exact nomatch hstatus
  | kept hget _ => exact absurd hstatus (hbefore j hget)

lemma discarded_of_run (hj : (tableAfter start (before ++ [input])).get? id = some j)
    (hstatus : j.status = .discarded)
    (hbefore : ∀ i ∈ (tableAfter start before).get? id, i.status ≠ .discarded) :
    ∃ i, (tableAfter start before).get? id = some i ∧ i.status = .suspected := by
  rw [tableAfter_append] at hj
  cases fate_of_get hj with
  | opened c hclaimed hnew =>
    rw [opened_fst] at hstatus
    split_ifs at hstatus
  | @claimed c i hclaimed hget hopen =>
    exact absurd (status_of_claimed hstatus (by decide)) (hbefore i hget)
  | @recovered i j hfree hget hopen hrecovery =>
    cases hrecovery with
    | discarded hwas => exact ⟨i, hget, hwas⟩
    | waiting hwas => exact absurd (hwas.symm.trans hstatus) (by simp)
    | _ => exact nomatch hstatus
  | kept hget _ => exact absurd hstatus (hbefore j hget)

lemma reopened_of_run (hget : (tableAfter start before).get? id = some i)
    (hwas : i.status = .clearing)
    (hj : (tableAfter start (before ++ [input])).get? id = some j)
    (hstatus : j.status = .confirmed) :
    id ∈ (reconcileDetectedOutages input (tableAfter start before)).used := by
  rw [tableAfter_append] at hj
  cases fate_of_get hj with
  | opened c hclaimed _ => exact hclaimed
  | claimed c hclaimed _ _ => exact hclaimed
  | recovered _ hget' _ hrecovery =>
    obtain rfl := Option.mem_unique hget' hget
    cases hrecovery with
    | clearing hother => exact nomatch hstatus
    | discarded hother => exact nomatch hstatus
    | resolved _ _ => exact nomatch hstatus
    | waiting _ => exact absurd (hwas.symm.trans hstatus) (by simp)
  | kept hget' _ =>
    obtain rfl := Option.mem_unique hget' hget
    exact absurd (hwas.symm.trans hstatus) (by simp)

lemma confirmedAt_of_run (hstart : ∀ i ∈ start.rows, i.detectionSource = .operator)
    (hget : (tableAfter start before).get? id = some i) {stamp : ℤ}
    (hstamp : i.confirmedAt = some stamp) :
    ∃ j, (tableAfter start (before ++ [input])).get? id = some j ∧
      j.confirmedAt = some stamp := by
  rw [tableAfter_append]
  obtain ⟨j, hj⟩ := @exists_get input _ _ _ hget
  refine ⟨j, hj, ?_⟩
  cases fate_of_get hj with
  | opened c _ hnew => exact absurd (hnew.symm.trans hget) (by simp)
  | @claimed c i' _ hget' hopen =>
    obtain rfl : i' = i := Option.mem_unique hget' hget
    rw [claimed_fst]
    by_cases hdue : Due (resolveWindows input.settings) input.now c i'
    · obtain ⟨hnone, -⟩ := (history_of_run hstart before id i' hget hopen.1).suspected hdue.1
      exact absurd (hnone.symm.trans hstamp) (by simp)
    · simp only [hdue, if_false]
      exact hstamp
  | recovered _ hget' _ hrecovery =>
    obtain rfl := Option.mem_unique hget' hget
    cases hrecovery <;> exact hstamp
  | kept hget' _ =>
    obtain rfl := Option.mem_unique hget' hget
    exact hstamp

end Transitions

/-- **The lifecycle is debounced** in every run of passes that starts without incidents of the
classifier. -/
theorem debounced_of_run (start : Table OutageIncident)
    (hstart : ∀ i ∈ start.rows, i.detectionSource = .operator) (before : List PassInput)
    (input : PassInput) : Debounced start before input := by
  have hpass := reconciled input (tableAfter start before)
  refine ⟨fun id j => confirmed_of_run hstart, fun id i j => reopened_of_run,
    fun id j => resolved_of_run hstart, fun id j => discarded_of_run, fun id i hget hterminal => ?_,
    ⟨hpass.boundaries, hpass.nodup⟩, fun id i stamp hget hstamp => confirmedAt_of_run hstart hget hstamp⟩
  rw [tableAfter_append]
  refine get_of_closed hget fun hopen => ?_
  rcases hterminal with hstatus | hstatus <;> simp [OutageIncident.IsOpen, hstatus] at hopen

/-! ## A flickering outage -/

def largeOutage : Candidates :=
  ⟨[⟨1, none, 20, none, "down", {1}, by decide⟩], by decide⟩

def defaultPass (now : ℤ) (candidates : Candidates) : PassInput :=
  ⟨now, fun _ => none, firstOldest, candidates⟩

def seenAndGone : List PassInput :=
  [defaultPass 0 largeOutage, defaultPass 60000000 ⟨[], by decide⟩]

/-- It is seen again after another minute. -/
theorem flicker_debounced : Debounced Table.empty seenAndGone (defaultPass 120000000 largeOutage) :=
  debounced_of_run Table.empty (by simp [Table.empty]) _ _

/-- An incident that is reopened becomes confirmed though a pass did not claim it. -/
theorem flicker_reopened : ¬ ∀ (start : Table OutageIncident) (before : List PassInput)
    (input : PassInput) (id : ℕ) (j : OutageIncident),
      (∀ i ∈ start.rows, i.detectionSource = .operator) →
        (before ++ [input]).Pairwise (fun p q => p.now ≤ q.now) →
          (tableAfter start (before ++ [input])).get? id = some j → j.status = .confirmed →
            (∀ i ∈ (tableAfter start before).get? id, i.status ≠ .confirmed) →
              ClaimedSinceSuspected start (before ++ [input]) j := by
  intro hall
  obtain ⟨first, opening, middle, hsplit, hnew, -, hclaimed⟩ :=
    hall Table.empty seenAndGone (defaultPass 120000000 largeOutage) 0
      ⟨0, some 1, none, .classifier, .confirmed, 20, none, some "down", 0, some 0, some 0, none, none⟩
      (by simp [Table.empty]) (by decide +kernel) (by decide +kernel) rfl (by decide +kernel)
  rcases first with _ | ⟨p, _ | ⟨q, _ | ⟨r, rest⟩⟩⟩
  · obtain ⟨rfl, rfl⟩ := List.cons.inj hsplit
    exact absurd hclaimed.2.1 (by decide +kernel)
  · obtain ⟨rfl, -⟩ := List.cons.inj hsplit
    exact absurd hnew (by decide +kernel)
  · obtain ⟨hp, hrest⟩ := List.cons.inj hsplit
    obtain ⟨hq, -⟩ := List.cons.inj hrest
    subst hp hq
    exact absurd hnew (by decide +kernel)
  · exact absurd (congrArg List.length hsplit) (by simp [seenAndGone])

end DotmacSub.Topology
