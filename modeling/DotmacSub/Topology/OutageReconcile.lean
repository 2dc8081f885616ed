import DotmacSub.Core.Table
import Mathlib.Data.Finset.Basic
import Mathlib.Data.List.MinMax
import Mathlib.Data.Rat.Defs

/-!
# The lifecycle of classifier incidents

The reconcile pass of `topology/outage_reconcile.py` over the incidents of `topology/outage.py`.
Instants are counted in microseconds, windows in seconds.
-/

namespace DotmacSub.Topology

open Store

/-- The first one is the `open` of incidents that an operator declares. -/
inductive OutageStatus
  | declared
  | suspected
  | confirmed
  | clearing
  | resolved
  | discarded
deriving DecidableEq

inductive DetectionSource
  | operator
  | classifier
deriving DecidableEq

/-- A persisted incident. -/
structure OutageIncident where
  id : ℕ
  rootNodeId : Option ℕ
  basestationId : Option ℕ
  detectionSource : DetectionSource
  status : OutageStatus
  affectedCount : ℕ
  confidence : Option ℚ
  classification : Option String
  startedAt : ℤ
  suspectedAt : Option ℤ
  confirmedAt : Option ℤ
  clearedAt : Option ℤ
  resolvedAt : Option ℤ
deriving DecidableEq

instance : Row OutageIncident := ⟨OutageIncident.id⟩

/-- An outage seen in one pass, localized to its boundary node. -/
structure Candidate where
  rootNodeId : ℕ
  basestationId : Option ℕ
  affectedCount : ℕ
  confidence : Option ℚ
  classification : String
  componentNodeIds : Finset ℕ
  rooted : rootNodeId ∈ componentNodeIds

/-- The candidates of a pass, one for each boundary node. -/
structure Candidates where
  items : List Candidate
  keyed : (items.map Candidate.rootNodeId).Nodup

inductive LifecycleEvent
  | suspected
  | rerooted
  | reopened
  | confirmed
  | discarded
  | clearing
  | resolved
deriving DecidableEq

/-- Settings are advisory: one that is missing or no number reads as its default. -/
def settingInt (settings : String → Option ℤ) (key : String) (default : ℤ) : ℤ :=
  (settings key).getD default

/-- The debounce windows in seconds, and the counts from which they apply. -/
structure Windows where
  small : ℤ
  med : ℤ
  large : ℤ
  thresholdMed : ℤ
  thresholdLarge : ℤ
  resolve : ℤ

def resolveWindows (settings : String → Option ℤ) : Windows :=
  let small := max (settingInt settings "outage_confirm_seconds_small" 600) 0
  let med := max (settingInt settings "outage_confirm_seconds_med" 360) 0
  let large := max (settingInt settings "outage_confirm_seconds_large" 0) 0
  let thresholdMed := max (settingInt settings "outage_confirm_threshold_med" 5) 1
  let thresholdLarge :=
    max (settingInt settings "outage_confirm_threshold_large" 20) thresholdMed
  let resolve := max (settingInt settings "outage_resolve_seconds" 300) 0
  ⟨small, med, large, thresholdMed, thresholdLarge, resolve⟩

def confirmWindowSeconds (affectedCount : ℕ) (windows : Windows) : ℤ :=
  if windows.thresholdLarge ≤ affectedCount then windows.large
  else if windows.thresholdMed ≤ affectedCount then windows.med
  else windows.small

/-- The microseconds since a stamp; a missing stamp reads as no time. -/
def elapsed (now : ℤ) : Option ℤ → ℤ
  | none => 0
  | some stamp => now - stamp

def HasElapsed (now : ℤ) (stamp : Option ℤ) (seconds : ℤ) : Prop :=
  seconds * 1000000 ≤ elapsed now stamp

instance (now : ℤ) (stamp : Option ℤ) (seconds : ℤ) : Decidable (HasElapsed now stamp seconds) :=
  inferInstanceAs (Decidable (_ ≤ _))

/-- An incident of the classifier that is neither resolved nor discarded. -/
def OutageIncident.IsOpen (i : OutageIncident) : Prop :=
  i.detectionSource = .classifier ∧
    (i.status = .suspected ∨ i.status = .confirmed ∨ i.status = .clearing)

instance (i : OutageIncident) : Decidable i.IsOpen := inferInstanceAs (Decidable (_ ∧ _))

/-- The first of the rows ordered by their start; which of equally old ones is up to the database. -/
structure Oldest where
  pick : List OutageIncident → Option OutageIncident
  isSome_iff : ∀ rows, (pick rows).isSome ↔ rows ≠ []
  oldest : ∀ rows, ∀ i ∈ pick rows, i ∈ rows ∧ ∀ j ∈ rows, i.startedAt ≤ j.startedAt

/-- Equally old rows in the order of the table. -/
def firstOldest : Oldest where
  pick rows := @List.argmin _ _ Int.instLinearOrder.toPreorder Int.decLt OutageIncident.startedAt rows
  isSome_iff rows := by
    rw [Option.isSome_iff_ne_none, ne_eq, List.argmin_eq_none]
  oldest _ _ hi := ⟨List.argmin_mem hi, fun _ hj => List.le_of_mem_argmin hj hi⟩

def SiteMatch (c : Candidate) (i : OutageIncident) : Prop :=
  c.basestationId ≠ none ∧ i.basestationId = c.basestationId

def RootMatch (c : Candidate) (i : OutageIncident) : Prop := i.rootNodeId = some c.rootNodeId

def ComponentMatch (c : Candidate) (i : OutageIncident) : Prop :=
  ∃ root ∈ i.rootNodeId, root ∈ c.componentNodeIds

instance (c : Candidate) (i : OutageIncident) : Decidable (SiteMatch c i) :=
  inferInstanceAs (Decidable (_ ∧ _))

instance (c : Candidate) (i : OutageIncident) : Decidable (RootMatch c i) :=
  inferInstanceAs (Decidable (_ = _))

instance (c : Candidate) (i : OutageIncident) : Decidable (ComponentMatch c i) :=
  inferInstanceAs (Decidable (∃ root ∈ i.rootNodeId, _))

section Pass

variable (oldest : Oldest)

def pickOpen (incidents : Table OutageIncident) (excluded : List ℕ)
    (matched : OutageIncident → Prop) [DecidablePred matched] : Option OutageIncident :=
  oldest.pick (incidents.rows.filter fun i => i.IsOpen ∧ matched i ∧ i.id ∉ excluded)

/-- The identity rule: the site, else the root, else the component. -/
def findOpenClassifierIncident (incidents : Table OutageIncident) (c : Candidate)
    (excluded : List ℕ) : Option OutageIncident :=
  (pickOpen oldest incidents excluded (SiteMatch c)).or <|
    (pickOpen oldest incidents excluded (RootMatch c)).or
      (pickOpen oldest incidents excluded (ComponentMatch c))

end Pass

/-- An incident and the events emitted for it. -/
abbrev Noted := OutageIncident × List LifecycleEvent

def openClassifierIncident (now : ℤ) (c : Candidate) (id : ℕ) : Noted :=
  ({ id
     rootNodeId := some c.rootNodeId
     basestationId := c.basestationId
     detectionSource := .classifier
     status := .suspected
     affectedCount := c.affectedCount
     confidence := c.confidence
     classification := some c.classification
     startedAt := now
     suspectedAt := some now
     confirmedAt := none
     clearedAt := none
     resolvedAt := none }, [.suspected])

def repointRoot (rootNodeId : ℕ) (n : Noted) : Noted :=
  if n.1.rootNodeId = some rootNodeId then n
  else ({ n.1 with rootNodeId := some rootNodeId }, n.2 ++ [.rerooted])

def updateClassifierSnapshot (c : Candidate) (n : Noted) : Noted :=
  ({ n.1 with
      affectedCount := c.affectedCount
      confidence := c.confidence.or n.1.confidence
      classification := some c.classification }, n.2)

def reopenIncident (n : Noted) : Noted :=
  ({ n.1 with status := .confirmed, clearedAt := none }, n.2 ++ [.reopened])

def confirmIncident (now : ℤ) (n : Noted) : Noted :=
  ({ n.1 with status := .confirmed, confirmedAt := some now }, n.2 ++ [.confirmed])

def discardIncident (n : Noted) : Noted :=
  ({ n.1 with status := .discarded }, n.2 ++ [.discarded])

def startClearing (now : ℤ) (n : Noted) : Noted :=
  ({ n.1 with status := .clearing, clearedAt := some now }, n.2 ++ [.clearing])

def resolveClassifierIncident (now : ℤ) (n : Noted) : Noted :=
  ({ n.1 with status := .resolved, resolvedAt := some now }, n.2 ++ [.resolved])

/-- A claimed incident follows its candidate: a root is re-pointed, a site alone stays a site. -/
def followCandidate (c : Candidate) (i : OutageIncident) : Noted :=
  let repointed := if i.rootNodeId.isSome then repointRoot c.rootNodeId (i, []) else (i, [])
  let updated := updateClassifierSnapshot c repointed
  if updated.1.status = .clearing then reopenIncident updated else updated

/-- A suspected incident is confirmed once its window has passed. -/
def debounceUp (windows : Windows) (now : ℤ) (n : Noted) : Noted :=
  if n.1.status = .suspected ∧
      HasElapsed now n.1.suspectedAt (confirmWindowSeconds n.1.affectedCount windows)
    then confirmIncident now n
    else n

/-- An open incident that no candidate claims is debounced down. -/
def recover (windows : Windows) (now : ℤ) (i : OutageIncident) : Noted :=
  match i.status with
  | .suspected => discardIncident (i, [])
  | .confirmed => startClearing now (i, [])
  | .clearing =>
    if HasElapsed now i.clearedAt windows.resolve then resolveClassifierIncident now (i, [])
    else (i, [])
  | _ => (i, [])

def claimed (windows : Windows) (now : ℤ) (c : Candidate) (i : OutageIncident) : Noted :=
  debounceUp windows now (followCandidate c i)

/-- A new incident, debounced. -/
def opened (windows : Windows) (now : ℤ) (c : Candidate) (id : ℕ) : Noted :=
  debounceUp windows now (openClassifierIncident now c id)

variable {now : ℤ}

variable {windows : Windows}

lemma id_debounceUp {n : Noted} : (debounceUp windows now n).1.id = n.1.id := by
  unfold debounceUp
  split_ifs <;> rfl

lemma id_claimed {c : Candidate} {i : OutageIncident} : (claimed windows now c i).1.id = i.id := by
  rw [claimed, id_debounceUp]
  simp only [followCandidate, updateClassifierSnapshot, reopenIncident, repointRoot]
  split_ifs <;> rfl

lemma id_opened {c : Candidate} {id : ℕ} :
    (opened windows now c id).1.id = id := id_debounceUp

lemma id_recover {i : OutageIncident} : (recover windows now i).1.id = i.id := by
  unfold recover
  split
  case h_3 => split_ifs <;> rfl
  all_goals rfl

/-- The incidents so far, who claimed which of them, and the events. -/
structure Pass where
  incidents : Table OutageIncident
  claims : List (ℕ × ℕ)
  events : List (ℕ × LifecycleEvent)

/-- The incidents claimed so far. -/
def Pass.used (p : Pass) : List ℕ := p.claims.map Prod.snd

/-- Find or open the incident of a candidate, and debounce it up. -/
def claimCandidate (oldest : Oldest) (windows : Windows) (now : ℤ) (p : Pass) (c : Candidate) :
    Pass :=
  match findOpenClassifierIncident oldest p.incidents c p.used with
  | none =>
    { incidents := p.incidents.insert (fun id => (opened windows now c id).1) fun _ => id_opened
      claims := p.claims ++ [(c.rootNodeId, p.incidents.next)]
      events := p.events ++
        (opened windows now c p.incidents.next).2.map (p.incidents.next, ·) }
  | some i =>
    { incidents :=
        p.incidents.update i.id (fun i => (claimed windows now c i).1) fun _ => id_claimed
      claims := p.claims ++ [(c.rootNodeId, i.id)]
      events := p.events ++ (claimed windows now c i).2.map (i.id, ·) }

/-- Debounce an incident of the snapshot down, unless it is claimed. -/
def recoverIncident (windows : Windows) (now : ℤ) (p : Pass) (i : OutageIncident) : Pass :=
  if i.id ∈ p.used then p
  else
    { p with
      incidents := p.incidents.update i.id (fun i => (recover windows now i).1) fun _ => id_recover
      events := p.events ++ (recover windows now i).2.map (i.id, ·) }

def claimAll (oldest : Oldest) (windows : Windows) (now : ℤ) (incidents : Table OutageIncident)
    (candidates : List Candidate) : Pass :=
  candidates.foldl (claimCandidate oldest windows now) ⟨incidents, [], []⟩

structure PassInput where
  now : ℤ
  settings : String → Option ℤ
  oldest : Oldest
  candidates : Candidates

/-- One pass. -/
def reconcileDetectedOutages (input : PassInput) (incidents : Table OutageIncident) : Pass :=
  let windows := resolveWindows input.settings
  let snapshot := incidents.rows.filter fun i => i.IsOpen
  snapshot.foldl (recoverIncident windows input.now)
    (claimAll input.oldest windows input.now incidents input.candidates.items)

end DotmacSub.Topology
