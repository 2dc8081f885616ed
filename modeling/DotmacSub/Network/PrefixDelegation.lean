import DotmacSub.Core.Networks
import DotmacSub.Core.Run
import DotmacSub.Core.Table
import Mathlib.Data.List.MinMax

/-!
# Prefix delegation

`ipv6_pd`: a pool hands each service a prefix carved from the parent prefix.  A call looks for a
prefix its owner has already, waits for the lock of the pool, takes a released row or the first
prefix whose address no row has, and keeps the lock until its transaction ends.  The delegation
length of the pool may be edited at any time.
-/

namespace DotmacSub.PrefixDelegation

open Store

inductive Ipv6PrefixState
  | available
  | reserved
  | assigned
deriving DecidableEq

/-- A pool: its parent prefix, if `cidr` reads as an IPv6 network, and the length of what it
delegates. -/
structure IpPool where
  parent : Option (Network 128)
  delegationPrefixLength : Option ℕ
deriving DecidableEq

/-- A row; the network is the text `prefix` with `prefix_length`. -/
structure Ipv6DelegatedPrefix where
  id : ℕ
  network : Network 128
  state : Ipv6PrefixState
  subscriberId : Option ℕ
  subscriptionId : Option ℕ
deriving DecidableEq

instance : Row Ipv6DelegatedPrefix := ⟨Ipv6DelegatedPrefix.id⟩

structure Request where
  subscriberId : ℕ
  subscriptionId : Option ℕ
deriving DecidableEq

def defaultDelegationPrefixLength : ℕ := 64

def materializeScanCap : ℕ := 8192

/-- The length of what the pool delegates; zero counts as absent. -/
def poolDelegationLength (pool : IpPool) : ℕ :=
  match pool.delegationPrefixLength with
  | none | some 0 => defaultDelegationPrefixLength
  | some (length + 1) => length + 1

def iterCandidatePrefixes (pool : IpPool) (cap : ℕ) : List (Network 128) :=
  match pool.parent with
  | none => []
  | some parent => parent.subnets (poolDelegationLength pool) cap

/-- The row belongs to the service of the request; a caller without one goes by the subscriber. -/
def ownerClause (request : Request) (r : Ipv6DelegatedPrefix) : Prop :=
  match request.subscriptionId with
  | some subscriptionId => r.subscriptionId = some subscriptionId
  | none => r.subscriberId = some request.subscriberId

instance (request : Request) : DecidablePred (ownerClause request) := fun _ => by
  unfold ownerClause
  split <;> infer_instance

def existing (request : Request) (prefixes : Table Ipv6DelegatedPrefix) :
    Option Ipv6DelegatedPrefix :=
  prefixes.rows.find? fun r => r.state = .assigned ∧ ownerClause request r

/-- What a call returns: a released row, a new prefix, or nothing. -/
inductive Pick
  | reuse (id : ℕ)
  | materialise (candidate : Network 128)
  | exhausted
deriving DecidableEq

section Pick

variable (textOrder : ℕ → ℕ)

/-- The released row whose prefix sorts first as a text. -/
def free (prefixes : Table Ipv6DelegatedPrefix) : Option Ipv6DelegatedPrefix :=
  (prefixes.rows.filter (·.state = .available)).argmin (textOrder ·.network.address)

/-- A released row, else the first child whose address no row has. -/
def pick (pool : IpPool) (prefixes : Table Ipv6DelegatedPrefix) : Pick :=
  match free textOrder prefixes with
  | some row => .reuse row.id
  | none =>
    let taken := prefixes.rows.map (·.network.address)
    match (iterCandidatePrefixes pool materializeScanCap).find? (·.address ∉ taken) with
    | some candidate => .materialise candidate
    | none => .exhausted

end Pick

/-- Where a caller stands: it has read that its owner has no prefix, it has taken the lock and its
transaction is open, or it is done. -/
inductive Call
  | idle
  | checked (request : Request) (pool : IpPool)
  | holding (request : Request) (returned : Pick)
  | answered (prefixId : Option ℕ)
deriving DecidableEq

/-- A pool, the committed delegations, the callers, and who has the lock of the pool. -/
structure Site where
  pool : IpPool
  prefixes : Table Ipv6DelegatedPrefix
  call : ℕ → Call
  lock : Option ℕ

def Site.initial (pool : IpPool) : Site := ⟨pool, .empty, fun _ => .idle, none⟩

/-- A step of a caller, a release, or an edit of the pool. -/
inductive Event
  | check (caller : ℕ) (request : Request)
  | take (caller : ℕ)
  | commit (caller : ℕ)
  | rollback (caller : ℕ)
  | release (prefixId : ℕ)
  | releaseSubscriber (subscriberId : ℕ)
  | releaseSubscription (subscriptionId : ℕ)
  | setLength (length : Option ℕ)

def Request.assign (request : Request) (r : Ipv6DelegatedPrefix) : Ipv6DelegatedPrefix :=
  { r with state := .assigned, subscriberId := some request.subscriberId,
           subscriptionId := request.subscriptionId }

def Request.create (request : Request) (candidate : Network 128) (id : ℕ) :
    Ipv6DelegatedPrefix where
  id := id
  network := candidate
  state := .assigned
  subscriberId := some request.subscriberId
  subscriptionId := request.subscriptionId

/-- The row is returned to the pool. -/
def releaseDelegatedPrefix (r : Ipv6DelegatedPrefix) : Ipv6DelegatedPrefix :=
  { r with state := .available, subscriberId := none, subscriptionId := none }

/-- Every assigned row that satisfies `p` is released. -/
def releaseWhere (p : Ipv6DelegatedPrefix → Prop) [DecidablePred p]
    (prefixes : Table Ipv6DelegatedPrefix) : Table Ipv6DelegatedPrefix :=
  prefixes.map (fun r => if r.state = .assigned ∧ p r then releaseDelegatedPrefix r else r)
    fun r => by split_ifs <;> rfl

/-- The delegations once the transaction of a call is committed. -/
def store (request : Request) (prefixes : Table Ipv6DelegatedPrefix) :
    Pick → Table Ipv6DelegatedPrefix
  | .reuse id => prefixes.update id request.assign fun _ => rfl
  | .materialise candidate => prefixes.insert (request.create candidate) fun _ => rfl
  | .exhausted => prefixes

def answer (prefixes : Table Ipv6DelegatedPrefix) : Pick → Option ℕ
  | .reuse id => some id
  | .materialise _ => some prefixes.next
  | .exhausted => none

def Site.move (s : Site) (caller : ℕ) (phase : Call) : Site :=
  { s with call := Function.update s.call caller phase }

/-- An open transaction has the row. -/
def Site.locked (s : Site) (prefixId : ℕ) : Bool :=
  match s.lock with
  | none => false
  | some caller =>
    match s.call caller with
    | .holding _ (.reuse id) => id = prefixId
    | _ => false

/-- One step of a caller, a release or an edit of the pool, in any order. -/
def step (textOrder : ℕ → ℕ) (s : Site) : Event → Except Unit Site
  | .check caller request =>
    match s.call caller with
    | .checked _ _ | .holding _ _ => .error ()
    | .idle | .answered _ =>
      if s.pool.parent.isNone then .ok (s.move caller (.answered none))
      else match existing request s.prefixes with
      | some row => .ok (s.move caller (.answered row.id))
      | none => .ok (s.move caller (.checked request s.pool))
  | .take caller =>
    match s.call caller, s.lock with
    | .checked request pool, none =>
      .ok { s.move caller (.holding request (pick textOrder pool s.prefixes)) with
            lock := some caller }
    | _, _ => .error ()
  | .commit caller =>
    match s.call caller with
    | .holding request returned =>
      .ok { s.move caller (.answered (answer s.prefixes returned)) with
            prefixes := store request s.prefixes returned
            lock := none }
    | _ => .error ()
  | .rollback caller =>
    match s.call caller with
    | .holding _ _ => .ok { s.move caller .idle with lock := none }
    | .checked _ _ => .ok (s.move caller .idle)
    | _ => .error ()
  | .release prefixId =>
    if s.locked prefixId then .error ()
    else .ok { s with prefixes := s.prefixes.update prefixId releaseDelegatedPrefix fun _ => rfl }
  | .releaseSubscriber subscriberId =>
    .ok { s with prefixes := releaseWhere (·.subscriberId = some subscriberId) s.prefixes }
  | .releaseSubscription subscriptionId =>
    .ok { s with prefixes := releaseWhere (·.subscriptionId = some subscriptionId) s.prefixes }
  | .setLength length => .ok { s with pool := { s.pool with delegationPrefixLength := length } }

def IpPool.Inside (pool : IpPool) (n : Network 128) : Prop :=
  ∃ parent, pool.parent = some parent ∧ n.span ⊆ parent.span

/-- Assigned prefixes share no address and lie in the parent, and no subscription has two. -/
structure Lawful (pool : IpPool) (prefixes : Table Ipv6DelegatedPrefix) : Prop where
  disjoint : ∀ r ∈ prefixes.rows, ∀ q ∈ prefixes.rows, r.state = .assigned →
    q.state = .assigned → r.id ≠ q.id → Disjoint r.network.span q.network.span
  inside : ∀ r ∈ prefixes.rows, r.state = .assigned → pool.Inside r.network
  single : ∀ r ∈ prefixes.rows, ∀ q ∈ prefixes.rows, r.state = .assigned →
    q.state = .assigned → ∀ x, r.subscriptionId = some x → q.subscriptionId = some x → r.id = q.id

/-- What a call may return: a prefix of the length of the pool that nobody has, and nothing only if
each of the first children of the parent is assigned. -/
def Fits (pool : IpPool) (prefixes : Table Ipv6DelegatedPrefix) : Pick → Prop
  | .reuse id => ∃ r ∈ prefixes.rows, r.id = id ∧ r.state ≠ .assigned ∧
      r.network.length = poolDelegationLength pool
  | .materialise candidate => candidate.length = poolDelegationLength pool ∧
      pool.Inside candidate ∧
      ∀ r ∈ prefixes.rows, r.state = .assigned → Disjoint r.network.span candidate.span
  | .exhausted => ∀ parent child, pool.parent = some parent →
      child.length = poolDelegationLength pool → child.span ⊆ parent.span →
      child.address < parent.address + materializeScanCap * child.size →
      ∃ r ∈ prefixes.rows, r.state = .assigned ∧ r.network = child

/-- A call returns what fits, what it was returned is still nobody's when its transaction ends, and
a call that does not get to the lock returns nothing only if the pool has no parent. -/
structure LawfulStep (s s' : Site) (event : Event) : Prop where
  fits : ∀ caller request returned, event = .take caller →
    s'.call caller = .holding request returned → Fits s.pool s.prefixes returned
  unassigned : ∀ caller request id, event = .commit caller →
    s.call caller = .holding request (.reuse id) →
    ∀ r ∈ s.prefixes.rows, r.id = id → r.state ≠ .assigned
  usable : ∀ caller request, event = .check caller request → s'.call caller = .answered none →
    s.pool.parent = none

def Alone (prefixes : Table Ipv6DelegatedPrefix) (request : Request) : Prop :=
  ∀ r ∈ prefixes.rows, r.state = .assigned →
    r.subscriptionId = none ∨ r.subscriptionId ≠ request.subscriptionId

instance (prefixes : Table Ipv6DelegatedPrefix) : DecidablePred (Alone prefixes) :=
  fun _ => inferInstanceAs (Decidable (∀ r ∈ _, _))

/-- What a call has read still holds: its subscription has no prefix, and every row has the length
of the pool, which is the one it has read. -/
def StillHolds (s : Site) : Call → Prop
  | .checked request pool =>
    (∀ r ∈ s.prefixes.rows, r.network.length = poolDelegationLength pool) ∧
    poolDelegationLength pool = poolDelegationLength s.pool ∧ Alone s.prefixes request
  | _ => True

instance (s : Site) : DecidablePred (StillHolds s)
  | .checked _ _ => inferInstanceAs (Decidable (_ ∧ _))
  | .idle | .holding _ _ | .answered _ => isTrue trivial

/-- A call takes the lock while what it has read still holds. -/
def Orderly (s : Site) : Event → Prop
  | .take caller => StillHolds s (s.call caller)
  | _ => True

instance (s : Site) : DecidablePred (Orderly s)
  | .take _ => inferInstanceAs (Decidable (StillHolds s _))
  | .check _ _ | .commit _ | .rollback _ | .release _ | .releaseSubscriber _
  | .releaseSubscription _ | .setLength _ => isTrue trivial

/-- Rows share no address, assigned or not. -/
structure Sound (pool : IpPool) (prefixes : Table Ipv6DelegatedPrefix) : Prop where
  disjoint : ∀ r ∈ prefixes.rows, ∀ q ∈ prefixes.rows, r.id ≠ q.id →
    Disjoint r.network.span q.network.span
  inside : ∀ r ∈ prefixes.rows, pool.Inside r.network
  single : ∀ r ∈ prefixes.rows, ∀ q ∈ prefixes.rows, r.state = .assigned →
    q.state = .assigned → ∀ x, r.subscriptionId = some x → q.subscriptionId = some x → r.id = q.id
  unreserved : ∀ r ∈ prefixes.rows, r.state ≠ .reserved

/-- What an open transaction will write is nobody's, and its subscription has no prefix. -/
structure Pending (pool : IpPool) (prefixes : Table Ipv6DelegatedPrefix) (request : Request)
    (returned : Pick) : Prop where
  alone : Alone prefixes request
  reuse : ∀ id, returned = .reuse id → ∀ r ∈ prefixes.rows, r.id = id → r.state ≠ .assigned
  materialise : ∀ candidate, returned = .materialise candidate → pool.Inside candidate ∧
    ∀ r ∈ prefixes.rows, Disjoint r.network.span candidate.span

variable {s s' : Site} {event : Event} {textOrder : ℕ → ℕ} {caller : ℕ} {request : Request}
  {pool pool' : IpPool} {prefixes prefixes' : Table Ipv6DelegatedPrefix} {returned : Pick}

lemma Sound.lawful (h : Sound pool prefixes) : Lawful pool prefixes where
  disjoint r hr q hq _ _ := h.disjoint r hr q hq
  inside r hr _ := h.inside r hr
  single := h.single

lemma Sound.congr (h : Sound pool prefixes) (hparent : pool.parent = pool'.parent) :
    Sound pool' prefixes :=
  ⟨h.disjoint, fun r hr => by rw [IpPool.Inside, ← hparent]; exact h.inside r hr, h.single,
    h.unreserved⟩

lemma Pending.congr (h : Pending pool prefixes request returned)
    (hparent : pool.parent = pool'.parent) : Pending pool' prefixes request returned :=
  ⟨h.alone, h.reuse, fun c hc => by rw [IpPool.Inside, ← hparent]; exact h.materialise c hc⟩

/-- What is picked: a free row, the lowest fresh candidate, or nothing. -/
inductive Picked (pool : IpPool) (prefixes : Table Ipv6DelegatedPrefix) : Pick → Prop
  | reuse {r : Ipv6DelegatedPrefix} (mem : r ∈ prefixes.rows) (available : r.state = .available) :
      Picked pool prefixes (.reuse r.id)
  | materialise {candidate : Network 128}
      (mem : candidate ∈ iterCandidatePrefixes pool materializeScanCap)
      (fresh : ∀ r ∈ prefixes.rows, r.network.address ≠ candidate.address)
      (lowest : ∀ c ∈ iterCandidatePrefixes pool materializeScanCap,
        c.address < candidate.address → ∃ r ∈ prefixes.rows, r.network.address = c.address) :
      Picked pool prefixes (.materialise candidate)
  | exhausted (none : ∀ r ∈ prefixes.rows, r.state ≠ .available)
      (taken : ∀ candidate ∈ iterCandidatePrefixes pool materializeScanCap,
        ∃ r ∈ prefixes.rows, r.network.address = candidate.address) :
      Picked pool prefixes .exhausted

lemma pairwise_iterCandidatePrefixes {cap : ℕ} :
    (iterCandidatePrefixes pool cap).Pairwise (·.address < ·.address) := by
  unfold iterCandidatePrefixes
  cases pool.parent with
  | none => exact .nil
  | some parent => exact Network.pairwise_subnets

/-- A lower address stands earlier. -/
lemma mem_left_of_lt {c b : Network 128} {as bs : List (Network 128)}
    (hsorted : (as ++ b :: bs).Pairwise (·.address < ·.address)) (hc : c ∈ as ++ b :: bs)
    (hlt : c.address < b.address) : c ∈ as := by
  rcases List.mem_append.mp hc with hc | hc
  · exact hc
  · rcases List.mem_cons.mp hc with rfl | hc
    · exact absurd hlt (lt_irrefl _)
    · have hsorted' := List.pairwise_cons.mp (List.pairwise_append.mp hsorted).2.1
      exact absurd (hsorted'.1 c hc) hlt.le.not_gt

lemma picked_pick : Picked pool prefixes (pick textOrder pool prefixes) := by
  rw [pick]
  cases hfree : free textOrder prefixes with
  | some r =>
    have hr := List.mem_filter.mp (List.argmin_mem hfree)
    exact .reuse hr.1 (of_decide_eq_true hr.2)
  | none =>
    cases hfind : (iterCandidatePrefixes pool materializeScanCap).find?
        (·.address ∉ prefixes.rows.map (·.network.address)) with
    | some candidate =>
      simp only [hfind]
      obtain ⟨hfresh, as, bs, hsplit, htaken⟩ := List.find?_eq_some_iff_append.mp hfind
      refine .materialise (List.mem_of_find?_eq_some hfind) (fun r hr heq => ?_) fun c hc hlt => ?_
      · exact of_decide_eq_true hfresh (heq ▸ List.mem_map_of_mem hr)
      · have hc' : c ∈ as := mem_left_of_lt (hsplit ▸ pairwise_iterCandidatePrefixes) (hsplit ▸ hc) hlt
        simpa using htaken c hc'
    | none =>
      simp only [hfind]
      have hnone := List.filter_eq_nil_iff.mp (List.argmin_eq_none.mp hfree)
      refine .exhausted (fun r hr => by simpa using hnone r hr) fun candidate hmem => ?_
      have htaken := List.find?_eq_none.mp hfind candidate hmem
      simpa using htaken

lemma mem_iterCandidatePrefixes {child : Network 128} {cap : ℕ} :
    child ∈ iterCandidatePrefixes pool cap ↔ ∃ parent, pool.parent = some parent ∧
      child.length = poolDelegationLength pool ∧ child.span ⊆ parent.span ∧
      child.address < parent.address + cap * child.size := by
  unfold iterCandidatePrefixes
  cases pool.parent with
  | none => simp
  | some parent => simp [Network.mem_subnets]

lemma disjoint_candidate {candidate : Network 128} {cap : ℕ}
    (hmem : candidate ∈ iterCandidatePrefixes pool cap)
    (hfresh : ∀ r ∈ prefixes.rows, r.network.address ≠ candidate.address)
    (hrows : ∀ r ∈ prefixes.rows, r.network.length = poolDelegationLength pool) :
    pool.Inside candidate ∧ ∀ r ∈ prefixes.rows, Disjoint r.network.span candidate.span := by
  obtain ⟨parent, hparent, hlength, hspan, -⟩ := mem_iterCandidatePrefixes.mp hmem
  refine ⟨⟨parent, hparent, hspan⟩, fun r hr => ?_⟩
  exact Network.disjoint_span ((hrows r hr).trans hlength.symm) (hfresh r hr)

lemma Picked.fits (hpick : Picked pool prefixes returned) (h : Sound pool prefixes)
    (hrows : ∀ r ∈ prefixes.rows, r.network.length = poolDelegationLength pool) :
    Fits pool prefixes returned := by
  cases hpick with
  | reuse hr havailable =>
    exact ⟨_, hr, rfl, by rw [havailable]; exact nofun, hrows _ hr⟩
  | materialise hmem hfresh _ =>
    obtain ⟨hinside, hdisjoint⟩ := disjoint_candidate hmem hfresh hrows
    obtain ⟨-, -, hlength, -⟩ := mem_iterCandidatePrefixes.mp hmem
    exact ⟨hlength, hinside, fun r hr _ => hdisjoint r hr⟩
  | exhausted hnone htaken =>
    intro parent child hparent hlength hspan hcap
    obtain ⟨r, hr, haddress⟩ := htaken child (mem_iterCandidatePrefixes.mpr
      ⟨parent, hparent, hlength, hspan, hcap⟩)
    refine ⟨r, hr, ?_, Network.ext haddress ((hrows r hr).trans hlength.symm)⟩
    cases hstate : r.state with
    | available => exact absurd hstate (hnone r hr)
    | reserved => exact absurd hstate (h.unreserved r hr)
    | assigned => rfl

lemma Picked.pending (hpick : Picked pool prefixes returned)
    (hrows : ∀ r ∈ prefixes.rows, r.network.length = poolDelegationLength pool)
    (halone : Alone prefixes request) : Pending pool prefixes request returned where
  alone := halone
  reuse id heq r hr hid := by
    cases hpick with
    | reuse hq havailable =>
      obtain rfl := Pick.reuse.inj heq
      rw [Table.eq_of_id_eq hr hq hid, havailable]
      exact nofun
    | materialise _ _ _ => exact nomatch heq
    | exhausted _ _ => exact nomatch heq
  materialise candidate heq := by
    cases hpick with
    | reuse _ _ => exact nomatch heq
    | materialise hmem hfresh _ =>
      obtain rfl := Pick.materialise.inj heq
      exact disjoint_candidate hmem hfresh hrows
    | exhausted _ _ => exact nomatch heq

lemma Fits.congr (h : Fits pool prefixes returned) (hparent : pool.parent = pool'.parent)
    (hlength : poolDelegationLength pool = poolDelegationLength pool') :
    Fits pool' prefixes returned := by
  cases returned <;> simpa only [Fits, IpPool.Inside, ← hparent, ← hlength] using h

/-- Some rows are released, and nothing else. -/
def Releases (prefixes prefixes' : Table Ipv6DelegatedPrefix) : Prop :=
  ∀ r ∈ prefixes'.rows, ∃ q ∈ prefixes.rows, r = q ∨ r = releaseDelegatedPrefix q

lemma releases_update {prefixId : ℕ} :
    Releases prefixes (prefixes.update prefixId releaseDelegatedPrefix fun _ => rfl) := by
  intro r hr
  rcases Table.mem_update.mp hr with ⟨hr, -⟩ | ⟨q, hq, -, rfl⟩
  · exact ⟨r, hr, .inl rfl⟩
  · exact ⟨q, hq, .inr rfl⟩

lemma releases_releaseWhere {p : Ipv6DelegatedPrefix → Prop} [DecidablePred p] :
    Releases prefixes (releaseWhere p prefixes) := by
  intro r hr
  obtain ⟨q, hq, rfl⟩ := Table.mem_map.mp hr
  refine ⟨q, hq, ?_⟩
  split_ifs
  · exact .inr rfl
  · exact .inl rfl

namespace Releases

variable {r : Ipv6DelegatedPrefix}

lemma exists_mem (h : Releases prefixes prefixes') (hr : r ∈ prefixes'.rows) :
    ∃ q ∈ prefixes.rows, q.id = r.id ∧ q.network = r.network := by
  obtain ⟨q, hq, rfl | rfl⟩ := h r hr
  · exact ⟨_, hq, rfl, rfl⟩
  · exact ⟨_, hq, rfl, rfl⟩

lemma mem (h : Releases prefixes prefixes') (hr : r ∈ prefixes'.rows)
    (hstate : r.state ≠ .available) : r ∈ prefixes.rows := by
  obtain ⟨q, hq, rfl | rfl⟩ := h r hr
  · exact hq
  · exact absurd rfl hstate

lemma mem_of_assigned (h : Releases prefixes prefixes') (hr : r ∈ prefixes'.rows)
    (hstate : r.state = .assigned) : r ∈ prefixes.rows :=
  h.mem hr (by rw [hstate]; exact nofun)

lemma sound (hrel : Releases prefixes prefixes') (h : Sound pool prefixes) :
    Sound pool prefixes' where
  disjoint r hr q hq hne := by
    obtain ⟨r', hr', hid, hnet⟩ := hrel.exists_mem hr
    obtain ⟨q', hq', hid', hnet'⟩ := hrel.exists_mem hq
    rw [← hnet, ← hnet']
    exact h.disjoint r' hr' q' hq' (by rwa [hid, hid'])
  inside r hr := by
    obtain ⟨r', hr', -, hnet⟩ := hrel.exists_mem hr
    exact hnet ▸ h.inside r' hr'
  single r hr q hq hs hs' :=
    h.single r (hrel.mem_of_assigned hr hs) q (hrel.mem_of_assigned hq hs') hs hs'
  unreserved r hr hs := h.unreserved r (hrel.mem hr (by rw [hs]; exact nofun)) hs

lemma pending (hrel : Releases prefixes prefixes') (h : Pending pool prefixes request returned) :
    Pending pool prefixes' request returned where
  alone r hr hs := h.alone r (hrel.mem_of_assigned hr hs) hs
  reuse id heq r hr hid hs := h.reuse id heq r (hrel.mem_of_assigned hr hs) hid hs
  materialise candidate heq := by
    obtain ⟨hinside, hdisjoint⟩ := h.materialise candidate heq
    refine ⟨hinside, fun r hr => ?_⟩
    obtain ⟨q, hq, -, hnet⟩ := hrel.exists_mem hr
    exact hnet ▸ hdisjoint q hq

end Releases

/-- A released row is assigned to a subscription that has no prefix. -/
lemma Sound.reuse (h : Sound pool prefixes) (halone : Alone prefixes request) {id : ℕ} :
    Sound pool (prefixes.update id request.assign fun _ => rfl) := by
  have hmem : ∀ r ∈ (prefixes.update id request.assign fun _ => rfl).rows,
      ∃ q ∈ prefixes.rows, q.id = r.id ∧ q.network = r.network ∧
        (r.id = id ∧ r.subscriptionId = request.subscriptionId ∧ r.state = .assigned ∨ r = q) := by
    intro r hr
    rcases Table.mem_update.mp hr with ⟨hr, -⟩ | ⟨q, hq, hid, rfl⟩
    · exact ⟨r, hr, rfl, rfl, .inr rfl⟩
    · exact ⟨q, hq, rfl, rfl, .inl ⟨hid, rfl, rfl⟩⟩
  constructor
  case disjoint =>
    intro r hr q hq hne
    obtain ⟨r', hr', hid, hnet, -⟩ := hmem r hr
    obtain ⟨q', hq', hid', hnet', -⟩ := hmem q hq
    rw [← hnet, ← hnet']
    exact h.disjoint r' hr' q' hq' (by rwa [hid, hid'])
  case inside =>
    intro r hr
    obtain ⟨r', hr', -, hnet, -⟩ := hmem r hr
    exact hnet ▸ h.inside r' hr'
  case single =>
    intro r hr q hq hs hs' x hx hx'
    obtain ⟨r', hr', -, -, ⟨hid, hsub, -⟩ | rfl⟩ := hmem r hr
    · obtain ⟨q', hq', -, -, ⟨hid', -, -⟩ | rfl⟩ := hmem q hq
      · exact hid.trans hid'.symm
      · rcases halone q hq' hs' with hnone | hne
        · exact nomatch hx'.symm.trans hnone
        · exact absurd (hx'.trans (hx.symm.trans hsub)) hne
    · obtain ⟨q', hq', -, -, ⟨-, hsub, -⟩ | rfl⟩ := hmem q hq
      · rcases halone r hr' hs with hnone | hne
        · exact nomatch hx.symm.trans hnone
        · exact absurd (hx.trans (hx'.symm.trans hsub)) hne
      · exact h.single r hr' q hq' hs hs' x hx hx'
  case unreserved =>
    intro r hr hs
    obtain ⟨r', hr', -, -, ⟨-, -, hstate⟩ | rfl⟩ := hmem r hr
    · exact nomatch hstate.symm.trans hs
    · exact h.unreserved r hr' hs

/-- A new prefix that nobody has is assigned to a subscription that has none. -/
lemma Sound.materialise (h : Sound pool prefixes) (halone : Alone prefixes request)
    {candidate : Network 128} (hinside : pool.Inside candidate)
    (hdisjoint : ∀ r ∈ prefixes.rows, Disjoint r.network.span candidate.span) :
    Sound pool (prefixes.insert (request.create candidate) fun _ => rfl) := by
  constructor
  case disjoint =>
    intro r hr q hq hne
    rcases Table.mem_insert.mp hr with hr | rfl
    · rcases Table.mem_insert.mp hq with hq | rfl
      · exact h.disjoint r hr q hq hne
      · exact hdisjoint r hr
    · rcases Table.mem_insert.mp hq with hq | rfl
      · exact (hdisjoint q hq).symm
      · exact absurd rfl hne
  case inside =>
    intro r hr
    rcases Table.mem_insert.mp hr with hr | rfl
    · exact h.inside r hr
    · exact hinside
  case single =>
    intro r hr q hq hs hs' x hx hx'
    rcases Table.mem_insert.mp hr with hr | rfl
    · rcases Table.mem_insert.mp hq with hq | rfl
      · exact h.single r hr q hq hs hs' x hx hx'
      · rcases halone r hr hs with hnone | hne
        · exact nomatch hx.symm.trans hnone
        · exact absurd (hx.trans hx'.symm) hne
    · rcases Table.mem_insert.mp hq with hq | rfl
      · rcases halone q hq hs' with hnone | hne
        · exact nomatch hx'.symm.trans hnone
        · exact absurd (hx'.trans hx.symm) hne
      · rfl
  case unreserved =>
    intro r hr hs
    rcases Table.mem_insert.mp hr with hr | rfl
    · exact h.unreserved r hr hs
    · exact nomatch hs

lemma Sound.store (h : Sound pool prefixes) (hp : Pending pool prefixes request returned) :
    Sound pool (store request prefixes returned) := by
  cases returned with
  | reuse id => exact h.reuse hp.alone
  | materialise candidate =>
    obtain ⟨hinside, hdisjoint⟩ := hp.materialise candidate rfl
    exact h.materialise hp.alone hinside hdisjoint
  | exhausted => exact h

/-- The rows are sound, callers that wait know the parent, and the transaction that has the lock is
the only open one. -/
structure Inv (s : Site) : Prop where
  sound : Sound s.pool s.prefixes
  parent : ∀ caller request pool, s.call caller = .checked request pool →
    pool.parent = s.pool.parent
  lock : ∀ caller request returned, s.call caller = .holding request returned →
    s.lock = some caller
  pending : ∀ caller request returned, s.call caller = .holding request returned →
    Pending s.pool s.prefixes request returned

lemma inv_initial : Inv (.initial pool) :=
  ⟨⟨fun _ h => (nomatch h), fun _ h => (nomatch h), fun _ h => (nomatch h), fun _ h => nomatch h⟩,
    fun _ _ _ h => (nomatch h), fun _ _ _ h => (nomatch h), fun _ _ _ h => nomatch h⟩

lemma call_move {phase : Call} (u : ℕ) :
    (s.move caller phase).call u = if u = caller then phase else s.call u :=
  Function.update_apply _ _ _ _

lemma prefixes_move {phase : Call} : (s.move caller phase).prefixes = s.prefixes := rfl

lemma call_move_self {phase : Call} : (s.move caller phase).call caller = phase :=
  Function.update_self _ _ _

lemma Inv.move (h : Inv s) {phase : Call}
    (hchecked : ∀ request pool, phase = .checked request pool → pool.parent = s.pool.parent)
    (hholding : ∀ request returned, phase ≠ .holding request returned) :
    Inv (s.move caller phase) := by
  have hcall : ∀ u request returned, (s.move caller phase).call u = .holding request returned →
      s.call u = .holding request returned := by
    intro u request returned hu
    rw [call_move] at hu
    split_ifs at hu
    · exact absurd hu (hholding _ _)
    · exact hu
  refine ⟨h.sound, fun u request pool hu => ?_, fun u request returned hu => ?_,
    fun u request returned hu => ?_⟩
  · rw [call_move] at hu
    split_ifs at hu
    · exact hchecked _ _ hu
    · exact h.parent u request pool hu
  · exact h.lock u request returned (hcall u request returned hu)
  · exact h.pending u request returned (hcall u request returned hu)

lemma Inv.take (h : Inv s) (hfree : s.lock = none)
    (hp : Pending s.pool s.prefixes request returned) :
    Inv { s.move caller (.holding request returned) with lock := some caller } := by
  refine ⟨h.sound, fun u req pool hu => ?_, fun u req ret hu => ?_, fun u req ret hu => ?_⟩
  · rw [call_move] at hu
    split_ifs at hu
    exact h.parent u req pool hu
  · rw [call_move] at hu
    split_ifs at hu with hne
    · rw [hne]
    · exact nomatch hfree.symm.trans (h.lock u req ret hu)
  · rw [call_move] at hu
    split_ifs at hu with hne
    · obtain ⟨rfl, rfl⟩ := Call.holding.inj hu
      exact hp
    · exact nomatch hfree.symm.trans (h.lock u req ret hu)

/-- The open transaction ends, whatever it has written. -/
lemma Inv.finish (h : Inv s) (phase : Call) (hcall : s.call caller = .holding request returned)
    (hidle : (∀ req pool, phase ≠ .checked req pool) ∧ ∀ req ret, phase ≠ .holding req ret)
    (hsound : Sound s.pool prefixes) :
    Inv { s.move caller phase with prefixes := prefixes, lock := none } := by
  have hnone : ∀ u req ret, (s.move caller phase).call u ≠ .holding req ret := by
    intro u req ret hu
    rw [call_move] at hu
    split_ifs at hu with hne
    · exact hidle.2 _ _ hu
    · exact hne (Option.mem_unique (h.lock u req ret hu) (h.lock _ _ _ hcall))
  refine ⟨hsound, fun u req pool hu => ?_, fun u req ret hu => absurd hu (hnone u req ret),
    fun u req ret hu => absurd hu (hnone u req ret)⟩
  rw [call_move] at hu
  split_ifs at hu
  · exact absurd hu (hidle.1 _ _)
  · exact h.parent u req pool hu

lemma Inv.release (h : Inv s) (hrel : Releases s.prefixes prefixes) :
    Inv { s with prefixes := prefixes } :=
  ⟨hrel.sound h.sound, h.parent, h.lock, fun u req ret hu => hrel.pending (h.pending u req ret hu)⟩

lemma Inv.setLength (h : Inv s) {length : Option ℕ} :
    Inv { s with pool := { s.pool with delegationPrefixLength := length } } :=
  ⟨h.sound.congr rfl, h.parent, h.lock, fun u req ret hu => (h.pending u req ret hu).congr rfl⟩

lemma Inv.check (h : Inv s) (hok : step textOrder s (.check caller request) = .ok s') :
    Inv s' ∧ (s'.call caller = .answered none → s.pool.parent = none) := by
  have hdone : ∀ answer, Inv (s.move caller (.answered answer)) :=
    fun _ => h.move nofun nofun
  simp only [step] at hok
  split at hok
  case h_1 | h_2 => exact nomatch hok
  all_goals
    split_ifs at hok with hnone
    · obtain rfl := Except.ok.inj hok
      exact ⟨hdone _, fun _ => Option.isNone_iff_eq_none.mp hnone⟩
    · split at hok
      · obtain rfl := Except.ok.inj hok
        exact ⟨hdone _, fun hanswer => nomatch call_move_self.symm.trans hanswer⟩
      · obtain rfl := Except.ok.inj hok
        refine ⟨h.move ?_ nofun, fun hanswer => nomatch call_move_self.symm.trans hanswer⟩
        rintro _ _ ⟨⟩
        rfl

lemma Inv.takes (h : Inv s) (horderly : Orderly s (.take caller))
    (hok : step textOrder s (.take caller) = .ok s') :
    Inv s' ∧ ∀ request returned, s'.call caller = .holding request returned →
      Fits s.pool s.prefixes returned := by
  simp only [step] at hok
  split at hok
  · next request pool hcall hfree =>
    obtain rfl := Except.ok.inj hok
    simp only [Orderly, hcall] at horderly
    obtain ⟨hrows, hlength, halone⟩ := horderly
    have hparent := h.parent caller request pool hcall
    have hpick : Picked pool s.prefixes (pick textOrder pool s.prefixes) := picked_pick
    refine ⟨h.take hfree ((hpick.pending hrows halone).congr hparent), fun req ret hu => ?_⟩
    rw [call_move, if_pos rfl] at hu
    obtain ⟨-, rfl⟩ := Call.holding.inj hu
    exact (hpick.fits (h.sound.congr hparent.symm) hrows).congr hparent hlength
  · exact nomatch hok

lemma Inv.commit (h : Inv s) (hok : step textOrder s (.commit caller) = .ok s') :
    Inv s' ∧ ∀ request id, s.call caller = .holding request (.reuse id) →
      ∀ r ∈ s.prefixes.rows, r.id = id → r.state ≠ .assigned := by
  refine ⟨?_, fun request id hcall => (h.pending caller request _ hcall).reuse id rfl⟩
  simp only [step] at hok
  split at hok
  · next request returned hcall =>
    obtain rfl := Except.ok.inj hok
    exact h.finish _ hcall ⟨nofun, nofun⟩ (h.sound.store (h.pending caller request returned hcall))
  · exact nomatch hok

lemma Inv.rollback (h : Inv s) (hok : step textOrder s (.rollback caller) = .ok s') : Inv s' := by
  simp only [step] at hok
  split at hok
  · next request returned hcall =>
    obtain rfl := Except.ok.inj hok
    exact h.finish .idle hcall ⟨nofun, nofun⟩ h.sound
  · obtain rfl := Except.ok.inj hok
    exact h.move nofun nofun
  · exact nomatch hok

/-- An orderly step keeps the rows sound and returns what it is to return. -/
theorem Inv.step (h : Inv s) (horderly : Orderly s event)
    (hok : step textOrder s event = .ok s') : Inv s' ∧ LawfulStep s s' event := by
  cases event with
  | check caller request =>
    obtain ⟨hinv, hnone⟩ := h.check hok
    refine ⟨hinv, nofun, nofun, ?_⟩
    rintro _ _ ⟨⟩
    exact hnone
  | take caller =>
    obtain ⟨hinv, hfits⟩ := h.takes horderly hok
    refine ⟨hinv, ?_, nofun, nofun⟩
    rintro _ request returned ⟨⟩
    exact hfits request returned
  | commit caller =>
    obtain ⟨hinv, hunassigned⟩ := h.commit hok
    refine ⟨hinv, nofun, ?_, nofun⟩
    rintro _ request id ⟨⟩
    exact hunassigned request id
  | rollback caller => exact ⟨h.rollback hok, nofun, nofun, nofun⟩
  | release prefixId =>
    simp only [PrefixDelegation.step] at hok
    split_ifs at hok
    obtain rfl := Except.ok.inj hok
    exact ⟨h.release releases_update, nofun, nofun, nofun⟩
  | releaseSubscriber subscriberId =>
    obtain rfl := Except.ok.inj hok
    exact ⟨h.release releases_releaseWhere, nofun, nofun, nofun⟩
  | releaseSubscription subscriptionId =>
    obtain rfl := Except.ok.inj hok
    exact ⟨h.release releases_releaseWhere, nofun, nofun, nofun⟩
  | setLength length =>
    obtain rfl := Except.ok.inj hok
    exact ⟨h.setLength, nofun, nofun, nofun⟩

/-- **The delegations of a pool are lawful** in every run of calls that take the lock while what
they have read still holds, whatever is released and whenever the delegation length is edited. -/
theorem orderly_calls_lawful (pool : IpPool) (textOrder : ℕ → ℕ) (events : List Event)
    (horderly : Run.Guarded (step textOrder) Orderly (.initial pool) events) :
    Lawful (Run.run (step textOrder) (.initial pool) events).pool
        (Run.run (step textOrder) (.initial pool) events).prefixes ∧
      ∀ before event after s', events = before ++ event :: after →
        step textOrder (Run.run (step textOrder) (.initial pool) before) event = .ok s' →
        LawfulStep (Run.run (step textOrder) (.initial pool) before) s' event := by
  have hinv : ∀ before, Run.Guarded (step textOrder) Orderly (.initial pool) before →
      Inv (Run.run (step textOrder) (.initial pool) before) := fun before hguard =>
    Run.invariant_guarded (fun _ _ _ h hp hok => (h.step hp hok).1) before _ inv_initial hguard
  refine ⟨(hinv events horderly).sound.lawful, ?_⟩
  intro before event after s' heq hok
  rw [heq] at horderly
  have hrest := Run.Guarded.append_right before _ horderly
  exact ((hinv before (horderly.append_left before _)).step (hrest.1 ⟨s', hok⟩) hok).2

/-- `2001:db8::/48`. -/
def documentationPrefix : Network 128 where
  address := 0x20010db8 * 2 ^ 96
  length := 48
  length_le := by decide
  aligned := by decide
  address_lt := by decide

/-- Two services, of which the second call waits for the first, and a released prefix that is
reused; the length is edited and edited back in between. -/
theorem orderly_calls_lawful_reuse :
    let pool : IpPool := ⟨some documentationPrefix, some 56⟩
    let events : List Event := [.check 0 ⟨1, some 1⟩, .check 1 ⟨2, some 2⟩, .take 0, .take 1, .commit 0,
      .take 1, .commit 1, .setLength (some 64), .release 0, .setLength (some 56),
      .check 0 ⟨3, some 3⟩, .take 0, .commit 0]
    Lawful (Run.run (step id) (.initial pool) events).pool
        (Run.run (step id) (.initial pool) events).prefixes ∧
      ∀ before event after s', events = before ++ event :: after →
        step id (Run.run (step id) (.initial pool) before) event = .ok s' →
        LawfulStep (Run.run (step id) (.initial pool) before) s' event :=
  orderly_calls_lawful ⟨some documentationPrefix, some 56⟩ id _
    ⟨fun _ => by decide +kernel, fun _ => by decide +kernel, fun _ => by decide +kernel,
      fun _ => by decide +kernel, fun _ => by decide +kernel, fun _ => by decide +kernel,
      fun _ => by decide +kernel, fun _ => by decide +kernel, fun _ => by decide +kernel,
      fun _ => by decide +kernel, fun _ => by decide +kernel, fun _ => by decide +kernel,
      fun _ => by decide +kernel, trivial⟩

/-! ## A pool with more children than a call looks at -/

/-- A call for the service `i`, with nothing in between. -/
def serve (i : ℕ) : List Event := [.check 0 ⟨i, some i⟩, .take 0, .commit 0]

/-- The first `k` children of the parent are assigned, to the services below `k`. -/
structure Served (k : ℕ) (s : Site) : Prop where
  pool : s.pool = ⟨some documentationPrefix, some 64⟩
  taken : ∀ a, (∃ r ∈ s.prefixes.rows, r.network.address = a) ↔
    ∃ i < k, a = documentationPrefix.address + i * 2 ^ 64
  length : ∀ r ∈ s.prefixes.rows, r.network.length = 64
  assigned : ∀ r ∈ s.prefixes.rows, r.state = .assigned ∧ ∃ i < k, r.subscriptionId = some i
  lock : s.lock = none
  idle : s.call 0 = .idle ∨ ∃ answer, s.call 0 = .answered answer

/-- The child number `i` of the parent. -/
def child (i : ℕ) (h : i < 2 ^ 16) : Network 128 :=
  documentationPrefix.subnet 64 (by decide) (by decide) ⟨i, h⟩

lemma mem_candidates {c : Network 128} :
    c ∈ iterCandidatePrefixes ⟨some documentationPrefix, some 64⟩ materializeScanCap ↔
      c.length = 64 ∧ ∃ i < 8192, c.address = documentationPrefix.address + i * 2 ^ 64 := by
  have hmin : min materializeScanCap (2 ^ (64 - documentationPrefix.length)) = 8192 := by decide
  have hlength : poolDelegationLength ⟨some documentationPrefix, some 64⟩ = 64 := rfl
  rw [iterCandidatePrefixes, hlength, Network.mem_subnets_iff_exists, hmin]
  exact and_iff_right (by decide)

lemma child_mem_candidates {i : ℕ} (h : i < 8192) : child i (h.trans (by decide)) ∈
    iterCandidatePrefixes ⟨some documentationPrefix, some 64⟩ materializeScanCap :=
  mem_candidates.mpr ⟨rfl, i, h, rfl⟩

lemma served_initial : Served 0 (.initial ⟨some documentationPrefix, some 64⟩) where
  pool := rfl
  taken _ := ⟨nofun, nofun⟩
  length := nofun
  assigned := nofun
  lock := rfl
  idle := .inl rfl

section Served

variable {k : ℕ}

variable (textOrder) in
/-- The next service gets the next child. -/
lemma Served.pick_lt (h : Served k s) (hk : k < 8192) :
    ∃ c, pick textOrder s.pool s.prefixes = .materialise c ∧ c.length = 64 ∧
      c.address = documentationPrefix.address + k * 2 ^ 64 := by
  have hnext : ¬∃ r ∈ s.prefixes.rows,
      r.network.address = documentationPrefix.address + k * 2 ^ 64 := by
    rw [h.taken]
    omega
  have hpick : Picked s.pool s.prefixes (pick textOrder s.pool s.prefixes) := picked_pick
  generalize pick textOrder s.pool s.prefixes = returned at hpick
  rw [h.pool] at hpick
  cases hpick with
  | reuse hr havailable => exact nomatch havailable.symm.trans (h.assigned _ hr).1
  | @materialise c hmem hfresh hlowest =>
    obtain ⟨hlength, i, hi, haddress⟩ := mem_candidates.mp hmem
    refine ⟨c, rfl, hlength, ?_⟩
    rcases lt_trichotomy i k with hlt | rfl | hgt
    · obtain ⟨r, hr, heq⟩ := (h.taken c.address).mpr ⟨i, hlt, haddress⟩
      exact absurd heq (hfresh r hr)
    · exact haddress
    · refine absurd (hlowest _ (child_mem_candidates hk) ?_) hnext
      rw [haddress]
      exact Nat.add_lt_add_left (Nat.mul_lt_mul_of_pos_right hgt (Nat.two_pow_pos _)) _
  | exhausted _ htaken => exact absurd (htaken _ (child_mem_candidates hk)) hnext

/-- Once as many services have a prefix as a call looks at children, it returns nothing. -/
lemma Served.pick_cap (h : Served 8192 s) : pick textOrder s.pool s.prefixes = .exhausted := by
  have hpick : Picked s.pool s.prefixes (pick textOrder s.pool s.prefixes) := picked_pick
  generalize pick textOrder s.pool s.prefixes = returned at hpick
  rw [h.pool] at hpick
  cases hpick with
  | reuse hr havailable => exact nomatch havailable.symm.trans (h.assigned _ hr).1
  | @materialise c hmem hfresh _ =>
    obtain ⟨r, hr, heq⟩ := (h.taken c.address).mpr (mem_candidates.mp hmem).2
    exact absurd heq (hfresh r hr)
  | exhausted _ _ => rfl

lemma Served.step_check (h : Served k s) :
    step textOrder s (.check 0 ⟨k, some k⟩) = .ok (s.move 0 (.checked ⟨k, some k⟩ s.pool)) := by
  have hexisting : existing ⟨k, some k⟩ s.prefixes = none := by
    refine List.find?_eq_none.mpr fun r hr => ?_
    obtain ⟨-, i, hi, hsub⟩ := h.assigned r hr
    simp only [ownerClause, hsub, Option.some.injEq, decide_eq_true_eq, not_and]
    omega
  rcases h.idle with hcall | ⟨answer, hcall⟩ <;> simp [step, hcall, hexisting, h.pool]

/-- The state in which the call for the next service has its answer. -/
def served (textOrder : ℕ → ℕ) (s : Site) (k : ℕ) : Site :=
  { (s.move 0 (.checked ⟨k, some k⟩ s.pool)).move 0
      (.holding ⟨k, some k⟩ (pick textOrder s.pool s.prefixes)) with lock := some 0 }

lemma call_served :
    (served textOrder s k).call 0 = .holding ⟨k, some k⟩ (pick textOrder s.pool s.prefixes) := by
  simp [served, call_move]

lemma Served.step_take (h : Served k s) :
    step textOrder (s.move 0 (.checked ⟨k, some k⟩ s.pool)) (.take 0) =
      .ok (served textOrder s k) := by
  have hlock : (s.move 0 (.checked ⟨k, some k⟩ s.pool)).lock = none := h.lock
  simp only [step, call_move, if_true, hlock]
  rfl

/-- The call of the next service up to the end of its transaction. -/
lemma Served.run_serve (h : Served k s) (hk : k < 8192) :
    Served (k + 1) (Run.run (step textOrder) s (serve k)) := by
  obtain ⟨c, hpick, hlength, haddress⟩ := h.pick_lt textOrder hk
  have hcommit : step textOrder (served textOrder s k) (.commit 0) =
      .ok { (served textOrder s k).move 0 (.answered (some s.prefixes.next)) with
            prefixes := s.prefixes.insert (Request.create ⟨k, some k⟩ c) fun _ => rfl
            lock := none } := by
    simp only [step, call_served, hpick]
    rfl
  rw [serve, Run.run_cons, Run.next_of_ok h.step_check, Run.run_cons, Run.next_of_ok h.step_take,
    Run.run_cons, Run.next_of_ok hcommit, Run.run_nil]
  have hmem : ∀ r, r ∈ (s.prefixes.insert (Request.create ⟨k, some k⟩ c) fun _ => rfl).rows ↔
      r ∈ s.prefixes.rows ∨ r = Request.create ⟨k, some k⟩ c s.prefixes.next :=
    fun _ => Table.mem_insert
  constructor
  case pool => exact h.pool
  case taken =>
    intro a
    constructor
    · rintro ⟨r, hr, rfl⟩
      rcases (hmem r).mp hr with hr | rfl
      · obtain ⟨i, hi, ha⟩ := (h.taken _).mp ⟨r, hr, rfl⟩
        exact ⟨i, hi.trans (Nat.lt_succ_self k), ha⟩
      · exact ⟨k, Nat.lt_succ_self k, haddress⟩
    · rintro ⟨i, hi, rfl⟩
      rcases Nat.lt_succ_iff_lt_or_eq.mp hi with hi | rfl
      · obtain ⟨r, hr, ha⟩ := (h.taken _).mpr ⟨i, hi, rfl⟩
        exact ⟨r, (hmem r).mpr (.inl hr), ha⟩
      · exact ⟨_, (hmem _).mpr (.inr rfl), haddress⟩
  case length =>
    intro r hr
    rcases (hmem r).mp hr with hr | rfl
    · exact h.length r hr
    · exact hlength
  case assigned =>
    intro r hr
    rcases (hmem r).mp hr with hr | rfl
    · obtain ⟨hstate, i, hi, hsub⟩ := h.assigned r hr
      exact ⟨hstate, i, hi.trans (Nat.lt_succ_self k), hsub⟩
    · exact ⟨rfl, k, Nat.lt_succ_self k, rfl⟩
  case lock => rfl
  case idle =>
    have hcall : ((served textOrder s k).move 0 (.answered (some s.prefixes.next))).call 0 =
        .answered (some s.prefixes.next) := call_move_self
    exact .inr ⟨_, hcall⟩

lemma Served.disjoint_child (h : Served 8192 s) {r : Ipv6DelegatedPrefix}
    (hr : r ∈ s.prefixes.rows) : Disjoint r.network.span (child 8192 (by decide)).span := by
  obtain ⟨i, hi, haddress⟩ := (h.taken _).mp ⟨r, hr, rfl⟩
  refine Network.disjoint_span (h.length r hr) ?_
  rw [haddress]
  exact (Nat.add_lt_add_left (Nat.mul_lt_mul_of_pos_right hi (Nat.two_pow_pos 64)) _).ne

variable (textOrder) in
lemma served_run : ∀ k ≤ 8192, Served k (Run.run (step textOrder)
    (.initial ⟨some documentationPrefix, some 64⟩) ((List.range k).flatMap serve))
  | 0, _ => served_initial
  | k + 1, hk => by
    rw [List.range_succ, List.flatMap_append, Run.run_append, List.flatMap_singleton]
    exact (served_run k (Nat.le_of_succ_le hk)).run_serve hk

end Served

/-- **A call may return nothing while children are free**: the next one after as many services as a
call looks at children. -/
theorem exhausted_while_free :
    ¬∀ (pool : IpPool) (textOrder : ℕ → ℕ) (events : List Event) (caller : ℕ) (s' : Site)
        (request : Request),
      step textOrder (Run.run (step textOrder) (.initial pool) events) (.take caller) = .ok s' →
      s'.call caller = .holding request .exhausted →
      ∀ parent child : Network 128, pool.parent = some parent →
        child.length = poolDelegationLength pool → child.span ⊆ parent.span →
        ∃ r ∈ (Run.run (step textOrder) (.initial pool) events).prefixes.rows,
          r.state = .assigned ∧ ¬Disjoint r.network.span child.span := by
  intro hclaim
  have hserved := served_run id 8192 le_rfl
  obtain ⟨r, hr, -, hoverlap⟩ := hclaim ⟨some documentationPrefix, some 64⟩ id
    ((List.range 8192).flatMap serve ++ [.check 0 ⟨8192, some 8192⟩]) 0 _ ⟨8192, some 8192⟩
    (by
      rw [Run.run_append, Run.run_cons, Run.run_nil, Run.next_of_ok hserved.step_check]
      exact hserved.step_take)
    (call_served.trans (congrArg _ hserved.pick_cap))
    documentationPrefix (child 8192 (by decide)) rfl rfl
    Network.span_subnet_subset
  rw [Run.run_append, Run.run_cons, Run.run_nil, Run.next_of_ok hserved.step_check,
    prefixes_move] at hr
  exact hoverlap (hserved.disjoint_child hr)

end DotmacSub.PrefixDelegation
