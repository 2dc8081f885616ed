import Mathlib.Data.Finset.Sort
import Mathlib.Data.List.Chain

/-!
# The prepaid balance sweep

`collections/prepaid_balance_sweep.py`: a run goes over the enforceable accounts in key order from a
cursor, stops when its time is up, and leaves the last handled key as the cursor of the next run.
-/

namespace DotmacSub.BalanceSweep

variable {κ : Type*} [LinearOrder κ]

/-- What happens when the turn of an account comes: the deadline has passed, the account is gone, it
is processed, it fails, or the soft time limit fires, before or after its changes are committed. -/
inductive Turn
  | deadline
  | missing
  | processed (outcome : String)
  | failed
  | softTimeLimit (committed : Bool)
deriving DecidableEq

/-- What is stored between runs. -/
structure CycleState (κ : Type*) where
  cursorKey : Option κ
  cycleStartedAt : ℤ
  cyclesCompleted : ℕ
deriving DecidableEq

/-- What a run meets: the candidates and those without a complete source, what becomes of each turn,
and whether its checkpoint is saved. -/
structure SweepRun (κ : Type*) where
  runAt : ℤ
  candidates : Finset κ
  incompleteSource : Finset κ
  turn : κ → Turn
  saved : Bool

def SweepRun.enforceable (run : SweepRun κ) : Finset κ := run.candidates \ run.incompleteSource

structure LoopResult (κ : Type*) where
  stoppedAt : Option ℕ
  committed : List κ
  outcomes : List String
  errors : ℕ
  budgetDeferred : ℕ

/-- The accounts of one run, until a deadline or a limit stops it. -/
def sweepLoop (turn : κ → Turn) : List κ → ℕ → LoopResult κ
  | [], _ => ⟨none, [], [], 0, 0⟩
  | account :: rest, position =>
    match turn account with
    | .deadline => ⟨some position, [], [], 0, rest.length + 1⟩
    | .softTimeLimit committed =>
      ⟨some position, if committed then [account] else [], [], 1, rest.length + 1⟩
    | .missing =>
      let later := sweepLoop turn rest (position + 1)
      { later with committed := account :: later.committed }
    | .processed outcome =>
      let later := sweepLoop turn rest (position + 1)
      { later with committed := account :: later.committed, outcomes := outcome :: later.outcomes }
    | .failed =>
      let later := sweepLoop turn rest (position + 1)
      { later with committed := account :: later.committed, errors := later.errors + 1 }

/-- `bisect.bisect_right` in a sorted list. -/
def bisectRight (keys : List κ) (cursor : κ) : ℕ := (keys.takeWhile (· ≤ cursor)).length

/-- Where a run starts, and the cursor it starts from; behind the last key it wraps around. -/
def startOf (ordered : List κ) (cursorKey : Option κ) : ℕ × Option κ :=
  match cursorKey with
  | none => (0, none)
  | some cursor =>
    if ordered.length ≤ bisectRight ordered cursor then (0, none)
    else (bisectRight ordered cursor, some cursor)

/-- One run: the state it meets, the cursor it starts from, the accounts in its order, what its loop
leaves, what it reports, and the state it leaves. -/
structure Sweep (κ : Type*) where
  run : SweepRun κ
  before : CycleState κ
  cursor : Option κ
  accountOrder : List κ
  loop : LoopResult κ
  cycleTotal : ℕ
  cycleRemaining : ℕ
  after : CycleState κ

def checkpoint (state : CycleState κ) (runAt : ℤ) (cursor : Option κ) (accountOrder : List κ)
    (stoppedAt : Option ℕ) : CycleState κ :=
  let started := if cursor = none then { state with cycleStartedAt := runAt } else state
  match stoppedAt with
  | none =>
    if accountOrder = [] then started
    else { started with cursorKey := none, cyclesCompleted := started.cyclesCompleted + 1 }
  | some 0 => started
  | some (position + 1) => { started with cursorKey := accountOrder[position]? }

/-- The visits of a run to the accounts in key order, and its checkpoint. -/
def sweepOrdered (ordered : List κ) (state : CycleState κ) (run : SweepRun κ) : Sweep κ :=
  let start := startOf ordered state.cursorKey
  let accountOrder := ordered.drop start.1
  let loop := sweepLoop run.turn accountOrder 0
  let remaining := match loop.stoppedAt with
    | none => 0
    | some position => accountOrder.length - position
  ⟨run, state, start.2, accountOrder, loop, ordered.length, remaining,
    if run.saved then checkpoint state run.runAt start.2 accountOrder loop.stoppedAt else state⟩

/-- `run_prepaid_balance_sweep`, as far as it decides which accounts are visited. -/
def runPrepaidBalanceSweep (state : CycleState κ) (run : SweepRun κ) : Sweep κ :=
  sweepOrdered (run.enforceable.sort (· ≤ ·)) state run

/-- The runs of a sweep, one after another. -/
def sweeps (state : CycleState κ) : List (SweepRun κ) → List (Sweep κ)
  | [] => []
  | run :: runs =>
    runPrepaidBalanceSweep state run :: sweeps (runPrepaidBalanceSweep state run).after runs

/-- The accounts that a run handled, as far as it knows. -/
def Sweep.handled (sweep : Sweep κ) : List κ :=
  match sweep.loop.stoppedAt with
  | none => sweep.accountOrder
  | some position => sweep.accountOrder.take position

/-- A run that handled an account and saved its checkpoint. -/
structure Sweep.Progresses (sweep : Sweep κ) : Prop where
  saved : sweep.run.saved = true
  handled : sweep.handled ≠ []

/-- No account was committed whose turn the soft time limit ended. -/
def SweepRun.Undivided (run : SweepRun κ) : Prop :=
  ∀ account ∈ run.enforceable, run.turn account ≠ .softTimeLimit true

instance (run : SweepRun κ) : Decidable run.Undivided :=
  inferInstanceAs (Decidable (∀ account ∈ run.enforceable, run.turn account ≠ .softTimeLimit true))

section Loop

variable {turn : κ → Turn} {accounts : List κ}

omit [LinearOrder κ] in
/-- The loop commits a beginning of its list, and stops behind it. -/
lemma sweepLoop_eq (hundivided : ∀ account ∈ accounts, turn account ≠ .softTimeLimit true) :
    ∀ position, ((sweepLoop turn accounts position).stoppedAt = none ∧
        (sweepLoop turn accounts position).committed = accounts) ∨
      ∃ n < accounts.length, (sweepLoop turn accounts position).stoppedAt = some (position + n) ∧
        (sweepLoop turn accounts position).committed = accounts.take n := by
  induction accounts with
  | nil => exact fun _ => .inl ⟨rfl, rfl⟩
  | cons account rest ih =>
    intro position
    have hlater := ih (fun other hother => hundivided other (List.mem_cons_of_mem _ hother))
      (position + 1)
    have hcons : ∀ {result : LoopResult κ},
        result.stoppedAt = (sweepLoop turn rest (position + 1)).stoppedAt →
        result.committed = account :: (sweepLoop turn rest (position + 1)).committed →
          (result.stoppedAt = none ∧ result.committed = account :: rest) ∨
            ∃ n < rest.length + 1, result.stoppedAt = some (position + n) ∧
              result.committed = (account :: rest).take n := by
      intro result hstopped hcommitted
      rw [hstopped, hcommitted]
      rcases hlater with ⟨hnone, hall⟩ | ⟨n, hlt, hsome, htake⟩
      · exact .inl ⟨hnone, by rw [hall]⟩
      · refine .inr ⟨n + 1, Nat.succ_lt_succ hlt, ?_, ?_⟩
        · rw [hsome, add_assoc, add_comm 1 n]
        · rw [htake, List.take_succ_cons]
    unfold sweepLoop
    cases hturn : turn account with
    | deadline => exact .inr ⟨0, Nat.succ_pos _, rfl, rfl⟩
    | missing => exact hcons rfl rfl
    | processed outcome => exact hcons rfl rfl
    | failed => exact hcons rfl rfl
    | softTimeLimit committed =>
      cases committed with
      | false => exact .inr ⟨0, Nat.succ_pos _, rfl, rfl⟩
      | true => exact absurd hturn (hundivided account List.mem_cons_self)

end Loop

lemma mem_take_succ_iff {keys : List κ} (hsorted : keys.Pairwise (· < ·)) {account key : κ} :
    ∀ {n : ℕ}, keys[n]? = some key →
      (account ∈ keys.take (n + 1) ↔ account ∈ keys ∧ account ≤ key) := by
  induction keys with
  | nil => simp
  | cons first keys ih =>
    obtain ⟨hfirst, hkeys⟩ := List.pairwise_cons.mp hsorted
    intro n hkey
    rw [List.take_succ_cons, List.mem_cons, List.mem_cons]
    cases n with
    | zero =>
      obtain rfl : first = key := Option.some.inj hkey
      rw [List.take_zero]
      constructor
      · rintro (rfl | hnil)
        · exact ⟨.inl rfl, le_rfl⟩
        · cases hnil
      · rintro ⟨rfl | hmem, hle⟩
        · exact .inl rfl
        · exact absurd (hfirst account hmem) hle.not_gt
    | succ n =>
      have hnext : keys[n]? = some key := hkey
      rw [ih hkeys hnext]
      constructor
      · rintro (rfl | ⟨hmem, hle⟩)
        · exact ⟨.inl rfl, (hfirst key (List.mem_of_getElem? hnext)).le⟩
        · exact ⟨.inr hmem, hle⟩
      · rintro ⟨rfl | hmem, hle⟩
        · exact .inl rfl
        · exact .inr ⟨hmem, hle⟩

def Beyond (cursor : Option κ) (account : κ) : Prop := ∀ key ∈ cursor, key < account

section Cursor

variable {keys : List κ} {cursor : κ}

lemma mem_drop_bisectRight (hsorted : keys.Pairwise (· < ·)) {account : κ} :
    account ∈ keys.drop (bisectRight keys cursor) ↔ account ∈ keys ∧ cursor < account := by
  unfold bisectRight
  induction keys with
  | nil => simp
  | cons key keys ih =>
    obtain ⟨hkey, hkeys⟩ := List.pairwise_cons.mp hsorted
    by_cases hle : key ≤ cursor
    · rw [List.takeWhile_cons_of_pos (by simpa using hle), List.length_cons, List.drop_succ_cons,
        ih hkeys, List.mem_cons]
      constructor
      · exact fun ⟨hmem, hlt⟩ => ⟨.inr hmem, hlt⟩
      · rintro ⟨rfl | hmem, hlt⟩
        · exact absurd hlt hle.not_gt
        · exact ⟨hmem, hlt⟩
    · rw [List.takeWhile_cons_of_neg (by simpa using hle), List.length_nil, List.drop_zero]
      refine ⟨fun hmem => ⟨hmem, ?_⟩, And.left⟩
      obtain rfl | hmem := List.mem_cons.mp hmem
      · exact not_le.mp hle
      · exact (not_le.mp hle).trans (hkey account hmem)

/-- **A run starts behind its cursor**; it wraps around when nothing is left there. -/
lemma startOf_spec (hsorted : keys.Pairwise (· < ·)) (cursorKey : Option κ) :
    (∀ account, account ∈ keys.drop (startOf keys cursorKey).1 ↔
        account ∈ keys ∧ Beyond (startOf keys cursorKey).2 account) ∧
      ((startOf keys cursorKey).2 = cursorKey ∨ (startOf keys cursorKey).2 = none ∧
        ∀ account ∈ keys, ¬Beyond cursorKey account) := by
  cases cursorKey with
  | none => exact ⟨by simp [startOf, Beyond], .inl rfl⟩
  | some cursor =>
    unfold startOf
    dsimp only
    split_ifs with hwrap
    · refine ⟨by simp [Beyond], .inr ⟨rfl, fun account hmem hbeyond => ?_⟩⟩
      have hdrop := (mem_drop_bisectRight hsorted).mpr ⟨hmem, hbeyond cursor rfl⟩
      rw [List.drop_eq_nil_of_le hwrap] at hdrop
      cases hdrop
    · refine ⟨fun account => ?_, .inl rfl⟩
      rw [mem_drop_bisectRight hsorted]
      simp [Beyond]

end Cursor

/-- What a run leaves for the next one: it visited, in key order, accounts behind its cursor, all of
them, or all up to the cursor that it leaves. -/
structure Resumes (sweep : Sweep κ) : Prop where
  nonempty : sweep.loop.committed ≠ []
  ordered : sweep.loop.committed.Pairwise (· < ·)
  beyond : ∀ account ∈ sweep.loop.committed,
    account ∈ sweep.run.enforceable ∧ Beyond sweep.cursor account
  rest : (sweep.after.cursorKey = none ∧ ∀ account ∈ sweep.run.enforceable,
      Beyond sweep.cursor account → account ∈ sweep.loop.committed) ∨
    ∃ key, sweep.after.cursorKey = some key ∧ (∀ account ∈ sweep.loop.committed, account ≤ key) ∧
      ∀ account ∈ sweep.run.enforceable, Beyond sweep.cursor account → account ≤ key →
        account ∈ sweep.loop.committed

section Run

variable {state : CycleState κ} {run : SweepRun κ}

lemma pairwise_enforceable : (run.enforceable.sort (· ≤ ·)).Pairwise (· < ·) :=
  (Finset.sortedLT_sort run.enforceable).pairwise

lemma mem_accountOrder {account : κ} :
    account ∈ (runPrepaidBalanceSweep state run).accountOrder ↔
      account ∈ run.enforceable ∧ Beyond (runPrepaidBalanceSweep state run).cursor account :=
  ((startOf_spec pairwise_enforceable state.cursorKey).1 account).trans
    (and_congr_left' (Finset.mem_sort _))

lemma cursor_eq (state : CycleState κ) (run : SweepRun κ) :
    (runPrepaidBalanceSweep state run).cursor = state.cursorKey ∨
      (runPrepaidBalanceSweep state run).cursor = none ∧
        ∀ account ∈ run.enforceable, ¬Beyond state.cursorKey account := by
  refine (startOf_spec pairwise_enforceable state.cursorKey).2.imp id ?_
  rintro ⟨hnone, hleft⟩
  exact ⟨hnone, fun account hmem => hleft account ((Finset.mem_sort _).mpr hmem)⟩

lemma pairwise_accountOrder :
    (runPrepaidBalanceSweep state run).accountOrder.Pairwise (· < ·) :=
  pairwise_enforceable.sublist (List.drop_sublist _ _)

/-- **Step**: a run that handles an account and saves its checkpoint resumes where it should. -/
theorem resumes (hundivided : run.Undivided)
    (hprogress : (runPrepaidBalanceSweep state run).Progresses) :
    Resumes (runPrepaidBalanceSweep state run) := by
  have hsorted : (runPrepaidBalanceSweep state run).accountOrder.Pairwise (· < ·) :=
    pairwise_accountOrder
  have hcommits : ∀ account ∈ (runPrepaidBalanceSweep state run).accountOrder,
      run.turn account ≠ .softTimeLimit true := fun account hmem =>
    hundivided account (mem_accountOrder.mp hmem).1
  have hloop := sweepLoop_eq hcommits 0
  have hafter : (runPrepaidBalanceSweep state run).after = checkpoint state run.runAt
      (runPrepaidBalanceSweep state run).cursor (runPrepaidBalanceSweep state run).accountOrder
      (runPrepaidBalanceSweep state run).loop.stoppedAt := if_pos hprogress.saved
  have hhandled := hprogress.handled
  rw [Sweep.handled] at hhandled
  change ((runPrepaidBalanceSweep state run).loop.stoppedAt = none ∧
    (runPrepaidBalanceSweep state run).loop.committed =
      (runPrepaidBalanceSweep state run).accountOrder) ∨
    ∃ n < (runPrepaidBalanceSweep state run).accountOrder.length,
      (runPrepaidBalanceSweep state run).loop.stoppedAt = some (0 + n) ∧
      (runPrepaidBalanceSweep state run).loop.committed =
        (runPrepaidBalanceSweep state run).accountOrder.take n at hloop
  rcases hloop with ⟨hnone, hall⟩ | ⟨n, hlt, hsome, htake⟩
  · rw [hnone] at hafter hhandled
    refine ⟨hall ▸ hhandled, hall ▸ hsorted,
      fun account hmem => mem_accountOrder.mp (hall ▸ hmem), .inl ⟨?_, ?_⟩⟩
    · rw [hafter, checkpoint, if_neg hhandled]
    · intro account hmem hbeyond
      rw [hall]
      exact mem_accountOrder.mpr ⟨hmem, hbeyond⟩
  · rw [zero_add] at hsome
    rw [hsome] at hafter hhandled
    have hsub := List.take_sublist n (runPrepaidBalanceSweep state run).accountOrder
    refine ⟨htake ▸ hhandled, htake ▸ hsorted.sublist hsub,
      fun account hmem => mem_accountOrder.mp (hsub.subset (htake ▸ hmem)), ?_⟩
    cases n with
    | zero => exact absurd rfl hhandled
    | succ n =>
      obtain ⟨key, hkey⟩ : ∃ key, (runPrepaidBalanceSweep state run).accountOrder[n]? = some key :=
        ⟨_, List.getElem?_eq_getElem (Nat.lt_of_succ_lt hlt)⟩
      refine .inr ⟨key, ?_, fun account hmem => ?_, fun account hmem hbeyond hle => ?_⟩
      · rw [hafter, checkpoint, hkey]
      · exact ((mem_take_succ_iff hsorted hkey).mp (htake ▸ hmem)).2
      · rw [htake]
        exact (mem_take_succ_iff hsorted hkey).mpr ⟨mem_accountOrder.mpr ⟨hmem, hbeyond⟩, hle⟩

end Run

/-- The accounts that runs visited, in their order. -/
def visited (passes : List (Sweep κ)) : List κ := passes.flatMap (·.loop.committed)

/-- Each run meets the state that the one before it left. -/
def Consecutive (earlier later : Sweep κ) : Prop :=
  later = runPrepaidBalanceSweep earlier.after later.run

/-- Visits in key order, behind a cursor. -/
structure Covers (cursor : Option κ) (accounts : List κ) : Prop where
  ordered : accounts.Pairwise (· < ·)
  beyond : ∀ account ∈ accounts, Beyond cursor account

section Cycle

variable {sweep later next : Sweep κ} {passes : List (Sweep κ)} {account : κ}

lemma isChain_sweeps (state : CycleState κ) (runs : List (SweepRun κ)) :
    (sweeps state runs).IsChain Consecutive := by
  induction runs generalizing state with
  | nil => exact .nil
  | cons run runs ih =>
    cases runs with
    | nil => exact .singleton _
    | cons following runs => exact List.isChain_cons_cons.mpr ⟨rfl, ih _⟩

lemma Resumes.covers (h : Resumes sweep) : Covers sweep.cursor sweep.loop.committed :=
  ⟨h.ordered, fun account hmem => (h.beyond account hmem).2⟩

lemma Consecutive.cursorKey_eq (h : Consecutive sweep later) (hlater : later.cursor ≠ none) :
    sweep.after.cursorKey = later.cursor := by
  rw [h] at hlater ⊢
  exact ((cursor_eq _ _).resolve_right fun hwrap => hlater hwrap.1).symm

/-- The visits behind a cursor continue those up to it. -/
lemma Resumes.append (h : Resumes sweep) {accounts : List κ} {cursor : Option κ}
    (hcursor : sweep.after.cursorKey = cursor) (hnone : cursor ≠ none)
    (hlater : Covers cursor accounts) : Covers sweep.cursor (sweep.loop.committed ++ accounts) := by
  obtain ⟨hempty, -⟩ | ⟨key, hkey, hupto, -⟩ := h.rest
  · exact absurd (hcursor.symm.trans hempty) hnone
  · have hbehind : ∀ a ∈ sweep.loop.committed, ∀ b ∈ accounts, a < b := fun a ha b hb =>
      (hupto a ha).trans_lt (hlater.beyond b hb key (hcursor.symm.trans hkey))
    refine ⟨List.pairwise_append.mpr ⟨h.ordered, hlater.ordered, hbehind⟩, fun account hmem => ?_⟩
    rcases List.mem_append.mp hmem with hmem | hmem
    · exact (h.beyond account hmem).2
    · obtain ⟨first, hfirst⟩ := List.exists_mem_of_ne_nil _ h.nonempty
      exact fun start hstart => ((h.beyond first hfirst).2 start hstart).trans
        (hbehind first hfirst account hmem)

/-- **A cycle visits in key order**, also over several runs. -/
theorem covers_visited (hchain : (sweep :: passes).IsChain Consecutive)
    (hresumes : ∀ pass ∈ sweep :: passes, Resumes pass)
    (hpasses : ∀ pass ∈ passes, pass.cursor ≠ none) :
    Covers sweep.cursor (visited (sweep :: passes)) := by
  have hcons : visited (sweep :: passes) = sweep.loop.committed ++ visited passes :=
    List.flatMap_cons
  rw [hcons]
  induction passes generalizing sweep with
  | nil =>
    rw [visited, List.flatMap_nil, List.append_nil]
    exact (hresumes sweep List.mem_cons_self).covers
  | cons later passes ih =>
    obtain ⟨hnext, hrest⟩ := List.isChain_cons_cons.mp hchain
    have hlater := hpasses later List.mem_cons_self
    refine (hresumes sweep List.mem_cons_self).append (hnext.cursorKey_eq hlater) hlater ?_
    exact ih hrest (fun pass hpass => hresumes pass (List.mem_cons_of_mem _ hpass))
      (fun pass hpass => hpasses pass (List.mem_cons_of_mem _ hpass)) List.flatMap_cons

/-- **A cycle visits everyone** who is enforceable until the next one starts. -/
theorem mem_visited (hchain : (sweep :: passes ++ [next]).IsChain Consecutive)
    (hresumes : ∀ pass ∈ sweep :: passes, Resumes pass)
    (hpasses : ∀ pass ∈ passes, pass.cursor ≠ none) (hnext : next.cursor = none)
    (hall : ∀ pass ∈ sweep :: passes, account ∈ pass.run.enforceable)
    (hlast : account ∈ next.run.enforceable) (hbeyond : Beyond sweep.cursor account) :
    account ∈ visited (sweep :: passes) := by
  have hsweep := hresumes sweep List.mem_cons_self
  have hmem := hall sweep List.mem_cons_self
  rw [visited, List.flatMap_cons, List.mem_append]
  induction passes generalizing sweep with
  | nil =>
    -- the next cycle starts when this one is completed, or when nothing is left of it
    have hfollows : Consecutive sweep next := (List.isChain_cons_cons.mp hchain).1
    refine .inl ?_
    rcases hsweep.rest with ⟨-, hvisited⟩ | ⟨key, hkey, -, hvisited⟩
    · exact hvisited account hmem hbeyond
    · refine hvisited account hmem hbeyond (not_lt.mp fun hlt => ?_)
      rw [hfollows] at hnext hlast
      rcases cursor_eq sweep.after next.run with heq | ⟨-, hleft⟩
      · rw [heq, hkey] at hnext
        cases hnext
      · refine hleft account hlast ?_
        rw [hkey]
        rintro _ ⟨⟩
        exact hlt
  | cons later passes ih =>
    obtain ⟨hfollows, hrest⟩ := List.isChain_cons_cons.mp hchain
    have hcursor := hfollows.cursorKey_eq (hpasses later List.mem_cons_self)
    have hvisited : ¬Beyond later.cursor account → account ∈ sweep.loop.committed := by
      intro hbehind
      rcases hsweep.rest with ⟨hnone, -⟩ | ⟨key, hkey, -, hvisited⟩
      · exact absurd (hcursor.symm.trans hnone) (hpasses later List.mem_cons_self)
      · refine hvisited account hmem hbeyond (not_lt.mp fun hlt => hbehind ?_)
        rw [← hcursor, hkey]
        rintro _ ⟨⟩
        exact hlt
    by_cases hlater : Beyond later.cursor account
    · refine .inr ?_
      rw [List.flatMap_cons, List.mem_append]
      exact ih hrest (fun pass hpass => hresumes pass (List.mem_cons_of_mem _ hpass))
        (fun pass hpass => hpasses pass (List.mem_cons_of_mem _ hpass))
        (fun pass hpass => hall pass (List.mem_cons_of_mem _ hpass)) hlater
        (hresumes later (List.mem_cons_of_mem _ List.mem_cons_self))
        (hall later (List.mem_cons_of_mem _ List.mem_cons_self))
    · exact .inl (hvisited hlater)

end Cycle

/-! ## Fixed runs -/

/-- A run over two accounts whose time is up before the second. -/
def interrupted : SweepRun ℕ :=
  ⟨0, {1, 2}, ∅, fun account => if account = 2 then .deadline else .processed "ok", true⟩

/-- A run over three accounts that the soft time limit ends when the second one is committed. -/
def cutShort : SweepRun ℕ :=
  ⟨0, {1, 2, 3}, ∅, fun account => if account = 2 then .softTimeLimit true else .processed "ok",
    true⟩

def complete (accounts : Finset ℕ) : SweepRun ℕ :=
  ⟨3600, accounts, ∅, fun _ => .processed "ok", true⟩

lemma runPrepaidBalanceSweep_eq {run : SweepRun κ} {ordered : List κ}
    (henforceable : run.enforceable = ordered.toFinset) (hsorted : ordered.Pairwise (· < ·))
    (state : CycleState κ) : runPrepaidBalanceSweep state run = sweepOrdered ordered state run := by
  have hsort : ordered.toFinset.sort (· ≤ ·) = ordered :=
    (List.toFinset_sort (· ≤ ·) (hsorted.imp ne_of_lt)).mpr (hsorted.imp le_of_lt)
  rw [runPrepaidBalanceSweep, henforceable, hsort]

variable {state : CycleState κ} {runs : List (SweepRun κ)} {sweep : Sweep κ}

lemma exists_of_mem_sweeps (hmem : sweep ∈ sweeps state runs) :
    ∃ met, ∃ run ∈ runs, sweep = runPrepaidBalanceSweep met run := by
  induction runs generalizing state with
  | nil => cases hmem
  | cons run runs ih =>
    rcases List.mem_cons.mp hmem with rfl | hmem
    · exact ⟨state, run, List.mem_cons_self, rfl⟩
    · obtain ⟨met, other, hother, heq⟩ := ih hmem
      exact ⟨met, other, List.mem_cons_of_mem _ hother, heq⟩

lemma resumes_of_mem (hundivided : ∀ run ∈ runs, run.Undivided)
    (hprogress : ∀ pass ∈ sweeps state runs, pass.Progresses) (hmem : sweep ∈ sweeps state runs) :
    Resumes sweep := by
  have hsaved := hprogress sweep hmem
  obtain ⟨met, run, hrun, rfl⟩ := exists_of_mem_sweeps hmem
  exact resumes (hundivided run hrun) hsaved

/-- **A cycle counts as completed only when nobody is left** behind the run's start. -/
lemma committed_of_completed (hundivided : ∀ run ∈ runs, run.Undivided)
    (hmem : sweep ∈ sweeps state runs)
    (hcounted : sweep.after.cyclesCompleted ≠ sweep.before.cyclesCompleted) {account : κ}
    (henforceable : account ∈ sweep.run.enforceable) (hbeyond : Beyond sweep.cursor account) :
    account ∈ sweep.loop.committed := by
  obtain ⟨met, run, hrun, rfl⟩ := exists_of_mem_sweeps hmem
  have horder := mem_accountOrder.mpr ⟨henforceable, hbeyond⟩
  have hall : ∀ other ∈ (runPrepaidBalanceSweep met run).accountOrder,
      run.turn other ≠ .softTimeLimit true := fun other hother =>
    hundivided run hrun other (mem_accountOrder.mp hother).1
  rcases sweepLoop_eq hall 0 with ⟨-, hcommitted⟩ | ⟨n, -, hstopped, -⟩
  · exact hcommitted.symm ▸ horder
  · refine absurd ?_ hcounted
    have hloop : (runPrepaidBalanceSweep met run).loop.stoppedAt = some (0 + n) := hstopped
    change (if run.saved then checkpoint met run.runAt _ _
      (runPrepaidBalanceSweep met run).loop.stoppedAt else met).cyclesCompleted = _
    rw [hloop, zero_add]
    cases n <;> unfold checkpoint <;> split_ifs <;> rfl

/-- **The balance sweep visits everyone once per cycle**, in key order, as long as no soft time
limit comes between the commit of an account and the end of its turn. -/
theorem cycle_visits (state : CycleState κ) (runs : List (SweepRun κ))
    (hundivided : ∀ run ∈ runs, run.Undivided)
    (hprogress : ∀ sweep ∈ sweeps state runs, sweep.Progresses) :
    (∀ earlier first middle next later,
      sweeps state runs = earlier ++ (first :: middle ++ [next]) ++ later →
        first.cursor = none → (∀ pass ∈ middle, pass.cursor ≠ none) → next.cursor = none →
          ∀ account, (∀ pass ∈ first :: middle ++ [next], account ∈ pass.run.enforceable) →
            (visited (first :: middle)).count account = 1) ∧
    (∀ earlier first middle later, sweeps state runs = earlier ++ (first :: middle) ++ later →
      (∀ pass ∈ middle, pass.cursor ≠ none) → (visited (first :: middle)).Pairwise (· < ·)) ∧
    ∀ sweep ∈ sweeps state runs, sweep.after.cyclesCompleted ≠ sweep.before.cyclesCompleted →
      ∀ account ∈ sweep.run.enforceable, Beyond sweep.cursor account →
        account ∈ sweep.loop.committed := by
  have hordered : ∀ earlier first middle later,
      sweeps state runs = earlier ++ (first :: middle) ++ later →
        (∀ pass ∈ middle, pass.cursor ≠ none) →
          (visited (first :: middle)).Pairwise (· < ·) := by
    intro earlier first middle later hsplit hmiddle
    have hchain := isChain_sweeps state runs
    rw [hsplit] at hchain
    refine (covers_visited hchain.left_of_append.right_of_append
      (fun pass hpass => resumes_of_mem hundivided hprogress ?_) hmiddle).ordered
    rw [hsplit]
    exact List.mem_append_left _ (List.mem_append_right _ hpass)
  refine ⟨?_, hordered, fun sweep hmem hcounted account henforceable hbeyond =>
    committed_of_completed hundivided hmem hcounted henforceable hbeyond⟩
  intro earlier first middle next later hsplit hfirst hmiddle hnext account hall
  have hmem : account ∈ visited (first :: middle) := by
    have hchain := isChain_sweeps state runs
    rw [hsplit] at hchain
    refine mem_visited hchain.left_of_append.right_of_append
      (fun pass hpass => resumes_of_mem hundivided hprogress ?_) hmiddle hnext
      (fun pass hpass => hall pass (List.mem_append_left _ hpass))
      (hall next (List.mem_append_right _ List.mem_cons_self)) ?_
    · rw [hsplit]
      exact List.mem_append_left _ (List.mem_append_right _ (List.mem_append_left _ hpass))
    · rw [hfirst]
      rintro _ ⟨⟩
  have hnodup : (visited (first :: middle)).Nodup := by
    refine (hordered earlier first middle (next :: later) ?_ hmiddle).imp ne_of_lt
    rw [hsplit]
    simp only [List.append_assoc, List.cons_append, List.nil_append]
  exact List.count_eq_one_of_mem hnodup hmem

/-- The second account's turn comes in the second run. -/
theorem cycle_visits_two : ∃ first second next,
    sweeps ⟨none, 0, 0⟩ [interrupted, complete {1, 2}, complete {1, 2}] = [first, second, next] ∧
      (visited [first, second]).count 2 = 1 := by
  have hinterrupted : ∀ state, runPrepaidBalanceSweep state interrupted =
      sweepOrdered [1, 2] state interrupted := runPrepaidBalanceSweep_eq (by decide) (by decide)
  have htwo : ∀ state, runPrepaidBalanceSweep state (complete {1, 2}) =
      sweepOrdered [1, 2] state (complete {1, 2}) :=
    runPrepaidBalanceSweep_eq (by decide) (by decide)
  have hundivided : ∀ run ∈ [interrupted, complete {1, 2}, complete {1, 2}], run.Undivided := by
    decide
  obtain ⟨first, second, next, hsplit, hpasses, hfirst, hsecond, hnext⟩ :
      ∃ first second next,
        sweeps ⟨none, 0, 0⟩ [interrupted, complete {1, 2}, complete {1, 2}] =
          [first, second, next] ∧
        (∀ pass ∈ [first, second, next], pass.Progresses ∧ 2 ∈ pass.run.enforceable) ∧
        first.cursor = none ∧ second.cursor ≠ none ∧ next.cursor = none := by
    refine ⟨_, _, _, by rw [sweeps, sweeps, sweeps, sweeps, hinterrupted, htwo, htwo], ?_, rfl,
      by decide, rfl⟩
    simp only [List.forall_mem_cons, List.not_mem_nil, false_imp_iff, implies_true, and_true]
    exact ⟨⟨⟨rfl, by decide⟩, by decide⟩, ⟨⟨rfl, by decide⟩, by decide⟩, ⟨rfl, by decide⟩,
      by decide⟩
  refine ⟨first, second, next, hsplit, (cycle_visits _ _ hundivided ?_).1 [] first [second] next []
    hsplit hfirst ?_ hnext 2 fun pass hpass => (hpasses pass hpass).2⟩
  · rw [hsplit]
    exact fun pass hpass => (hpasses pass hpass).1
  · rintro _ hpass
    rwa [List.mem_singleton.mp hpass]

/-- An account that the run starting the next cycle does not find is passed over, and one that was
committed when the soft time limit fired is visited again. -/
theorem cycle_misses_and_repeats :
    (∃ first next, sweeps ⟨none, 0, 0⟩ [interrupted, complete {1}] = [first, next] ∧
      (∀ pass ∈ [first, next], pass.Progresses) ∧ first.cursor = none ∧ next.cursor = none ∧
      2 ∈ first.run.enforceable ∧ (visited [first]).count 2 = 0) ∧
    ∃ first second next,
      sweeps ⟨none, 0, 0⟩ [cutShort, complete {1, 2, 3}, complete {1, 2, 3}] =
        [first, second, next] ∧
      (∀ pass ∈ [first, second, next], pass.Progresses ∧ 2 ∈ pass.run.enforceable) ∧
      first.cursor = none ∧ second.cursor ≠ none ∧ next.cursor = none ∧
      (visited [first, second]).count 2 = 2 := by
  have hinterrupted : ∀ state, runPrepaidBalanceSweep state interrupted =
      sweepOrdered [1, 2] state interrupted := runPrepaidBalanceSweep_eq (by decide) (by decide)
  have hcutShort : ∀ state, runPrepaidBalanceSweep state cutShort =
      sweepOrdered [1, 2, 3] state cutShort := runPrepaidBalanceSweep_eq (by decide) (by decide)
  have hone : ∀ state, runPrepaidBalanceSweep state (complete {1}) =
      sweepOrdered [1] state (complete {1}) := runPrepaidBalanceSweep_eq (by decide) (by decide)
  have hthree : ∀ state, runPrepaidBalanceSweep state (complete {1, 2, 3}) =
      sweepOrdered [1, 2, 3] state (complete {1, 2, 3}) :=
    runPrepaidBalanceSweep_eq (by decide) (by decide)
  constructor
  · refine ⟨_, _, by rw [sweeps, sweeps, sweeps, hinterrupted, hone], ?_, rfl, rfl, by decide,
      by decide⟩
    simp only [List.forall_mem_cons, List.not_mem_nil, false_imp_iff, implies_true, and_true]
    exact ⟨⟨rfl, by decide⟩, ⟨rfl, by decide⟩⟩
  · refine ⟨_, _, _, by rw [sweeps, sweeps, sweeps, sweeps, hcutShort, hthree, hthree], ?_, rfl,
      by decide, rfl, by decide⟩
    simp only [List.forall_mem_cons, List.not_mem_nil, false_imp_iff, implies_true, and_true]
    exact ⟨⟨⟨rfl, by decide⟩, by decide⟩, ⟨⟨rfl, by decide⟩, by decide⟩, ⟨rfl, by decide⟩,
      by decide⟩

end DotmacSub.BalanceSweep
