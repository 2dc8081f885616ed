import DotmacSub.Billing.ExtensionSteps
import DotmacSub.Core.Run
import DotmacSub.Core.UndoStack

/-!
# Reversing service extensions in any order

The extensions that were applied to a subscription stand on each other: each moved the anchor on from
where the one before had left it.  A reversal takes its extension away if it is on top and leaves the
anchor if it is not, also for good: the extension is reversed, and nothing comes back to its anchor.
-/

namespace DotmacSub.ServiceExtensions

open Store Checked UndoStack

structure ApplyServiceExtensionCommand where
  extensionId : ℕ
  context : CommandContext
  now : ℤ

structure ReverseServiceExtensionCommand where
  extensionId : ℕ
  context : CommandContext
  previewFingerprint : ℕ
  now : ℤ

/-- A command of the owner, or what others do to anchors and statuses. -/
inductive ExtensionCommand
  | apply (command : ApplyServiceExtensionCommand)
  | reverse (command : ReverseServiceExtensionCommand)
  | project (command : BillingAnchorProjectionCommand)
  | setStatus (subscriptionId : ℕ) (status : SubscriptionStatus)

def Subscription.withStatus (status : SubscriptionStatus) (s : Subscription) : Subscription :=
  { s with status }

section Runs

variable (env : ExtensionEnv ReversalMaterial)

def applyCommand (db : ExtensionDb) (c : ApplyServiceExtensionCommand) :
    Except DomainError ExtensionDb :=
  applyServiceExtension env db c.extensionId c.context c.now

def reverseCommand (db : ExtensionDb) (c : ReverseServiceExtensionCommand) :
    Except DomainError ExtensionDb :=
  reverseServiceExtension env db c.extensionId c.context c.previewFingerprint c.now

/-- A command, or a change of anchors and statuses by others. -/
def step (db : ExtensionDb) : ExtensionCommand → Except DomainError ExtensionDb
  | .apply c => applyCommand env db c
  | .reverse c => reverseCommand env db c
  | .project c => (fun subscriptions => { db with subscriptions }) <$>
      stageSubscriptionBillingAnchor db.subscriptions c
  | .setStatus subscriptionId status => .ok { db with
      subscriptions := db.subscriptions.update subscriptionId (Subscription.withStatus status)
        fun _ => rfl }

def ExtensionDb.initial (subscriptions : Table Subscription)
    (extensions : Table ServiceExtension) : ExtensionDb :=
  ⟨subscriptions, extensions, .empty, .empty, .empty⟩

def reached (subscriptions : Table Subscription) (extensions : Table ServiceExtension)
    (history : List ExtensionCommand) : ExtensionDb :=
  Run.run (step env) (.initial subscriptions extensions) history

end Runs

variable {env : ExtensionEnv ReversalMaterial} {db db' db₀ : ExtensionDb}
  {subscriptions : Table Subscription} {extensions : Table ServiceExtension} {id : ℕ}

lemma inv_reached {history : List ExtensionCommand} :
    Inv (reached env subscriptions extensions history) := by
  refine Run.invariant_run (fun db c db' hinv hok => ?_) history
    ⟨fun _ h => (nomatch h), fun _ h => (nomatch h), fun _ h => nomatch h⟩
  cases c with
  | apply c => exact hinv.apply hok
  | reverse c => exact hinv.reverse hok
  | project c =>
    obtain ⟨subscriptions, -, rfl⟩ := map_eq_ok.mp hok
    exact ⟨hinv.unique, hinv.settled, hinv.rises⟩
  | setStatus subscriptionId status =>
    obtain rfl := Except.ok.inj hok
    exact ⟨hinv.unique, hinv.settled, hinv.rises⟩

/-- The anchor that the newest of some entries left. -/
def top (a₀ : Option ℤ) : List ServiceExtensionEntry → Option ℤ
  | [] => a₀
  | e :: _ => e.newNextBillingAt

/-- Each entry, the newest first, moved the anchor on from where the one before had left it. -/
def StandsOn (a₀ : Option ℤ) : List ServiceExtensionEntry → Prop
  | [] => True
  | e :: es => (∃ a n, e.previousNextBillingAt = some a ∧ e.newNextBillingAt = some n ∧ a < n ∧
      top a₀ es = some a) ∧ StandsOn a₀ es

section StandsOn

variable {a₀ : Option ℤ} {newer older : List ServiceExtensionEntry} {e : ServiceExtensionEntry}

lemma StandsOn.of_append (h : StandsOn a₀ (newer ++ older)) : StandsOn a₀ older := by
  induction newer with
  | nil => exact h
  | cons e newer ih => exact ih h.2

/-- A newer entry left a later anchor than the older ones. -/
lemma StandsOn.top_lt (h : StandsOn a₀ (newer ++ older)) (he : e ∈ newer) :
    ∃ a n, top a₀ older = some a ∧ e.newNextBillingAt = some n ∧ a < n := by
  induction newer generalizing e with
  | nil => exact absurd he List.not_mem_nil
  | cons f newer ih =>
    rcases List.mem_cons.mp he with rfl | he
    · obtain ⟨⟨b, n, -, hn, hlt, htop⟩, hrest⟩ := h
      cases newer with
      | nil => exact ⟨b, n, htop, hn, hlt⟩
      | cons g newer =>
        obtain ⟨a, m, ha, hm, hlt'⟩ := ih hrest List.mem_cons_self
        obtain rfl := Option.mem_unique hm htop
        exact ⟨a, n, ha, hn, hlt'.trans hlt⟩
    · exact ih h.2 he

/-- The anchor is where it was before all entries only if none is left. -/
lemma StandsOn.top_eq_iff (h : StandsOn a₀ newer) : top a₀ newer = a₀ ↔ newer = [] := by
  refine ⟨fun htop => ?_, fun hnil => hnil ▸ rfl⟩
  cases newer with
  | nil => rfl
  | cons e newer =>
    have h' : StandsOn a₀ ((e :: newer) ++ []) := by rwa [List.append_nil]
    obtain ⟨a, n, ha, hn, hlt⟩ := h'.top_lt List.mem_cons_self
    have htop : some n = some a := hn.symm.trans (htop.trans ha)
    exact absurd (Option.some.inj htop) hlt.ne'

end StandsOn

def applyAll (env : ExtensionEnv ReversalMaterial) (db : ExtensionDb)
    (cs : List ApplyServiceExtensionCommand) : Except DomainError ExtensionDb :=
  cs.foldlM (applyCommand env) db

def reverseAll (env : ExtensionEnv ReversalMaterial) (db : ExtensionDb)
    (cs : List ReverseServiceExtensionCommand) : Except DomainError ExtensionDb :=
  cs.foldlM (reverseCommand env) db

/-- The entries of a subscription since an earlier state, the newest first. -/
def madeSince (db₀ db : ExtensionDb) (id : ℕ) : List ServiceExtensionEntry :=
  ((grantsOf db.entries id).drop (grantsOf db₀.entries id).length).reverse

def Applied (db : ExtensionDb) (extensionId : ℕ) : Prop :=
  ∃ x, db.extensions.get? extensionId = some x ∧ x.status = .applied

structure Stands (db₀ db : ExtensionDb) (id : ℕ) (made : List ServiceExtensionEntry) : Prop where
  grants : grantsOf db.entries id = grantsOf db₀.entries id ++ made.reverse
  standsOn : StandsOn (anchor db₀.subscriptions id) made
  anchored : anchor db.subscriptions id = top (anchor db₀.subscriptions id) made
  live : made ≠ [] → ∃ s, db.subscriptions.get? id = some s ∧ Live s
  applied : ∀ e ∈ made, Applied db e.extensionId

lemma Stands.madeSince_eq {made : List ServiceExtensionEntry} (h : Stands db₀ db id made) :
    madeSince db₀ db id = made := by
  rw [madeSince, h.grants, List.drop_left, List.reverse_reverse]

lemma Stands.madeSince_of_append {db₁ : ExtensionDb} {newer older : List ServiceExtensionEntry}
    (h₁ : Stands db₀ db₁ id older) (h : Stands db₀ db id (newer ++ older)) :
    madeSince db₁ db id = newer := by
  rw [madeSince, h.grants, h₁.grants, List.reverse_append, ← List.append_assoc, List.drop_left,
    List.reverse_reverse]

lemma Stands.apply {made : List ServiceExtensionEntry} {c : ApplyServiceExtensionCommand}
    (h : Stands db₀ db id made) (hok : applyCommand env db c = .ok db') :
    ∃ newer, Stands db₀ db' id (newer ++ made) := by
  obtain ⟨extension, hextension, hid, ⟨-, rfl⟩ | hok⟩ := apply_cases hok
  · exact ⟨[], h⟩
  obtain ⟨hpending, hother, happlied⟩ := extensions_applyPending hok
  have hstill : ∀ e ∈ made, Applied db' e.extensionId := by
    intro e he
    obtain ⟨x, hx, hstatus⟩ := h.applied e he
    have hne : e.extensionId ≠ extension.id := by
      intro heq
      rw [heq, hid, hextension] at hx
      rw [← Option.some.inj hx, hpending] at hstatus
      exact nomatch hstatus
    exact ⟨x, (hother _ hne).trans hx, hstatus⟩
  rcases view_applyPending id hok with hsame | hnew
  · have hgrants : grantsOf db'.entries id = grantsOf db.entries id := congrArg Prod.snd hsame
    have hsub : db'.subscriptions.get? id = db.subscriptions.get? id := congrArg Prod.fst hsame
    refine ⟨[], hgrants.trans h.grants, h.standsOn, ?_, ?_, hstill⟩
    · rw [anchor, hsub]
      exact h.anchored
    · rw [hsub]
      exact h.live
  · obtain ⟨s, r, e, a, n, hs, hr, hlive, hgrants, hext, hprevious, hnext, hlt, ha, hn⟩ := hnew
    change db.subscriptions.get? id = some s at hs
    change db'.subscriptions.get? id = some r at hr
    change grantsOf db'.entries id = grantsOf db.entries id ++ [e] at hgrants
    have hanchor : anchor db.subscriptions id = some a := by
      rw [anchor, hs]
      exact ha
    refine ⟨[e], ?_, ⟨⟨a, n, hprevious, hnext, hlt, h.anchored.symm.trans hanchor⟩, h.standsOn⟩, ?_,
      fun _ => ⟨r, hr, hlive⟩, ?_⟩
    · rw [hgrants, h.grants, List.singleton_append, List.reverse_cons, List.append_assoc]
    · rw [anchor, hr]
      exact hn.trans hnext.symm
    · intro f hf
      rcases List.mem_cons.mp hf with rfl | hf
      · exact hext ▸ happlied (hid ▸ hextension)
      · exact hstill f hf

variable (id) in
lemma stands_applyAll {cs : List ApplyServiceExtensionCommand}
    {made : List ServiceExtensionEntry} (h : Stands db₀ db id made)
    (hok : applyAll env db cs = .ok db') : ∃ newer, Stands db₀ db' id (newer ++ made) := by
  induction cs generalizing db made with
  | nil =>
    obtain rfl := foldlM_nil_eq_ok.mp hok
    exact ⟨[], h⟩
  | cons c cs ih =>
    obtain ⟨db₁, hc, hcs⟩ := foldlM_cons_eq_ok.mp hok
    obtain ⟨newer, h₁⟩ := h.apply hc
    obtain ⟨newest, h₂⟩ := ih h₁ hcs
    exact ⟨newest ++ newer, by rwa [List.append_assoc]⟩

lemma stands_nil : Stands db db id [] :=
  ⟨(List.append_nil _).symm, trivial, rfl, fun h => absurd rfl h, fun _ h => nomatch h⟩

lemma Inv.applyAll {cs : List ApplyServiceExtensionCommand} (hinv : Inv db)
    (hok : applyAll env db cs = .ok db') : Inv db' :=
  foldlM_keeps (p := Inv) (fun _ _ _ _ hc hinv => hinv.apply hc) hinv hok

structure Standing (db : ExtensionDb) (id : ℕ) (a₀ : Option ℤ)
    (made standing : List ServiceExtensionEntry) : Prop where
  inv : Inv db
  suffix : standing <:+ made
  standsOn : StandsOn a₀ made
  mem : ∀ e ∈ made, e ∈ grantsOf db.entries id
  anchored : anchor db.subscriptions id = top a₀ standing
  live : made ≠ [] → ∃ s, db.subscriptions.get? id = some s ∧ Live s

section Standing

variable {a₀ : Option ℤ} {made standing : List ServiceExtensionEntry} {e f : ServiceExtensionEntry}

lemma Standing.eq_of_extensionId_eq (h : Standing db id a₀ made standing) (he : e ∈ made)
    (hf : f ∈ grantsOf db.entries id) (hext : f.extensionId = e.extensionId) : f = e := by
  obtain ⟨he, hid⟩ := mem_grantsOf.mp (h.mem e he)
  obtain ⟨hf, hid'⟩ := mem_grantsOf.mp hf
  exact h.inv.unique f hf e he hext (hid'.trans hid.symm)

lemma Standing.eq_cons (h : Standing db id a₀ made standing) (he : e ∈ made)
    (htop : anchor db.subscriptions id = e.newNextBillingAt) : ∃ older, standing = e :: older := by
  obtain ⟨newer, hnewer⟩ := h.suffix
  have hstands : StandsOn a₀ (newer ++ standing) := hnewer ▸ h.standsOn
  rw [h.anchored] at htop
  rcases List.mem_append.mp (hnewer ▸ he : e ∈ newer ++ standing) with he | he
  · obtain ⟨a, n, ha, hn, hlt⟩ := hstands.top_lt he
    exact absurd (Option.some.inj ((ha.symm.trans htop).trans hn)) hlt.ne
  · cases standing with
    | nil => exact absurd he List.not_mem_nil
    | cons g older =>
      rcases List.mem_cons.mp he with rfl | he
      · exact ⟨older, rfl⟩
      · obtain ⟨before, after, rfl⟩ := List.append_of_mem he
        have hstands' : StandsOn a₀ ((g :: before) ++ e :: after) := hstands.of_append
        obtain ⟨a, n, ha, hn, hlt⟩ := hstands'.top_lt List.mem_cons_self
        exact absurd (Option.some.inj ((ha.symm.trans htop.symm).trans hn)) hlt.ne

/-- A reversal takes its entry away if it is on top, and nothing else. -/
lemma Standing.retract (h : Standing db id a₀ made standing) (he : e ∈ made)
    (hret : Retracted e.extensionId (grantsOf db.entries id) (db.subscriptions.get? id)
      (db'.subscriptions.get? id)) (hinv : Inv db') (hentries : db'.entries = db.entries) :
    ∃ left, Standing db' id a₀ made left ∧
      left.map (·.extensionId) = pop (standing.map (·.extensionId)) e.extensionId := by
  have hmem : ∀ g ∈ made, g ∈ grantsOf db'.entries id := hentries ▸ h.mem
  obtain ⟨s, hs, hlive⟩ := h.live (List.ne_nil_of_mem he)
  rcases hret with ⟨s', f, t, hs', hf, hext, -, hexact, hprevious, hafter⟩ | ⟨hsame, hpreserved⟩
  · obtain rfl := h.eq_of_extensionId_eq he hf hext
    obtain rfl := Option.mem_unique hs hs'
    have htop : anchor db.subscriptions id = f.newNextBillingAt := by
      rw [anchor, hs]
      exact hexact
    obtain ⟨older, rfl⟩ := h.eq_cons he htop
    obtain ⟨newer, hnewer⟩ := h.suffix
    have hstands : StandsOn a₀ (f :: older) := (hnewer ▸ h.standsOn : StandsOn a₀ (newer ++ _)).of_append
    obtain ⟨⟨a, n, ha, -, -, holder⟩, -⟩ := hstands
    refine ⟨older, ⟨hinv, (List.suffix_cons f older).trans h.suffix, h.standsOn, hmem, ?_,
      fun _ => ⟨_, hafter, hlive⟩⟩, pop_top.symm⟩
    rw [anchor, hafter, holder, ← ha, hprevious]
    rfl
  · refine ⟨standing, ⟨hinv, h.suffix, h.standsOn, hmem, ?_, fun _ => ⟨s, hsame.trans hs, hlive⟩⟩, ?_⟩
    · rw [anchor, hsame]
      exact h.anchored
    · have hkept := (hpreserved s hs e (h.mem e he) rfl).resolve_left hlive.not_terminal
      cases standing with
      | nil => exact pop_nil.symm
      | cons g older =>
        refine (pop_of_ne fun heq => hkept ?_).symm
        have hg : g ∈ made := h.suffix.mem List.mem_cons_self
        obtain rfl := h.eq_of_extensionId_eq he (h.mem g hg) heq
        have hanchor := h.anchored
        rw [anchor, hs] at hanchor
        exact hanchor

lemma applied_of_reverse {c : ReverseServiceExtensionCommand} (hinv : Inv db)
    (hok : reverseCommand env db c = .ok db') {i : ℕ} (hi : i ≠ c.extensionId)
    (happlied : Applied db i) : Applied db' i := by
  obtain ⟨extension, -, hid, ⟨-, rfl⟩ | ⟨key, hok⟩⟩ := reverse_cases hok
  · exact happlied
  · obtain ⟨-, -, hother, -⟩ := retracted_of_reverseApplied hinv hok
    obtain ⟨x, hx, hstatus⟩ := happlied
    exact ⟨x, (hother i (hid ▸ hi)).trans hx, hstatus⟩

lemma Standing.reverse {c : ReverseServiceExtensionCommand} (h : Standing db id a₀ made standing)
    (hmade : c.extensionId ∈ made.map (·.extensionId)) (happlied : Applied db c.extensionId)
    (hok : reverseCommand env db c = .ok db') :
    ∃ left, Standing db' id a₀ made left ∧
      left.map (·.extensionId) = pop (standing.map (·.extensionId)) c.extensionId := by
  have hinv : Inv db' := h.inv.reverse hok
  obtain ⟨e, he, hext⟩ := List.mem_map.mp hmade
  obtain ⟨extension, hextension, hid, ⟨hstatus, -⟩ | ⟨key, hok⟩⟩ := reverse_cases hok
  · obtain ⟨x, hx, hx'⟩ := happlied
    obtain rfl := Option.mem_unique hextension hx
    exact nomatch hstatus.symm.trans hx'
  · obtain ⟨-, hentries, -, -, hret⟩ := retracted_of_reverseApplied h.inv hok
    have hret' := hret id
    rw [hid, ← hext] at hret'
    rw [← hext]
    exact h.retract he hret' hinv hentries

/-- Reversals in any order take away what they find on top. -/
lemma retracts_reverseAll {cs : List ReverseServiceExtensionCommand}
    (h : Standing db id a₀ made standing)
    (hmade : ∀ c ∈ cs, c.extensionId ∈ made.map (·.extensionId))
    (hnodup : (cs.map (·.extensionId)).Nodup) (happlied : ∀ c ∈ cs, Applied db c.extensionId)
    (hok : reverseAll env db cs = .ok db') :
    ∃ left, Standing db' id a₀ made left ∧
      left.map (·.extensionId) = popAll (standing.map (·.extensionId)) (cs.map (·.extensionId)) := by
  induction cs generalizing db standing with
  | nil =>
    obtain rfl := foldlM_nil_eq_ok.mp hok
    exact ⟨standing, h, rfl⟩
  | cons c cs ih =>
    obtain ⟨db₁, hc, hcs⟩ := foldlM_cons_eq_ok.mp hok
    obtain ⟨hnot, hnodup⟩ := List.nodup_cons.mp hnodup
    obtain ⟨left, h₁, hleft⟩ :=
      h.reverse (hmade c List.mem_cons_self) (happlied c List.mem_cons_self) hc
    rw [List.map_cons, popAll_cons, ← hleft]
    refine ih h₁ (fun d hd => hmade d (List.mem_cons_of_mem c hd)) hnodup (fun d hd => ?_) hcs
    refine applied_of_reverse h.inv hc (fun heq => hnot ?_) (happlied d (List.mem_cons_of_mem c hd))
    exact List.mem_map.mpr ⟨d, hd, heq⟩

end Standing

lemma not_raised {c : ReverseServiceExtensionCommand} (hinv : Inv db)
    (hok : reverseCommand env db c = .ok db') {a b : ℤ} (ha : anchor db.subscriptions id = some a)
    (hb : anchor db'.subscriptions id = some b) : b ≤ a := by
  obtain ⟨extension, -, -, ⟨-, rfl⟩ | ⟨key, hok⟩⟩ := reverse_cases hok
  · exact (Option.mem_unique hb ha).le
  obtain ⟨-, -, -, -, hret⟩ := retracted_of_reverseApplied hinv hok
  rcases hret id with ⟨s, e, t, hs, he, -, -, hexact, hprevious, hafter⟩ | ⟨hsame, -⟩
  · obtain ⟨p, n, hp, hn, hlt⟩ := hinv.rises e (mem_grantsOf.mp he).1
    rw [anchor, hs] at ha
    rw [anchor, hafter] at hb
    obtain rfl := Option.some.inj hb
    obtain rfl := Option.mem_unique hprevious hp
    obtain rfl := Option.some.inj (hn.symm.trans (hexact.symm.trans ha))
    exact hlt.le
  · rw [anchor, hsame] at hb
    exact (Option.mem_unique hb ha).le

/-- **The anchor after applications and reversals.**  No reversal raises an anchor.  Whatever
happened before, if extensions are applied one after the other and some that were applied to a
subscription are then reversed in some order, its anchor is where the newest entry left it that the
reversals did not take off the top; it is where it was before the applications exactly if all are
reversed newest first, and where it was after some of them if the later ones are. -/
theorem anchor_after_reversals (env : ExtensionEnv ReversalMaterial)
    (subscriptions : Table Subscription) (extensions : Table ServiceExtension)
    (history : List ExtensionCommand) :
    (∀ c db' id a b,
      reverseCommand env (reached env subscriptions extensions history) c = .ok db' →
      anchor (reached env subscriptions extensions history).subscriptions id = some a →
      anchor db'.subscriptions id = some b → b ≤ a) ∧
    ∀ applications reversals db db' id,
      applyAll env (reached env subscriptions extensions history) applications = .ok db →
      reverseAll env db reversals = .ok db' →
      (reversals.map (·.extensionId)).Nodup →
      (∀ r ∈ reversals, r.extensionId ∈
        (madeSince (reached env subscriptions extensions history) db id).map (·.extensionId)) →
      (∃ left, left <:+ madeSince (reached env subscriptions extensions history) db id ∧
        left.map (·.extensionId) = popAll
          ((madeSince (reached env subscriptions extensions history) db id).map (·.extensionId))
          (reversals.map (·.extensionId)) ∧
        anchor db'.subscriptions id =
          top (anchor (reached env subscriptions extensions history).subscriptions id) left) ∧
      ((reversals.map (·.extensionId)).Perm
          ((madeSince (reached env subscriptions extensions history) db id).map (·.extensionId)) →
        (anchor db'.subscriptions id =
            anchor (reached env subscriptions extensions history).subscriptions id ↔
          reversals.map (·.extensionId) =
            (madeSince (reached env subscriptions extensions history) db id).map (·.extensionId))) ∧
      ∀ first second db₁, applications = first ++ second →
        applyAll env (reached env subscriptions extensions history) first = .ok db₁ →
        reversals.map (·.extensionId) = (madeSince db₁ db id).map (·.extensionId) →
        anchor db'.subscriptions id = anchor db₁.subscriptions id := by
  have hinv : Inv (reached env subscriptions extensions history) := inv_reached
  generalize reached env subscriptions extensions history = db₀ at hinv
  refine ⟨fun c db' id a b hok ha hb => not_raised hinv hok ha hb, ?_⟩
  intro applications reversals db db' id happly hreverse hnodup hmade
  obtain ⟨made, hstands⟩ := stands_applyAll id stands_nil happly
  rw [List.append_nil] at hstands
  rw [hstands.madeSince_eq] at hmade ⊢
  have hstanding : Standing db id (anchor db₀.subscriptions id) made made :=
    ⟨hinv.applyAll happly, List.suffix_rfl, hstands.standsOn, fun e he => by
      rw [hstands.grants]
      exact List.mem_append_right _ (List.mem_reverse.mpr he), hstands.anchored, hstands.live⟩
  have happlied : ∀ r ∈ reversals, Applied db r.extensionId := by
    intro r hr
    obtain ⟨e, he, hext⟩ := List.mem_map.mp (hmade r hr)
    exact hext ▸ hstands.applied e he
  obtain ⟨left, hleft, hpop⟩ := retracts_reverseAll hstanding hmade hnodup happlied hreverse
  refine ⟨⟨left, hleft.suffix, hpop, hleft.anchored⟩, fun hperm => ?_, ?_⟩
  · obtain ⟨newer, hnewer⟩ := hleft.suffix
    have hstands' : StandsOn (anchor db₀.subscriptions id) left :=
      (hnewer ▸ hleft.standsOn : StandsOn _ (newer ++ left)).of_append
    rw [hleft.anchored, hstands'.top_eq_iff, ← popAll_eq_nil_iff_of_perm hperm, ← hpop,
      List.map_eq_nil_iff]
  · rintro first second db₁ rfl hfirst hids
    obtain ⟨db₁', hfirst', hsecond⟩ := foldlM_append_eq_ok.mp happly
    obtain rfl := Except.ok.inj (hfirst.symm.trans hfirst')
    obtain ⟨made₁, hstands₁⟩ := stands_applyAll id stands_nil hfirst
    rw [List.append_nil] at hstands₁
    obtain ⟨newer, hstands₂⟩ := stands_applyAll id hstands₁ hsecond
    obtain rfl : newer ++ made₁ = made := hstands₂.madeSince_eq.symm.trans hstands.madeSince_eq
    rw [hids, hstands₁.madeSince_of_append hstands₂, List.map_append, popAll_append] at hpop
    have hlength : left.length = made₁.length := by simpa using congrArg List.length hpop
    have hsame : left = made₁ := (List.suffix_of_suffix_length_le hleft.suffix
      (List.suffix_append newer made₁) hlength.le).eq_of_length hlength
    rw [hleft.anchored, hstands₁.anchored, hsame]

/-! ## Two extensions of one day -/

/-- An owner that lifts no suspensions; a fingerprint counts the rows. -/
def plainEnv : ExtensionEnv ReversalMaterial where
  popSiteOf _ := none
  resumeBillingSuspension _ _ := some false
  sha256 material := material.rows.length

def oneSubscription : Table Subscription :=
  Table.empty.insert (fun id => ⟨id, 1, .active, none, some 0, none⟩) fun _ => rfl

def twoExtensions : Table ServiceExtension :=
  (Table.empty.insert (fun id => ⟨id, 1, by decide, .network, .pending, 0, 0, 0, 0, none, none, none⟩)
    fun _ => rfl).insert (fun id => ⟨id, 1, by decide, .network, .pending, 0, 0, 0, 0, none, none, none⟩)
    fun _ => rfl

def applyAt (extensionId : ℕ) : ApplyServiceExtensionCommand :=
  ⟨extensionId, ⟨applyScope, "user:1", some extensionId, ""⟩, 0⟩

def reverseAt (extensionId : ℕ) : ReverseServiceExtensionCommand :=
  ⟨extensionId, ⟨reverseScope, "user:1", some extensionId, "wrong outage"⟩, 1, 0⟩

/-- Newest first, the anchor comes back to where it was. -/
theorem reversed_newest_first :
    ∃ db db', applyAll plainEnv (reached plainEnv oneSubscription twoExtensions [])
        [applyAt 0, applyAt 1] = .ok db ∧
      reverseAll plainEnv db [reverseAt 1, reverseAt 0] = .ok db' ∧
      anchor db'.subscriptions 0 =
        anchor (reached plainEnv oneSubscription twoExtensions []).subscriptions 0 := by
  have hrun : ∃ db, applyAll plainEnv (reached plainEnv oneSubscription twoExtensions [])
        [applyAt 0, applyAt 1] = .ok db ∧
      ((madeSince (reached plainEnv oneSubscription twoExtensions []) db 0).map (·.extensionId) =
          [1, 0] ∧
        ∃ db', reverseAll plainEnv db [reverseAt 1, reverseAt 0] = .ok db' ∧ True) := by
    decide +kernel
  obtain ⟨db, happly, hmade, db', hreverse, -⟩ := hrun
  have hlaw := (anchor_after_reversals plainEnv oneSubscription twoExtensions []).2 _ _ db db' 0
    happly hreverse (by decide) (by rw [hmade]; decide)
  rw [hmade] at hlaw
  exact ⟨db, db', happly, hreverse, (hlaw.2.1 (.refl _)).mpr rfl⟩

/-- **Reversing every extension may leave the anchor moved**: the older one is reversed first, and
the anchor stays at the end of its grant. -/
theorem reversed_oldest_first :
    ¬∀ (env : ExtensionEnv ReversalMaterial) (subscriptions : Table Subscription)
        (extensions : Table ServiceExtension) (history : List ExtensionCommand)
        (applications : List ApplyServiceExtensionCommand)
        (reversals : List ReverseServiceExtensionCommand) (db db' : ExtensionDb) (id : ℕ),
      applyAll env (reached env subscriptions extensions history) applications = .ok db →
      reverseAll env db reversals = .ok db' →
      (reversals.map (·.extensionId)).Perm
        ((madeSince (reached env subscriptions extensions history) db id).map (·.extensionId)) →
      anchor db'.subscriptions id =
        anchor (reached env subscriptions extensions history).subscriptions id := by
  intro hclaim
  have hrun : ∃ db, applyAll plainEnv (reached plainEnv oneSubscription twoExtensions [])
        [applyAt 0, applyAt 1] = .ok db ∧
      ((([reverseAt 0, reverseAt 1].map (·.extensionId)).Perm
          ((madeSince (reached plainEnv oneSubscription twoExtensions []) db 0).map
            (·.extensionId))) ∧
        ∃ db', reverseAll plainEnv db [reverseAt 0, reverseAt 1] = .ok db' ∧
          anchor db'.subscriptions 0 ≠
            anchor (reached plainEnv oneSubscription twoExtensions []).subscriptions 0) := by
    decide +kernel
  obtain ⟨db, happly, hperm, db', hreverse, hne⟩ := hrun
  exact hne (hclaim _ _ _ _ _ _ db db' 0 happly hreverse hperm)

end DotmacSub.ServiceExtensions
