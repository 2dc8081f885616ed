import Mathlib.Data.Char
import Mathlib.Data.List.Lex

/-!
# Keys of task invocations

`_build_idempotency_key` of `services/task_idempotency.py`.  A key of selected parameters looks them
up among the keyword arguments only: what is passed by position is not in the key, and a key text is
not cut between two parameters.
-/

namespace DotmacSub.TaskKeys

abbrev Text := List Char

structure Parameter where
  name : Text
  identifier : '=' ∉ name
deriving DecidableEq

structure Invocation (V : Type*) where
  args : List V
  kwargs : List (Parameter × V)

section Keys

variable {V : Type*} (text : V → Text) (argHash : Invocation V → Text)
  (signature : List (Parameter × Option V)) (taskName : Text) (keyParams : List Parameter)

/-- The argument of a parameter: passed by keyword, passed by position, or the default. -/
def Invocation.argument (call : Invocation V) (param : Parameter) : Option V :=
  call.kwargs.lookup param <|> ((signature.map Prod.fst).zip call.args).lookup param
    <|> (signature.lookup param).join

def keyParts (call : Invocation V) (params : List Parameter) : List Text :=
  params.filterMap fun param => (call.kwargs.lookup param).map fun v => param.name ++ '=' :: text v

def sortedParams : List Parameter := keyParams.mergeSort fun a b => a.name ≤ b.name

/-- The key of an invocation. -/
def buildIdempotencyKey (keyFunc : Option (Invocation V → Text)) (call : Invocation V) : Text :=
  match keyFunc with
  | some keyFunc => taskName ++ ':' :: keyFunc call
  | none =>
    if keyParams ≠ [] then
      [':'].intercalate (taskName :: keyParts text call (sortedParams keyParams))
    else taskName ++ ':' :: argHash call

/-- The selected arguments are equal. -/
def Agree (i j : Invocation V) : Prop :=
  ∀ param ∈ keyParams, i.argument signature param = j.argument signature param

/-- One key for equal selected arguments, and another key for others. -/
def Identifies (i j : Invocation V) : Prop :=
  buildIdempotencyKey text argHash taskName keyParams none i
      = buildIdempotencyKey text argHash taskName keyParams none j ↔ Agree signature keyParams i j

/-- The same selected parameters are passed by keyword. -/
def SameKeywords (i j : Invocation V) : Prop :=
  ∀ param ∈ keyParams, (i.kwargs.lookup param).isSome = (j.kwargs.lookup param).isSome

/-- The selected keyword arguments with their names, cut at every colon. -/
def pieces (call : Invocation V) : List Text :=
  (keyParts text call (sortedParams keyParams)).flatMap (·.splitOn ':')

end Keys

def colons (parts : List Text) : Text := parts.flatMap (':' :: ·)

lemma intercalate_eq (a : Text) (parts : List Text) :
    [':'].intercalate (a :: parts) = a ++ colons parts := by
  induction parts generalizing a with
  | nil => simp [colons]
  | cons b parts ih =>
    rw [List.intercalate_cons_cons, ih, colons, colons, List.flatMap_cons]
    simp

lemma splitOn_colons (a : Text) (parts : List Text) :
    (a ++ colons parts).splitOn ':' = a.splitOn ':' ++ parts.flatMap (·.splitOn ':') := by
  induction parts generalizing a with
  | nil => simp [colons]
  | cons b parts ih =>
    have hcons : colons (b :: parts) = ':' :: (b ++ colons parts) := by simp [colons]
    rw [hcons, List.splitOn_append_cons_self, ih, List.flatMap_cons]

/-- Joined texts are equal when their pieces are. -/
lemma colons_inj {l m : List Text} :
    colons l = colons m ↔ l.flatMap (·.splitOn ':') = m.flatMap (·.splitOn ':') := by
  have hl := splitOn_colons [] l
  have hm := splitOn_colons [] m
  rw [List.nil_append] at hl hm
  constructor
  · intro h
    rw [h, hm] at hl
    exact (List.append_cancel_left hl).symm
  · intro h
    have hback (t : Text) : List.intercalate [':'] (t.splitOn ':') = t := List.intercalate_splitOn ':'
    rw [← hback (colons l), hl, h, ← hm, hback]

section Identifies

variable {V : Type*} {text : V → Text} {signature : List (Parameter × Option V)}
  {i j : Invocation V}

/-- A joined key begins with the name of a keyword argument, if it has one. -/
lemma colons_keyParts (text : V → Text) (call : Invocation V) (params : List Parameter) :
    colons (keyParts text call params) = [] ∨ ∃ param ∈ params, (call.kwargs.lookup param).isSome ∧
      ∃ rest, colons (keyParts text call params) = ':' :: (param.name ++ '=' :: rest) := by
  cases hparts : keyParts text call params with
  | nil => exact .inl rfl
  | cons part parts =>
    have hmem : part ∈ keyParts text call params := hparts ▸ List.mem_cons_self
    obtain ⟨param, hparam, hpart⟩ := List.mem_filterMap.mp hmem
    obtain ⟨v, hv, rfl⟩ := Option.map_eq_some_iff.mp hpart
    refine .inr ⟨param, hparam, Option.isSome_of_eq_some hv, text v ++ colons parts, ?_⟩
    simp [colons]

/-- A name is what stands before the first equals sign. -/
lemma parameter_eq {p q : Parameter} {x y : Text}
    (h : p.name ++ '=' :: x = q.name ++ '=' :: y) : p = q := by
  have hname (r : Parameter) (z : Text) : (r.name ++ '=' :: z).takeWhile (· ≠ '=') = r.name := by
    have hall : ∀ c ∈ r.name, decide (c ≠ '=') = true := by
      intro c hc
      exact decide_eq_true fun heq : c = '=' => r.identifier (heq ▸ hc)
    rw [List.takeWhile_append_of_pos hall]
    simp
  have heq : p.name = q.name := by rw [← hname p x, h, hname]
  cases p
  cases q
  exact (Parameter.mk.injEq ..).mpr heq

lemma colons_keyParts_cons (param : Parameter) (params : List Parameter) (call : Invocation V) :
    colons (keyParts text call (param :: params)) =
      (match call.kwargs.lookup param with
        | some v => ':' :: (param.name ++ '=' :: text v)
        | none => []) ++ colons (keyParts text call params) := by
  rw [keyParts, List.filterMap_cons]
  cases call.kwargs.lookup param <;> simp [colons, keyParts]

/-- A parameter that only one of the invocations passes by keyword tells the keys apart. -/
lemma colons_ne {param : Parameter} {params : List Parameter} {v : V}
    (hj : j.kwargs.lookup param = none) (rest : Text) :
    ':' :: (param.name ++ '=' :: text v) ++ rest ≠ colons (keyParts text j params) := by
  intro h
  rcases colons_keyParts text j params with hnil | ⟨q, -, hq, rest', hrest⟩
  · rw [hnil] at h
    exact nomatch h
  · rw [hrest] at h
    have hsame : param = q := parameter_eq (by simpa using (List.cons.inj h).2)
    rw [← hsame, hj] at hq
    exact nomatch hq

lemma sameKeywords_of_colons : ∀ {params : List Parameter},
    (∀ param ∈ params, i.argument signature param = j.argument signature param) →
      colons (keyParts text i params) = colons (keyParts text j params) →
        ∀ param ∈ params, (i.kwargs.lookup param).isSome = (j.kwargs.lookup param).isSome
  | [], _, _ => nofun
  | param :: params, hagree, h => by
    have hparam := hagree param List.mem_cons_self
    have hagree' := fun q hq => hagree q (List.mem_cons_of_mem param hq)
    rw [colons_keyParts_cons, colons_keyParts_cons] at h
    rw [List.forall_mem_cons]
    cases hi : i.kwargs.lookup param with
    | some v =>
      cases hj : j.kwargs.lookup param with
      | some w =>
        obtain rfl : v = w := by simpa [Invocation.argument, hi, hj] using hparam
        simp only [hi, hj] at h
        exact ⟨rfl, sameKeywords_of_colons hagree' (List.append_cancel_left h)⟩
      | none =>
        simp only [hi, hj] at h
        exact absurd h (colons_ne hj _)
    | none =>
      cases hj : j.kwargs.lookup param with
      | some w =>
        simp only [hi, hj] at h
        exact absurd h.symm (colons_ne hi _)
      | none =>
        simp only [hi, hj] at h
        exact ⟨rfl, sameKeywords_of_colons hagree' h⟩

lemma keyParts_congr {params : List Parameter}
    (hagree : ∀ param ∈ params, i.argument signature param = j.argument signature param)
    (hsame : ∀ param ∈ params, (i.kwargs.lookup param).isSome = (j.kwargs.lookup param).isSome) :
    keyParts text i params = keyParts text j params := by
  refine List.filterMap_congr fun param hparam => ?_
  have h := hagree param hparam
  have hs := hsame param hparam
  cases hi : i.kwargs.lookup param with
  | some v =>
    cases hj : j.kwargs.lookup param with
    | some w => simp_all [Invocation.argument]
    | none => simp [hi, hj] at hs
  | none =>
    cases hj : j.kwargs.lookup param with
    | some w => simp [hi, hj] at hs
    | none => rfl

/-- **A key identifies the selected arguments** of two invocations exactly when equal arguments come
under the same keywords, and different ones differ in what is passed by keyword. -/
theorem identifies_iff {keyParams : List Parameter} (hparams : keyParams ≠ [])
    (argHash : Invocation V → Text) (taskName : Text) (i j : Invocation V) :
    Identifies text argHash signature taskName keyParams i j ↔
      (Agree signature keyParams i j → SameKeywords keyParams i j) ∧
        (¬Agree signature keyParams i j → pieces text keyParams i ≠ pieces text keyParams j) := by
  have hmem (param : Parameter) : param ∈ sortedParams keyParams ↔ param ∈ keyParams :=
    List.mem_mergeSort
  have hkey : buildIdempotencyKey text argHash taskName keyParams none i
      = buildIdempotencyKey text argHash taskName keyParams none j
        ↔ pieces text keyParams i = pieces text keyParams j := by
    simp only [buildIdempotencyKey, if_pos hparams, intercalate_eq, List.append_cancel_left_eq]
    exact colons_inj
  rw [Identifies, hkey]
  by_cases hagree : Agree signature keyParams i j
  · have hsorted : ∀ param ∈ sortedParams keyParams,
        i.argument signature param = j.argument signature param :=
      fun param hparam => hagree param ((hmem param).mp hparam)
    simp only [hagree, iff_true, true_imp_iff, not_true, false_imp_iff, and_true]
    constructor
    · intro h param hparam
      exact sameKeywords_of_colons hsorted (colons_inj.mpr h) param ((hmem param).mpr hparam)
    · intro hsame
      rw [pieces, pieces, keyParts_congr hsorted fun param hparam =>
        hsame param ((hmem param).mp hparam)]
  · simp only [hagree, iff_false, false_imp_iff, not_false_eq_true, true_imp_iff, true_and]

end Identifies

def paymentId : Parameter := ⟨['p', 'a', 'y', 'm', 'e', 'n', 't', '_', 'i', 'd'], by decide⟩

def charge (payment : ℕ) : Invocation ℕ := ⟨[payment], []⟩

def chargeKeyword (payment : ℕ) : Invocation ℕ := ⟨[], [(paymentId, payment)]⟩

theorem charges_not_identified :
    ¬Identifies (fun payment => (toString payment).toList) (fun _ => []) [(paymentId, none)]
      ['c', 'h', 'a', 'r', 'g', 'e'] [paymentId] (charge 1) (charge 2) := by
  intro h
  have hagree := h.mp (by simp [buildIdempotencyKey, keyParts, charge])
  exact absurd (hagree paymentId List.mem_cons_self) (by decide)

theorem keyword_charges_identified :
    Identifies (fun payment => (toString payment).toList) (fun _ => []) [(paymentId, none)]
      ['c', 'h', 'a', 'r', 'g', 'e'] [paymentId] (chargeKeyword 1) (chargeKeyword 2) := by
  refine (identifies_iff (by simp) _ _ _ _).mpr ⟨?_, fun _ => ?_⟩
  · intro _ param hparam
    rw [List.mem_singleton.mp hparam]
    decide
  · rw [pieces, pieces, sortedParams, List.mergeSort_singleton]
    decide +kernel

end DotmacSub.TaskKeys
