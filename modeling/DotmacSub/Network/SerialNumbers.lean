import DotmacSub.Core.Hexadecimal
import DotmacSub.Core.Text

/-!
# Serial numbers

The serial forms of `services/network/serial_utils.py`.  A device is named by a vendor prefix of four
letters and eight digits, and some systems spell the prefix in hexadecimal.  Decoding and encoding
the prefix are two pieces of code: decoding does not ask for capital letters, and encoding does not
ask what follows the prefix.
-/

namespace DotmacSub

namespace SerialNumbers

open Text

/-- A text without surrounding white space. -/
def stripChars (value : List Char) : List Char :=
  ((value.dropWhile isSpace).reverse.dropWhile isSpace).reverse

/-- Normalize a serial number: strip everything but letters and digits, and raise it. -/
def normalize (value : List Char) : List Char :=
  (value.filter Char.isAlphanum).map Char.toUpper

def decodeAscii (bytes : List ℕ) : Option (List Char) :=
  if ∀ b ∈ bytes, b < 128 then some (bytes.map Char.ofNat) else none

/-- The vendor prefix that sixteen hexadecimal digits begin with, when it decodes to letters. -/
def vendorAscii (normalized : List Char) : Option (List Char) :=
  if normalized.length = 16 ∧ normalized.all Hex.isDigit then
    (decodeAscii (Hex.decode (normalized.take 8))).filter (·.all Char.isAlpha)
  else none

/-- The canonical form: a hexadecimal vendor prefix is decoded. -/
def canonical (value : List Char) : List Char :=
  match vendorAscii (normalize value) with
  | some vendor => vendor ++ (normalize value).drop 8
  | none => normalize value

/-- A serial of twelve characters begins with four letters. -/
def hasAsciiVendor (normalized : List Char) : Prop :=
  normalized.length = 12 ∧ (normalized.take 4).all Char.isAlpha

instance (normalized : List Char) : Decidable (hasAsciiVendor normalized) :=
  inferInstanceAs (Decidable (_ ∧ _))

def vendorHex (vendor : List Char) : List Char := Hex.encode (vendor.map Char.toNat)

/-- The values that are offered as candidates, in their order. -/
def offered (serial : List Char) : List (List Char) :=
  let normalized := normalize serial
  [serial, normalized]
    ++ (if hasAsciiVendor normalized then
        [normalized.take 4 ++ '-' :: normalized.drop 4,
          vendorHex (normalized.take 4) ++ normalized.drop 4]
      else [])
    ++ match vendorAscii normalized with
      | some vendor => [vendor ++ normalized.drop 8, vendor ++ '-' :: normalized.drop 8]
      | none => []

/-- `add`: a value becomes a candidate when it is not blank and none already. -/
def add (candidates : List (List Char)) (value : List Char) : List (List Char) :=
  if stripChars value ≠ [] ∧ stripChars value ∉ candidates then candidates ++ [stripChars value]
  else candidates

/-- The spellings a serial number is searched by. -/
def searchCandidates (serialNumber : List Char) : List (List Char) :=
  if stripChars serialNumber = [] then [] else (offered (stripChars serialNumber)).foldl add []

/-- The characters that the database strips. -/
def sqlTokens : List Char := ['-', ' ', ':', '.', '_', '/']

/-- The form that the database compares. -/
def normalizedSerialSql (column : List Char) : List Char :=
  sqlTokens.foldl (fun expr token => expr.filter (· ≠ token)) (column.map Char.toUpper)

variable {s l : List Char} {c : Char}

lemma forall_ascii {P : Char → Prop} (h : ∀ n < 128, P (Char.ofNat n)) (hc : c.toNat < 128) :
    P c := by
  rw [← Char.ofNat_toNat c]
  exact h c.toNat hc

lemma toNat_lt_of_isAlphanum (h : c.isAlphanum) : c.toNat < 128 := by
  delta Char.isAlphanum Char.isAlpha Char.isUpper Char.isLower Char.isDigit at h
  simp only [Bool.or_eq_true, decide_eq_true_eq, Bool.and_eq_true, ge_iff_le,
    UInt32.le_iff_toNat_le] at h
  have hc : c.val.toNat = c.toNat := rfl
  have hZ : ('Z'.val).toNat = 90 := rfl
  have hz : ('z'.val).toNat = 122 := rfl
  have h9 : ('9'.val).toNat = 57 := rfl
  omega

/-- What the forms use of a letter or a digit. -/
structure Plain (c : Char) : Prop where
  raised : c.toUpper.isAlphanum = true
  notSpace : isSpace c = false
  noToken : c.toUpper ∉ sqlTokens

instance (c : Char) : Decidable (Plain c) :=
  decidable_of_iff (c.toUpper.isAlphanum = true ∧ isSpace c = false ∧ c.toUpper ∉ sqlTokens)
    ⟨fun ⟨h₁, h₂, h₃⟩ => ⟨h₁, h₂, h₃⟩, fun ⟨h₁, h₂, h₃⟩ => ⟨h₁, h₂, h₃⟩⟩

lemma plain_of_isAlphanum (h : c.isAlphanum) : Plain c := by
  refine forall_ascii (P := fun c => c.isAlphanum → Plain c) ?_ (toNat_lt_of_isAlphanum h) h
  decide +kernel

/-! ## Normal forms -/

def Normal (l : List Char) : Prop := ∀ c ∈ l, c.isAlphanum = true ∧ c.toUpper = c

lemma normal_normalize (value : List Char) : Normal (normalize value) := by
  intro c hc
  obtain ⟨d, hd, rfl⟩ := List.mem_map.mp hc
  exact ⟨(plain_of_isAlphanum (List.mem_filter.mp hd).2).raised, toUpper_toUpper d⟩

lemma Normal.normalize_eq (h : Normal l) : normalize l = l := by
  rw [normalize, List.filter_eq_self.mpr fun c hc => (h c hc).1]
  conv_rhs => rw [← List.map_id l]
  exact List.map_congr_left fun c hc => (h c hc).2

lemma Normal.of_subset {l m : List Char} (h : Normal l) (hsub : m ⊆ l) : Normal m :=
  fun c hc => h c (hsub hc)

lemma normalize_append (l m : List Char) : normalize (l ++ m) = normalize l ++ normalize m := by
  rw [normalize, List.filter_append, List.map_append]
  rfl

lemma normalize_cons_of_not (h : c.isAlphanum = false) (l : List Char) :
    normalize (c :: l) = normalize l := by
  rw [normalize, List.filter_cons_of_neg (by rw [h]; decide), normalize]

lemma normalize_cons_of (h : c.isAlphanum = true) (l : List Char) :
    normalize (c :: l) = c.toUpper :: normalize l := by
  rw [normalize, List.filter_cons_of_pos h, List.map_cons, normalize]

lemma isAlphanum_of_isAlpha (h : c.isAlpha = true) : c.isAlphanum = true := by
  delta Char.isAlphanum
  rw [h, Bool.true_or]

lemma normalize_of_all_isAlpha (h : l.all Char.isAlpha = true) :
    normalize l = l.map Char.toUpper := by
  rw [normalize, List.filter_eq_self.mpr fun c hc =>
    isAlphanum_of_isAlpha (List.all_eq_true.mp h c hc)]

/-- White space is dropped by normalizing anyway. -/
lemma normalize_stripChars (value : List Char) : normalize (stripChars value) = normalize value := by
  have hfront (l : List Char) : (l.takeWhile isSpace).filter Char.isAlphanum = [] := by
    refine List.filter_eq_nil_iff.mpr fun c hc halnum => ?_
    have hspace := List.mem_takeWhile_imp hc
    rw [(plain_of_isAlphanum halnum).notSpace] at hspace
    exact Bool.false_ne_true hspace
  have hdrop (l : List Char) : (l.dropWhile isSpace).filter Char.isAlphanum
      = l.filter Char.isAlphanum := by
    conv_rhs => rw [← List.takeWhile_append_dropWhile (p := isSpace) (l := l), List.filter_append,
      hfront, List.nil_append]
  rw [normalize, stripChars, List.filter_reverse, hdrop, List.filter_reverse, List.reverse_reverse,
    hdrop, normalize]

lemma stripChars_eq_self (h : ∀ c ∈ l, isSpace c = false) : stripChars l = l := by
  have hdrop {m : List Char} (hm : ∀ c ∈ m, isSpace c = false) : m.dropWhile isSpace = m := by
    cases m with
    | nil => rfl
    | cons c m => rw [List.dropWhile_cons_of_neg (by rw [hm c List.mem_cons_self]; decide)]
  rw [stripChars, hdrop h, hdrop fun c hc => h c (List.mem_reverse.mp hc), List.reverse_reverse]

lemma Normal.stripChars_eq (h : Normal l) : stripChars l = l :=
  stripChars_eq_self fun c hc => (plain_of_isAlphanum (h c hc).1).notSpace

lemma canonical_congr {s t : List Char} (h : normalize s = normalize t) :
    canonical s = canonical t := by
  rw [canonical, canonical, h]

lemma canonical_stripChars (value : List Char) : canonical (stripChars value) = canonical value :=
  canonical_congr (normalize_stripChars value)

/-! ## Vendor prefixes -/

/-- A hexadecimal vendor prefix and the digits after it. -/
structure HexVendor (normalized vendor : List Char) : Prop where
  length : normalized.length = 16
  vendorLength : vendor.length = 4
  letters : vendor.all Char.isAlpha = true
  digits : ∀ c ∈ normalized.drop 8, Hex.isDigit c = true

lemma hexVendor_of_eq_some {normalized vendor : List Char}
    (h : vendorAscii normalized = some vendor) : HexVendor normalized vendor := by
  rw [vendorAscii] at h
  split_ifs at h with hhex
  obtain ⟨hlength, hdigits⟩ := hhex
  obtain ⟨hdecode, hletters⟩ := Option.filter_eq_some_iff.mp h
  rw [decodeAscii] at hdecode
  split_ifs at hdecode
  refine ⟨hlength, ?_, hletters, fun c hc => ?_⟩
  · rw [← Option.some.inj hdecode, List.length_map, Hex.length_decode, List.length_take, hlength]
    rfl
  · exact List.all_eq_true.mp hdigits c (List.mem_of_mem_drop hc)

lemma vendorAscii_of_length {normalized : List Char} (h : normalized.length ≠ 16) :
    vendorAscii normalized = none := if_neg fun hhex => h hhex.1

/-- A decoded vendor prefix, however it is spelled, is raised with its serial. -/
lemma canonical_vendor {normalized vendor : List Char} (hnormal : Normal normalized)
    (h : HexVendor normalized vendor) :
    canonical (vendor ++ normalized.drop 8) = vendor.map Char.toUpper ++ normalized.drop 8 := by
  have hnormalize : normalize (vendor ++ normalized.drop 8)
      = vendor.map Char.toUpper ++ normalized.drop 8 := by
    rw [normalize_append, normalize_of_all_isAlpha h.letters,
      (hnormal.of_subset (List.drop_subset 8 normalized)).normalize_eq]
  rw [canonical, hnormalize, vendorAscii_of_length]
  rw [List.length_append, List.length_map, h.vendorLength, List.length_drop, h.length]
  decide

lemma canonical_dash (l m : List Char) : canonical (l ++ '-' :: m) = canonical (l ++ m) := by
  refine canonical_congr ?_
  rw [normalize_append, normalize_cons_of_not rfl, ← normalize_append]

lemma toNat_lt_of_isAlpha (h : c.isAlpha = true) : c.toNat < 128 :=
  toNat_lt_of_isAlphanum (isAlphanum_of_isAlpha h)

/-- A prefix in hexadecimal decodes to the prefix, when only digits follow. -/
lemma vendorAscii_vendorHex {vendor tail : List Char} (hletters : vendor.all Char.isAlpha = true)
    (hvendor : vendor.length = 4) (htail : tail.length = 8) :
    vendorAscii (vendorHex vendor ++ tail) = if tail.all Hex.isDigit then some vendor else none := by
  have hcode (c : Char) (hc : c ∈ vendor) : c.toNat < 128 :=
    toNat_lt_of_isAlpha (List.all_eq_true.mp hletters c hc)
  have hcodes : ∀ b ∈ vendor.map Char.toNat, b < 128 := by
    intro b hb
    obtain ⟨c, hc, rfl⟩ := List.mem_map.mp hb
    exact hcode c hc
  have hbytes : ∀ b ∈ vendor.map Char.toNat, b < 256 := fun b hb => (hcodes b hb).trans (by decide)
  have hlength : (vendorHex vendor).length = 8 := by
    rw [vendorHex, Hex.length_encode, List.length_map, hvendor]
  have hhex : (vendorHex vendor).all Hex.isDigit = true :=
    List.all_eq_true.mpr fun c hc => Hex.isDigit_of_mem_encode hbytes hc
  have hdecode : decodeAscii (Hex.decode (vendorHex vendor)) = some vendor := by
    rw [vendorHex, Hex.decode_encode hbytes, decodeAscii, if_pos hcodes, List.map_map]
    refine congrArg some ((List.map_congr_left fun c _ => Char.ofNat_toNat c).trans (List.map_id _))
  rw [vendorAscii, List.length_append, hlength, htail, List.all_append, hhex, Bool.true_and,
    List.take_left' hlength, hdecode, Option.filter_some, if_pos hletters]
  simp only [true_and]

lemma isAlphanum_of_isDigit (h : Hex.isDigit c = true) : c.isAlphanum = true ∧ c.toUpper = c := by
  refine forall_ascii (P := fun c => Hex.isDigit c = true → c.isAlphanum = true ∧ c.toUpper = c) ?_
    ?_ h
  · decide +kernel
  · rw [Hex.isDigit] at h
    simp only [Bool.or_eq_true, Bool.and_eq_true, decide_eq_true_eq, Char.le_def,
      UInt32.le_iff_toNat_le] at h
    have hc : c.val.toNat = c.toNat := rfl
    have hF : ('F'.val).toNat = 70 := rfl
    have h9 : ('9'.val).toNat = 57 := rfl
    omega

/-- The serial with its prefix in hexadecimal is the serial, when only digits follow the prefix. -/
lemma canonical_vendorHex {normalized : List Char} (hnormal : Normal normalized)
    (h : hasAsciiVendor normalized) :
    canonical (vendorHex (normalized.take 4) ++ normalized.drop 4) =
      if (normalized.drop 4).all Hex.isDigit then normalized
      else vendorHex (normalized.take 4) ++ normalized.drop 4 := by
  obtain ⟨hlength, hletters⟩ := h
  have hcodes : ∀ b ∈ (normalized.take 4).map Char.toNat, b < 256 := by
    intro b hb
    obtain ⟨c, hc, rfl⟩ := List.mem_map.mp hb
    exact (toNat_lt_of_isAlpha (List.all_eq_true.mp hletters c hc)).trans (by decide)
  have hnormalize : normalize (vendorHex (normalized.take 4) ++ normalized.drop 4)
      = vendorHex (normalized.take 4) ++ normalized.drop 4 := by
    refine Normal.normalize_eq fun c hc => ?_
    rcases List.mem_append.mp hc with hc | hc
    · exact isAlphanum_of_isDigit (Hex.isDigit_of_mem_encode hcodes hc)
    · exact hnormal c (List.mem_of_mem_drop hc)
  have hvendor : (normalized.take 4).length = 4 := by
    rw [List.length_take, hlength]
    rfl
  have hwidth : (vendorHex (normalized.take 4)).length = 8 := by
    rw [vendorHex, Hex.length_encode, List.length_map, hvendor]
  rw [canonical, hnormalize, vendorAscii_vendorHex hletters hvendor
    (by rw [List.length_drop, hlength])]
  split_ifs with htail
  · rw [List.drop_left' hwidth]
    exact List.take_append_drop 4 normalized
  · rfl

lemma mem_foldl_add {c : List Char} (values : List (List Char)) : ∀ candidates : List (List Char),
    c ∈ values.foldl add candidates
      ↔ c ∈ candidates ∨ c ≠ [] ∧ ∃ v ∈ values, stripChars v = c := by
  induction values with
  | nil => simp
  | cons v values ih =>
    intro candidates
    have hadd : c ∈ add candidates v ↔ c ∈ candidates ∨ c ≠ [] ∧ stripChars v = c := by
      rw [add]
      split_ifs with hnew
      · rw [List.mem_append, List.mem_singleton]
        refine or_congr_right ⟨fun h => ⟨h ▸ hnew.1, h.symm⟩, fun h => h.2.symm⟩
      · refine ⟨.inl, ?_⟩
        rintro (h | ⟨hne, rfl⟩)
        · exact h
        · by_contra hmem
          exact hnew ⟨hne, hmem⟩
    rw [List.foldl_cons, ih, hadd, or_assoc]
    simp only [List.mem_cons, exists_eq_or_imp, ← and_or_left]

lemma mem_searchCandidates {s c : List Char} : c ∈ searchCandidates s ↔
    stripChars s ≠ [] ∧ c ≠ [] ∧ ∃ v ∈ offered (stripChars s), stripChars v = c := by
  rw [searchCandidates]
  split_ifs with hblank
  · exact ⟨fun h => absurd h List.not_mem_nil, fun h => absurd hblank h.1⟩
  · rw [mem_foldl_add]
    exact ⟨fun h => ⟨hblank, h.resolve_left List.not_mem_nil⟩, fun h => .inr h.2⟩

/-- The spellings of a serial that are offered. -/
inductive Offered (serial : List Char) : List Char → Prop
  | serial : Offered serial serial
  | normalized : Offered serial (normalize serial)
  | dashed (h : hasAsciiVendor (normalize serial)) :
      Offered serial ((normalize serial).take 4 ++ '-' :: (normalize serial).drop 4)
  | encoded (h : hasAsciiVendor (normalize serial)) :
      Offered serial (vendorHex ((normalize serial).take 4) ++ (normalize serial).drop 4)
  | decoded {vendor : List Char} (h : vendorAscii (normalize serial) = some vendor) :
      Offered serial (vendor ++ (normalize serial).drop 8)
  | decodedDashed {vendor : List Char} (h : vendorAscii (normalize serial) = some vendor) :
      Offered serial (vendor ++ '-' :: (normalize serial).drop 8)

lemma mem_offered {serial v : List Char} : v ∈ offered serial ↔ Offered serial v := by
  rw [offered, List.mem_append, List.mem_append]
  constructor
  · rintro ((h | h) | h)
    · rcases List.mem_pair.mp h with rfl | rfl
      · exact .serial
      · exact .normalized
    · split_ifs at h with hvendor
      · rcases List.mem_pair.mp h with rfl | rfl
        · exact .dashed hvendor
        · exact .encoded hvendor
      · exact absurd h List.not_mem_nil
    · split at h
      · rename_i vendor hvendor
        rcases List.mem_pair.mp h with rfl | rfl
        · exact .decoded hvendor
        · exact .decodedDashed hvendor
      · exact absurd h List.not_mem_nil
  · rintro (_ | _ | h | h | h | h)
    · exact .inl (.inl List.mem_cons_self)
    · exact .inl (.inl (List.mem_cons_of_mem _ List.mem_cons_self))
    · rw [if_pos h]
      exact .inl (.inr List.mem_cons_self)
    · rw [if_pos h]
      exact .inl (.inr (List.mem_cons_of_mem _ List.mem_cons_self))
    · simp only [h]
      exact .inr List.mem_cons_self
    · simp only [h]
      exact .inr (List.mem_cons_of_mem _ List.mem_cons_self)

/-- The same serial with letters of another case and other separators. -/
inductive Respelled : List Char → List Char → Prop
  | nil : Respelled [] []
  | same (c : Char) {s t : List Char} (h : Respelled s t) : Respelled (c :: s) (c :: t)
  | recased {c d : Char} (hc : c.isAlpha = true) (hd : d.isAlpha = true)
      (hcase : c.toUpper = d.toUpper) {s t : List Char} (h : Respelled s t) :
      Respelled (c :: s) (d :: t)
  | added {c : Char} (hc : c.isAlphanum = false) {s t : List Char} (h : Respelled s t) :
      Respelled s (c :: t)
  | removed {c : Char} (hc : c.isAlphanum = false) {s t : List Char} (h : Respelled s t) :
      Respelled (c :: s) t

lemma Respelled.normalize_eq {s t : List Char} (h : Respelled s t) : normalize s = normalize t := by
  induction h with
  | nil => rfl
  | same c _ ih =>
    cases hc : c.isAlphanum with
    | true => rw [normalize_cons_of hc, normalize_cons_of hc, ih]
    | false => rw [normalize_cons_of_not hc, normalize_cons_of_not hc, ih]
  | recased hc hd hcase _ ih =>
    rw [normalize_cons_of (isAlphanum_of_isAlpha hc), normalize_cons_of (isAlphanum_of_isAlpha hd),
      hcase, ih]
  | added hc _ ih => rw [normalize_cons_of_not hc, ih]
  | removed hc _ ih => rw [normalize_cons_of_not hc, ih]

/-- A serial of letters, digits and the separators that the database strips. -/
def SqlPlain (s : List Char) : Prop := ∀ c ∈ s, c.isAlphanum = true ∨ c ∈ sqlTokens

lemma foldl_filter_ne (tokens : List Char) : ∀ l : List Char,
    tokens.foldl (fun expr token => expr.filter (· ≠ token)) l = l.filter (· ∉ tokens) := by
  induction tokens with
  | nil => simp
  | cons token tokens ih =>
    intro l
    rw [List.foldl_cons, ih, List.filter_filter]
    refine List.filter_congr fun c _ => ?_
    simp only [List.mem_cons, not_or, Bool.decide_and, Bool.and_comm]

lemma toUpper_mem_sqlTokens (h : c ∈ sqlTokens) : c.toUpper ∈ sqlTokens ∧ c.isAlphanum = false := by
  simp only [sqlTokens, List.mem_cons, List.not_mem_nil, or_false] at h
  rcases h with rfl | rfl | rfl | rfl | rfl | rfl <;> decide

/-- **The database compares the normal forms** of serials with its own separators. -/
theorem normalizedSerialSql_eq (h : SqlPlain s) : normalizedSerialSql s = normalize s := by
  rw [normalizedSerialSql, foldl_filter_ne, List.filter_map, normalize]
  refine congrArg (List.map Char.toUpper) (List.filter_congr fun c hc => ?_)
  rcases h c hc with halnum | htoken
  · rw [halnum]
    exact decide_eq_true (plain_of_isAlphanum halnum).noToken
  · obtain ⟨hmem, halnum⟩ := toUpper_mem_sqlTokens htoken
    rw [halnum]
    exact decide_eq_false (not_not_intro hmem)

/-- One notion of a serial: the canonical form is a normal form of the spellings of `s`, its
candidates are spellings of it, and the database equates what `normalize` does. -/
structure OneEquivalence (s : List Char) : Prop where
  idempotent : canonical (canonical s) = canonical s
  respelled : ∀ t, Respelled s t → canonical t = canonical s
  closed : ∀ c ∈ searchCandidates s, canonical c = canonical s
  included : s ≠ [] → canonical s ∈ searchCandidates s
  sql : ∀ t, SqlPlain s → SqlPlain t →
    (normalizedSerialSql s = normalizedSerialSql t ↔ normalize s = normalize t)

/-- What the code takes for granted of a serial: letters or digits, a vendor prefix in capitals, and
hexadecimal digits after it. -/
structure Regular (s : List Char) : Prop where
  named : normalize s = [] → s = []
  capital : ∀ vendor, vendorAscii (normalize s) = some vendor → ∀ c ∈ vendor, c.isUpper = true
  hexTail : hasAsciiVendor (normalize s) → ∀ c ∈ (normalize s).drop 4, Hex.isDigit c = true

lemma toUpper_eq_self_iff (h : c.isAlpha = true) : c.toUpper = c ↔ c.isUpper = true := by
  refine forall_ascii (P := fun c => c.isAlpha = true → (c.toUpper = c ↔ c.isUpper = true)) ?_
    (toNat_lt_of_isAlpha h) h
  decide +kernel

lemma map_toUpper_eq_self_iff (h : l.all Char.isAlpha = true) :
    l.map Char.toUpper = l ↔ ∀ c ∈ l, c.isUpper = true := by
  conv_lhs => rhs; rw [← List.map_id l]
  rw [List.map_inj_left]
  exact forall₂_congr fun c hc => toUpper_eq_self_iff (List.all_eq_true.mp h c hc)

lemma canonical_of_some {s vendor : List Char} (h : vendorAscii (normalize s) = some vendor) :
    canonical s = vendor ++ (normalize s).drop 8 := by
  simp only [canonical, h]

lemma canonical_of_none (h : vendorAscii (normalize s) = none) : canonical s = normalize s := by
  simp only [canonical, h]

/-- The canonical form of a decoded serial is one of the canonical form when its prefix is in
capitals. -/
lemma canonical_decoded_iff {s vendor : List Char} (h : vendorAscii (normalize s) = some vendor) :
    canonical (vendor ++ (normalize s).drop 8) = canonical s ↔ ∀ c ∈ vendor, c.isUpper = true := by
  have hvendor := hexVendor_of_eq_some h
  rw [canonical_vendor (normal_normalize s) hvendor, canonical_of_some h, List.append_left_inj,
    map_toUpper_eq_self_iff hvendor.letters]

lemma canonical_encoded_iff (h : hasAsciiVendor (normalize s)) :
    canonical (vendorHex ((normalize s).take 4) ++ (normalize s).drop 4) = canonical s
      ↔ ∀ c ∈ (normalize s).drop 4, Hex.isDigit c = true := by
  have hnone : vendorAscii (normalize s) = none := by
    refine vendorAscii_of_length ?_
    rw [h.1]
    decide
  rw [canonical_vendorHex (normal_normalize s) h, canonical_of_none hnone, ← List.all_eq_true]
  split_ifs with htail
  · exact iff_of_true rfl htail
  · refine iff_of_false (fun heq => ?_) htail
    have hlength := congrArg List.length heq
    rw [List.length_append, vendorHex, Hex.length_encode, List.length_map, List.length_take,
      List.length_drop, h.1] at hlength
    exact absurd hlength (by decide)

lemma mem_searchCandidates_of_offered {s v : List Char} (hv : Offered (stripChars s) v)
    (hne : normalize v ≠ []) (hs : normalize s ≠ []) : stripChars v ∈ searchCandidates s := by
  have hstrip {l : List Char} (h : normalize l ≠ []) : stripChars l ≠ [] := by
    intro hnil
    rw [← normalize_stripChars, hnil] at h
    exact h rfl
  exact mem_searchCandidates.mpr ⟨hstrip hs, hstrip hne, v, mem_offered.mpr hv, rfl⟩

lemma canonical_normalize (s : List Char) : canonical (normalize s) = canonical s :=
  canonical_congr (normal_normalize s).normalize_eq

lemma Regular.canonical_offered {s v : List Char} (h : Regular s) (hv : Offered s v) :
    canonical v = canonical s := by
  cases hv with
  | serial => rfl
  | normalized => exact canonical_normalize s
  | dashed _ => rw [canonical_dash, List.take_append_drop, canonical_normalize]
  | encoded hvendor => exact (canonical_encoded_iff hvendor).mpr (h.hexTail hvendor)
  | decoded hvendor => exact (canonical_decoded_iff hvendor).mpr (h.capital _ hvendor)
  | decodedDashed hvendor =>
    rw [canonical_dash]
    exact (canonical_decoded_iff hvendor).mpr (h.capital _ hvendor)

lemma Regular.stripChars (h : Regular s) (hs : normalize s ≠ []) : Regular (stripChars s) := by
  constructor
  · intro hnil
    rw [normalize_stripChars] at hnil
    exact absurd hnil hs
  · rw [normalize_stripChars]
    exact h.capital
  · rw [normalize_stripChars]
    exact h.hexTail

lemma Regular.closed (h : Regular s) {c : List Char} (hc : c ∈ searchCandidates s) :
    canonical c = canonical s := by
  obtain ⟨hblank, -, v, hv, rfl⟩ := mem_searchCandidates.mp hc
  have hs : normalize s ≠ [] := by
    intro hnil
    rw [h.named hnil] at hblank
    exact hblank rfl
  rw [canonical_stripChars, (h.stripChars hs).canonical_offered (mem_offered.mp hv),
    canonical_stripChars]

lemma canonical_mem_searchCandidates (hs : normalize s ≠ []) :
    canonical s ∈ searchCandidates s := by
  have hnormalize := normalize_stripChars s
  cases hvendor : vendorAscii (normalize s) with
  | none =>
    have hmem := mem_searchCandidates_of_offered (Offered.normalized : Offered (stripChars s) _)
      (by rwa [hnormalize, (normal_normalize s).normalize_eq]) hs
    rwa [hnormalize, (normal_normalize s).stripChars_eq, ← canonical_of_none hvendor] at hmem
  | some vendor =>
    have hhex := hexVendor_of_eq_some hvendor
    have hspaces : ∀ c ∈ vendor ++ (normalize s).drop 8, isSpace c = false := by
      intro c hc
      rcases List.mem_append.mp hc with hc | hc
      · exact isSpace_of_isAlpha (List.all_eq_true.mp hhex.letters c hc)
      · exact (plain_of_isAlphanum (normal_normalize s c (List.mem_of_mem_drop hc)).1).notSpace
    have hne : normalize (vendor ++ (normalize s).drop 8) ≠ [] := by
      rw [normalize_append, normalize_of_all_isAlpha hhex.letters]
      refine List.append_ne_nil_of_left_ne_nil (fun hnil => ?_) _
      rw [List.map_eq_nil_iff.mp hnil] at hhex
      exact absurd hhex.vendorLength (by decide)
    have hmem := mem_searchCandidates_of_offered (v := vendor ++ (normalize s).drop 8)
      (hnormalize ▸ .decoded (hnormalize.symm ▸ hvendor)) hne hs
    rwa [stripChars_eq_self hspaces, ← canonical_of_some hvendor] at hmem

/-- One equivalence takes the regular form for granted. -/
lemma OneEquivalence.regular (h : OneEquivalence s) : Regular s := by
  have hnamed : normalize s = [] → s = [] := by
    intro hnil
    by_contra hs
    have hmem := h.included hs
    rw [canonical_of_none (by rw [hnil]; rfl), hnil] at hmem
    exact (mem_searchCandidates.mp hmem).2.1 rfl
  refine ⟨hnamed, fun vendor hvendor => ?_, fun hvendor => ?_⟩
  · refine (canonical_decoded_iff hvendor).mp ?_
    rw [← canonical_of_some hvendor]
    exact h.idempotent
  · refine (canonical_encoded_iff hvendor).mp ?_
    have htail : (normalize s).drop 4 ≠ [] := by
      intro hnil
      have hlength := congrArg List.length hnil
      rw [List.length_drop, hvendor.1] at hlength
      exact absurd hlength (by decide)
    have hne : normalize (vendorHex ((normalize s).take 4) ++ (normalize s).drop 4) ≠ [] := by
      rw [normalize_append,
        ((normal_normalize s).of_subset (List.drop_subset 4 _)).normalize_eq]
      exact List.append_ne_nil_of_right_ne_nil _ htail
    have hs : normalize s ≠ [] := fun hnil => htail (by rw [hnil]; rfl)
    have hmem := mem_searchCandidates_of_offered
      (v := vendorHex ((normalize s).take 4) ++ (normalize s).drop 4)
      (normalize_stripChars s ▸ .encoded ((normalize_stripChars s).symm ▸ hvendor)) hne hs
    have hclosed := h.closed _ hmem
    rwa [canonical_stripChars] at hclosed

lemma Regular.oneEquivalence (h : Regular s) : OneEquivalence s := by
  refine ⟨?_, fun t ht => (canonical_congr ht.normalize_eq).symm, fun c hc => h.closed hc,
    fun hs => canonical_mem_searchCandidates fun hnil => hs (h.named hnil), fun t hs ht => ?_⟩
  · cases hvendor : vendorAscii (normalize s) with
    | none => rw [canonical_of_none hvendor, canonical_normalize, canonical_of_none hvendor]
    | some vendor =>
      nth_rewrite 1 [canonical_of_some hvendor]
      exact (canonical_decoded_iff hvendor).mpr (h.capital vendor hvendor)
  · rw [normalizedSerialSql_eq hs, normalizedSerialSql_eq ht]

/-- **The forms are one equivalence** exactly for the serials that the code takes for granted. -/
theorem oneEquivalence_iff (s : List Char) : OneEquivalence s ↔ Regular s :=
  ⟨OneEquivalence.regular, Regular.oneEquivalence⟩

/-- **A capital prefix with letters behind it**: a candidate of the serial is another serial. -/
theorem lettered_tail_not_closed :
    ¬OneEquivalence ['H', 'W', 'T', 'C', 'Z', 'Z', 'Z', 'Z', 'Z', 'Z', 'Z', 'Z'] := by
  intro h
  have htail := h.regular.hexTail (by decide) 'Z' (by decide)
  exact absurd htail (by decide)

end SerialNumbers

end DotmacSub
