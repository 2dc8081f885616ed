import Mathlib.Data.List.Basic

/-!
# Hexadecimal text

Bytes as pairs of upper-case hexadecimal digits.

* `Hex.encode`, `Hex.decode` — the digits of a list of bytes, and the bytes of a list of digits.
* `Hex.decode_encode` — decoding undoes encoding.
-/

namespace Hex

/-- The digit of a number below sixteen. -/
def digit (n : ℕ) : Char := if n < 10 then Char.ofNat (48 + n) else Char.ofNat (55 + n)

def isDigit (c : Char) : Bool := ('0' ≤ c && c ≤ '9') || ('A' ≤ c && c ≤ 'F')

def value (c : Char) : ℕ := if c ≤ '9' then c.toNat - 48 else c.toNat - 55

def encode (bytes : List ℕ) : List Char := bytes.flatMap fun b => [digit (b / 16), digit (b % 16)]

def decode : List Char → List ℕ
  | a :: b :: rest => (16 * value a + value b) :: decode rest
  | _ => []

lemma value_digit {n : ℕ} (h : n < 16) : value (digit n) = n := by
  revert n
  decide

lemma isDigit_digit {n : ℕ} (h : n < 16) : isDigit (digit n) = true := by
  revert n
  decide

lemma encode_cons (b : ℕ) (bytes : List ℕ) :
    encode (b :: bytes) = digit (b / 16) :: digit (b % 16) :: encode bytes := rfl

/-- **Decoding undoes encoding.** -/
theorem decode_encode {bytes : List ℕ} (h : ∀ b ∈ bytes, b < 256) :
    decode (encode bytes) = bytes := by
  induction bytes with
  | nil => rfl
  | cons b bytes ih =>
    have hb : b < 256 := h b List.mem_cons_self
    rw [encode_cons, decode, value_digit (by omega), value_digit (by omega),
      ih fun c hc => h c (List.mem_cons_of_mem b hc), Nat.div_add_mod]

lemma length_encode (bytes : List ℕ) : (encode bytes).length = 2 * bytes.length := by
  induction bytes with
  | nil => rfl
  | cons b bytes ih =>
    rw [encode_cons, List.length_cons, List.length_cons, List.length_cons, ih]
    omega

lemma isDigit_of_mem_encode {bytes : List ℕ} (h : ∀ b ∈ bytes, b < 256) {c : Char}
    (hc : c ∈ encode bytes) : isDigit c = true := by
  obtain ⟨b, hb, hc⟩ := List.mem_flatMap.mp hc
  have hlt := h b hb
  rcases List.mem_pair.mp hc with rfl | rfl
  · exact isDigit_digit (by omega)
  · exact isDigit_digit (by omega)

lemma length_decode : ∀ digits : List Char, (decode digits).length = digits.length / 2
  | [] => rfl
  | [_] => by simp [decode]
  | a :: b :: rest => by
    rw [decode, List.length_cons, length_decode rest, List.length_cons, List.length_cons]
    omega

end Hex
