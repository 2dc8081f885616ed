import Mathlib.Data.List.OfFn
import Mathlib.Order.CompletePartialOrder
import Mathlib.Tactic.Ring
import Mathlib.Tactic.Linarith

/-!
# Networks of addresses

A network is an aligned block of addresses: those that share a number of leading bits.  Its subnets
of a longer prefix are blocks that cut it up, in the order of their addresses.
-/

/-- The addresses of `w` bits that share the first `length` bits of `address`. -/
@[ext]
structure Network (w : ℕ) where
  address : ℕ
  length : ℕ
  length_le : length ≤ w
  aligned : 2 ^ (w - length) ∣ address
  address_lt : address < 2 ^ w
deriving DecidableEq

namespace Network

variable {w : ℕ} {m n : Network w} {length cap : ℕ}

def size (n : Network w) : ℕ := 2 ^ (w - n.length)

def span (n : Network w) : Set ℕ := Set.Ico n.address (n.address + n.size)

lemma size_pos : 0 < n.size := Nat.two_pow_pos _

lemma mem_span {a : ℕ} : a ∈ n.span ↔ n.address ≤ a ∧ a < n.address + n.size := Set.mem_Ico

/-- A network ends where an aligned block starts. -/
lemma add_size_le {b : ℕ} (hb : n.size ∣ b) (hlt : n.address < b) : n.address + n.size ≤ b := by
  obtain ⟨i, hi⟩ := n.aligned
  obtain ⟨j, rfl⟩ := hb
  rw [hi, ← size] at hlt ⊢
  have hij : i < j := Nat.lt_of_mul_lt_mul_left hlt
  calc n.size * i + n.size = n.size * (i + 1) := by ring
    _ ≤ n.size * j := Nat.mul_le_mul_left _ hij

lemma address_add_size_le : n.address + n.size ≤ 2 ^ w :=
  add_size_le (pow_dvd_pow 2 (Nat.sub_le w n.length)) n.address_lt

/-- **Networks of one length are equal or share no address.** -/
theorem disjoint_span (hlength : m.length = n.length) (hne : m.address ≠ n.address) :
    Disjoint m.span n.span := by
  have hsize : m.size = n.size := by rw [size, size, hlength]
  refine Set.disjoint_left.mpr fun a hm hn => ?_
  rw [mem_span] at hm hn
  rcases Nat.lt_or_gt_of_ne hne with hlt | hlt
  · have := add_size_le (n := m) (hsize ▸ n.aligned) hlt
    omega
  · have := add_size_le (n := n) (hsize ▸ m.aligned) hlt
    omega

/-- One network lies in another if it starts and ends there. -/
lemma span_subset_iff :
    m.span ⊆ n.span ↔ n.address ≤ m.address ∧ m.address + m.size ≤ n.address + n.size := by
  have hpos : 0 < m.size := size_pos
  constructor
  · intro h
    have hfirst := mem_span.mp (h (mem_span.mpr ⟨le_rfl, Nat.lt_add_of_pos_right hpos⟩))
    have hlast : m.address + m.size - 1 ∈ m.span := mem_span.mpr ⟨by omega, by omega⟩
    have := mem_span.mp (h hlast)
    omega
  · rintro ⟨hstart, hend⟩ a ha
    rw [mem_span] at ha ⊢
    omega

lemma size_eq (hn : n.length ≤ length) (hw : length ≤ w) :
    n.size = 2 ^ (length - n.length) * 2 ^ (w - length) := by
  rw [size, ← pow_add]
  congr 1
  omega

/-- The block number `k` of a network cut into networks of a length. -/
def subnet (n : Network w) (length : ℕ) (hn : n.length ≤ length) (hw : length ≤ w)
    (k : Fin (2 ^ (length - n.length))) : Network w where
  address := n.address + k * 2 ^ (w - length)
  length := length
  length_le := hw
  aligned := by
    refine Nat.dvd_add ((pow_dvd_pow 2 ?_).trans n.aligned) (Dvd.intro_left _ rfl)
    omega
  address_lt := by
    refine lt_of_lt_of_le ?_ n.address_add_size_le
    rw [size_eq hn hw]
    exact Nat.add_lt_add_left (Nat.mul_lt_mul_of_pos_right k.isLt (Nat.two_pow_pos _)) _

lemma span_subnet_subset {hn : n.length ≤ length} {hw : length ≤ w}
    {k : Fin (2 ^ (length - n.length))} : (n.subnet length hn hw k).span ⊆ n.span := by
  refine span_subset_iff.mpr ⟨Nat.le_add_right _ _, ?_⟩
  calc n.address + k * 2 ^ (w - length) + 2 ^ (w - length)
      = n.address + (k + 1) * 2 ^ (w - length) := by ring
    _ ≤ n.address + 2 ^ (length - n.length) * 2 ^ (w - length) := by
        gcongr
        exact k.isLt
    _ = n.address + n.size := by rw [size_eq hn hw]

/-- The first subnets of a length, at most `cap` of them; there are none of a shorter length. -/
def subnets (n : Network w) (length cap : ℕ) : List (Network w) :=
  if h : n.length ≤ length ∧ length ≤ w then
    List.ofFn fun k : Fin (min cap (2 ^ (length - n.length))) =>
      n.subnet length h.1 h.2 (k.castLE (Nat.min_le_right _ _))
  else []

lemma mem_subnets_iff_exists : m ∈ n.subnets length cap ↔ n.length ≤ length ∧ m.length = length ∧
    ∃ k < min cap (2 ^ (length - n.length)), m.address = n.address + k * 2 ^ (w - length) := by
  constructor
  · intro hm
    rw [subnets] at hm
    split_ifs at hm with h
    · obtain ⟨k, rfl⟩ := List.mem_ofFn.mp hm
      exact ⟨h.1, rfl, k, k.isLt, rfl⟩
    · exact absurd hm List.not_mem_nil
  · rintro ⟨hn, rfl, k, hk, haddress⟩
    rw [subnets, dif_pos ⟨hn, m.length_le⟩]
    exact List.mem_ofFn.mpr ⟨⟨k, hk⟩, Network.ext haddress.symm rfl⟩

/-- The subnets stand in the order of their addresses. -/
lemma pairwise_subnets : (n.subnets length cap).Pairwise (·.address < ·.address) := by
  rw [subnets]
  split_ifs
  · refine List.pairwise_ofFn.mpr fun i j hij => Nat.add_lt_add_left ?_ _
    exact Nat.mul_lt_mul_of_pos_right hij (Nat.two_pow_pos _)
  · exact .nil

/-- A network inside another has the longer prefix. -/
lemma length_le_of_span_subset (h : m.span ⊆ n.span) : n.length ≤ m.length := by
  have hsize : m.size ≤ n.size := by
    have := span_subset_iff.mp h
    omega
  have hle := (Nat.pow_le_pow_iff_right Nat.one_lt_two).mp hsize
  have := n.length_le
  have := m.length_le
  omega

/-- **The first subnets of a length are the networks of that length inside**, up to the cap. -/
theorem mem_subnets : m ∈ n.subnets length cap ↔
    m.length = length ∧ m.span ⊆ n.span ∧ m.address < n.address + cap * m.size := by
  rw [mem_subnets_iff_exists]
  constructor
  · rintro ⟨hn, rfl, k, hk, haddress⟩
    have hpos : 0 < m.size := size_pos
    have hcap : k + 1 ≤ cap := lt_of_lt_of_le hk (Nat.min_le_left _ _)
    have hlast : k + 1 ≤ 2 ^ (m.length - n.length) := lt_of_lt_of_le hk (Nat.min_le_right _ _)
    rw [← size] at haddress
    refine ⟨rfl, span_subset_iff.mpr ⟨by omega, ?_⟩, ?_⟩
    · calc m.address + m.size = n.address + (k + 1) * m.size := by rw [haddress]; ring
        _ ≤ n.address + 2 ^ (m.length - n.length) * m.size := by gcongr
        _ = n.address + n.size := by rw [size_eq hn m.length_le, size]
    · calc m.address < n.address + (k + 1) * m.size := by rw [haddress, Nat.succ_mul]; omega
        _ ≤ n.address + cap * m.size := by gcongr
  · rintro ⟨rfl, hspan, hcap⟩
    have hn := length_le_of_span_subset hspan
    obtain ⟨hstart, hend⟩ := span_subset_iff.mp hspan
    have hdvd : m.size ∣ n.address := by
      refine (pow_dvd_pow 2 ?_).trans n.aligned
      omega
    obtain ⟨k, hk⟩ := (Nat.dvd_sub m.aligned hdvd : m.size ∣ m.address - n.address)
    have haddress : m.address = n.address + k * m.size := by
      rw [mul_comm] at hk
      omega
    rw [size_eq hn m.length_le, ← size] at hend
    refine ⟨hn, rfl, k, lt_min ?_ ?_, haddress⟩
    · exact Nat.lt_of_mul_lt_mul_right (a := m.size) (by omega)
    · have hblock : (k + 1) * m.size ≤ 2 ^ (m.length - n.length) * m.size := by
        rw [Nat.succ_mul]
        omega
      exact Nat.le_of_mul_le_mul_right hblock size_pos

end Network
