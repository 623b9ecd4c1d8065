import Mathlib.Algebra.GroupWithZero.Nat
import Allotment.Pool
import Allotment.Proofs.AddressText
/-!
# Usable hosts

What a block expands to, said bit by bit.  Its hosts are the addresses of its family that
have its leading bits, less those of which all free bits are zero and, in the narrow family,
those of which all are one (`Block.IsHost`).  The numbers that are computed for a block tell
them apart (`isHost_iff`), there is always one (`firstHost_le_lastHost`), and so every text
that is a block expands to its hosts (`Pool.cidr_expands_to_hosts`).
-/
namespace Allotment

open Text

/-! ## Bits -/

namespace Address

/-- The bit at a place, counted from the front. -/
def bit : Address → Nat → Bool
  | v4 bits, i => bits.getMsbD i
  | v6 bits, i => bits.getMsbD i

/-- Whether two addresses have the same first `n` bits. -/
def Agrees (n : Nat) (a b : Address) : Prop := ∀ i < n, a.bit i = b.bit i

/-- Whether all bits behind the first `n` are `value`. -/
def Fills (n : Nat) (value : Bool) (a : Address) : Prop :=
  ∀ i, n ≤ i → i < a.family.width → a.bit i = value

theorem bit_eq_testBit (a : Address) {i : Nat} (h : i < a.family.width) :
    a.bit i = a.value.testBit (a.family.width - 1 - i) := by
  cases a with
  | v4 bits =>
    change i < 32 at h
    simp [bit, BitVec.getMsbD, h, value, family, Family.width, BitVec.testBit_toNat]
  | v6 bits =>
    change i < 128 at h
    simp [bit, BitVec.getMsbD, h, value, family, Family.width, BitVec.testBit_toNat]

theorem testBit_value_of_le (a : Address) {j : Nat} (h : a.family.width ≤ j) :
    a.value.testBit j = false := by
  cases a with
  | v4 bits => exact BitVec.getLsbD_of_ge bits j h
  | v6 bits => exact BitVec.getLsbD_of_ge bits j h

variable {a b : Address} {n : Nat}

/-- The first bits are the number without the others. -/
theorem agrees_iff (hf : a.family = b.family) (hn : n ≤ b.family.width) :
    Agrees n a b ↔
      a.value / (1 <<< (b.family.width - n)) = b.value / (1 <<< (b.family.width - n)) := by
  have hw : a.family.width = b.family.width := by rw [hf]
  rw [Nat.one_shiftLeft, ← Nat.shiftRight_eq_div_pow, ← Nat.shiftRight_eq_div_pow]
  constructor
  · intro h
    apply Nat.eq_of_testBit_eq
    intro j
    rw [Nat.testBit_shiftRight, Nat.testBit_shiftRight]
    by_cases hj : j < n
    · have hbit := h (n - 1 - j) (by omega)
      rw [a.bit_eq_testBit (by omega), b.bit_eq_testBit (by omega), hw,
        show b.family.width - 1 - (n - 1 - j) = b.family.width - n + j by omega] at hbit
      exact hbit
    · rw [a.testBit_value_of_le (by omega), b.testBit_value_of_le (by omega)]
  · intro h i hi
    have hbit := congrArg (fun m => m.testBit (n - 1 - i)) h
    simp only [Nat.testBit_shiftRight] at hbit
    rw [a.bit_eq_testBit (by omega), b.bit_eq_testBit (by omega), hw,
      show b.family.width - 1 - i = b.family.width - n + (n - 1 - i) by omega]
    exact hbit

/-- The other bits are what the number leaves. -/
theorem fills_iff (hn : n ≤ a.family.width) (value : Bool) :
    Fills n value a ↔
      a.value % (1 <<< (a.family.width - n)) =
        if value then (1 <<< (a.family.width - n)) - 1 else 0 := by
  have hrest : ∀ j, (if value then 2 ^ (a.family.width - n) - 1 else 0).testBit j =
      (decide (j < a.family.width - n) && value) := by
    intro j
    cases value <;> simp [Nat.testBit_two_pow_sub_one]
  rw [Nat.one_shiftLeft]
  constructor
  · intro h
    apply Nat.eq_of_testBit_eq
    intro j
    rw [Nat.testBit_mod_two_pow, hrest]
    by_cases hj : j < a.family.width - n
    · have hbit := h (a.family.width - 1 - j) (by omega) (by omega)
      rw [a.bit_eq_testBit (by omega),
        show a.family.width - 1 - (a.family.width - 1 - j) = j by omega] at hbit
      rw [hbit]
    · simp [hj]
  · intro h i hi hlt
    have hbit := congrArg (fun m => m.testBit (a.family.width - 1 - i)) h
    simp only [Nat.testBit_mod_two_pow, hrest] at hbit
    have hplace : a.family.width - 1 - i < a.family.width - n := by omega
    rw [a.bit_eq_testBit hlt]
    simpa [hplace] using hbit

end Address

/-! ## Blocks -/

namespace Block

/-- Whether an address is a usable host of the block. -/
def IsHost (b : Block) (x : Address) : Prop :=
  x.family = b.address.family ∧ x.Agrees b.length b.address ∧
  match b.address.family with
  | .v4 => b.length ≤ 30 → ¬x.Fills b.length false ∧ ¬x.Fills b.length true
  | .v6 => b.length ≤ 126 → ¬x.Fills b.length false

/-- How many usable hosts a block has, by its length. -/
def hostCount (b : Block) : Nat :=
  match b.address.family with
  | .v4 => if b.length ≤ 30 then (1 <<< (32 - b.length)) - 2 else 1 <<< (32 - b.length)
  | .v6 => if b.length ≤ 126 then (1 <<< (128 - b.length)) - 1 else 1 <<< (128 - b.length)

variable {b : Block} {x : Address}

theorem size_eq (b : Block) : b.size = 1 <<< (b.address.family.width - b.length) := rfl

theorem size_le (b : Block) : b.size ≤ b.address.family.size := by
  rw [← b.shiftLeft_length_mul_size, Nat.one_shiftLeft]
  exact Nat.le_mul_of_pos_left _ (Nat.two_pow_pos _)

theorem isReserving_iff : b.isReserving = true ↔ 4 ≤ b.size := by
  have hle := b.length_le
  have hfour : 4 ≤ b.size ↔ 2 ≤ b.hostBits := by
    rw [size, Nat.one_shiftLeft, show 4 = 2 ^ 2 from rfl, Nat.pow_le_pow_iff_right (by decide)]
  rw [hfour, isReserving, decide_eq_true_eq, hostBits]
  omega

/-- Whether the block sets its highest address aside besides its lowest. -/
def isReservingLast (b : Block) : Bool := b.isReserving && decide (b.address.family = .v4)

theorem isReserving_iff_of_v4 (hf : b.address.family = .v4) : b.isReserving = true ↔ b.length ≤ 30 := by
  simp [isReserving, hf, Family.width]
  omega

theorem isReserving_iff_of_v6 (hf : b.address.family = .v6) : b.isReserving = true ↔ b.length ≤ 126 := by
  simp [isReserving, hf, Family.width]
  omega

theorem firstHost_eq (b : Block) : b.firstHost = b.network + b.isReserving.toNat := by
  cases hr : b.isReserving <;> simp [firstHost, hr]

theorem lastHost_eq (b : Block) : b.lastHost = b.broadcast - b.isReservingLast.toNat := by
  cases hr : b.isReserving <;> cases hf : b.address.family <;> simp [lastHost, isReservingLast, hr, hf]

theorem reserved_lt_size (b : Block) : b.isReserving.toNat + b.isReservingLast.toNat < b.size := by
  have hpos := b.size_pos
  have hlast := Bool.toNat_le (decide (b.address.family = .v4))
  rw [isReservingLast]
  cases hr : b.isReserving with
  | false => simpa using hpos
  | true =>
    have hfour := isReserving_iff.1 hr
    simp only [Bool.true_and, Bool.toNat_true]
    omega

/-- **A block always has a usable host.** -/
theorem firstHost_le_lastHost (b : Block) : b.firstHost ≤ b.lastHost := by
  have hspan : b.broadcast = b.network + (b.size - 1) := rfl
  have hreserved := b.reserved_lt_size
  rw [firstHost_eq, lastHost_eq]
  omega

theorem hostCount_eq (b : Block) : b.hostCount = b.size - b.isReserving.toNat - b.isReservingLast.toNat := by
  rw [hostCount, isReservingLast, size_eq]
  cases hf : b.address.family with
  | v4 =>
    have hr := isReserving_iff_of_v4 hf
    by_cases hl : b.length ≤ 30 <;> simp [hl] at hr <;> simp [hr, hl, Family.width, Nat.sub_sub]
  | v6 =>
    have hr := isReserving_iff_of_v6 hf
    by_cases hl : b.length ≤ 126 <;> simp [hl] at hr <;> simp [hr, hl, Family.width]

/-! ## Hosts -/

theorem agrees_iff_within (hf : x.family = b.address.family) :
    x.Agrees b.length b.address ↔ b.network ≤ x.value ∧ x.value ≤ b.broadcast := by
  have hpos := b.size_pos
  rw [Address.agrees_iff hf b.length_le, ← size_eq, network, broadcast, network]
  generalize b.address.value / b.size = q
  rw [Nat.div_eq_iff hpos]
  omega

theorem fills_false_iff (hf : x.family = b.address.family) (h : x.Agrees b.length b.address) :
    x.Fills b.length false ↔ x.value = b.network := by
  rw [Address.agrees_iff hf b.length_le, ← size_eq] at h
  have hsplit := Nat.div_add_mod' x.value b.size
  rw [Address.fills_iff (hf ▸ b.length_le), hf, ← size_eq, network, ← h]
  simp only [Bool.false_eq_true, if_false]
  omega

theorem fills_true_iff (hf : x.family = b.address.family) (h : x.Agrees b.length b.address) :
    x.Fills b.length true ↔ x.value = b.broadcast := by
  have hpos := b.size_pos
  rw [Address.agrees_iff hf b.length_le, ← size_eq] at h
  have hsplit := Nat.div_add_mod' x.value b.size
  rw [Address.fills_iff (hf ▸ b.length_le), hf, ← size_eq, broadcast, network, ← h]
  simp only [if_true]
  omega

theorem isHost_iff_of_reserving : b.IsHost x ↔ x.family = b.address.family ∧ x.Agrees b.length b.address ∧
    (b.isReserving = true → ¬x.Fills b.length false) ∧
      (b.isReservingLast = true → ¬x.Fills b.length true) := by
  refine and_congr_right fun _ => and_congr_right fun _ => ?_
  rw [isReservingLast]
  cases hf : b.address.family with
  | v4 =>
    rw [← isReserving_iff_of_v4 hf]
    simp [imp_and]
  | v6 =>
    rw [← isReserving_iff_of_v6 hf]
    simp

/-- **The numbers from the first host to the last are those of the hosts.** -/
theorem isHost_iff : b.IsHost x ↔
    x.family = b.address.family ∧ b.firstHost ≤ x.value ∧ x.value ≤ b.lastHost := by
  rw [isHost_iff_of_reserving, firstHost_eq, lastHost_eq]
  refine and_congr_right fun hf => ?_
  have hreserved := b.reserved_lt_size
  have hspan : b.broadcast = b.network + (b.size - 1) := rfl
  -- outside of the block neither side holds, inside the free bits decide
  by_cases hagrees : x.Agrees b.length b.address
  · obtain ⟨hnetwork, hbroadcast⟩ := (agrees_iff_within hf).1 hagrees
    rw [fills_false_iff hf hagrees, fills_true_iff hf hagrees]
    cases hr : b.isReserving <;> cases hl : b.isReservingLast <;>
      simp [hagrees, hr, hl] at hreserved ⊢ <;> omega
  · have hwithin := mt (agrees_iff_within hf).2 hagrees
    simp only [hagrees, false_and, false_iff]
    omega

theorem lastHost_lt (b : Block) : b.lastHost < b.address.family.size :=
  Nat.lt_of_le_of_lt b.lastHost_le b.broadcast_lt

def hosts (b : Block) : Interval where
  family := b.address.family
  first := b.firstHost
  last := b.lastHost
  first_le_last := b.firstHost_le_lastHost
  last_lt := b.lastHost_lt

theorem hosts?_eq (b : Block) : b.hosts? = some b.hosts := dif_pos b.firstHost_le_lastHost

theorem mem_hosts : x ∈ b.hosts ↔ b.IsHost x := Interval.mem_iff.trans isHost_iff.symm

/-- **The hosts are as many as the length says.** -/
theorem size_hosts (b : Block) : b.hosts.size = b.hostCount := by
  have hspan : b.broadcast = b.network + (b.size - 1) := rfl
  have hreserved := b.reserved_lt_size
  have hcounted : b.size ≤ Family.v6.size - 1 + b.isReserving.toNat := by
    cases hr : b.isReserving with
    | false =>
      have hfew : b.size < 4 := Nat.lt_of_not_le (mt isReserving_iff.2 (by simp [hr]))
      exact Nat.le_trans (Nat.le_of_lt hfew) (by decide)
    | true =>
      have hwidest : b.address.family.size ≤ Family.v6.size := by cases b.address.family <;> decide
      exact Nat.le_trans b.size_le hwidest
  show min (b.lastHost - b.firstHost + 1) (Family.v6.size - 1) = b.hostCount
  rw [firstHost_eq, lastHost_eq, hostCount_eq]
  generalize Family.v6.size = wide at hcounted ⊢
  omega

theorem hosts_congr {b' : Block} (hf : b'.address.family = b.address.family) (hl : b'.length = b.length)
    (h : b'.address.Agrees b.length b.address) : b'.hosts = b.hosts := by
  have hsize : b'.size = b.size := by rw [size_eq, size_eq, hf, hl]
  have hnetwork : b'.network = b.network := by
    rw [Address.agrees_iff hf b.length_le, ← size_eq] at h
    rw [network, network, hsize, h]
  have hreserving : b'.isReserving = b.isReserving := by rw [isReserving, isReserving, hf, hl]
  simp only [hosts, firstHost, lastHost, broadcast, hf, hsize, hnetwork, hreserving]

/-! ## Texts -/

/-- The block as it is written, with all bits of its address. -/
def written (b : Block) : List Char := b.address.chars ++ '/' :: decimal b.length

theorem length_decimal_le (b : Block) : (decimal b.length).length ≤ b.address.family.lengthDigits := by
  have hle := b.length_le
  cases hf : b.address.family with
  | v4 =>
    rw [hf] at hle
    exact (Nat.length_toDigits_le_iff (by decide) (by decide)).2 (Nat.lt_of_le_of_lt hle (by decide))
  | v6 =>
    rw [hf] at hle
    exact (Nat.length_toDigits_le_iff (by decide) (by decide)).2 (Nat.lt_of_le_of_lt hle (by decide))

/-- **A block is read back from its text.** -/
theorem ofChars?_written (b : Block) : ofChars? b.written = some b := by
  have hslash : '/' ∉ b.address.chars := fun h =>
    b.address.forall_mem_chars (P := fun c => c ≠ '/') (by decide) (by decide) (by decide) '/' h rfl
  rw [ofChars?, written, cut?_append hslash]
  simp only [Option.bind_some, Address.ofChars?_chars, b.length_decimal_le, if_true]
  rw [decimal, number?_toDigits (by decide) (by decide)]
  simp only [Option.bind_some, b.length_le, dif_pos]

theorem isBlank_written (b : Block) : ∀ c ∈ b.written, isBlank c = false := by
  intro c hc
  rcases List.mem_append.1 hc with hc | hc
  · exact b.address.isBlank_chars c hc
  · rcases List.mem_cons.1 hc with rfl | hc
    · decide
    · exact (plain_of_mem_toDigits (by decide) (by decide) hc).1

/-- Whether nothing that is computed for the block leaves its word, a byte for the length and an address
for the rest, or falls below zero. -/
structure NoOverflow (b : Block) : Prop where
  length : b.length + 1 < 256
  hostBits : b.length ≤ b.address.family.width
  size : 1 ≤ b.size
  broadcast : b.network + (b.size - 1) < b.address.family.size
  firstHost : b.isReserving = true → b.network + 1 < b.address.family.size
  lastHost : b.isReserving = true → 1 ≤ b.broadcast

theorem noOverflow (b : Block) : b.NoOverflow := by
  have hle := b.length_le
  have hwidth : b.address.family.width ≤ 128 := by cases b.address.family <;> decide
  have hspan : b.broadcast = b.network + (b.size - 1) := rfl
  have hlt := b.broadcast_lt
  have hfour := @isReserving_iff b
  refine ⟨by omega, hle, b.size_pos, hlt, fun hr => ?_, fun hr => ?_⟩
  · have := hfour.1 hr
    omega
  · have := hfour.1 hr
    omega

end Block

/-- **A block expands to exactly its usable hosts.**  Every address and every length up to its family's
width make a block that can be written, with blanks around it.  Whatever text is read as a block expands
to an interval: the addresses in it are the usable hosts, they are as many as the length says, nothing
overflows on the way, and another text of a block that has these leading bits expands to the same
interval. -/
theorem Pool.cidr_expands_to_hosts :
    (∀ (b : Block) (before after : List Char), (∀ c ∈ before, isBlank c = true) →
      (∀ c ∈ after, isBlank c = true) → Block.ofChars? (trim (before ++ b.written ++ after)) = some b) ∧
    ∀ text : String,
      match Block.ofChars? (trim text.toList) with
      | none => (Pool.cidr text).interval = .error (.malformedBlock text)
      | some b => ∃ s, (Pool.cidr text).interval = .ok s ∧
        (∀ x, s.contains x = true ↔ b.IsHost x) ∧ s.size = b.hostCount ∧ b.NoOverflow ∧
        ∀ (text' : String) (b' : Block), Block.ofChars? (trim text'.toList) = some b' →
          b'.address.family = b.address.family → b'.length = b.length →
          b'.address.Agrees b.length b.address → (Pool.cidr text').interval = .ok s := by
  have hinterval : ∀ (text : String) (b : Block), Block.ofChars? (trim text.toList) = some b →
      (Pool.cidr text).interval = .ok b.hosts := by
    intro text b hb
    rw [interval, blockInterval, hb]
    simp only [b.hosts?_eq]
  refine ⟨fun b before after hbefore hafter => ?_, fun text => ?_⟩
  · rw [trim_padded hbefore hafter, trim_of_no_blank b.isBlank_written, b.ofChars?_written]
  · cases hb : Block.ofChars? (trim text.toList) with
    | none =>
      simp only
      rw [interval, blockInterval, hb]
    | some b =>
      refine ⟨b.hosts, hinterval text b hb, fun x => Block.mem_hosts, b.size_hosts, b.noOverflow, ?_⟩
      intro text' b' hb' hfamily hlength hagrees
      rw [hinterval text' b' hb', Block.hosts_congr hfamily hlength hagrees]

/-- The shortest and the longest lengths, and what sets no address aside. -/
example :
    (Pool.cidr "10.1.2.77/0").interval.map (fun s => (s.first, s.last)) = .ok (1, 4294967294) ∧
    (Pool.cidr " 255.255.255.255/31 ").interval.map (fun s => (s.first, s.size)) = .ok (4294967294, 2) ∧
    (Pool.cidr "ffff::/0").interval.map Interval.size = .ok (Family.v6.size - 1) ∧
    (Pool.cidr "fd00::3/126").interval.map Interval.size = .ok 3 ∧
    (Pool.cidr "10.0.0.0/33").interval.map Interval.size = .error (.malformedBlock "10.0.0.0/33") := by
  decide +kernel

end Allotment
