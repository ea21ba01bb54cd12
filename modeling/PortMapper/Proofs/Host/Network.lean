import Mathlib.Algebra.Group.Nat.Defs
import Mathlib.Order.Bounds.Defs
import PortMapper.Host.Interface

/-!
# The addresses of a network

The bits that a mask does not have set tell the hosts of a network apart. An address is on the
network if it is the lowest one plus a number that has such bits only (`Interface.contains_iff`).
The addresses for hosts are the lowest one plus any number below the one that has all these bits
(`Interface.mem_hosts_iff`).

For a mask whose set bits come first (`Interface.HasPrefixMask`) these are the addresses on the
network other than the lowest and the highest (`Interface.mem_hosts_iff_contains`). Any other mask
has a host address that is not on the network (`Interface.contains_hosts_iff`).
-/

namespace PortMapper

/-- The mask of a network whose addresses have their first `length` bits in common. -/
def Address.prefixMask (length : Nat) : Address := ⟨(2 ^ 32 - 2 ^ (32 - length)).toUInt32⟩

example : Address.prefixMask 20 = .ofOctets 255 255 240 0 := by decide

theorem Address.eq_of_toNat_eq {a b : Address} (h : a.bits.toNat = b.bits.toNat) : a = b :=
  congrArg mk (UInt32.toNat_inj.mp h)

/-! ## Bits under a mask and beside it -/

section

variable (x y mask : UInt32)

/-- The bits of a number under a mask and those beside it add up to the number. -/
theorem toNat_and_add_and_not : (x &&& mask).toNat + (x &&& ~~~mask).toNat = x.toNat := by
  have hdisjoint : (x &&& mask).toBitVec &&& (x &&& ~~~mask).toBitVec = 0#32 := by
    ext j hj
    simp only [UInt32.toBitVec_and, UInt32.toBitVec_not, BitVec.getElem_and, BitVec.getElem_not,
      BitVec.getElem_zero]
    grind
  have hjoin : (x &&& mask).toBitVec ||| (x &&& ~~~mask).toBitVec = x.toBitVec := by
    ext j hj
    simp only [UInt32.toBitVec_and, UInt32.toBitVec_not, BitVec.getElem_or, BitVec.getElem_and,
      BitVec.getElem_not]
    grind
  have hsum := BitVec.toNat_add_of_and_eq_zero hdisjoint
  rw [BitVec.add_eq_or_of_and_eq_zero _ _ hdisjoint, hjoin] at hsum
  exact hsum.symm

theorem joined_and : (x &&& mask ||| y &&& ~~~mask) &&& mask = x &&& mask := by
  apply UInt32.toBitVec_inj.mp
  ext j hj
  simp only [UInt32.toBitVec_or, UInt32.toBitVec_and, UInt32.toBitVec_not, BitVec.getElem_or,
    BitVec.getElem_and, BitVec.getElem_not]
  grind

theorem joined_and_not : (x &&& mask ||| y &&& ~~~mask) &&& ~~~mask = y &&& ~~~mask := by
  apply UInt32.toBitVec_inj.mp
  ext j hj
  simp only [UInt32.toBitVec_or, UInt32.toBitVec_and, UInt32.toBitVec_not, BitVec.getElem_or,
    BitVec.getElem_and, BitVec.getElem_not]
  grind

/-- A number joined from bits under a mask and bits beside it is their sum. -/
theorem toNat_joined :
    (x &&& mask ||| y &&& ~~~mask).toNat = (x &&& mask).toNat + (y &&& ~~~mask).toNat := by
  rw [← toNat_and_add_and_not _ mask, joined_and, joined_and_not]

end

namespace Interface

variable {i : Interface} {a : Address} {n : Nat}

/-- The number that has exactly the bits that the mask does not have. -/
def wildcard (i : Interface) : Nat := (~~~i.netmask.bits).toNat

/-- The highest address of the network. -/
def highest (i : Interface) : Address := ⟨i.network.bits ||| ~~~i.netmask.bits⟩

/-- Whether the bits that the mask has set come before all others. -/
def HasPrefixMask (i : Interface) : Prop := ∃ length ≤ 32, i.netmask = .prefixMask length

instance (i : Interface) : Decidable i.HasPrefixMask :=
  inferInstanceAs (Decidable (∃ length ≤ 32, i.netmask = .prefixMask length))

/-! ## Addresses on the network -/

theorem wildcard_eq (i : Interface) : i.wildcard = 2 ^ 32 - 1 - i.netmask.bits.toNat := by
  rw [wildcard, UInt32.toNat_not]
  rfl

/-- Counting from the lowest address to the highest stays within 32 bits. -/
theorem network_add_wildcard_lt (i : Interface) : i.network.bits.toNat + i.wildcard < 2 ^ 32 := by
  have hle : i.network.bits.toNat ≤ i.netmask.bits.toNat := by
    rw [network, UInt32.toNat_and]
    exact Nat.and_le_right
  have hlt := i.netmask.bits.toNat_lt
  rw [wildcard_eq]
  omega

/-- An address is on the network if it is the lowest one plus a number that has no bits of the
mask. -/
theorem contains_iff :
    i.contains a = true ↔
      a.bits.toNat = i.network.bits.toNat + (a.bits.toNat &&& i.wildcard) := by
  have hsplit := toNat_and_add_and_not a.bits i.netmask.bits
  rw [UInt32.toNat_and a.bits (~~~_)] at hsplit
  rw [contains, beq_iff_eq, ← UInt32.toNat_inj]
  change (a.bits &&& i.netmask.bits).toNat = i.network.bits.toNat ↔ _
  rw [wildcard]
  omega

/-- Any bits that the mask does not have make an address on the network. -/
theorem contains_joined (i : Interface) (y : UInt32) :
    i.contains ⟨i.network.bits ||| y &&& ~~~i.netmask.bits⟩ = true := by
  rw [contains, beq_iff_eq]
  exact joined_and i.address.bits y i.netmask.bits

theorem contains_address (i : Interface) : i.contains i.address = true := by
  rw [contains, beq_self_eq_true]

theorem contains_network (i : Interface) : i.contains i.network = true := by
  have hjoined := i.contains_joined 0
  rwa [UInt32.zero_and, UInt32.or_zero] at hjoined

theorem toNat_highest (i : Interface) :
    i.highest.bits.toNat = i.network.bits.toNat + i.wildcard := by
  have hjoined := toNat_joined i.address.bits (-1) i.netmask.bits
  rwa [UInt32.neg_one_and] at hjoined

theorem contains_highest (i : Interface) : i.contains i.highest = true := by
  have hjoined := i.contains_joined (-1)
  rwa [UInt32.neg_one_and] at hjoined

theorem isLeast_network (i : Interface) :
    IsLeast {b | i.contains ⟨b⟩ = true} i.network.bits := by
  refine ⟨i.contains_network, fun b hb => ?_⟩
  have heq := contains_iff.mp hb
  rw [UInt32.le_iff_toNat_le, heq]
  exact Nat.le_add_right _ _

theorem isGreatest_highest (i : Interface) :
    IsGreatest {b | i.contains ⟨b⟩ = true} i.highest.bits := by
  refine ⟨i.contains_highest, fun b hb => ?_⟩
  have heq := contains_iff.mp hb
  have hle : b.toNat &&& i.wildcard ≤ i.wildcard := Nat.and_le_right
  rw [UInt32.le_iff_toNat_le, toNat_highest, heq]
  exact Nat.add_le_add_left hle _

/-! ## Addresses for hosts -/

theorem hostCount_eq (i : Interface) : i.hostCount = i.wildcard - 1 := rfl

theorem toNat_host (h : n ≤ i.wildcard) : (i.host n).bits.toNat = i.network.bits.toNat + n := by
  have hlt := i.network_add_wildcard_lt
  exact UInt32.toNat_ofNat_of_lt (Nat.lt_of_le_of_lt (Nat.add_le_add_left h _) hlt)

/-- A number either has bits of the mask, or has only bits that the mask does not have. -/
theorem and_wildcard_eq_iff (h : n ≤ i.wildcard) :
    n &&& i.wildcard = n ↔ n &&& i.netmask.bits.toNat = 0 := by
  have hlt : n < 2 ^ 32 := by
    have := i.network_add_wildcard_lt
    omega
  have hsplit := toNat_and_add_and_not n.toUInt32 i.netmask.bits
  rw [UInt32.toNat_and, UInt32.toNat_and, Nat.toUInt32, UInt32.toNat_ofNat_of_lt' hlt] at hsplit
  change _ + (n &&& i.wildcard) = n at hsplit
  omega

/-- The address of a host is on the network if the number of the host has no bits of the mask, and
only then. -/
theorem contains_host_iff (h : n ≤ i.wildcard) :
    i.contains (i.host n) = true ↔ n &&& i.netmask.bits.toNat = 0 := by
  have hhost := toNat_host h
  rw [← and_wildcard_eq_iff h]
  constructor
  · intro hon
    rw [contains_iff, hhost] at hon
    have hn : n = (i.network.bits.toNat + n) &&& i.wildcard := Nat.add_left_cancel hon
    rw [hn, Nat.and_assoc, Nat.and_self]
  · intro hbits
    have hlt : n < 2 ^ 32 := by
      have := i.network_add_wildcard_lt
      omega
    have hn : (n.toUInt32 &&& ~~~i.netmask.bits).toNat = n := by
      rw [UInt32.toNat_and, Nat.toUInt32, UInt32.toNat_ofNat_of_lt' hlt]
      exact hbits
    have hjoined := toNat_joined i.address.bits n.toUInt32 i.netmask.bits
    rw [hn] at hjoined
    rw [Address.eq_of_toNat_eq (hhost.trans hjoined.symm)]
    exact i.contains_joined _

theorem length_hosts (i : Interface) : i.hosts.length = i.hostCount := by
  rw [hosts, firstHosts, List.length_map, List.length_range', Nat.min_self]

theorem mem_hosts : a ∈ i.hosts ↔ ∃ n, 1 ≤ n ∧ n < i.wildcard ∧ a = i.host n := by
  rw [hosts, firstHosts, Nat.min_self, hostCount_eq, List.mem_map]
  constructor
  · rintro ⟨n, hn, rfl⟩
    have hrange := List.mem_range'_1.mp hn
    exact ⟨n, hrange.1, by omega, rfl⟩
  · rintro ⟨n, hn, hlt, rfl⟩
    exact ⟨n, List.mem_range'_1.mpr (by omega), rfl⟩

/-- The addresses for hosts are those between the lowest and the highest. -/
theorem mem_hosts_iff : a ∈ i.hosts ↔
    i.network.bits.toNat < a.bits.toNat ∧ a.bits.toNat < i.highest.bits.toNat := by
  rw [toNat_highest, mem_hosts]
  constructor
  · rintro ⟨n, hn, hlt, rfl⟩
    rw [toNat_host (Nat.le_of_lt hlt)]
    omega
  · rintro ⟨hlow, hhigh⟩
    refine ⟨a.bits.toNat - i.network.bits.toNat, by omega, by omega, Address.eq_of_toNat_eq ?_⟩
    rw [toNat_host (by omega)]
    omega

/-- The addresses for hosts ascend. -/
theorem pairwise_hosts (i : Interface) : i.hosts.Pairwise fun a b => a.bits < b.bits := by
  rw [hosts, firstHosts, Nat.min_self, List.pairwise_map, hostCount_eq]
  refine List.Pairwise.imp_of_mem (fun {m n} hm hn hlt => ?_) List.pairwise_lt_range'
  rw [List.mem_range'_1] at hm hn
  rw [UInt32.lt_iff_toNat_lt, toNat_host (by omega), toNat_host (by omega)]
  omega

theorem nodup_hosts (i : Interface) : i.hosts.Nodup :=
  i.pairwise_hosts.imp fun hlt heq => UInt32.ne_of_lt hlt (congrArg _ heq)

/-! ## Masks whose set bits come first -/

theorem toNat_prefixMask (length : Nat) :
    (Address.prefixMask length).bits.toNat = 2 ^ 32 - 2 ^ (32 - length) := by
  have hpos : 0 < 2 ^ (32 - length) := Nat.two_pow_pos _
  have hlt : 2 ^ 32 - 2 ^ (32 - length) < 2 ^ 32 := by omega
  exact UInt32.toNat_ofNat_of_lt' hlt

/-- The set bits of a mask come first if all those that it does not have are the lowest. -/
theorem hasPrefixMask_iff : i.HasPrefixMask ↔ ∃ k, i.wildcard + 1 = 2 ^ k := by
  rw [wildcard_eq]
  constructor
  · rintro ⟨length, -, hmask⟩
    have hle : 2 ^ (32 - length) ≤ 2 ^ 32 := Nat.pow_le_pow_right (by decide) (Nat.sub_le ..)
    have hpos : 0 < 2 ^ (32 - length) := Nat.two_pow_pos _
    refine ⟨32 - length, ?_⟩
    rw [hmask, toNat_prefixMask]
    omega
  · rintro ⟨k, hk⟩
    have hlt := i.netmask.bits.toNat_lt
    have hle : k ≤ 32 := (Nat.pow_le_pow_iff_right (by decide : 1 < 2)).mp (by omega)
    refine ⟨32 - k, Nat.sub_le .., Address.eq_of_toNat_eq ?_⟩
    rw [toNat_prefixMask, Nat.sub_sub_self hle]
    omega

/-- If every smaller number has no bits but those of `w`, then `w` has all of its lowest bits. -/
theorem exists_succ_eq_two_pow {w : Nat} (h : ∀ n, 1 ≤ n → n < w → n &&& w = n) :
    ∃ k, w + 1 = 2 ^ k := by
  rcases Nat.eq_zero_or_pos w with rfl | hpos
  · exact ⟨0, rfl⟩
  have hle : 2 ^ w.log2 ≤ w := Nat.log2_self_le (Nat.ne_of_gt hpos)
  have hlt : w < 2 ^ (w.log2 + 1) := Nat.lt_log2_self
  rw [Nat.pow_succ] at hlt
  -- The number that has all bits below the highest one of `w`.
  have hbelow : (2 ^ w.log2 - 1) &&& w = 2 ^ w.log2 - 1 := by
    rcases Nat.eq_zero_or_pos (2 ^ w.log2 - 1) with hzero | hone
    · rw [hzero, Nat.zero_and]
    · exact h _ hone (by omega)
  rw [Nat.and_comm, Nat.and_two_pow_sub_one_eq_mod, Nat.mod_eq_sub_mod hle,
    Nat.mod_eq_of_lt (by omega)] at hbelow
  refine ⟨w.log2 + 1, ?_⟩
  rw [Nat.pow_succ]
  omega

/-- All addresses for hosts are on the network, exactly if the set bits of the mask come first. -/
theorem contains_hosts_iff : (∀ a ∈ i.hosts, i.contains a = true) ↔ i.HasPrefixMask := by
  rw [hasPrefixMask_iff]
  constructor
  · intro h
    refine exists_succ_eq_two_pow fun n hn hlt => ?_
    have hon := h _ (mem_hosts.mpr ⟨n, hn, hlt, rfl⟩)
    rwa [contains_host_iff (Nat.le_of_lt hlt), ← and_wildcard_eq_iff (Nat.le_of_lt hlt)] at hon
  · rintro ⟨k, hk⟩ a ha
    obtain ⟨n, hn, hlt, rfl⟩ := mem_hosts.mp ha
    rw [contains_host_iff (Nat.le_of_lt hlt), ← and_wildcard_eq_iff (Nat.le_of_lt hlt),
      Nat.eq_sub_of_add_eq hk, Nat.and_two_pow_sub_one_eq_mod, Nat.mod_eq_of_lt (by omega)]

/-- If the set bits of the mask come first, the addresses for hosts are those on the network but
the lowest and the highest. -/
theorem mem_hosts_iff_contains (h : i.HasPrefixMask) :
    a ∈ i.hosts ↔ i.contains a = true ∧ a ≠ i.network ∧ a ≠ i.highest := by
  rw [mem_hosts_iff]
  constructor
  · rintro ⟨hlow, hhigh⟩
    refine ⟨contains_hosts_iff.mpr h a (mem_hosts_iff.mpr ⟨hlow, hhigh⟩), ?_, ?_⟩
    · rintro rfl
      exact Nat.lt_irrefl _ hlow
    · rintro rfl
      exact Nat.lt_irrefl _ hhigh
  · rintro ⟨hon, hlow, hhigh⟩
    have hleast := UInt32.le_iff_toNat_le.mp (i.isLeast_network.2 hon)
    have hgreatest := UInt32.le_iff_toNat_le.mp (i.isGreatest_highest.2 hon)
    exact ⟨Nat.lt_of_le_of_ne hleast fun heq => hlow (Address.eq_of_toNat_eq heq.symm),
      Nat.lt_of_le_of_ne hgreatest fun heq => hhigh (Address.eq_of_toNat_eq heq)⟩

end Interface

end PortMapper
