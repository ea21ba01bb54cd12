import Mathlib.Algebra.Group.Int.Defs
import PortMapper.Proofs.Host.Network

/-!
# Counting the hosts of a network in words

`Interface.hosts` counts without bounds. In words of 64 bits (`Interface.hostCountInWords`,
`Interface.hostsInWords`) a sum that is too large wraps around, and what does not fit into 32 bits
is lost when an address is made of it. Neither comes up with any address and mask, since the lowest
address of a network and the number of a host add up to less than the highest address
(`Interface.add_le_of_le_hostCount`). So the addresses follow one another as the numbers of the
hosts do (`Interface.hosts_never_wrap`).
-/

namespace PortMapper

namespace Interface

/-- How many addresses there are for hosts, in words: those that the mask leaves, without the
lowest and the highest, but at least none. -/
def hostCountInWords (i : Interface) : UInt64 :=
  let span := (~~~i.netmask.bits).toUInt64 + 1
  if span < 2 then 0 else span - 2

/-- The sum of the lowest address and the number of a host, in words. -/
def hostSumInWords (i : Interface) (number : UInt64) : UInt64 := i.network.bits.toUInt64 + number

/-- The addresses for hosts, in words. -/
def hostsInWords (i : Interface) : List Address :=
  (List.range' 1 i.hostCountInWords.toNat).map fun number =>
    ⟨(i.hostSumInWords number.toUInt64).toUInt32⟩

variable {i : Interface} {n : Nat}

theorem wildcard_lt (i : Interface) : i.wildcard < 2 ^ 32 := (~~~i.netmask.bits).toNat_lt

theorem hostCount_le_wildcard (i : Interface) : i.hostCount ≤ i.wildcard :=
  i.hostCount_eq ▸ Nat.sub_le i.wildcard 1

theorem toNat_hostCountInWords (i : Interface) : i.hostCountInWords.toNat = i.hostCount := by
  have hlt := i.wildcard_lt
  have hspan : ((~~~i.netmask.bits).toUInt64 + 1).toNat = i.wildcard + 1 := by
    rw [UInt64.toNat_add, UInt32.toNat_toUInt64]
    exact Nat.mod_eq_of_lt (Nat.lt_trans (Nat.add_lt_add_right hlt 1) (by decide))
  rw [hostCount_eq, hostCountInWords]
  by_cases hsmall : (~~~i.netmask.bits).toUInt64 + 1 < 2
  · have hone := UInt64.lt_iff_toNat_lt.mp hsmall
    rw [hspan] at hone
    change i.wildcard + 1 < 2 at hone
    rw [if_pos hsmall]
    change 0 = _
    omega
  · rw [if_neg hsmall, UInt64.toNat_sub_of_le _ _ (UInt64.not_lt.mp hsmall), hspan]
    rfl

/-- The number of any host leads to an address below the highest there can be. -/
theorem add_le_of_le_hostCount (hpos : 1 ≤ n) (h : n ≤ i.hostCount) :
    i.network.bits.toNat + n ≤ 2 ^ 32 - 2 := by
  have hlt := i.network_add_wildcard_lt
  rw [hostCount_eq] at h
  omega

theorem toNat_hostSumInWords (hpos : 1 ≤ n) (h : n ≤ i.hostCount) :
    (i.hostSumInWords n.toUInt64).toNat = i.network.bits.toNat + n := by
  have hle := add_le_of_le_hostCount hpos h
  rw [hostSumInWords, UInt64.toNat_add, UInt32.toNat_toUInt64, Nat.toUInt64,
    UInt64.toNat_ofNat_of_lt' (by rw [UInt64.size]; omega)]
  omega

/-- Nothing is lost when the sum is made an address. -/
theorem toUInt32_hostSumInWords (hpos : 1 ≤ n) (h : n ≤ i.hostCount) :
    (⟨(i.hostSumInWords n.toUInt64).toUInt32⟩ : Address) = i.host n := by
  have hle := add_le_of_le_hostCount hpos h
  apply Address.eq_of_toNat_eq
  rw [UInt64.toNat_toUInt32, toNat_hostSumInWords hpos h,
    toNat_host (Nat.le_trans h i.hostCount_le_wildcard)]
  omega

theorem hostsInWords_eq (i : Interface) : i.hostsInWords = i.hosts := by
  rw [hostsInWords, toNat_hostCountInWords, hosts, firstHosts, Nat.min_self]
  refine List.map_congr_left fun n hn => ?_
  obtain ⟨hpos, hlt⟩ := List.mem_range'_1.mp hn
  exact toUInt32_hostSumInWords hpos (by omega)

/-- The addresses for hosts are consecutive numbers. -/
theorem map_toNat_hosts (i : Interface) :
    i.hosts.map (·.bits.toNat) = List.range' (i.network.bits.toNat + 1) i.hostCount := by
  rw [hosts, firstHosts, Nat.min_self, List.map_map, ← List.map_add_range']
  refine List.map_congr_left fun n hn => ?_
  obtain ⟨hpos, hlt⟩ := List.mem_range'_1.mp hn
  have hle : n ≤ i.hostCount := by omega
  exact toNat_host (Nat.le_trans hle i.hostCount_le_wildcard)

theorem network_not_mem_hosts (i : Interface) : i.network ∉ i.hosts := fun hmem =>
  Nat.lt_irrefl _ (mem_hosts_iff.mp hmem).1

theorem highest_not_mem_hosts (i : Interface) : i.highest ∉ i.hosts := fun hmem =>
  Nat.lt_irrefl _ (mem_hosts_iff.mp hmem).2

/-- Whatever the address and the mask are, the number of hosts is what the mask leaves without two
addresses, or 0, and words of 64 bits suffice to compute it. The sum for each host is below the
highest number of 32 bits, so that the addresses made of it are the consecutive ones after the
network's lowest. They ascend, none comes twice, neither the lowest nor the highest address of the
network is among them, and there are as many as have been counted. -/
theorem hosts_never_wrap (i : Interface) :
    ((i.hostCount : Int) = max 0 ((2 : Int) ^ 32 - i.netmask.bits.toNat - 2) ∧
      (~~~i.netmask.bits).toNat + 1 ≤ 2 ^ 32 ∧ i.hostCountInWords.toNat = i.hostCount) ∧
    (∀ n, 1 ≤ n → n ≤ i.hostCount → i.network.bits.toNat + n ≤ 2 ^ 32 - 2 ∧
      (i.hostSumInWords n.toUInt64).toNat = i.network.bits.toNat + n) ∧
    (i.hostsInWords = i.hosts ∧
      i.hosts.map (·.bits.toNat) = List.range' (i.network.bits.toNat + 1) i.hostCount) ∧
    (i.hosts.Pairwise fun a b => a.bits < b.bits) ∧ i.hosts.Nodup ∧
    i.network ∉ i.hosts ∧ (⟨i.network.bits ||| ~~~i.netmask.bits⟩ : Address) ∉ i.hosts ∧
    i.hosts.length = i.hostCount := by
  have hcount : (i.hostCount : Int) = max 0 ((2 : Int) ^ 32 - i.netmask.bits.toNat - 2) := by
    have hlt := i.netmask.bits.toNat_lt
    rw [hostCount_eq, wildcard_eq]
    omega
  exact ⟨⟨hcount, i.wildcard_lt, i.toNat_hostCountInWords⟩,
    fun n hpos h => ⟨add_le_of_le_hostCount hpos h, toNat_hostSumInWords hpos h⟩,
    ⟨i.hostsInWords_eq, i.map_toNat_hosts⟩, i.pairwise_hosts, i.nodup_hosts,
    i.network_not_mem_hosts, i.highest_not_mem_hosts, i.length_hosts⟩

end Interface

end PortMapper
