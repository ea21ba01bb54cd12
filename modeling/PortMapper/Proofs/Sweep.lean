import PortMapper.Proofs.Host.Network
import PortMapper.Sweep

/-!
# What a sweep probes

A sweep deals with one interface after another (`Sweep.part`). The network of an interface is
probed host by host only if it is not too large (`Approach.of_eq_enumerate_iff`). The hosts probed
then have all addresses for hosts but that of the interface (`Sweep.mem_part_of_enumerate`): for a
mask whose set bits come first, all addresses on the network but the lowest, the highest and ours
(`Sweep.plan_covers_networks`).

Addresses given in the settings are only probed on the network that they are on. A mask whose set
bits do not come first, on the other hand, makes a sweep probe addresses beyond the network, whose
answers are not heeded (`Sweep.unicast_probes_stay_iff`).
-/

namespace PortMapper

variable {i : Interface} {s : Settings.Probing} {a : Address}

/-! ## How a network is probed -/

namespace Approach

theorem of_of_loopback (h : i.loopback = true) : of i s = .skip := if_pos h

/-- Each host is probed if the interface is not a loopback one, the network cannot be probed at
once, and it has hosts, but not more than the settings allow. -/
theorem of_eq_enumerate_iff : of i s = .enumerate ↔
    i.loopback = false ∧ (s.broadcast = false ∨ i.broadcast = none) ∧
      1 ≤ i.hostCount ∧ i.hostCount ≤ s.maxUnicastHosts.toNat := by
  rw [of]
  grind

theorem eq_of_given {peers : List Address} (h : of i s = .given peers) :
    i.loopback = false ∧ peers = s.peers.filter fun p => i.contains p && p != i.address := by
  rw [of] at h
  grind

end Approach

/-- A host reaches all addresses on its networks other than loopback ones. -/
theorem Host.reaches_of_contains {h : Host} (hi : i ∈ h.interfaces) (hloopback : i.loopback = false)
    (ha : i.contains a = true) : h.reaches a = true := by
  rw [reaches, List.any_eq_true]
  exact ⟨i, hi, by rw [hloopback, ha]; rfl⟩

namespace Sweep

/-- The probes of a sweep that are those of one interface. -/
def part (s : Settings.Probing) (i : Interface) : List (Address × Address) :=
  (targets i s).map (i.address, ·)

/-! ## The probes of one interface -/

theorem part_of_broadcast (h : Approach.of i s = .broadcast a) : part s i = [(i.address, a)] := by
  rw [part, targets, h]
  rfl

theorem part_of_skip (h : Approach.of i s = .skip) : part s i = [] := by
  rw [part, targets, h]
  rfl

theorem part_of_given {peers : List Address} (h : Approach.of i s = .given peers) :
    part s i = (s.peers.filter fun p => i.contains p && p != i.address).map (i.address, ·) := by
  rw [part, targets, h, (Approach.eq_of_given h).2]

theorem part_of_enumerate (h : Approach.of i s = .enumerate) :
    part s i = (i.hosts.filter (· != i.address)).map (i.address, ·) := by
  rw [part, targets, h]

theorem mem_part_of_enumerate (h : Approach.of i s = .enumerate) {p : Address × Address} :
    p ∈ part s i ↔ p.1 = i.address ∧ p.2 ∈ i.hosts ∧ p.2 ≠ i.address := by
  rw [part_of_enumerate h, List.mem_map]
  constructor
  · rintro ⟨a, ha, rfl⟩
    rw [List.mem_filter, bne_iff_ne] at ha
    exact ⟨rfl, ha⟩
  · rintro ⟨hours, ha⟩
    refine ⟨p.2, ?_, Prod.ext hours.symm rfl⟩
    rwa [List.mem_filter, bne_iff_ne]

/-- The addresses that are probed host by host ascend. -/
theorem pairwise_part_of_enumerate (h : Approach.of i s = .enumerate) :
    (part s i).Pairwise fun p q => p.2.bits < q.2.bits := by
  rw [part_of_enumerate h, List.pairwise_map]
  exact i.pairwise_hosts.filter _

/-- All hosts are probed, or all but this one if it has an address for hosts. -/
theorem length_part_of_enumerate (h : Approach.of i s = .enumerate) :
    (part s i).length = i.hostCount - if i.address ∈ i.hosts then 1 else 0 := by
  rw [part_of_enumerate h, List.length_map, ← i.nodup_hosts.erase_eq_filter, List.length_erase,
    i.length_hosts]
  split
  · rfl
  · rfl

/-! ## Networks that are covered -/

/-- If the set bits of all masks come first, a sweep consists of a part for each interface in their
order. That of an interface whose hosts are probed one by one ascends; it has every address on the
network but the lowest, the highest and ours, and no others. So it has no more probes than the
settings allow, one for each host, less ours if we have such an address. Addresses given in the
settings are probed in their order if they are on the network and not ours. A network that is
probed at once has one probe, and a loopback interface none. -/
theorem plan_covers_networks (h : Host) (s : Settings.Probing)
    (hmasks : ∀ i ∈ h.interfaces, i.HasPrefixMask) :
    plan h s = h.interfaces.flatMap (part s) ∧
    ∀ i ∈ h.interfaces,
      (i.loopback = true → part s i = []) ∧
      (Approach.of i s = .skip → part s i = []) ∧
      (∀ a, Approach.of i s = .broadcast a → part s i = [(i.address, a)]) ∧
      (∀ peers, Approach.of i s = .given peers →
        part s i = (s.peers.filter fun p => i.contains p && p != i.address).map (i.address, ·)) ∧
      (Approach.of i s = .enumerate ↔
        i.loopback = false ∧ (s.broadcast = false ∨ i.broadcast = none) ∧
          1 ≤ i.hostCount ∧ i.hostCount ≤ s.maxUnicastHosts.toNat) ∧
      (Approach.of i s = .enumerate →
        IsLeast {b | i.contains ⟨b⟩ = true} i.network.bits ∧
        IsGreatest {b | i.contains ⟨b⟩ = true} i.highest.bits ∧
        ((part s i).Pairwise fun p q => p.2.bits < q.2.bits) ∧
        (∀ p, p ∈ part s i ↔ p.1 = i.address ∧ i.contains p.2 = true ∧
          p.2 ≠ i.network ∧ p.2 ≠ i.highest ∧ p.2 ≠ i.address) ∧
        (part s i).Nodup ∧ (part s i).length ≤ s.maxUnicastHosts.toNat ∧
        (part s i).length =
          i.hostCount - if i.address = i.network ∨ i.address = i.highest then 0 else 1) := by
  refine ⟨rfl, fun i hi => ⟨fun hl => part_of_skip (Approach.of_of_loopback hl), part_of_skip,
    fun a => part_of_broadcast, fun peers => part_of_given, Approach.of_eq_enumerate_iff,
    fun hof => ⟨i.isLeast_network, i.isGreatest_highest, ?_⟩⟩⟩
  have hmem {a : Address} := i.mem_hosts_iff_contains (a := a) (hmasks i hi)
  have hasc := pairwise_part_of_enumerate hof
  have hlength := length_part_of_enumerate hof
  obtain ⟨-, -, -, hmax⟩ := Approach.of_eq_enumerate_iff.mp hof
  refine ⟨hasc, fun p => ?_, ?_, ?_, ?_⟩
  · rw [mem_part_of_enumerate hof, hmem, and_assoc, and_assoc]
  · exact hasc.imp fun hlt heq => UInt32.ne_of_lt hlt (congrArg (Address.bits ∘ Prod.snd) heq)
  · omega
  · -- We have an address for hosts unless ours is the lowest or the highest.
    have hours : i.address ∈ i.hosts ↔ ¬(i.address = i.network ∨ i.address = i.highest) := by
      rw [hmem, not_or, and_iff_right i.contains_address]
    rw [hlength]
    simp only [hours, ite_not]

/-- Networks of eight addresses, which the settings just allow: the first is probed by the host with
its lowest address, and a broadcast address is known for the second. On the third, which is too
large, the settings give one address. -/
theorem three_networks_covered :
    let address (a b c : UInt8) : Address := .ofOctets 10 a b c
    let small : Interface := .ofAddress (address 0 0 0) (.prefixMask 29) none
    let known : Interface := .ofAddress (address 1 0 1) (.prefixMask 29) (some (address 1 0 7))
    let large : Interface := .ofAddress (address 2 0 1) (.prefixMask 16) none
    let h : Host := ⟨[Host.loopbackInterface, small, known, large]⟩
    let s : Settings.Probing :=
      { maxUnicastHosts := 6, peers := [address 3 0 1, address 2 0 1, address 2 9 9] }
    (∀ i ∈ h.interfaces, i.HasPrefixMask) ∧
      plan h s = h.interfaces.flatMap (part s) ∧
      part s Host.loopbackInterface = [] ∧ (part s small).length = 6 ∧
      (small.address, address 0 0 6) ∈ part s small ∧
      (small.address, address 0 0 7) ∉ part s small ∧
      part s known = [(known.address, address 1 0 7)] ∧
      part s large = [(large.address, address 2 9 9)] := by
  intro address small known large h s
  have hmasks : ∀ i ∈ h.interfaces, i.HasPrefixMask := by decide
  obtain ⟨hplan, hparts⟩ := plan_covers_networks h s hmasks
  obtain ⟨hloopback, -⟩ := hparts Host.loopbackInterface (by decide +kernel)
  obtain ⟨-, -, -, -, -, henumerate⟩ := hparts small (by decide +kernel)
  obtain ⟨-, -, hbroadcast, -⟩ := hparts known (by decide +kernel)
  obtain ⟨-, -, -, hgiven, -⟩ := hparts large (by decide +kernel)
  obtain ⟨-, -, -, hmem, -, -, hlength⟩ := henumerate (by decide +kernel)
  refine ⟨hmasks, hplan, hloopback rfl, ?_, ?_, ?_, hbroadcast _ (by decide +kernel), ?_⟩
  · rw [hlength]
    decide +kernel
  · rw [hmem]
    decide +kernel
  · rw [hmem]
    decide +kernel
  · rw [hgiven [address 2 9 9] (by decide +kernel)]
    decide +kernel

/-! ## Probes beyond the network -/

/-- The addresses that are probed host by host are on the network, exactly if the set bits of the
mask come first: ours is the only one left out, and it is on the network. -/
theorem contains_part_iff (h : Approach.of i s = .enumerate) :
    (∀ p ∈ part s i, i.contains p.2 = true) ↔ i.HasPrefixMask := by
  rw [← Interface.contains_hosts_iff]
  constructor
  · intro hpart a ha
    by_cases hours : a = i.address
    · rw [hours]
      exact i.contains_address
    · exact hpart (i.address, a) ((mem_part_of_enumerate h).mpr ⟨rfl, ha, hours⟩)
  · intro hhosts p hp
    exact hhosts p.2 ((mem_part_of_enumerate h).mp hp).2.1

/-- Whatever interfaces a host is given, a sweep probes addresses given in the settings only on the
network of the interface, from which answers are heeded. Where hosts are probed one by one, they
have the numbers from 1 to the number of hosts. Those whose numbers have no bits of the mask are on
the network; if the set bits of the mask come first then these are all, and if they do not then
there is one that is not. -/
theorem unicast_probes_stay_iff (entries : List Settings.InterfaceEntry) (s : Settings.Probing) :
    let h := Host.ofEntries entries
    plan h s = h.interfaces.flatMap (part s) ∧ ∀ i ∈ h.interfaces,
      (∀ peers, Approach.of i s = .given peers → ∀ p ∈ part s i,
        i.contains p.2 = true ∧ h.reaches p.2 = true) ∧
      (Approach.of i s = .enumerate →
        (∀ p ∈ part s i, ∃ n, 1 ≤ n ∧ n ≤ i.hostCount ∧
          p.2.bits.toNat = i.network.bits.toNat + n ∧
          (i.contains p.2 = true ↔ n &&& i.netmask.bits.toNat = 0) ∧
          (i.contains p.2 = true → h.reaches p.2 = true)) ∧
        ((∀ p ∈ part s i, i.contains p.2 = true) ↔ i.HasPrefixMask)) := by
  intro h
  refine ⟨rfl, fun i hi => ?_⟩
  refine ⟨fun peers hgiven p hp => ?_, fun hof => ⟨fun p hp => ?_, contains_part_iff hof⟩⟩
  · obtain ⟨hloopback, -⟩ := Approach.eq_of_given hgiven
    rw [part_of_given hgiven, List.mem_map] at hp
    obtain ⟨a, ha, rfl⟩ := hp
    rw [List.mem_filter, Bool.and_eq_true] at ha
    exact ⟨ha.2.1, Host.reaches_of_contains hi hloopback ha.2.1⟩
  · obtain ⟨hloopback, -⟩ := Approach.of_eq_enumerate_iff.mp hof
    obtain ⟨-, hhost, -⟩ := (mem_part_of_enumerate hof).mp hp
    obtain ⟨n, hn, hlt, heq⟩ := Interface.mem_hosts.mp hhost
    rw [heq]
    exact ⟨n, hn, Nat.le_sub_one_of_lt hlt, Interface.toNat_host (Nat.le_of_lt hlt),
      Interface.contains_host_iff (Nat.le_of_lt hlt), Host.reaches_of_contains hi hloopback⟩

/-- Three networks. On the first, of 4 addresses, the probe to the other host stays. The mask of the
second has 250 for 252 in its last byte, so that a probe leaves. On the third, which is too large,
the address given in the settings is probed. -/
theorem two_of_three_networks_kept :
    let address (a b c : UInt8) : Address := .ofOctets 10 a b c
    let entries : List Settings.InterfaceEntry :=
      [⟨address 0 0 9, .ofOctets 255 255 255 252, none⟩,
        ⟨address 1 0 9, .ofOctets 255 255 255 250, none⟩,
        ⟨address 2 0 9, .ofOctets 255 255 0 0, none⟩]
    let s : Settings.Probing := { peers := [address 2 7 7] }
    let h := Host.ofEntries entries
    let kept : Interface := .ofAddress (address 0 0 9) (.ofOctets 255 255 255 252) none
    let left : Interface := .ofAddress (address 1 0 9) (.ofOctets 255 255 255 250) none
    let large : Interface := .ofAddress (address 2 0 9) (.ofOctets 255 255 0 0) none
    kept ∈ h.interfaces ∧ left ∈ h.interfaces ∧ large ∈ h.interfaces ∧
      Approach.of kept s = .enumerate ∧ Approach.of left s = .enumerate ∧
      Approach.of large s = .given [address 2 7 7] ∧
      (∀ p ∈ part s kept, kept.contains p.2 = true) ∧
      (¬∀ p ∈ part s left, left.contains p.2 = true) ∧
      h.reaches (address 2 7 7) = true := by
  intro address entries s h kept left large
  have hkept : kept ∈ h.interfaces := by decide +kernel
  have hleft : left ∈ h.interfaces := by decide +kernel
  have hlarge : large ∈ h.interfaces := by decide +kernel
  have henumerate : Approach.of kept s = .enumerate ∧ Approach.of left s = .enumerate := by
    decide +kernel
  have hgiven : Approach.of large s = .given [address 2 7 7] := by decide +kernel
  obtain ⟨-, hparts⟩ := unicast_probes_stay_iff entries s
  refine ⟨hkept, hleft, hlarge, henumerate.1, henumerate.2, hgiven, ?_, ?_, ?_⟩
  · exact ((hparts kept hkept).2 henumerate.1).2.mpr (by decide +kernel)
  · exact mt ((hparts left hleft).2 henumerate.2).2.mp (by decide +kernel)
  · have hp : (large.address, address 2 7 7) ∈ part s large := by decide +kernel
    exact ((hparts large hlarge).1 _ hgiven _ hp).2

/-- A mask that has 250 for 252 in its last byte. The addresses on the network end in 8, 9, 12
and 13, and those probed in 10, 11 and 12; no answer of the first two is heeded. -/
theorem probe_leaves_network :
    let address (a : UInt8) : Address := .ofOctets 192 168 1 a
    let h := Host.ofEntries [⟨address 9, .ofOctets 255 255 255 250, none⟩]
    plan h {} = [(address 9, address 10), (address 9, address 11), (address 9, address 12)] ∧
      h.reaches (address 10) = false ∧ h.reaches (address 11) = false ∧
      ¬∀ i ∈ h.interfaces, Approach.of i {} = .enumerate →
        ∀ p ∈ part {} i, i.contains p.2 = true := by
  decide +kernel

end Sweep

end PortMapper
