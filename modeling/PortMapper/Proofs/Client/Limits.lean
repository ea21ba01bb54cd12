import PortMapper.Proofs.Client.Calls

/-!
# Lists that are too long

A client does not read a list of more than 65536 addresses or of more than 2²⁴
bytes of names, and daemons know nothing of these limits. A list that keeps to them
is read as it is known to the daemon; any other is refused. Asking changes nothing in
either case (`Client.lists_read_iff`).

What a daemon knows has no such limits. Each client on its host may register as many
names as there are (`Mapper.run_registrations`), and any number of hosts on its
networks may make themselves known (`Mapper.run_probed`).
-/

namespace PortMapper

/-! ## What a client reads -/

/-- Every name takes two bytes besides its own. -/
theorem Reply.length_namesBody (es : List Reply.Listed) :
    (Reply.namesBody es).length = (es.map fun e => 2 + e.name.length).sum := by
  induction es with
  | nil => rfl
  | cons e es ih =>
    rw [Reply.namesBody_cons, List.length_cons, List.length_cons, List.length_append, ih,
      List.map_cons, List.sum_cons]
    omega

/-- There are fewer servers than addresses, since one address is ours if there is any
server at all. -/
theorem Neighbours.Sound.length_addresses_lt {t : Neighbours} {h : Host} (hs : t.Sound h) :
    t.addresses.length < 4294967296 := by
  rcases List.eq_nil_or_concat' t.records with hnil | ⟨rest, n, hrecords⟩
  · rw [Neighbours.addresses, hnil]
    decide
  have hn : n ∈ t.records := by
    rw [hrecords]
    exact List.mem_append_right rest List.mem_cons_self
  obtain ⟨i, hi, -⟩ := List.any_eq_true.mp (hs.reached n hn)
  have hown : h.owns i.address = true := List.any_eq_true.mpr ⟨i, hi, beq_self_eq_true _⟩
  have hnew : i.address ∉ t.addresses := by
    intro hmem
    obtain ⟨n', hn', heq⟩ := List.mem_map.mp hmem
    have hforeign := hs.foreign n' hn' _ n'.answersTo_address
    rw [heq, hown] at hforeign
    cases hforeign
  have hnodup : (i.address :: t.addresses).Nodup := List.nodup_cons.mpr ⟨hnew, hs.nodup_addresses⟩
  have hinj : Function.Injective fun a : Address => a.bits.toFin := fun a b hab =>
    congrArg Address.mk (UInt32.toFin_inj.mp hab)
  have hcard := (hnodup.map hinj).length_le_card
  rw [List.length_map, Fintype.card_fin, List.length_cons] at hcard
  exact hcard

namespace Client

variable {m : Mapper} {isFree : Vacancy} {now : Nat} {source daemon : Endpoint}

/-- Names are read as they are registered if their list keeps to the limit, and only
then. -/
theorem names_eq_listing_iff (hm : m.Reachable) :
    (names (Session.network isFree now source) daemon m).1 = .ok m.directory.listing ↔
      (Reply.namesBody m.directory.listing).length ≤ Reply.maxNamesBytes := by
  rw [names_network]
  constructor
  · intro h
    rw [Reply.names, List.append_assoc] at h
    obtain ⟨hlength, hle⟩ := length_of_readNames h
    rwa [hlength]
  · exact readNames_names hm.length_listing_le

/-- Addresses are read as they are known if their list keeps to the limit, and only
then. -/
theorem servers_eq_addresses_iff (hm : m.Reachable) :
    (servers (Session.network isFree now source) daemon m).1 = .ok m.neighbours.addresses ↔
      m.neighbours.addresses.length ≤ Reply.maxAddresses := by
  rw [servers_network]
  constructor
  · intro h
    refine Nat.le_of_not_lt fun hlt => ?_
    rw [readAddresses_of_lt hlt hm.sound.length_addresses_lt] at h
    cases h
  · exact readAddresses_addresses

end Client

/-! ## Any number of names -/

/-- The request for a registration. -/
def Registration.request (r : Registration) : Request :=
  { opcode := .register, kindByte := r.kind.toByte, port := r.port, name := r.name }

namespace Directory

variable {d : Directory} {name : Bytes} {port : UInt32}

/-- A name that is not registered yet gets an entry of its own. -/
theorem Ordered.register_of_absent (hd : d.Ordered) (isFree : Vacancy) (kind : PortKind)
    (hname : Directory.acceptable name port = true)
    (habsent : ∀ e ∈ d.entries.toList, e.name ≠ name) :
    (d.register isFree name port kind).directory.entries.toList.Perm
      (⟨name, port, kind⟩ :: d.entries.toList) := by
  rcases hd.locate name with ⟨l, e, r, -, split, hsame⟩ | ⟨l, r, hlocate, split, -⟩
  · refine absurd hsame (habsent e ?_)
    rw [split]
    exact List.mem_append_right l List.mem_cons_self
  · have hentries : (d.register isFree name port kind).directory.entries.toList =
        l ++ ⟨name, port, kind⟩ :: r := by
      rw [register, hname, hlocate]
      exact toList_insert split
    rw [hentries, split]
    exact List.perm_middle

end Directory

namespace Mapper

/-- A client registers something, while no port is free. -/
def registering (source : Endpoint) (r : Registration) : Occurrence :=
  ⟨0, fun _ => false, .request r.request source .tcp⟩

theorem step_registering (m : Mapper) (hown : m.host.owns source.address = true)
    (r : Registration) :
    (m.step (registering source r)).mapper.directory =
      (m.directory.register (fun _ => false) r.name r.port r.kind).directory := by
  have ha : m.directory.answer? m.host (fun _ => false) r.request source =
      some (m.directory.register (fun _ => false) r.name r.port r.kind) :=
    Directory.answer?_register rfl hown (PortKind.ofByte_toByte r.kind)
  change (m.handle (fun _ => false) 0 r.request source .tcp).mapper.directory = _
  rw [handle_of_answer ha]
  rfl

/-- Whatever is registered under different names is registered. -/
theorem run_registrations (host : Host) (port : UInt16) (probing : Settings.Probing)
    (source : Endpoint) (hown : host.owns source.address = true) {rs : List Registration}
    (hdistinct : (rs.map (·.name)).Nodup)
    (hacc : ∀ r ∈ rs, Directory.acceptable r.name r.port = true) :
    ((start host port probing).run (rs.map (registering source))).directory.entries.toList.Perm
      rs := by
  induction rs using List.reverseRecOn with
  | nil => exact .nil
  | append_singleton rs r ih =>
    rw [List.map_append, List.nodup_append'] at hdistinct
    obtain ⟨hrs, -, hnew⟩ := hdistinct
    have hperm := ih hrs fun r' hr' => hacc r' (List.mem_append_left _ hr')
    rw [List.map_append, List.map_singleton, run_concat, step_registering _ (by rwa [run_host])]
    obtain ⟨names, hnames⟩ := Reachable.represents (m := (start host port probing).run
      (rs.map (registering source))) ⟨_, _, _, _, rfl⟩
    -- Nothing is registered so far but what was to be, and that has other names.
    have habsent : ∀ e ∈ ((start host port probing).run
        (rs.map (registering source))).directory.entries.toList, e.name ≠ r.name := by
      intro e he hname
      refine hnew (List.mem_map_of_mem (hperm.subset he)) ?_
      rw [hname]
      exact List.mem_singleton_self _
    have hnext := hnames.register_of_absent (fun _ => false) r.kind
      (hacc r (List.mem_append_right rs List.mem_cons_self)) habsent
    exact hnext.trans ((hperm.cons r).trans (List.perm_append_singleton r rs).symm)

end Mapper

/-! ## Any number of hosts -/

/-- A new neighbour comes first. -/
theorem Neighbours.contact_of_new {t : Neighbours} {h : Host} {a : Address} {now : Nat}
    (ha : h.admits a = true) (hnew : ∀ n ∈ t.records, n.answersTo a = false) :
    (t.contact h a now).2 = ⟨⟨a, [], now⟩ :: t.records⟩ := by
  have hfind : t.records.find? (·.answersTo a) = none :=
    List.find?_eq_none.mpr fun n hn => by simp [hnew n hn]
  simp only [contact, announce, if_pos ha, select, hfind, List.foldl_nil]

namespace Mapper

variable {host : Host} {port : UInt16} {probing : Settings.Probing} {own a : Address}

/-- A daemon probes ours over a connection. -/
def probed (own a : Address) : Occurrence :=
  ⟨0, fun _ => false, .request (.probe a own) ⟨a, 538⟩ .tcp⟩

theorem step_probed (m : Mapper) (own a : Address) :
    (m.step (probed own a)).mapper.neighbours = (m.neighbours.contact m.host a 0).2 := rfl

/-- Whoever probes from different addresses on our networks is known. -/
theorem run_probed {as : List Address} (hdistinct : as.Nodup)
    (hadmits : ∀ a ∈ as, host.admits a = true) :
    ((start host port probing).run (as.map (probed own))).neighbours.records =
      as.reverse.map fun a => ⟨a, [], 0⟩ := by
  induction as using List.reverseRecOn with
  | nil => rfl
  | append_singleton as a ih =>
    obtain ⟨has, -, hnew⟩ := List.nodup_append'.mp hdistinct
    have hrecords := ih has fun b hb => hadmits b (List.mem_append_left _ hb)
    have ha : host.admits a = true := hadmits a (List.mem_append_right as List.mem_cons_self)
    have hother : ∀ n ∈ ((start host port probing).run (as.map (probed own))).neighbours.records,
        n.answersTo a = false := by
      intro n hn
      rw [hrecords] at hn
      obtain ⟨b, hb, rfl⟩ := List.mem_map.mp hn
      have hne : b ≠ a := fun heq =>
        hnew (List.mem_reverse.mp hb) (heq ▸ List.mem_singleton_self b)
      simp [Neighbour.answersTo, hne]
    have hhost : ((start host port probing).run (as.map (probed own))).host = host := run_host _ _
    rw [List.map_append, List.map_singleton, run_concat, step_probed, hhost,
      Neighbours.contact_of_new ha hother, hrecords, List.reverse_append]
    rfl

end Mapper

/-! ## Too many names and hosts -/

theorem word_injective : Function.Injective word := by
  intro a b h
  simp only [word, List.cons.injEq] at h
  rw [← ofWord_word a, ← ofWord_word b, h.1, h.2.1, h.2.2.1, h.2.2.2.1]

theorem toUInt32_injOn {a b : Nat} (ha : a < 4294967296) (hb : b < 4294967296)
    (h : a.toUInt32 = b.toUInt32) : a = b := by
  rw [← Reply.toNat_toUInt32 ha, ← Reply.toNat_toUInt32 hb, h]

/-- A name as long as can be, with a number at its end. -/
def Registration.numbered (n : Nat) : Registration :=
  ⟨List.replicate 251 0 ++ word n.toUInt32, 4000, ⟨.tcp, .native⟩⟩

theorem Registration.length_numbered (n : Nat) : (numbered n).name.length = 255 := by
  rw [numbered, List.length_append, List.length_replicate, length_word]

theorem Registration.nodup_numbered {n : Nat} (hn : n ≤ 4294967296) :
    (((List.range n).map numbered).map (·.name)).Nodup := by
  rw [List.map_map]
  refine List.nodup_range.map_on fun i hi j hj h => ?_
  have hlt (k : Nat) (hk : k ∈ List.range n) : k < 4294967296 :=
    Nat.lt_of_lt_of_le (List.mem_range.mp hk) hn
  exact toUInt32_injOn (hlt i hi) (hlt j hj) (word_injective (List.append_cancel_left h))

namespace Mapper

/-- A daemon at which so many long names have been registered. -/
def withNames (n : Nat) : Mapper :=
  (start ⟨[Host.loopbackInterface]⟩ 538 {}).run
    (((List.range n).map Registration.numbered).map (registering ⟨.localhost, 50000⟩))

theorem reachable_withNames (n : Nat) : (withNames n).Reachable := ⟨_, _, _, _, rfl⟩

theorem length_withNames {n : Nat} (hn : n ≤ 4294967296) :
    ((withNames n).directory.listing.map fun e => 2 + e.name.length).sum = 257 * n := by
  have hacc : ∀ r ∈ (List.range n).map Registration.numbered,
      Directory.acceptable r.name r.port = true := by
    intro r hr
    obtain ⟨i, -, rfl⟩ := List.mem_map.mp hr
    rw [Directory.acceptable_iff, Registration.length_numbered]
    exact ⟨by decide, (by decide : 1 ≤ (4000 : UInt32).toNat ∧ (4000 : UInt32).toNat ≤ 65535)⟩
  have hown : Host.owns ⟨[Host.loopbackInterface]⟩ .localhost = true := by decide
  have hperm := run_registrations _ 538 {} ⟨.localhost, 50000⟩ hown
    (Registration.nodup_numbered hn) hacc
  rw [withNames, Directory.listing, List.map_map, (hperm.map _).sum_eq, List.map_map]
  simp only [Function.comp_def, Registration.length_numbered, List.map_const', List.length_range,
    List.sum_replicate, smul_eq_mul, Nat.mul_comm]

end Mapper

/-- The address `10.0.1.0` and those that follow. -/
def Address.numbered (n : Nat) : Address := ⟨(2 ^ 24 * 10 + (256 + n)).toUInt32⟩

/-- The host `10.0.0.1` of a network of 2²⁴ addresses. -/
def Host.ten : Host := ⟨[.ofAddress (.ofOctets 10 0 0 1) (.ofOctets 255 0 0 0) none]⟩

/-- A number of 32 bits is its first byte and the other three. -/
theorem and_netmask {a b : Nat} (ha : a < 256) (hb : b < 16777216) :
    2 ^ 24 * a + b &&& 2 ^ 24 * 255 = 2 ^ 24 * a := by
  refine Nat.eq_of_testBit_eq fun j => ?_
  rw [Nat.testBit_and, Nat.testBit_two_pow_mul_add a hb, Nat.testBit_two_pow_mul,
    Nat.testBit_two_pow_mul]
  by_cases hj : j < 24
  · simp [hj, Nat.not_le_of_lt hj]
  · have hbyte : (a &&& 255).testBit (j - 24) = a.testBit (j - 24) := by
      rw [Nat.and_two_pow_sub_one_of_lt_two_pow (n := 8) ha]
    simpa [hj, Nat.le_of_not_lt hj] using hbyte

theorem Host.admits_numbered {n : Nat} (hn : n < 16776960) :
    Host.ten.admits (.numbered n) = true := by
  have hbits : (Address.numbered n).bits.toNat = 2 ^ 24 * 10 + (256 + n) :=
    Reply.toNat_toUInt32 (by omega)
  rw [Host.admits_iff]
  constructor
  · rw [Host.owns, Host.ten, List.any_cons, List.any_nil, Bool.or_false, beq_eq_false_iff_ne]
    intro heq
    rw [← heq] at hbits
    have hown : (Address.ofOctets 10 0 0 1).bits.toNat = 167772161 := by decide
    change (Address.ofOctets 10 0 0 1).bits.toNat = _ at hbits
    omega
  · have hmask : (Address.numbered n).bits &&& (Address.ofOctets 255 0 0 0).bits =
        (Address.ofOctets 10 0 0 0).bits := by
      apply UInt32.toNat_inj.mp
      rw [UInt32.toNat_and, hbits]
      exact and_netmask (by decide) (by omega)
    rw [Host.reaches, Host.ten, List.any_cons, List.any_nil, Bool.or_false, Interface.contains]
    change (_ && (_ &&& (Address.ofOctets 255 0 0 0).bits == _)) = true
    rw [hmask]
    decide

namespace Mapper

/-- A daemon that so many others have probed. -/
def withNeighbours (n : Nat) : Mapper :=
  (start Host.ten 538 {}).run
    (((List.range n).map Address.numbered).map (probed (.ofOctets 10 0 0 1)))

theorem reachable_withNeighbours (n : Nat) : (withNeighbours n).Reachable := ⟨_, _, _, _, rfl⟩

theorem length_withNeighbours {n : Nat} (hn : n ≤ 16776960) :
    (withNeighbours n).neighbours.addresses.length = n := by
  have hnodup : ((List.range n).map Address.numbered).Nodup := by
    refine List.nodup_range.map_on fun i hi j hj h => ?_
    rw [List.mem_range] at hi hj
    have := toUInt32_injOn (by omega) (by omega) (congrArg Address.bits h)
    omega
  have hadmits : ∀ a ∈ (List.range n).map Address.numbered, Host.ten.admits a = true := by
    intro a ha
    obtain ⟨i, hi, rfl⟩ := List.mem_map.mp ha
    exact Host.admits_numbered (Nat.lt_of_lt_of_le (List.mem_range.mp hi) hn)
  rw [Neighbours.addresses, withNeighbours, run_probed hnodup hadmits]
  simp only [List.length_map, List.length_reverse, List.length_range]

end Mapper

/-! ## Limits -/

namespace Client

/-- Whatever has happened to a daemon, a client reads the names from it as they are
registered exactly if their list has at most 2²⁴ bytes, and the addresses as they are
known exactly if there are at most 65536. It refuses longer lists, and tells how long
they are (for names, if their list has less than four gigabytes). Asking changes
nothing. -/
theorem lists_read_iff (host : Host) (port : UInt16) (probing : Settings.Probing)
    (os : List Occurrence) (isFree : Vacancy) (now : Nat) (source daemon : Endpoint) :
    let m := (Mapper.start host port probing).run os
    let network := Session.network isFree now source
    let bytes := (m.directory.listing.map fun e => 2 + e.name.length).sum
    let count := m.neighbours.addresses.length
    ((names network daemon m).1 = .ok m.directory.listing ↔ bytes ≤ 16777216) ∧
      (16777216 < bytes → bytes < 4294967296 →
        (names network daemon m).1 = .error (.malformed (.replyTooLarge bytes))) ∧
      ((servers network daemon m).1 = .ok m.neighbours.addresses ↔ count ≤ 65536) ∧
      (65536 < count →
        (servers network daemon m).1 = .error (.malformed (.replyTooLarge count))) ∧
      (names network daemon m).2 = m ∧ (servers network daemon m).2 = m := by
  intro m network bytes count
  have hm : m.Reachable := ⟨_, _, _, _, rfl⟩
  have hbytes : bytes = (Reply.namesBody m.directory.listing).length :=
    (Reply.length_namesBody _).symm
  rw [hbytes]
  refine ⟨names_eq_listing_iff hm, fun h hlt => ?_, servers_eq_addresses_iff hm, fun h => ?_,
    ?_, ?_⟩
  · rw [names_network, readNames_of_lt h hlt]
  · rw [servers_network, readAddresses_of_lt h hm.sound.length_addresses_lt]
  · rw [names_network]
  · rw [servers_network]

/-- The longest lists of names of 255 bytes and of addresses that are read, and those
that have one more. -/
theorem longest_lists_read :
    let daemon : Endpoint := ⟨.localhost, 538⟩
    let network := Session.network (fun _ => false) 0 ⟨.localhost, 50001⟩
    let read := Mapper.withNames 65280
    let refused := Mapper.withNames 65281
    let met := Mapper.withNeighbours 65536
    let crowded := Mapper.withNeighbours 65537
    (names network daemon read).1 = .ok read.directory.listing ∧
      (names network daemon refused).1 = .error (.malformed (.replyTooLarge 16777217)) ∧
      (servers network daemon met).1 = .ok met.neighbours.addresses ∧
      (servers network daemon crowded).1 = .error (.malformed (.replyTooLarge 65537)) := by
  intro daemon network read refused met crowded
  have hread (n : Nat) := lists_read_iff ⟨[Host.loopbackInterface]⟩ 538 {}
    (((List.range n).map Registration.numbered).map (Mapper.registering ⟨.localhost, 50000⟩))
    (fun _ => false) 0 ⟨.localhost, 50001⟩ daemon
  have hmet (n : Nat) := lists_read_iff Host.ten 538 {}
    (((List.range n).map Address.numbered).map (Mapper.probed (.ofOctets 10 0 0 1)))
    (fun _ => false) 0 ⟨.localhost, 50001⟩ daemon
  have hbytes {n : Nat} (hn : n ≤ 4294967296) := Mapper.length_withNames hn
  have hcount {n : Nat} (hn : n ≤ 16776960) := Mapper.length_withNeighbours hn
  refine ⟨?_, ?_, ?_, ?_⟩
  · refine (hread 65280).1.mpr ?_
    exact (hbytes (by decide)).trans_le (by decide)
  · have h := (hread 65281).2.1
    rw [← Mapper.withNames, hbytes (by decide)] at h
    exact h (by decide) (by decide)
  · refine (hmet 65536).2.2.1.mpr ?_
    exact (hcount (by decide)).trans_le (by decide)
  · have h := (hmet 65537).2.2.2.1
    rw [← Mapper.withNeighbours, hcount (by decide)] at h
    exact h (by decide)

/-- Daemons do not keep to the limits of their clients: 65281 names that clients of the
host have registered are more than is read, and so are 65537 hosts of one network. -/
theorem lists_not_always_read :
    let daemon : Endpoint := ⟨.localhost, 538⟩
    let network := Session.network (fun _ => false) 0 ⟨.localhost, 50001⟩
    let named := Mapper.withNames 65281
    let crowded := Mapper.withNeighbours 65537
    (named.Reachable ∧ (names network daemon named).1 ≠ .ok named.directory.listing) ∧
      crowded.Reachable ∧
        (servers network daemon crowded).1 ≠ .ok crowded.neighbours.addresses := by
  intro daemon network named crowded
  have hnamed : named.Reachable := Mapper.reachable_withNames 65281
  have hcrowded : crowded.Reachable := Mapper.reachable_withNeighbours 65537
  refine ⟨⟨hnamed, fun hread => ?_⟩, hcrowded, fun hread => ?_⟩
  · have hle := (names_eq_listing_iff hnamed).mp hread
    rw [Reply.length_namesBody, Mapper.length_withNames (by decide)] at hle
    exact absurd hle (by decide)
  · have hle := (servers_eq_addresses_iff hcrowded).mp hread
    rw [Mapper.length_withNeighbours (by decide)] at hle
    exact absurd hle (by decide)

end Client

end PortMapper
