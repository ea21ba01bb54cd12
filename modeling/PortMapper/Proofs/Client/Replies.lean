import PortMapper.Proofs.Client.Search
import PortMapper.Proofs.Reply.Truncated

/-!
# Which replies a client accepts

A client reads a reply from the bytes that come, whatever a daemon meant by them. What it
reads as a list is decided by the number that the list begins with
(`Client.ListRead`): a number over the limit is refused at once, and otherwise as many bytes
as it announces have to come. So a client accepts a list exactly if the stream begins with
that list as it is written, within the limits (`Client.readAddresses_eq_ok_iff`,
`Client.readNames_eq_ok_iff`), and a port exactly if the stream begins with that port
(`Client.readPort_eq_ok_iff`). All calls together are `Client.replies_accepted_exactly`.

Since a client waits for all bytes that it wants, none of its calls ever complains about a
reply that is short.
-/

namespace PortMapper

/-! ## Addresses -/

namespace Address

/-- Addresses are written in the bytes that they were read from, if none are left over. -/
theorem encodeAll_decodeAll {bytes : Bytes} (h : bytes.length % size = 0) :
    encodeAll (decodeAll bytes) = bytes := by
  fun_induction decodeAll bytes with
  | case1 a b c d rest ih =>
    have hrest : rest.length % size = 0 := by
      simp only [List.length_cons, size] at h ⊢
      omega
    rw [encodeAll_cons, octets_ofOctets, ih hrest]
    rfl
  | case2 bytes hshort =>
    -- Fewer than four bytes are left, so that none are.
    rcases bytes with _ | ⟨a, _ | ⟨b, _ | ⟨c, _ | ⟨d, rest⟩⟩⟩⟩
    · rfl
    · cases h
    · cases h
    · cases h
    · exact absurd rfl (hshort a b c d rest)

end Address

/-! ## Names -/

theorem PortKind.fault_of_ofByte {b : UInt8} {f : MessageFault} (h : PortKind.ofByte b = .error f) :
    f = .invalidKind b := by
  rw [ofByte] at h
  split at h <;> cases h
  rfl

/-- What may be wrong with the names of a list. -/
theorem Reply.fault_of_readNames {bytes : Bytes} {f : MessageFault}
    (h : readNames bytes = .error f) : (∃ b, f = .invalidKind b) ∨ f = .truncatedNames := by
  induction bytes using readNames.induct with
  | case1 =>
    rw [readNames] at h
    cases h
  | case2 b =>
    rw [readNames] at h
    cases h
    exact .inr rfl
  | case3 length kindByte rest ih =>
    rw [readNames_cons_cons] at h
    split at h
    · rename_i f' hkind
      cases h
      exact .inl ⟨kindByte, PortKind.fault_of_ofByte hkind⟩
    split at h
    · cases h
      exact .inr rfl
    · cases hrest : readNames (rest.drop length.toNat) with
      | ok es =>
        rw [hrest] at h
        cases h
      | error f' =>
        rw [hrest] at h
        cases h
        exact ih hrest

/-! ## Streams -/

/-- Every four bytes are a number. -/
theorem exists_word_append {bytes : Bytes} (h : 4 ≤ bytes.length) :
    ∃ n rest, bytes = word n ++ rest := by
  match bytes, h with
  | a :: b :: c :: d :: rest, _ =>
    refine ⟨ofWord a b c d, rest, ?_⟩
    rw [word_ofWord]
    rfl

/-- What a client says if a stream ends before all bytes that it wants have come. -/
def Ending.fault : Ending → CallFault
  | .closed => .closed
  | .stalled => .timedOut .read
  | .broken f => .system f

namespace Client

variable {α : Type} {s : Stream} {n : Nat} {as : List Address} {es : List Reply.Listed}
  {limit : Nat} {announced : UInt8 → UInt8 → UInt8 → UInt8 → Except MessageFault Nat}
  {bodyLength : Nat → Nat} {decode : Bytes → Nat → Except MessageFault α}

theorem take_of_le (h : n ≤ s.bytes.length) :
    take s n = .ok (s.bytes.take n, { s with bytes := s.bytes.drop n }) := by
  rw [take, Stream.take, if_pos h]

theorem take_of_lt (h : s.bytes.length < n) : take s n = .error s.ending.fault := by
  rw [take, Stream.take, if_neg (Nat.not_le_of_lt h)]
  cases s.ending <;> rfl

/-! ## Ports -/

theorem readPort_of_lt (h : s.bytes.length < 4) : readPort s = .error s.ending.fault := by
  rw [readPort, take_of_lt h]
  rfl

/-- A port is read from a stream that begins with it. -/
theorem readPort_eq_ok_iff {p : UInt32} : readPort s = .ok p ↔ word p <+: s.bytes := by
  constructor
  · intro h
    rcases Nat.lt_or_ge s.bytes.length 4 with hlt | hge
    · rw [readPort_of_lt hlt] at h
      cases h
    · obtain ⟨q, rest, hbytes⟩ := exists_word_append hge
      have hread : readPort s = .ok q := by
        rw [show s = ⟨Reply.port q ++ rest, s.ending⟩ from congrArg (Stream.mk · s.ending) hbytes]
        exact readPort_port q
      rw [hread] at h
      cases h
      exact ⟨rest, hbytes.symm⟩
  · rintro ⟨rest, hbytes⟩
    rw [show s = ⟨Reply.port p ++ rest, s.ending⟩ from congrArg (Stream.mk · s.ending) hbytes.symm]
    exact readPort_port p

/-! ## Lists -/

/-- Reads a list: the number that it begins with says how many bytes have to follow. -/
def readList (announced : UInt8 → UInt8 → UInt8 → UInt8 → Except MessageFault Nat)
    (bodyLength : Nat → Nat) (decode : Bytes → Nat → Except MessageFault α) (s : Stream) :
    Except CallFault α := do
  let (count, rest) ← takeHeader s announced
  let (body, _) ← take rest (bodyLength count)
  checked (decode body count)

theorem readAddresses_eq_readList (s : Stream) :
    readAddresses s = readList Reply.addressCount (· * Address.size) Reply.readAddresses s := rfl

theorem readNames_eq_readList (s : Stream) :
    readNames s = readList Reply.namesLength id (fun body _ => Reply.readNames body) s := rfl

/-- What is made of a stream that should hold a list: by its first four bytes it is too short,
announces more than the limit, is cut before what it announces has come, or is whole. -/
structure ListRead (limit : Nat) (bodyLength : Nat → Nat)
    (decode : Bytes → Nat → Except MessageFault α) (s : Stream) (result : Except CallFault α) :
    Prop where
  short : s.bytes.length < 4 → result = .error s.ending.fault
  tooLarge {n : UInt32} {rest : Bytes} : s.bytes = word n ++ rest → limit < n.toNat →
    result = .error (.malformed (.replyTooLarge n.toNat))
  cut {n : UInt32} {rest : Bytes} : s.bytes = word n ++ rest → n.toNat ≤ limit →
    rest.length < bodyLength n.toNat → result = .error s.ending.fault
  whole {n : UInt32} {rest : Bytes} : s.bytes = word n ++ rest → n.toNat ≤ limit →
    bodyLength n.toNat ≤ rest.length →
    result = checked (decode (rest.take (bodyLength n.toNat)) n.toNat)

theorem listRead_readList (h : Reply.IsHeader limit announced) (bodyLength : Nat → Nat)
    (decode : Bytes → Nat → Except MessageFault α) (s : Stream) :
    ListRead limit bodyLength decode s (readList announced bodyLength decode s) := by
  have hheader {n : UInt32} {rest : Bytes} (hbytes : s.bytes = word n ++ rest) :
      takeHeader s announced = if limit < n.toNat then .error (.malformed (.replyTooLarge n.toNat))
        else .ok (n.toNat, ⟨rest, s.ending⟩) := by
    rw [show s = ⟨word n ++ rest, s.ending⟩ from congrArg (Stream.mk · s.ending) hbytes]
    exact takeHeader_word h n
  refine ⟨fun hlt => ?_, fun hbytes hlimit => ?_, fun hbytes hlimit hcut => ?_,
    fun hbytes hlimit hwhole => ?_⟩
  · rw [readList, takeHeader, take_of_lt hlt]
    rfl
  · rw [readList, hheader hbytes, if_pos hlimit]
    rfl
  · rw [readList, hheader hbytes, if_neg (Nat.not_lt_of_le hlimit)]
    change (take _ _ >>= _) = _
    rw [take_of_lt hcut]
    rfl
  · rw [readList, hheader hbytes, if_neg (Nat.not_lt_of_le hlimit)]
    change (take _ _ >>= _) = _
    rw [take_of_le hwhole]
    rfl

/-- A list that is accepted is whole, and within the limit. -/
theorem ListRead.exists_of_ok {result : Except CallFault α} {a : α}
    (h : ListRead limit bodyLength decode s result) (hok : result = .ok a) :
    ∃ n rest, s.bytes = word n ++ rest ∧ n.toNat ≤ limit ∧ bodyLength n.toNat ≤ rest.length ∧
      decode (rest.take (bodyLength n.toNat)) n.toNat = .ok a := by
  subst hok
  rcases Nat.lt_or_ge s.bytes.length 4 with hlt | hge
  · cases h.short hlt
  obtain ⟨n, rest, hbytes⟩ := exists_word_append hge
  rcases Nat.lt_or_ge limit n.toNat with hover | hlimit
  · cases h.tooLarge hbytes hover
  rcases Nat.lt_or_ge rest.length (bodyLength n.toNat) with hcut | hwhole
  · cases h.cut hbytes hlimit hcut
  exact ⟨n, rest, hbytes, hlimit, hwhole, eq_ok_of_checked (h.whole hbytes hlimit hwhole).symm⟩

theorem listRead_readAddresses (s : Stream) :
    ListRead Reply.maxAddresses (· * Address.size) Reply.readAddresses s (readAddresses s) := by
  rw [readAddresses_eq_readList]
  exact listRead_readList Reply.isHeader_addressCount _ _ s

theorem listRead_readNames (s : Stream) :
    ListRead Reply.maxNamesBytes id (fun body _ => Reply.readNames body) s (readNames s) := by
  rw [readNames_eq_readList]
  exact listRead_readList Reply.isHeader_namesLength _ _ s

/-- Addresses are read from a stream that begins with their list, if this keeps to the limit. -/
theorem readAddresses_eq_ok_iff : readAddresses s = .ok as ↔
    as.length ≤ Reply.maxAddresses ∧ Reply.addresses as <+: s.bytes := by
  constructor
  · intro h
    obtain ⟨n, rest, hbytes, hlimit, hwhole, hdecode⟩ := (listRead_readAddresses s).exists_of_ok h
    have hlength : (rest.take (n.toNat * Address.size)).length = n.toNat * Address.size :=
      List.length_take_of_le hwhole
    rw [Reply.readAddresses, if_pos hlength] at hdecode
    cases hdecode
    have hbody : Address.encodeAll (Address.decodeAll (rest.take (n.toNat * Address.size))) =
        rest.take (n.toNat * Address.size) := by
      apply Address.encodeAll_decodeAll
      rw [hlength, Nat.mul_mod_left]
    have hcount : (Address.decodeAll (rest.take (n.toNat * Address.size))).length = n.toNat := by
      rw [← hbody, Address.length_encodeAll, Nat.mul_comm] at hlength
      exact Nat.eq_of_mul_eq_mul_right (by decide) hlength
    refine ⟨hcount.trans_le hlimit, ?_⟩
    rw [Reply.addresses, hcount, hbody, hbytes, Nat.toUInt32_eq, UInt32.ofNat_toNat]
    exact (List.prefix_append_right_inj _).mpr (List.take_prefix ..)
  · rintro ⟨hlimit, rest, hbytes⟩
    rw [show s = ⟨Reply.addresses as ++ rest, s.ending⟩ from
      congrArg (Stream.mk · s.ending) hbytes.symm]
    exact readAddresses_addresses hlimit

/-- Names are read from a stream that begins with their list, if this keeps to the limit and
none of them is longer than a request can carry. -/
theorem readNames_eq_ok_iff : readNames s = .ok es ↔
    (∀ e ∈ es, e.name.length ≤ maxNameLength) ∧
      (Reply.namesBody es).length ≤ Reply.maxNamesBytes ∧ Reply.names es <+: s.bytes := by
  constructor
  · intro h
    obtain ⟨n, rest, hbytes, hlimit, hwhole, hdecode⟩ := (listRead_readNames s).exists_of_ok h
    have hbody : Reply.namesBody es = rest.take n.toNat := Reply.namesBody_of_readNames hdecode
    have hlength : (Reply.namesBody es).length = n.toNat := by
      rw [hbody]
      exact List.length_take_of_le hwhole
    refine ⟨Reply.length_name_of_readNames hdecode, hlength.trans_le hlimit, ?_⟩
    rw [Reply.names, hlength, hbody, hbytes, Nat.toUInt32_eq, UInt32.ofNat_toNat]
    exact (List.prefix_append_right_inj _).mpr (List.take_prefix ..)
  · rintro ⟨hnames, hlimit, rest, hbytes⟩
    rw [show s = ⟨Reply.names es ++ rest, s.ending⟩ from
      congrArg (Stream.mk · s.ending) hbytes.symm]
    exact readNames_names hnames hlimit

/-! ## Faults -/

/-- Whether a call complains that a reply is short. -/
def FindsShort (result : Except CallFault α) : Prop :=
  ∃ expected got, result = .error (.malformed (.shortReply expected got))

theorem not_findsShort_ok (a : α) : ¬FindsShort (.ok a : Except CallFault α) := by
  rintro ⟨expected, got, h⟩
  cases h

/-- What a call that fails complains of does not depend on what it should have returned. -/
theorem findsShort_error_iff {f : CallFault} : FindsShort (.error f : Except CallFault α) ↔
    ∃ expected got, f = .malformed (.shortReply expected got) := by
  simp only [FindsShort, Except.error.injEq]

theorem not_findsShort_fault (ending : Ending) :
    ¬FindsShort (.error ending.fault : Except CallFault α) := by
  rintro ⟨expected, got, h⟩
  cases ending <;> cases h

theorem not_findsShort_checked {e : Except MessageFault α}
    (h : ∀ expected got, e ≠ .error (.shortReply expected got)) : ¬FindsShort (checked e) := by
  rintro ⟨expected, got, hshort⟩
  cases e with
  | ok a => cases hshort
  | error f =>
    cases hshort
    exact h expected got rfl

/-- A list is not found short if none is that is whole. -/
theorem ListRead.not_findsShort {result : Except CallFault α}
    (h : ListRead limit bodyLength decode s result)
    (hdecode : ∀ body count, body.length = bodyLength count →
      ∀ expected got, decode body count ≠ .error (.shortReply expected got)) :
    ¬FindsShort result := by
  rcases Nat.lt_or_ge s.bytes.length 4 with hlt | hge
  · rw [h.short hlt]
    exact not_findsShort_fault _
  obtain ⟨n, rest, hbytes⟩ := exists_word_append hge
  rcases Nat.lt_or_ge limit n.toNat with hover | hlimit
  · rw [h.tooLarge hbytes hover, findsShort_error_iff]
    rintro ⟨expected, got, hshort⟩
    cases hshort
  rcases Nat.lt_or_ge rest.length (bodyLength n.toNat) with hcut | hwhole
  · rw [h.cut hbytes hlimit hcut]
    exact not_findsShort_fault _
  · rw [h.whole hbytes hlimit hwhole]
    exact not_findsShort_checked (hdecode _ _ (List.length_take_of_le hwhole))

theorem not_findsShort_readPort (s : Stream) : ¬FindsShort (readPort s) := by
  rcases Nat.lt_or_ge s.bytes.length 4 with hlt | hge
  · rw [readPort_of_lt hlt]
    exact not_findsShort_fault _
  · obtain ⟨p, rest, hbytes⟩ := exists_word_append hge
    rw [readPort_eq_ok_iff.mpr ⟨rest, hbytes.symm⟩]
    exact not_findsShort_ok p

theorem not_findsShort_readAddresses (s : Stream) : ¬FindsShort (readAddresses s) := by
  refine (listRead_readAddresses s).not_findsShort fun body count hbody expected got h => ?_
  rw [Reply.readAddresses, if_pos hbody] at h
  cases h

theorem not_findsShort_readNames (s : Stream) : ¬FindsShort (readNames s) := by
  refine (listRead_readNames s).not_findsShort fun body count hbody expected got h => ?_
  rcases Reply.fault_of_readNames h with ⟨b, heq⟩ | heq <;> cases heq

/-! ## Calls -/

variable {σ : Type} {network : Network σ} {daemon : Endpoint} {r : Request} {state : σ}

/-- A call whose request is taken makes of the reply what reading it does. -/
theorem call_of_received {stream : Stream} (h : (network daemon r.frame state).1 = .received stream)
    (read : Stream → Except CallFault α) :
    (call network daemon (.ok r) read state).1 = read stream := by
  rw [call]
  generalize network daemon r.frame state = delivered at h
  obtain ⟨delivery, after⟩ := delivered
  cases h
  rfl

theorem not_findsShort_call {request : Except MessageFault Request}
    {read : Stream → Except CallFault α}
    (hrequest : ∀ expected got, request ≠ .error (.shortReply expected got))
    (hread : ∀ stream, ¬FindsShort (read stream)) :
    ¬FindsShort (call network daemon request read state).1 := by
  cases request with
  | error f =>
    rintro ⟨expected, got, h⟩
    cases h
    exact hrequest expected got rfl
  | ok r =>
    rw [call]
    split
    · rintro ⟨expected, got, h⟩
      cases h
    · rintro ⟨expected, got, h⟩
      cases h
    · exact hread _

/-- A request about a name cannot be made if the name is too long, and for no other reason. -/
theorem not_short_naming (opcode : Opcode) (name : Bytes) (port : UInt32) (kind : PortKind)
    (expected got : Nat) :
    Request.naming opcode name port kind ≠ .error (.shortReply expected got) := by
  rw [Request.naming]
  split <;> exact fun h => by cases h

theorem not_findsShort_lookup (name : Bytes) (kind : PortKind) :
    ¬FindsShort (lookup network daemon name kind state).1 :=
  not_findsShort_call (not_short_naming .lookup name 0 kind) not_findsShort_readPort

theorem not_findsShort_of_mem {name : Bytes} {port : UInt32} {kind : PortKind} {sender : Address}
    {result : Except CallFault UInt32}
    (h : result ∈ [(register network daemon name port kind state).1,
      (lookup network daemon name kind state).1,
      (unregister network daemon name port kind state).1,
      (probe network daemon sender state).1]) : ¬FindsShort result := by
  simp only [List.mem_cons, List.not_mem_nil, or_false] at h
  rcases h with rfl | rfl | rfl | rfl
  · exact not_findsShort_call (not_short_naming .register name port kind) not_findsShort_readPort
  · exact not_findsShort_lookup name kind
  · exact not_findsShort_call (not_short_naming .unregister name port kind) not_findsShort_readPort
  · exact not_findsShort_call (fun _ _ h => by cases h) not_findsShort_readPort

theorem not_findsShort_servers : ¬FindsShort (servers network daemon state).1 :=
  not_findsShort_call (fun _ _ h => by cases h) not_findsShort_readAddresses

/-- A search complains of what the calls do that it makes of the daemon. -/
theorem not_findsShort_search (name : Bytes) (kind : PortKind) :
    ¬FindsShort (search network daemon name kind state).1 := by
  obtain ⟨result, after, sent, hrun⟩ := exists_searched network daemon name kind state
  rw [hrun.search_eq]
  cases hrun with
  | unanswered own =>
    have hlookup : ¬FindsShort (lookup network daemon name kind state).1 :=
      not_findsShort_lookup name kind
    rwa [own, findsShort_error_iff, ← findsShort_error_iff] at hlookup
  | @unlisted f next after own known =>
    have hservers : ¬FindsShort (servers network daemon next).1 := not_findsShort_servers
    rwa [known, findsShort_error_iff, ← findsShort_error_iff] at hservers
  | here own hp => exact not_findsShort_ok _
  | there own known passed answer hp => exact not_findsShort_ok _
  | nowhere own known passed => exact not_findsShort_ok _

/-- The calls that are answered with a port read it, if their request can be made. -/
theorem eq_readPort_of_mem {stream : Stream}
    (h : ∀ frame, (network daemon frame state).1 = .received stream) {name : Bytes}
    (hname : name.length ≤ maxNameLength) {port : UInt32} {kind : PortKind} {sender : Address}
    {result : Except CallFault UInt32}
    (hresult : result ∈ [(register network daemon name port kind state).1,
      (lookup network daemon name kind state).1,
      (unregister network daemon name port kind state).1,
      (probe network daemon sender state).1]) : result = readPort stream := by
  simp only [List.mem_cons, List.not_mem_nil, or_false] at hresult
  simp only [register, lookup, unregister, probe, Request.register, Request.lookup,
    Request.unregister, Request.naming_of_le hname, call_of_received (h _), or_self] at hresult
  exact hresult

/-- What a client accepts of the bytes that a daemon sends once it has taken the request: a
list of addresses or of names exactly if the stream begins with this list as it is written,
within the limits of the client, and a port exactly if the stream begins with this port. What
follows does not matter.

Otherwise the client says whether the stream was closed, stalled or broken, if fewer bytes
have come than the four of a header or than the header announces; that the list is too large,
if the header announces more than the limit, whatever follows; and what is wrong with the
names, if they have all come and cannot be read. No call complains of a reply that is short,
wherever it goes. -/
theorem replies_accepted_exactly (network : Network σ) (daemon : Endpoint) (state : σ)
    {stream : Stream} (h : ∀ frame, (network daemon frame state).1 = .received stream) :
    let fault := stream.ending.fault
    let served := (servers network daemon state).1
    let named := (names network daemon state).1
    (∀ as, served = .ok as ↔ as.length ≤ 65536 ∧ Reply.addresses as <+: stream.bytes) ∧
    (∀ es, named = .ok es ↔ (∀ e ∈ es, e.name.length ≤ 255) ∧
      (Reply.namesBody es).length ≤ 2 ^ 24 ∧ Reply.names es <+: stream.bytes) ∧
    (∀ name port kind sender, name.length ≤ 255 →
      ∀ result ∈ [(register network daemon name port kind state).1,
          (lookup network daemon name kind state).1,
          (unregister network daemon name port kind state).1,
          (probe network daemon sender state).1],
        (∀ p, result = .ok p ↔ word p <+: stream.bytes) ∧
          (stream.bytes.length < 4 → result = .error fault)) ∧
    (stream.bytes.length < 4 → served = .error fault ∧ named = .error fault) ∧
    (∀ n rest, stream.bytes = word n ++ rest →
      (65536 < n.toNat → served = .error (.malformed (.replyTooLarge n.toNat))) ∧
      (n.toNat ≤ 65536 → rest.length < n.toNat * 4 → served = .error fault) ∧
      (2 ^ 24 < n.toNat → named = .error (.malformed (.replyTooLarge n.toNat))) ∧
      (n.toNat ≤ 2 ^ 24 → rest.length < n.toNat → named = .error fault) ∧
      ∀ f, n.toNat ≤ 2 ^ 24 → n.toNat ≤ rest.length →
        Reply.readNames (rest.take n.toNat) = .error f →
          named = .error (.malformed f) ∧ ((∃ b, f = .invalidKind b) ∨ f = .truncatedNames)) ∧
    ∀ (τ : Type) (network : Network τ) daemon state name port kind sender,
      (∀ result ∈ [(register network daemon name port kind state).1,
          (lookup network daemon name kind state).1,
          (unregister network daemon name port kind state).1,
          (probe network daemon sender state).1], ¬FindsShort result) ∧
        ¬FindsShort (servers network daemon state).1 ∧
        ¬FindsShort (names network daemon state).1 ∧
        ¬FindsShort (search network daemon name kind state).1 := by
  intro fault served named
  have hserved : served = readAddresses stream := call_of_received (h _) readAddresses
  have hnamed : named = readNames stream := call_of_received (h _) readNames
  have haddresses := listRead_readAddresses stream
  have hnames := listRead_readNames stream
  rw [← hserved] at haddresses
  rw [← hnamed] at hnames
  refine ⟨fun as => ?_, fun es => ?_, fun name port kind sender hname result hresult => ?_,
    fun hshort => ⟨haddresses.short hshort, hnames.short hshort⟩, fun n rest hbytes => ?_,
    fun τ network daemon state name port kind sender => ?_⟩
  · rw [hserved]
    exact readAddresses_eq_ok_iff
  · rw [hnamed]
    exact readNames_eq_ok_iff
  · rw [eq_readPort_of_mem h hname hresult]
    exact ⟨fun p => readPort_eq_ok_iff, readPort_of_lt⟩
  · refine ⟨haddresses.tooLarge hbytes, haddresses.cut hbytes, hnames.tooLarge hbytes,
      hnames.cut hbytes, fun f hlimit hwhole hf => ⟨?_, Reply.fault_of_readNames hf⟩⟩
    rw [hnames.whole hbytes hlimit hwhole]
    exact congrArg checked hf
  · exact ⟨fun result => not_findsShort_of_mem, not_findsShort_servers,
      not_findsShort_call (fun _ _ h => by cases h) not_findsShort_readNames,
      not_findsShort_search name kind⟩

/-- A daemon that sends two addresses and goes on with other bytes, whatever it is asked for.
Taken for a port, the list begins with the number 2; taken for names, it is one that is cut. -/
theorem addresses_taken_for_names :
    let as : List Address := [.ofOctets 10 17 0 1, .ofOctets 10 17 0 2]
    let network : Network Unit := fun _ _ s =>
      (.received ⟨Reply.addresses as ++ [1, 2, 3], .stalled⟩, s)
    let daemon : Endpoint := ⟨.localhost, 538⟩
    (∀ frame, (network daemon frame ()).1 =
        .received ⟨Reply.addresses as ++ [1, 2, 3], .stalled⟩) ∧
      (servers network daemon ()).1 = .ok as ∧
      (lookup network daemon [0x61] ⟨.tcp, .native⟩ ()).1 = .ok 2 ∧
      (names network daemon ()).1 = .error (.malformed .truncatedNames) := by
  intro as network daemon
  have hreceived : ∀ frame, (network daemon frame ()).1 =
      .received ⟨Reply.addresses as ++ [1, 2, 3], .stalled⟩ := fun _ => rfl
  obtain ⟨hserved, -, hport, -, hlists, -⟩ := replies_accepted_exactly network daemon () hreceived
  obtain ⟨-, -, -, -, hfault⟩ := hlists 2 (Address.encodeAll as ++ [1, 2, 3]) rfl
  refine ⟨hreceived, (hserved as).mpr ⟨by decide, [1, 2, 3], rfl⟩, ?_,
    (hfault .truncatedNames (by decide) (by decide) (by decide +kernel)).1⟩
  have hlookup := hport [0x61] 0 ⟨.tcp, .native⟩ .localhost (by decide) _
    (List.mem_cons_of_mem _ List.mem_cons_self)
  exact (hlookup.1 2).mpr ⟨Address.encodeAll as ++ [1, 2, 3], rfl⟩

end Client

end PortMapper
