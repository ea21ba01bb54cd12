import PortMapper.Client
import PortMapper.Proofs.Request.Codec

/-!
# Reading replies

What a reply is written from is read back from it, whatever follows it on the
connection: a port (`Client.readPort_port`), a list of addresses
(`Client.readAddresses_addresses`) and a list of names
(`Client.readNames_names`). A list is only read within the limits of the reader;
a longer one is refused once its header is known.

No two lists of names are written alike (`Reply.namesBody_of_readNames`), and what
a client reads takes as many bytes as the header says (`Client.length_of_readNames`).
So a header that has wrapped around, of a list of four gigabytes or more, never
makes a client take a part of the list for the whole.
-/

namespace PortMapper

/-! ## Kinds -/

namespace PortKind

variable {b : UInt8}

theorem ofByte_toByte (k : PortKind) : ofByte k.toByte = .ok k := by
  simp only [ofByte, ofByte?_toByte]

/-- The transport is in the high bits of a kind byte. -/
theorem div_of_transportOf? {t : Transport} (h : transportOf? b = some t) (s : ServiceClass) :
    b.toNat / 16 = (toByte ⟨t, s⟩).toNat / 16 := by
  have hhigh : (b >>> 4).toNat = b.toNat / 16 := by
    rw [UInt8.toNat_shiftRight, Nat.shiftRight_eq_div_pow]
    rfl
  rw [transportOf?] at h
  rw [← hhigh]
  split at h <;> cases h <;> rename_i hb <;> rw [hb] <;> cases s <;> rfl

/-- The service class is in the low bits of a kind byte. -/
theorem mod_of_serviceOf? {s : ServiceClass} (h : serviceOf? b = some s) (t : Transport) :
    b.toNat % 16 = (toByte ⟨t, s⟩).toNat % 16 := by
  have hlow : (b &&& 0x0f).toNat = b.toNat % 16 := by
    rw [UInt8.toNat_and]
    exact Nat.and_two_pow_sub_one_eq_mod b.toNat 4
  rw [serviceOf?] at h
  rw [← hlow]
  split at h <;> cases h <;> rename_i hb <;> rw [hb] <;> cases t <;> rfl

/-- A kind is sent as the byte that it is read from. -/
theorem toByte_of_ofByte {k : PortKind} (h : ofByte b = .ok k) : k.toByte = b := by
  rw [ofByte] at h
  split at h <;> cases h
  rename_i hk
  obtain ⟨t, ht, s, hs, rfl⟩ : ∃ t, transportOf? b = some t ∧ ∃ s, serviceOf? b = some s ∧
      ⟨t, s⟩ = k := by simpa [ofByte?, Option.bind_eq_some_iff] using hk
  have hhigh := div_of_transportOf? ht s
  have hlow := mod_of_serviceOf? hs t
  apply UInt8.toNat_inj.mp
  omega

end PortKind

namespace Reply

variable {es : List Listed} {bytes : Bytes}

/-! ## Names -/

@[simp] theorem namesBody_cons (e : Listed) (es : List Listed) :
    namesBody (e :: es) = e.name.length.toUInt8 :: e.kind.toByte :: (e.name ++ namesBody es) := rfl

/-- How the first name of a list is read, and then the others. -/
theorem readNames_cons_cons (length kindByte : UInt8) (rest : Bytes) :
    readNames (length :: kindByte :: rest) =
      match PortKind.ofByte kindByte with
      | .error f => .error f
      | .ok kind =>
        if rest.length < length.toNat then .error .truncatedNames
        else (readNames (rest.drop length.toNat)).map (⟨rest.take length.toNat, kind⟩ :: ·) := by
  rw [readNames]
  cases PortKind.ofByte kindByte with
  | error f => rfl
  | ok kind =>
    change (if rest.length < length.toNat then _ else _) = ite _ _ _
    split <;> rfl

/-- Names that a request can carry are read first, and then what follows them. -/
theorem readNames_append (h : ∀ e ∈ es, e.name.length ≤ maxNameLength) (rest : Bytes) :
    readNames (namesBody es ++ rest) = (readNames rest).map (es ++ ·) := by
  induction es with
  | nil =>
    change readNames rest = _
    cases readNames rest <;> rfl
  | cons e es ih =>
    obtain ⟨he, hes⟩ := List.forall_mem_cons.mp h
    have hle : ¬(e.name ++ (namesBody es ++ rest)).length < e.name.length := by simp
    simp only [namesBody_cons, List.cons_append, List.append_assoc, readNames_cons_cons,
      PortKind.ofByte_toByte, toNat_toUInt8_of_le he, if_neg hle, List.drop_left, List.take_left,
      ih hes]
    cases readNames rest <;> rfl

/-- Names that a request can carry are read from the bytes they are written in. -/
theorem readNames_namesBody (h : ∀ e ∈ es, e.name.length ≤ maxNameLength) :
    readNames (namesBody es) = .ok es := by
  have hread := readNames_append h []
  rwa [List.append_nil, readNames, Except.map, List.append_nil] at hread

/-- What a list of names is made of, if it is read. -/
theorem exists_of_readNames {length kindByte : UInt8} {rest : Bytes}
    (h : readNames (length :: kindByte :: rest) = .ok es) :
    ∃ kind es', PortKind.ofByte kindByte = .ok kind ∧ length.toNat ≤ rest.length ∧
      readNames (rest.drop length.toNat) = .ok es' ∧
      es = ⟨rest.take length.toNat, kind⟩ :: es' := by
  rw [readNames_cons_cons] at h
  split at h
  · cases h
  rename_i kind hkind
  split at h
  · cases h
  rename_i hle
  cases hrest : readNames (rest.drop length.toNat) with
  | error f =>
    rw [hrest] at h
    cases h
  | ok es' =>
    rw [hrest] at h
    exact ⟨kind, es', hkind, Nat.le_of_not_lt hle, rfl, (Except.ok.inj h).symm⟩

/-- Names that were read are written in the bytes they were read from. -/
theorem namesBody_of_readNames (h : readNames bytes = .ok es) : namesBody es = bytes := by
  induction bytes using readNames.induct generalizing es with
  | case1 =>
    rw [readNames] at h
    cases h
    rfl
  | case2 b =>
    rw [readNames] at h
    cases h
  | case3 length kindByte rest ih =>
    obtain ⟨kind, es', hkind, hle, hes', rfl⟩ := exists_of_readNames h
    have hlength : (rest.take length.toNat).length.toUInt8 = length := by
      rw [List.length_take_of_le hle, Nat.toUInt8_eq, UInt8.ofNat_toNat]
    rw [namesBody_cons, hlength, PortKind.toByte_of_ofByte hkind, ih hes', List.take_append_drop]

/-! ## Headers -/

/-- Whether a header is read as the number in it, which must not be over the limit. -/
def IsHeader (limit : Nat) (announced : UInt8 → UInt8 → UInt8 → UInt8 → Except MessageFault Nat) :
    Prop :=
  ∀ a b c d, announced a b c d =
    if limit < (ofWord a b c d).toNat then .error (.replyTooLarge (ofWord a b c d).toNat)
    else .ok (ofWord a b c d).toNat

theorem isHeader_addressCount : IsHeader maxAddresses addressCount := fun _ _ _ _ => rfl

theorem isHeader_namesLength : IsHeader maxNamesBytes namesLength := fun _ _ _ _ => rfl

theorem toNat_toUInt32 {n : Nat} (h : n < 4294967296) : n.toUInt32.toNat = n := by
  rw [Nat.toUInt32_eq, UInt32.toNat_ofNat']
  exact Nat.mod_eq_of_lt h

end Reply

namespace Client

variable {es : List Reply.Listed} {as : List Address} {bs rest : Bytes} {ending : Ending} {n : Nat}

theorem take_append (h : bs.length = n) :
    take ⟨bs ++ rest, ending⟩ n = .ok (bs, ⟨rest, ending⟩) := by
  rw [take, ← h, Stream.take_append]

/-! ## Ports -/

/-- A port is read from the reply that it is sent in. -/
theorem readPort_port (p : UInt32) : readPort ⟨Reply.port p ++ rest, ending⟩ = .ok p := by
  have hlength : (Reply.port p).length = 4 := rfl
  rw [readPort, take_append hlength]
  change checked (Reply.readPort (Reply.port p)) = _
  rw [Reply.readPort_port]
  rfl

/-! ## Lists -/

/-- The number that a list begins with is refused if it is over the limit. -/
theorem takeHeader_word {announced : UInt8 → UInt8 → UInt8 → UInt8 → Except MessageFault Nat}
    {limit : Nat} (h : Reply.IsHeader limit announced) (n : UInt32) :
    takeHeader ⟨word n ++ rest, ending⟩ announced =
      if limit < n.toNat then .error (.malformed (.replyTooLarge n.toNat))
      else .ok (n.toNat, ⟨rest, ending⟩) := by
  rw [takeHeader, take_append (length_word n)]
  change (checked (announced (n >>> 24).toUInt8 (n >>> 16).toUInt8 (n >>> 8).toUInt8 n.toUInt8) >>=
    fun k => Except.ok (k, _)) = _
  rw [h, ofWord_word]
  split <;> rfl

/-- Addresses are read from the reply that they are sent in. -/
theorem readAddresses_addresses (h : as.length ≤ Reply.maxAddresses) :
    readAddresses ⟨Reply.addresses as ++ rest, ending⟩ = .ok as := by
  have hcount : as.length.toUInt32.toNat = as.length :=
    Reply.toNat_toUInt32 (Nat.lt_of_le_of_lt h (by decide))
  have hbody : (Address.encodeAll as).length = as.length * Address.size := by
    rw [Address.length_encodeAll, Nat.mul_comm]
  rw [readAddresses, Reply.addresses, List.append_assoc,
    takeHeader_word Reply.isHeader_addressCount, hcount, if_neg (Nat.not_lt_of_le h)]
  change (take ⟨Address.encodeAll as ++ rest, ending⟩ (as.length * Address.size) >>= _) = _
  rw [take_append hbody]
  change checked (Reply.readAddresses (Address.encodeAll as) as.length) = _
  rw [Reply.readAddresses, if_pos hbody, Address.decodeAll_encodeAll]
  rfl

/-- More addresses than the reader accepts are refused. -/
theorem readAddresses_of_lt (h : Reply.maxAddresses < as.length) (hlt : as.length < 4294967296) :
    readAddresses ⟨Reply.addresses as ++ rest, ending⟩ =
      .error (.malformed (.replyTooLarge as.length)) := by
  rw [readAddresses, Reply.addresses, List.append_assoc,
    takeHeader_word Reply.isHeader_addressCount, Reply.toNat_toUInt32 hlt, if_pos h]
  rfl

/-- Names are read from the reply that they are sent in. -/
theorem readNames_names (h : ∀ e ∈ es, e.name.length ≤ maxNameLength)
    (hbody : (Reply.namesBody es).length ≤ Reply.maxNamesBytes) :
    readNames ⟨Reply.names es ++ rest, ending⟩ = .ok es := by
  have hlength : (Reply.namesBody es).length.toUInt32.toNat = (Reply.namesBody es).length :=
    Reply.toNat_toUInt32 (Nat.lt_of_le_of_lt hbody (by decide))
  rw [readNames, Reply.names, List.append_assoc, takeHeader_word Reply.isHeader_namesLength,
    hlength, if_neg (Nat.not_lt_of_le hbody)]
  change (take ⟨Reply.namesBody es ++ rest, ending⟩ (Reply.namesBody es).length >>= _) = _
  rw [take_append rfl]
  change checked (Reply.readNames (Reply.namesBody es)) = _
  rw [Reply.readNames_namesBody h]
  rfl

/-- Names that take more bytes than the reader accepts are refused. -/
theorem readNames_of_lt (h : Reply.maxNamesBytes < (Reply.namesBody es).length)
    (hlt : (Reply.namesBody es).length < 4294967296) :
    readNames ⟨Reply.names es ++ rest, ending⟩ =
      .error (.malformed (.replyTooLarge (Reply.namesBody es).length)) := by
  rw [readNames, Reply.names, List.append_assoc, takeHeader_word Reply.isHeader_namesLength,
    Reply.toNat_toUInt32 hlt, if_pos h]
  rfl

/-- The bytes that a client takes are the first ones of the stream. -/
theorem eq_take_of_take {s : Stream} {taken : Bytes × Stream} (h : take s n = .ok taken) :
    taken.1 = s.bytes.take n ∧ n ≤ s.bytes.length := by
  rw [take, Stream.take] at h
  by_cases hle : n ≤ s.bytes.length
  · rw [if_pos hle] at h
    cases h
    exact ⟨rfl, hle⟩
  · rw [if_neg hle] at h
    cases hending : s.ending <;> rw [hending] at h <;> cases h

theorem eq_ok_of_checked {α : Type} {e : Except MessageFault α} {a : α} (h : checked e = .ok a) :
    e = .ok a := by
  cases e with
  | error f => cases h
  | ok b => exact congrArg Except.ok (Except.ok.inj h)

/-- Names that a client reads take as many bytes as their header says, which the
client accepts. -/
theorem length_of_readNames {n : UInt32} (h : readNames ⟨word n ++ rest, ending⟩ = .ok es) :
    (Reply.namesBody es).length = n.toNat ∧ n.toNat ≤ Reply.maxNamesBytes := by
  rw [readNames, takeHeader_word Reply.isHeader_namesLength] at h
  split at h
  · cases h
  rename_i hle
  change (take ⟨rest, ending⟩ n.toNat >>= fun taken => checked (Reply.readNames taken.1)) = _ at h
  cases htake : take ⟨rest, ending⟩ n.toNat with
  | error f =>
    rw [htake] at h
    cases h
  | ok taken =>
    rw [htake] at h
    obtain ⟨heq, hlength⟩ := eq_take_of_take htake
    rw [Reply.namesBody_of_readNames (eq_ok_of_checked h), heq, List.length_take_of_le hlength]
    exact ⟨rfl, Nat.le_of_not_lt hle⟩

end Client

end PortMapper
