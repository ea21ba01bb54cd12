import PortMapper.Proofs.Request.Codec

/-!
# What is read from a frame

A request is read from its frame as it is, and of a name that is too long the
first 255 bytes (`Request.ofFrame_frame_take`). Bytes are a frame exactly if they
are 264 and the first is an opcode (`Request.exists_ofFrame_iff`).

Some bytes of a frame are skipped: the reserved one, and those that follow the
name in its field (`Request.skips`). With zeros in their places it is the frame
that is written for the request in it (`Request.frame_of_ofFrame`). So two frames
are read alike exactly if they agree in all other bytes
(`Request.ofFrame_eq_ok_iff`).
-/

namespace PortMapper

/-! ## Opcodes -/

namespace Opcode

variable {b : UInt8} {op : Opcode}

/-- An opcode is sent as the byte that it is read from. -/
theorem toByte_of_ofByte (h : ofByte b = .ok op) : op.toByte = b := by
  unfold ofByte at h
  split at h <;> cases h <;> rfl

theorem ofByte_of_ne (h : ∀ op : Opcode, b ≠ op.toByte) :
    ofByte b = .error (.unknownOpcode b) := by
  cases hop : ofByte b with
  | ok op => exact absurd (toByte_of_ofByte hop).symm (h op)
  | error f =>
    unfold ofByte at hop
    split at hop <;> cases hop
    rfl

end Opcode

namespace Request

variable {r : Request} {bytes bytes' field : Bytes} {op n k z a b c d : UInt8} {i : Nat}

/-! ## Reading -/

theorem exists_cons_of_length (h : bytes.length = frameSize) :
    ∃ op n k z a b c d field, bytes = op :: n :: k :: z :: a :: b :: c :: d :: field ∧
      field.length = maxNameLength + 1 := by
  match bytes, h with
  | op :: n :: k :: z :: a :: b :: c :: d :: field, h =>
    exact ⟨op, n, k, z, a, b, c, d, field, rfl, by simpa [frameSize, maxNameLength] using h⟩

/-- How a frame is read, given that it is long enough. The length of the name is in
one byte, so that it is never too large. -/
theorem ofFrame_cons (h : field.length = maxNameLength + 1) :
    ofFrame (op :: n :: k :: z :: a :: b :: c :: d :: field) =
      (Opcode.ofByte op).map fun opcode => ⟨opcode, k, ofWord a b c d, field.take n.toNat⟩ := by
  have hlength : (op :: n :: k :: z :: a :: b :: c :: d :: field).length = frameSize := by
    simp [h, frameSize, maxNameLength]
  unfold ofFrame
  rw [if_neg fun hne => hne hlength]
  simp only [if_neg (Nat.not_lt_of_le (toNat_le_maxNameLength n))]
  cases Opcode.ofByte op <;> rfl

theorem ofFrame_of_length_ne (h : bytes.length ≠ frameSize) :
    ofFrame bytes = .error (.badFrameLength bytes.length) := by
  unfold ofFrame
  rw [if_pos h]

theorem ofFrame_of_unknown (hlength : bytes.length = frameSize) (hhead : bytes.head? = some b)
    (h : ∀ opcode : Opcode, b ≠ opcode.toByte) : ofFrame bytes = .error (.unknownOpcode b) := by
  obtain ⟨op, n, k, z, a, b, c, d, field, rfl, hfield⟩ := exists_cons_of_length hlength
  cases Option.some.inj hhead
  rw [ofFrame_cons hfield, Opcode.ofByte_of_ne h]
  rfl

/-- What a frame is made of, if a request is read from it. -/
theorem exists_of_ofFrame (hr : ofFrame bytes = .ok r) :
    ∃ n z field, bytes = r.opcode.toByte :: n :: r.kindByte :: z :: (word r.port ++ field) ∧
      field.length = maxNameLength + 1 ∧ r.name = field.take n.toNat := by
  obtain ⟨op, n, k, z, a, b, c, d, field, rfl, hfield⟩ :=
    exists_cons_of_length (length_of_ofFrame hr)
  rw [ofFrame_cons hfield] at hr
  cases hop : Opcode.ofByte op with
  | error f =>
    rw [hop] at hr
    cases hr
  | ok opcode =>
    rw [hop] at hr
    cases hr
    refine ⟨n, z, field, ?_, hfield, rfl⟩
    rw [Opcode.toByte_of_ofByte hop, word_ofWord]
    rfl

theorem length_name_of_ofFrame (hr : ofFrame bytes = .ok r) : r.name.length ≤ maxNameLength := by
  obtain ⟨n, z, field, -, -, hname⟩ := exists_of_ofFrame hr
  rw [hname]
  exact Nat.le_trans (List.length_take_le ..) (toNat_le_maxNameLength n)

/-- Bytes are a frame if they have its length and begin with an opcode. -/
theorem exists_ofFrame_iff : (∃ r, ofFrame bytes = .ok r) ↔
    bytes.length = frameSize ∧ ∃ opcode : Opcode, bytes.head? = some opcode.toByte := by
  constructor
  · rintro ⟨r, hr⟩
    obtain ⟨n, z, field, heq, -, -⟩ := exists_of_ofFrame hr
    exact ⟨length_of_ofFrame hr, r.opcode, by rw [heq, List.head?_cons]⟩
  · rintro ⟨hlength, opcode, hhead⟩
    obtain ⟨op, n, k, z, a, b, c, d, field, rfl, hfield⟩ := exists_cons_of_length hlength
    cases Option.some.inj hhead
    rw [ofFrame_cons hfield, Opcode.ofByte_toByte]
    exact ⟨_, rfl⟩

/-! ## Reading what was written -/

/-- Of a name, a frame carries the first 255 bytes. -/
theorem ofFrame_frame_take (r : Request) :
    ofFrame r.frame = .ok { r with name := r.name.take maxNameLength } := by
  have hframe : r.frame = frame { r with name := r.name.take maxNameLength } := by
    simp only [frame, List.take_take, Nat.min_self]
  rw [hframe]
  exact ofFrame_frame (List.length_take_le ..)

theorem name_of_naming {opcode : Opcode} {name : Bytes} {port : UInt32} {kind : PortKind}
    (h : naming opcode name port kind = .ok r) : r.name = name ∧ name.length ≤ maxNameLength := by
  rw [naming] at h
  split at h
  · cases h
  · rename_i hle
    cases h
    exact ⟨rfl, Nat.le_of_not_lt hle⟩

/-! ## Writing what was read -/

/-- The bytes of a frame that are not looked at: the reserved one, and those that
follow the name in its field. -/
def skips (bytes : Bytes) (i : Nat) : Bool := i == 3 || 8 + (bytes.getD 1 0).toNat ≤ i

/-- A frame with zeros in place of the bytes that are not looked at. -/
def blanked (bytes : Bytes) : Bytes := bytes.mapIdx fun i b => if skips bytes i then 0 else b

theorem skips_of_lt (h : i < 8) : skips bytes i = (i == 3) := by
  rw [skips, decide_eq_false (by omega), Bool.or_false]

theorem getElem?_blanked (bytes : Bytes) (i : Nat) :
    (blanked bytes)[i]? = if skips bytes i then bytes[i]?.map fun _ => 0 else bytes[i]? := by
  rw [blanked, List.getElem?_mapIdx]
  split <;> simp

/-- A name field with zeros after the name. -/
theorem mapIdx_field (field : Bytes) (n : Nat) :
    (field.mapIdx fun i b => if n ≤ i then 0 else b) =
      field.take n ++ List.replicate (field.length - n) 0 := by
  apply List.ext_getElem?
  intro i
  rw [List.getElem?_mapIdx, List.getElem?_append, List.getElem?_take, List.getElem?_replicate,
    List.length_take]
  by_cases hlt : i < field.length
  · rw [List.getElem?_eq_getElem hlt]
    by_cases hle : n ≤ i
    · rw [if_neg (by omega), if_pos (by omega), Option.map_some, if_pos hle]
    · rw [if_pos (by omega), if_pos (by omega), Option.map_some, if_neg hle]
  · rw [List.getElem?_eq_none (by omega), if_neg (by omega), if_neg (by omega)]
    rfl

/-- The frame that is written for a request is the one that it was read from, with
zeros in place of the bytes that were not looked at. -/
theorem frame_of_ofFrame (hr : ofFrame bytes = .ok r) : r.frame = blanked bytes := by
  obtain ⟨n, z, field, heq, hfield, hname⟩ := exists_of_ofFrame hr
  have hle : n.toNat ≤ maxNameLength := toNat_le_maxNameLength n
  have hlength : r.name.length = n.toNat := by
    rw [hname, List.length_take_of_le (hfield ▸ Nat.le_succ_of_le hle)]
  have hsecond : (bytes.getD 1 0).toNat = n.toNat := by
    rw [heq]
    rfl
  have htail (i : Nat) : skips bytes (i + 8) = decide (n.toNat ≤ i) := by
    rw [skips, hsecond, beq_false_of_ne (by omega), Bool.false_or, Nat.add_comm i 8]
    simp only [Nat.add_le_add_iff_left]
  have hsplit := congrArg (List.mapIdx fun i b => if skips bytes i then 0 else b)
    (show bytes = ([r.opcode.toByte, n, r.kindByte, z] ++ word r.port) ++ field from heq)
  rw [blanked, hsplit, List.mapIdx_append, frame, List.take_of_length_le (hlength ▸ hle),
    List.append_assoc, hlength, Nat.toUInt8_eq, UInt8.ofNat_toNat]
  congr 1
  · simp [word, skips_of_lt]
  · change _ = field.mapIdx fun i b => if skips bytes (i + 8) then 0 else b
    simp only [htail, decide_eq_true_eq, mapIdx_field, ← hname, hfield]

/-! ## Reading alike -/

theorem getElem?_one_of_blanked (h : (blanked bytes')[1]? = (blanked bytes)[1]?) :
    bytes'[1]? = bytes[1]? := by
  rwa [getElem?_blanked, getElem?_blanked, skips_of_lt (by decide), skips_of_lt (by decide)] at h

/-- Which bytes are skipped is said by the second one. -/
theorem skips_congr (h : bytes'[1]? = bytes[1]?) (i : Nat) : skips bytes' i = skips bytes i := by
  simp only [skips, List.getD_eq_getElem?_getD, h]

theorem blanked_eq_blanked_iff (h : bytes'.length = bytes.length) :
    blanked bytes' = blanked bytes ↔ ∀ i, skips bytes i = false → bytes'[i]? = bytes[i]? := by
  constructor
  · intro hblanked i hi
    have hat (i : Nat) : (blanked bytes')[i]? = (blanked bytes)[i]? := by rw [hblanked]
    have hskips := skips_congr (getElem?_one_of_blanked (hat 1)) i
    have hbyte := hat i
    rwa [getElem?_blanked, getElem?_blanked, hskips, hi] at hbyte
  · intro hagree
    have hskips := skips_congr (hagree 1 (skips_of_lt (by decide)))
    apply List.ext_getElem?
    intro i
    rw [getElem?_blanked, getElem?_blanked, hskips]
    cases hi : skips bytes i with
    | false => exact hagree i hi
    | true =>
      -- Both have a zero here, unless both have ended.
      by_cases hlt : i < bytes.length
      · rw [List.getElem?_eq_getElem hlt, List.getElem?_eq_getElem (h ▸ hlt)]
        rfl
      · rw [List.getElem?_eq_none (Nat.le_of_not_lt hlt),
          List.getElem?_eq_none (h ▸ Nat.le_of_not_lt hlt)]

/-- Two frames are read alike if they agree in all bytes that are looked at. -/
theorem ofFrame_eq_ok_iff (hr : ofFrame bytes = .ok r) (h : bytes'.length = frameSize) :
    ofFrame bytes' = .ok r ↔ ∀ i, skips bytes i = false → bytes'[i]? = bytes[i]? := by
  rw [← blanked_eq_blanked_iff (h.trans (length_of_ofFrame hr).symm), ← frame_of_ofFrame hr]
  constructor
  · intro hr'
    rw [frame_of_ofFrame hr']
  · intro hblanked
    have hhead : bytes'.head? = some r.opcode.toByte := by
      have hfirst : (blanked bytes')[0]? = r.frame[0]? := by rw [hblanked]
      rwa [getElem?_blanked, skips_of_lt (by decide), ← List.head?_eq_getElem?] at hfirst
    obtain ⟨r', hr'⟩ := exists_ofFrame_iff.mpr ⟨h, r.opcode, hhead⟩
    have hframe : r'.frame = r.frame := (frame_of_ofFrame hr').trans hblanked
    have hread : ofFrame r'.frame = .ok r' := ofFrame_frame (length_name_of_ofFrame hr')
    rw [hframe, ofFrame_frame (length_name_of_ofFrame hr)] at hread
    rw [hr', hread]

/-- Bytes that are no frame have the wrong length, or else do not begin with an opcode. -/
theorem ofFrame_eq_error_iff {f : MessageFault} : ofFrame bytes = .error f ↔
    (bytes.length ≠ frameSize ∧ f = .badFrameLength bytes.length) ∨
      (bytes.length = frameSize ∧ ∃ b, bytes.head? = some b ∧
        (∀ opcode : Opcode, b ≠ opcode.toByte) ∧ f = .unknownOpcode b) := by
  constructor
  · intro hf
    by_cases hlength : bytes.length = frameSize
    · obtain ⟨op, n, k, z, a, b, c, d, field, rfl, hfield⟩ := exists_cons_of_length hlength
      have hnone (opcode : Opcode) : op ≠ opcode.toByte := by
        rintro rfl
        rw [ofFrame_cons hfield, Opcode.ofByte_toByte] at hf
        cases hf
      rw [ofFrame_of_unknown hlength rfl hnone] at hf
      exact .inr ⟨hlength, op, rfl, hnone, (Except.error.inj hf).symm⟩
    · rw [ofFrame_of_length_ne hlength] at hf
      exact .inl ⟨hlength, (Except.error.inj hf).symm⟩
  · rintro (⟨hlength, rfl⟩ | ⟨hlength, b, hhead, hnone, rfl⟩)
    · exact ofFrame_of_length_ne hlength
    · exact ofFrame_of_unknown hlength hhead hnone

/-! ## Frames and requests -/

/-- Every request whose name has at most 255 bytes is read from its frame, and of a
longer name its first 255 bytes are. The requests that can be made have such names, so
that the names and the addresses that they were made of are read.

Bytes are read as a request exactly if they are 264 and the first is one of the opcodes;
otherwise the fault is in their length, or else in the opcode, and never in the length of
the name. The request that is read is written in the same bytes, but for zeros in place of
those that are skipped, and bytes of that length are read as the same request exactly if
they agree in all others. -/
theorem frames_read_exactly :
    (∀ r : Request, r.name.length ≤ 255 → ofFrame r.frame = .ok r) ∧
    (∀ r : Request, 255 < r.name.length →
      ofFrame r.frame = .ok { r with name := r.name.take 255 }) ∧
    (∀ name port kind r,
      register name port kind = .ok r ∨ lookup name kind = .ok r ∨
          unregister name port kind = .ok r →
        r.name.length ≤ 255 ∧ ∃ read, ofFrame r.frame = .ok read ∧ read.name = name) ∧
    (∀ r, r = servers ∨ r = names →
      r.name.length ≤ 255 ∧ ∃ read, ofFrame r.frame = .ok read ∧ read.name = []) ∧
    (∀ sender target, (probe sender target).name.length ≤ 255 ∧
      ∃ read, ofFrame (probe sender target).frame = .ok read ∧
        read.addresses = .ok [sender, target]) ∧
    (∀ ours prober others, (probeReply ours prober others).name.length ≤ 255 ∧
      ∃ read, ofFrame (probeReply ours prober others).frame = .ok read ∧
        read.addresses = .ok (ours :: prober :: others.take 61)) ∧
    (∀ bytes, (∃ r, ofFrame bytes = .ok r) ↔
      bytes.length = 264 ∧ ∃ opcode : Opcode, bytes.head? = some opcode.toByte) ∧
    (∀ bytes f, ofFrame bytes = .error f ↔
      (bytes.length ≠ 264 ∧ f = .badFrameLength bytes.length) ∨
        (bytes.length = 264 ∧ ∃ b, bytes.head? = some b ∧
          (∀ opcode : Opcode, b ≠ opcode.toByte) ∧ f = .unknownOpcode b)) ∧
    (∀ bytes length, ofFrame bytes ≠ .error (.nameTooLong length)) ∧
    (∀ bytes r, ofFrame bytes = .ok r → r.frame = blanked bytes) ∧
    ∀ bytes bytes' r, ofFrame bytes = .ok r → bytes'.length = 264 →
      (ofFrame bytes' = .ok r ↔ ∀ i, skips bytes i = false → bytes'[i]? = bytes[i]?) := by
  have hnaming {opcode name port kind} {r : Request} (h : naming opcode name port kind = .ok r) :
      r.name.length ≤ 255 ∧ ∃ read, ofFrame r.frame = .ok read ∧ read.name = name := by
    obtain ⟨rfl, hle⟩ := name_of_naming h
    exact ⟨hle, r, ofFrame_frame hle, rfl⟩
  refine ⟨fun r => ofFrame_frame, fun r _ => ofFrame_frame_take r, ?_, ?_, ?_, ?_,
    fun bytes => exists_ofFrame_iff, fun bytes f => ofFrame_eq_error_iff, ?_,
    fun bytes r => frame_of_ofFrame, fun bytes bytes' r => ofFrame_eq_ok_iff⟩
  · rintro name port kind r (h | h | h)
    · exact hnaming h
    · exact hnaming h
    · exact hnaming h
  · rintro r (rfl | rfl)
    · exact ⟨Nat.zero_le _, servers, ofFrame_frame (Nat.zero_le _), rfl⟩
    · exact ⟨Nat.zero_le _, names, ofFrame_frame (Nat.zero_le _), rfl⟩
  · intro sender target
    have hle := length_name_probe sender target
    exact ⟨hle, _, ofFrame_frame hle, addresses_of_name rfl⟩
  · intro ours prober others
    have hle := length_name_probeReply ours prober others
    exact ⟨hle, _, ofFrame_frame hle, addresses_of_name rfl⟩
  · intro bytes length h
    rcases ofFrame_eq_error_iff.mp h with ⟨-, h⟩ | ⟨-, b, -, -, h⟩ <;> cases h

/-- A request whose frame has other bytes where none are looked at, one whose name is too
long for a frame, and bytes that are no frame. -/
theorem garbled_frames_read :
    let r : Request := { opcode := .lookup, kindByte := 0x11, port := 7, name := [0x61, 0x62] }
    let garbled := (r.frame.set 3 0xff).set 200 0x7a
    let long : Request := { r with name := List.replicate 300 0x61 }
    garbled ≠ r.frame ∧ ofFrame garbled = .ok r ∧ blanked garbled = r.frame ∧
      ofFrame long.frame = .ok { r with name := List.replicate 255 0x61 } ∧
      ofFrame (garbled.set 0 0x5a) = .error (.unknownOpcode 0x5a) ∧
      ofFrame (garbled.take 100) = .error (.badFrameLength 100) := by
  intro r garbled long
  obtain ⟨hshort, hlong, -, -, -, -, -, hfault, -, hwritten, halike⟩ := frames_read_exactly
  have hread : ofFrame garbled = .ok r := by
    refine (halike r.frame garbled r (hshort r (by decide)) (by decide +kernel)).mpr ?_
    intro i hi
    have hsecond : (r.frame.getD 1 0).toNat = 2 := by decide +kernel
    rw [skips, hsecond, Bool.or_eq_false_iff, beq_eq_false_iff_ne, decide_eq_false_iff_not] at hi
    rw [List.getElem?_set_ne (by omega), List.getElem?_set_ne (by omega)]
  refine ⟨by decide +kernel, hread, (hwritten garbled r hread).symm, ?_, ?_, ?_⟩
  · have htake : long.name.take 255 = List.replicate 255 0x61 := List.take_replicate ..
    rw [hlong long (by decide +kernel), htake]
  · refine (hfault _ _).mpr (.inr ⟨by decide +kernel, 0x5a, by decide +kernel, ?_, rfl⟩)
    intro opcode
    cases opcode <;> decide
  · exact (hfault _ _).mpr (.inl ⟨by decide +kernel, rfl⟩)

end Request

end PortMapper
