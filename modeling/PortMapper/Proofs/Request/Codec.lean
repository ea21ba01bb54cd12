import PortMapper.Request.Frame

/-!
# Reading frames

What a frame is written from is read back from it, if its name is not longer
than a frame carries (`Request.ofFrame_frame`), as the names of probes and of
their answers never are. Nothing but frames is read
(`Request.length_of_ofFrame`).
-/

namespace PortMapper

theorem toNat_le_maxNameLength (n : UInt8) : n.toNat ≤ maxNameLength := Nat.le_of_lt_succ n.toNat_lt

/-- The length of a name is sent in one byte. -/
theorem toNat_toUInt8_of_le {n : Nat} (h : n ≤ maxNameLength) : n.toUInt8.toNat = n := by
  rw [Nat.toUInt8_eq, UInt8.toNat_ofNat']
  exact Nat.mod_eq_of_lt (Nat.lt_succ_of_le h)

namespace Request

/-- The request that a frame is made of is read from it. -/
theorem ofFrame_frame {r : Request} (h : r.name.length ≤ maxNameLength) :
    ofFrame r.frame = .ok r := by
  have hlength : r.name.length.toUInt8.toNat = r.name.length := toNat_toUInt8_of_le h
  unfold ofFrame
  rw [if_neg fun hne => hne r.length_frame]
  simp only [frame, List.take_of_length_le h, word, List.cons_append, List.nil_append,
    Opcode.ofByte_toByte, ofWord_word, hlength, List.take_left, if_neg (Nat.not_lt_of_le h)]
  rfl

theorem length_of_ofFrame {bytes : Bytes} {r : Request} (h : ofFrame bytes = .ok r) :
    bytes.length = frameSize := by
  refine Decidable.byContradiction fun hne => ?_
  unfold ofFrame at h
  rw [if_pos hne] at h
  cases h

/-- The addresses that a name is made of are read from it. -/
theorem addresses_of_name {r : Request} {as : List Address} (h : r.name = Address.encodeAll as) :
    r.addresses = .ok as := by
  rw [addresses, h, Address.length_encodeAll, if_pos (Nat.mul_mod_right ..),
    Address.decodeAll_encodeAll]

/-- The two addresses that a probe carries fit in its name. -/
theorem length_name_probe (sender target : Address) :
    (probe sender target).name.length ≤ maxNameLength := by
  rw [probe, Address.length_encodeAll]
  change 8 ≤ 255
  decide

/-- The addresses that the answer to a probe carries fit in its name. -/
theorem length_name_probeReply (ours prober : Address) (others : List Address) :
    (probeReply ours prober others).name.length ≤ maxNameLength := by
  have h : (others.take extraRoom).length ≤ extraRoom := List.length_take_le ..
  simp only [probeReply, Address.length_encodeAll, List.length_cons, Address.size]
  simp only [extraRoom, Address.size, maxNameLength] at h ⊢
  omega

end Request

end PortMapper
