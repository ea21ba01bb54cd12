import PortMapper.Request

/-!
# Frames

Every request travels in a frame of 264 bytes: the opcode, the length of the
name, the kind byte, a reserved byte, the port in four bytes, and a name
field of 256 bytes that is filled up with zeros. `Request.frame` writes it
and `Request.ofFrame` reads it, ignoring the reserved byte and whatever
follows the name in its field.
-/

namespace PortMapper

namespace Request

/-- The frame of a request. What a name has beyond 255 bytes is not sent. -/
def frame (r : Request) : Bytes :=
  let name := r.name.take maxNameLength
  [r.opcode.toByte, name.length.toUInt8, r.kindByte, 0] ++ word r.port ++ name ++
    List.replicate (maxNameLength + 1 - name.length) 0

@[simp] theorem length_frame (r : Request) : r.frame.length = frameSize := by
  simp only [frame, List.length_append, List.length_cons, List.length_nil, List.length_take,
    length_word, List.length_replicate, maxNameLength, frameSize]
  omega

/-- The request in a frame. Its length is looked at before its opcode, and the
length of the name after both. -/
def ofFrame (bytes : Bytes) : Except MessageFault Request :=
  if bytes.length ≠ frameSize then .error (.badFrameLength bytes.length)
  else match bytes with
    | op :: nameLength :: kindByte :: _ :: a :: b :: c :: d :: field => do
      let opcode ← Opcode.ofByte op
      if maxNameLength < nameLength.toNat then throw (.nameTooLong nameLength.toNat)
      return { opcode, kindByte, port := ofWord a b c d, name := field.take nameLength.toNat }
    | _ => .error (.badFrameLength bytes.length)

end Request

end PortMapper
