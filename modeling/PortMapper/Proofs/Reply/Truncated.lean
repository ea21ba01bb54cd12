import PortMapper.Proofs.Reply.Codec

/-!
# Lists of names that are cut short

A list of names has no mark at its end, and only its header says where that is.
Still no part of it is mistaken for another list: what is left of it after a cut is
read as the names before the cut if none of them is cut, and otherwise it is refused
as truncated (`Reply.readNames_take_of_inside`).

The reader takes one name in each pass (`Reply.readListed`). A pass uses up at least
two bytes, so that the reader comes to an end whatever the bytes are
(`Reply.readInPasses_eq`).
-/

namespace PortMapper

namespace Reply

variable {e : Listed} {es before after : List Listed} {bytes rest : Bytes} {k passes : Nat}

/-! ## Passes -/

/-- The name at the beginning of a list, and what follows it. -/
def readListed : Bytes → Except MessageFault (Listed × Bytes)
  | length :: kindByte :: rest =>
    match PortKind.ofByte kindByte with
    | .error f => .error f
    | .ok kind =>
      if rest.length < length.toNat then .error .truncatedNames
      else .ok (⟨rest.take length.toNat, kind⟩, rest.drop length.toNat)
  | _ => .error .truncatedNames

/-- Reads the rest of a list of names, of which some have been read, in a number of
passes. There is no answer if they do not suffice. -/
def readInPasses : Nat → List Listed → Bytes → Option (Except MessageFault (List Listed))
  | _, es, [] => some (.ok es)
  | 0, _, _ :: _ => none
  | passes + 1, es, b :: bytes =>
    match readListed (b :: bytes) with
    | .error f => some (.error f)
    | .ok (e, rest) => readInPasses passes (es ++ [e]) rest

/-- A pass uses up at least two bytes. -/
theorem length_of_readListed (h : readListed bytes = .ok (e, rest)) :
    rest.length + 2 ≤ bytes.length := by
  match bytes, h with
  | length :: kindByte :: bytes, h =>
    rw [readListed] at h
    split at h
    · cases h
    split at h
    · cases h
    cases h
    simp only [List.length_drop, List.length_cons]
    omega

theorem readNames_cons (b : UInt8) (bytes : Bytes) :
    readNames (b :: bytes) =
      match readListed (b :: bytes) with
      | .error f => .error f
      | .ok (e, rest) => (readNames rest).map (e :: ·) := by
  cases bytes with
  | nil =>
    rw [readNames]
    rfl
  | cons kindByte rest =>
    rw [readNames_cons_cons, readListed]
    cases PortKind.ofByte kindByte with
    | error f => rfl
    | ok kind =>
      dsimp only
      split <;> rfl

/-- Passes enough for all bytes read the list to its end, or to its first fault. -/
theorem readInPasses_eq (h : bytes.length ≤ 2 * passes) (es : List Listed) :
    readInPasses passes es bytes = some ((readNames bytes).map (es ++ ·)) := by
  induction passes generalizing es bytes with
  | zero =>
    cases List.eq_nil_of_length_eq_zero (Nat.le_zero.mp h)
    rw [readInPasses, readNames, Except.map, List.append_nil]
  | succ passes ih =>
    cases bytes with
    | nil => rw [readInPasses, readNames, Except.map, List.append_nil]
    | cons b bytes =>
      rw [readInPasses, readNames_cons]
      split
      · rfl
      · rename_i e rest hread
        have hle := length_of_readListed hread
        rw [ih (by omega)]
        cases readNames rest with
        | error f => rfl
        | ok es' => simp only [Except.map, List.append_assoc, List.singleton_append]

/-- A name that is read is not longer than one that a request can carry. -/
theorem length_name_of_readNames (h : readNames bytes = .ok es) :
    ∀ e ∈ es, e.name.length ≤ maxNameLength := by
  induction bytes using readNames.induct generalizing es with
  | case1 =>
    rw [readNames] at h
    cases h
    exact fun e he => absurd he List.not_mem_nil
  | case2 b =>
    rw [readNames] at h
    cases h
  | case3 length kindByte rest ih =>
    obtain ⟨kind, es', -, -, hes', rfl⟩ := exists_of_readNames h
    refine List.forall_mem_cons.mpr ⟨?_, ih hes'⟩
    exact Nat.le_trans (List.length_take_le ..) (toNat_le_maxNameLength length)

/-! ## Cuts -/

theorem length_namesBody_cons (e : Listed) (es : List Listed) :
    (namesBody (e :: es)).length = (listed e).length + (namesBody es).length :=
  List.length_append

theorem namesBody_append (before after : List Listed) :
    namesBody (before ++ after) = namesBody before ++ namesBody after := List.flatMap_append

/-- A cut of a list is before one of its names, or inside it. -/
theorem exists_cut (h : k < (namesBody es).length) : ∃ before e after j,
    es = before ++ e :: after ∧ k = (namesBody before).length + j ∧ j < (listed e).length := by
  induction es generalizing k with
  | nil => exact absurd h (Nat.not_lt_zero k)
  | cons e es ih =>
    rw [length_namesBody_cons] at h
    by_cases hlt : k < (listed e).length
    · exact ⟨[], e, es, k, rfl, (Nat.zero_add k).symm, hlt⟩
    · have hrest : k - (listed e).length < (namesBody es).length := by omega
      obtain ⟨before, e', after, j, rfl, hk, hj⟩ := ih hrest
      refine ⟨e :: before, e', after, j, rfl, ?_, hj⟩
      rw [length_namesBody_cons]
      omega

/-- A name that is cut is refused as truncated, wherever it is cut: after its length, or
before it has as many bytes. Its kind is always a valid one. -/
theorem readNames_take_listed (he : e.name.length ≤ maxNameLength) (hpos : 0 < k)
    (hlt : k < (listed e).length) : readNames ((listed e).take k) = .error .truncatedNames := by
  match k, hpos, hlt with
  | 1, _, _ => rw [listed, List.take_succ_cons, List.take_zero, readNames]
  | j + 2, _, hlt =>
    have hshort : (e.name.take j).length < e.name.length.toUInt8.toNat := by
      rw [toNat_toUInt8_of_le he, List.length_take]
      rw [listed, List.length_cons, List.length_cons] at hlt
      omega
    rw [listed, List.take_succ_cons, List.take_succ_cons, readNames_cons_cons,
      PortKind.ofByte_toByte]
    exact if_pos hshort

/-- What is left of a list after a cut inside a name is refused as truncated. -/
theorem readNames_take_of_inside (hes : ∀ e ∈ es, e.name.length ≤ maxNameLength)
    (h : k < (namesBody es).length)
    (hinside : ∀ before after, es = before ++ after → k ≠ (namesBody before).length) :
    readNames ((namesBody es).take k) = .error .truncatedNames := by
  obtain ⟨before, e, after, j, rfl, rfl, hj⟩ := exists_cut h
  have hpos : 0 < j := by
    refine Nat.pos_of_ne_zero fun hzero => hinside before (e :: after) rfl ?_
    rw [hzero, Nat.add_zero]
  have htake : (namesBody (before ++ e :: after)).take ((namesBody before).length + j) =
      namesBody before ++ (listed e).take j := by
    rw [namesBody_append, List.take_length_add_append]
    exact congrArg (namesBody before ++ ·) (List.take_append_of_le_length (Nat.le_of_lt hj))
  obtain ⟨hbefore, hafter⟩ := List.forall_mem_append.mp hes
  rw [htake, readNames_append hbefore,
    readNames_take_listed (hafter e List.mem_cons_self) hpos hj]
  rfl

/-! ## Lists and bytes -/

/-- The header of a list of names is read as the number of bytes after it. -/
theorem namesLength_of_names (h : (namesBody es).length ≤ maxNamesBytes) :
    ∃ a b c d, (names es).take 4 = [a, b, c, d] ∧
      namesLength a b c d = .ok (namesBody es).length := by
  have hlength : (namesBody es).length.toUInt32.toNat = (namesBody es).length :=
    toNat_toUInt32 (Nat.lt_of_le_of_lt h (by decide))
  refine ⟨_, _, _, _, rfl, ?_⟩
  rw [isHeader_namesLength, ofWord_word, hlength, if_neg (Nat.not_lt_of_le h)]

/-- A list of names of at most 255 bytes each is read from the bytes that it is sent in,
and its header as their number, up to 2²⁴. What is left of these bytes after a cut is
read as the names before the cut if it is between two names, and otherwise it is refused
as truncated.

Whatever is read as a list of names has no longer ones, and is sent in the bytes that it
was read from. The reader takes one name in each pass, and for any bytes half as many
passes as there are bytes, rounded up, bring it to the end of the list, or to a fault. -/
theorem lists_of_names_read_exactly :
    (∀ es, (∀ e ∈ es, e.name.length ≤ 255) →
      readNames ((names es).drop 4) = .ok es ∧
      (((names es).drop 4).length ≤ 16777216 → ∃ a b c d, (names es).take 4 = [a, b, c, d] ∧
        namesLength a b c d = .ok ((names es).drop 4).length) ∧
      ∀ k < ((names es).drop 4).length,
        (∀ before after, es = before ++ after → k = ((names before).drop 4).length →
          readNames (((names es).drop 4).take k) = .ok before) ∧
        ((∀ before after, es = before ++ after → k ≠ ((names before).drop 4).length) →
          readNames (((names es).drop 4).take k) = .error .truncatedNames)) ∧
    (∀ bytes es, readNames bytes = .ok es →
      (∀ e ∈ es, e.name.length ≤ 255) ∧ (names es).drop 4 = bytes) ∧
    ∀ bytes, readInPasses ((bytes.length + 1) / 2) [] bytes = some (readNames bytes) := by
  have hbody (es : List Listed) : (names es).drop 4 = namesBody es := rfl
  simp only [hbody]
  refine ⟨fun es hes => ⟨readNames_namesBody hes, namesLength_of_names, fun k hk => ⟨?_, ?_⟩⟩,
    fun bytes es h => ⟨length_name_of_readNames h, namesBody_of_readNames h⟩, fun bytes => ?_⟩
  · rintro before after rfl rfl
    rw [namesBody_append, List.take_left]
    exact readNames_namesBody fun e he => hes e (List.mem_append_left after he)
  · exact readNames_take_of_inside hes hk
  · rw [readInPasses_eq (by omega)]
    cases readNames bytes <;> rfl

/-- A list with an empty name in it, cut after the empty name and inside the next one. -/
theorem cut_list_of_names_read :
    let es : List Listed := [⟨[0x61, 0x62], ⟨.tcp, .native⟩⟩, ⟨[], ⟨.udp, .foreign⟩⟩,
      ⟨[0x63], ⟨.udp, .native⟩⟩]
    let body := (names es).drop 4
    readNames body = .ok es ∧ namesLength 0 0 0 9 = .ok body.length ∧
      readNames (body.take 6) = .ok (es.take 2) ∧
      readNames (body.take 8) = .error .truncatedNames := by
  intro es body
  obtain ⟨hread, -, -⟩ := lists_of_names_read_exactly
  obtain ⟨hall, -, hcut⟩ := hread es (by decide)
  refine ⟨hall, rfl, ?_, ?_⟩
  · exact (hcut 6 (by decide)).1 (es.take 2) (es.drop 2) rfl rfl
  · refine (hcut 8 (by decide)).2 fun before after hsplit => ?_
    have hbefore : before = es.take before.length := by rw [hsplit, List.take_left]
    have hle : before.length ≤ 3 := by
      have hlength : 3 = (before ++ after).length := congrArg List.length hsplit
      rw [List.length_append] at hlength
      omega
    have hall : ∀ n ≤ 3, 8 ≠ ((names (es.take n)).drop 4).length := by decide
    rw [hbefore]
    exact hall before.length hle

end Reply

end PortMapper
