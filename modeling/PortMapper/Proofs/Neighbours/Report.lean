import Mathlib.Data.List.Forall2
import PortMapper.Neighbours.Report
import PortMapper.Proofs.Address.Dotted

/-!
# Reading the report on neighbours

The fields of a line are what stands between its spaces, of which there may be several together
(`fields`). The line of a neighbour has its address in the first field, the seconds of its silence
in the second and its further addresses in the third, which is there only if it has any
(`Neighbours.fields_reportLine`). No field is empty or has a space in it (`IsField`), and there is
a space after a column even where it is overrun.

So what a report says of each neighbour (`Neighbours.Entry`) is read back from it, and two reports
are the same text only if they say the same (`Neighbours.report_read_back`).
-/

namespace PortMapper

/-- The parts of a text between its spaces, however many of these stand together. -/
def fields (cs : List Char) : List (List Char) := (cs.splitOn ' ').filter (· ≠ [])

/-- The number that is written with the digits `cs`. -/
def Decimal.value? (cs : List Char) : Option Nat :=
  if cs ≠ [] ∧ cs.all Char.isDigit then some (Nat.ofDigitChars 10 cs 0) else none

/-- What a report says of a neighbour. -/
structure Neighbours.Entry where
  address : Address
  silentSecs : Nat
  aliases : List Address
deriving DecidableEq, Repr

/-- The entry on a line with the given fields. -/
def Neighbours.Entry.ofFields? : List (List Char) → Option Entry
  | [address, secs] => do return ⟨← Address.parse? address, ← Decimal.value? secs, []⟩
  | [address, secs, aliases] => do
    return ⟨← Address.parse? address, ← Decimal.value? secs,
      ← (aliases.splitOn ',').mapM Address.parse?⟩
  | _ => none

/-- What a report at a given time says of a neighbour. -/
def Neighbour.entry (now : Nat) (n : Neighbour) : Neighbours.Entry :=
  ⟨n.address, n.silence now / oneSecond, n.aliases⟩

/-- What the fields of a report are made of. -/
structure IsField (cs : List Char) : Prop where
  ne_nil : cs ≠ []
  chars : ∀ c ∈ cs, c.isDigit = true ∨ c = '.' ∨ c = ','

variable {cs word : List Char} {lines : List (List Char)} {as : List Address}

/-! ## Fields -/

theorem IsField.space_not_mem (h : IsField cs) : ' ' ∉ cs := fun hmem => by
  rcases h.chars _ hmem with hc | hc | hc <;> exact absurd hc (by decide)

theorem IsField.lineFeed_not_mem (h : IsField cs) : '\n' ∉ cs := fun hmem => by
  rcases h.chars _ hmem with hc | hc | hc <;> exact absurd hc (by decide)

theorem fields_append (cs rest : List Char) :
    fields (cs ++ ' ' :: rest) = fields cs ++ fields rest := by
  rw [fields, List.splitOn, List.splitOnP_append_cons (p := (· == ' ')) cs rest rfl,
    List.filter_append]
  rfl

theorem fields_word (h : IsField word) : fields word = [word] := by
  have hchars : ∀ c ∈ word, (c == ' ') = false := fun c hc =>
    beq_eq_false_iff_ne.mpr fun heq => h.space_not_mem (heq ▸ hc)
  rw [fields, List.splitOn, List.splitOnP_eq_singleton hchars]
  exact List.filter_cons_of_pos (decide_eq_true h.ne_nil)

theorem fields_spaces (m : Nat) : fields (List.replicate m ' ') = [] := by
  induction m with
  | zero => rfl
  | succ m ih => exact (fields_append [] _).trans ih

/-- Padding adds no field. -/
theorem fields_padRight (width : Nat) (h : IsField word) :
    fields (padRight width word) = [word] := by
  rw [padRight]
  cases width - word.length with
  | zero => rw [List.replicate_zero, List.append_nil, fields_word h]
  | succ m => rw [List.replicate_succ, fields_append, fields_word h, fields_spaces, List.append_nil]

/-! ## What is in a field -/

theorem Decimal.isField_text (n : Nat) : IsField (text n) :=
  ⟨Nat.toDigits_ne_nil, fun _ hc => .inl (isDigit_of_mem_text hc)⟩

theorem Decimal.value?_text (n : Nat) : value? (text n) = some n := by
  have hdigits : (text n).all Char.isDigit = true :=
    List.all_eq_true.mpr fun _ => isDigit_of_mem_text
  rw [value?, if_pos ⟨Nat.toDigits_ne_nil, hdigits⟩, text, Nat.ofDigitChars_ten_toDigits]

namespace Address

/-- Addresses with commas between them. -/
def listed (as : List Address) : List Char := [','].intercalate (as.map (·.dotted))

theorem isField_dotted (a : Address) : IsField a.dotted := by
  refine ⟨fun hnil => ?_, fun c hc => (isDigit_or_eq_of_mem_dotted hc).imp_right .inl⟩
  have hread := a.parse?_dotted
  rw [hnil] at hread
  cases hread

theorem comma_not_mem_dotted (a : Address) : ',' ∉ a.dotted := fun hmem => by
  rcases isDigit_or_eq_of_mem_dotted hmem with hc | hc <;> exact absurd hc (by decide)

theorem splitOn_listed (h : as ≠ []) : (listed as).splitOn ',' = as.map (·.dotted) := by
  have hcomma : ∀ cs ∈ as.map (·.dotted), ',' ∉ cs := fun cs hcs => by
    obtain ⟨a, -, rfl⟩ := List.mem_map.mp hcs
    exact a.comma_not_mem_dotted
  exact List.splitOn_intercalate ',' hcomma fun hnil => h (List.map_eq_nil_iff.mp hnil)

theorem mapM_parse?_dotted (as : List Address) : (as.map (·.dotted)).mapM parse? = some as := by
  induction as with
  | nil => rfl
  | cons a as ih => rw [List.map_cons, List.mapM_cons, parse?_dotted, ih]; rfl

theorem isField_listed (h : as ≠ []) : IsField (listed as) := by
  induction as with
  | nil => exact absurd rfl h
  | cons a as ih =>
    cases as with
    | nil =>
      rw [listed, List.map_singleton, List.intercalate_singleton]
      exact a.isField_dotted
    | cons a' as =>
      have hrest := ih (List.cons_ne_nil _ _)
      have hcons : listed (a :: a' :: as) = a.dotted ++ ',' :: listed (a' :: as) := by
        simp [listed, List.intercalate_cons_cons]
      rw [hcons]
      refine ⟨List.append_ne_nil_of_left_ne_nil a.isField_dotted.ne_nil _, fun c hc => ?_⟩
      rcases List.mem_append.mp hc with hc | hc
      · exact a.isField_dotted.chars c hc
      rcases List.mem_cons.mp hc with hc | hc
      · exact .inr (.inr hc)
      · exact hrest.chars c hc

end Address

namespace Neighbours

/-! ## Lines -/

/-- The line of a neighbour that has further addresses. -/
theorem reportLine_of_ne_nil {n : Neighbour} (h : n.aliases ≠ []) (now : Nat) :
    reportLine now n = padRight 18 n.address.dotted ++
      ' ' :: padRight 10 (Decimal.text (n.silence now / oneSecond)) ++
        ' ' :: Address.listed n.aliases :=
  if_neg h

example : reportLine (20000000000000 * oneSecond) ⟨.ofOctets 10 0 0 2, [.ofOctets 10 0 0 3], 0⟩ =
    "10.0.0.2           20000000000000 10.0.0.3".toList := by decide +kernel

/-- The line of a neighbour that has none. -/
theorem reportLine_of_eq_nil {n : Neighbour} (h : n.aliases = []) (now : Nat) :
    reportLine now n =
      padRight 18 n.address.dotted ++ ' ' :: Decimal.text (n.silence now / oneSecond) :=
  if_pos h

theorem fields_reportLine (now : Nat) (n : Neighbour) : fields (reportLine now n) =
    n.address.dotted :: Decimal.text (n.silence now / oneSecond) ::
      (if n.aliases = [] then [] else [Address.listed n.aliases]) := by
  have haddress := fields_padRight 18 n.address.isField_dotted
  have hsecs := Decimal.isField_text (n.silence now / oneSecond)
  by_cases hnone : n.aliases = []
  · rw [reportLine_of_eq_nil hnone, if_pos hnone, fields_append, haddress, fields_word hsecs]
    rfl
  · rw [reportLine_of_ne_nil hnone, if_neg hnone, fields_append, fields_append, haddress,
      fields_padRight 10 hsecs, fields_word (Address.isField_listed hnone)]
    rfl

/-- The entry of a neighbour is read back from its line. -/
theorem ofFields?_reportLine (now : Nat) (n : Neighbour) :
    Entry.ofFields? (fields (reportLine now n)) = some (n.entry now) := by
  rw [fields_reportLine]
  by_cases hnone : n.aliases = []
  · rw [if_pos hnone, Entry.ofFields?, Address.parse?_dotted, Decimal.value?_text, Neighbour.entry,
      hnone]
    rfl
  · rw [if_neg hnone, Entry.ofFields?, Address.parse?_dotted, Decimal.value?_text,
      Address.splitOn_listed hnone, Address.mapM_parse?_dotted]
    rfl

theorem lineFeed_not_mem_padRight (width : Nat) (h : IsField word) :
    '\n' ∉ padRight width word := by
  rw [padRight, List.mem_append, not_or]
  exact ⟨h.lineFeed_not_mem, fun hmem => absurd (List.eq_of_mem_replicate hmem) (by decide)⟩

theorem lineFeed_not_mem_reportLine (now : Nat) (n : Neighbour) : '\n' ∉ reportLine now n := by
  have haddress := lineFeed_not_mem_padRight 18 n.address.isField_dotted
  have hsecs := Decimal.isField_text (n.silence now / oneSecond)
  by_cases hnone : n.aliases = []
  · rw [reportLine_of_eq_nil hnone]
    simp [haddress, hsecs.lineFeed_not_mem]
  · rw [reportLine_of_ne_nil hnone]
    simp [haddress, lineFeed_not_mem_padRight 10 hsecs,
      (Address.isField_listed hnone).lineFeed_not_mem]

/-! ## The whole report -/

theorem splitOn_lines (h : ∀ l ∈ lines, '\n' ∉ l) :
    (lines.flatMap (· ++ ['\n'])).splitOn '\n' = lines ++ [[]] := by
  induction lines with
  | nil => rfl
  | cons l lines ih =>
    obtain ⟨hl, hlines⟩ := List.forall_mem_cons.mp h
    have hchars : ∀ c ∈ l, (c == '\n') = false := fun c hc =>
      beq_eq_false_iff_ne.mpr fun heq => hl (heq ▸ hc)
    rw [List.flatMap_cons, List.append_assoc, List.singleton_append, List.splitOn,
      List.splitOnP_append_cons_of_forall_mem (p := (· == '\n')) hchars '\n' rfl]
    exact congrArg (l :: ·) (ih hlines)

theorem splitOn_report (t : Neighbours) (now : Nat) :
    (t.report now).splitOn '\n' = t.reportLines now ++ [[]] := by
  refine splitOn_lines fun l hl => ?_
  rcases List.mem_cons.mp hl with rfl | hl
  · have hcount := (Decimal.isField_text t.records.length).lineFeed_not_mem
    simp [hcount]
  rcases List.mem_cons.mp hl with rfl | hl
  · decide
  · obtain ⟨n, -, rfl⟩ := List.mem_map.mp hl
    exact lineFeed_not_mem_reportLine now n

/-- Two reports that are the same text say the same. -/
theorem entries_eq_of_report_eq {t t' : Neighbours} {now now' : Nat}
    (h : t.report now = t'.report now') :
    t.records.map (·.entry now) = t'.records.map (·.entry now') := by
  have hlines : t.reportLines now = t'.reportLines now' := by
    have hsplit := congrArg (List.splitOn '\n') h
    rw [splitOn_report, splitOn_report] at hsplit
    exact List.append_cancel_right hsplit
  have hread (t : Neighbours) (now : Nat) :
      ((t.reportLines now).drop 2).map (fun line => Entry.ofFields? (fields line)) =
        (t.records.map (·.entry now)).map some := by
    change (t.records.map (reportLine now)).map _ = _
    rw [List.map_map, List.map_map]
    exact List.map_congr_left fun n _ => ofFields?_reportLine now n
  apply List.map_injective_iff.mpr fun _ _ => Option.some.inj
  rw [← hread, ← hread, hlines]

/-- A report has two comment lines, of which the first tells the number of neighbours, and a line
for each neighbour. The fields of that line tell its address, the whole seconds of its silence,
none if the clock is behind, and its further addresses, which are left out if there are none. Two
tables of which any of this is different at the time of their reports have different reports. -/
theorem report_read_back (t : Neighbours) (now : Nat) :
    (∃ lines, (t.report now).splitOn '\n' =
        ("# gdomap peer table (".toList ++ Decimal.text t.records.length ++ " peers)".toList) ::
          "# address          idle-secs  aliases".toList :: lines ++ [[]] ∧
      List.Forall₂ (fun line n => Entry.ofFields? (fields line) = some (n.entry now) ∧
        ((fields line).length = 3 ↔ n.aliases ≠ [])) lines t.records) ∧
    (∀ n : Neighbour,
      (now ≤ n.lastHeard → (n.entry now).silentSecs = 0) ∧
      (n.lastHeard ≤ now → n.lastHeard + oneSecond * (n.entry now).silentSecs ≤ now ∧
        now < n.lastHeard + oneSecond * ((n.entry now).silentSecs + 1))) ∧
    ∀ (t' : Neighbours) (now' : Nat), t.report now = t'.report now' →
      t.records.map (·.entry now) = t'.records.map (·.entry now') := by
  refine ⟨⟨_, t.splitOn_report now, ?_⟩, fun n => ?_, fun t' now' => entries_eq_of_report_eq⟩
  · rw [List.forall₂_map_left_iff, List.forall₂_same]
    intro n hn
    refine ⟨ofFields?_reportLine now n, ?_⟩
    rw [fields_reportLine]
    by_cases hnone : n.aliases = [] <;> simp [hnone]
  · change (_ → (now - n.lastHeard) / oneSecond = 0) ∧
      (_ → _ + oneSecond * ((now - n.lastHeard) / oneSecond) ≤ _ ∧
        _ < _ + oneSecond * ((now - n.lastHeard) / oneSecond + 1))
    rw [oneSecond]
    omega

end Neighbours

end PortMapper
