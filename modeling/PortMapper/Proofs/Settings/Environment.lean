import Mathlib.Data.Set.List
import PortMapper.Proofs.Address.Dotted
import PortMapper.Proofs.Text.Blank
import PortMapper.Settings.Environment

/-!
# Settings taken from the environment

Four settings are taken from variables (`Settings.override`). Each is what its variable says, if
the text of the variable says anything, and stays as it was otherwise (`Settings.TakenFrom`). A
list of addresses says what the texts between its commas say; a text that is no address says
nothing (`Settings.addressList_listing`).
-/

namespace PortMapper

namespace Settings

/-! ## Lists of addresses -/

/-- What may be between two commas, apart from white space around it: an address or something
else. -/
inductive Content where
  | address (a : Address)
  | other (text : List Char) (comma : ',' ∉ text) (noAddress : ∀ a : Address, trim text ≠ a.dotted)

/-- The text of an address or of something else. -/
def Content.text : Content → List Char
  | .address a => a.dotted
  | .other text _ _ => text

/-- The address, if it is one. -/
def Content.address? : Content → Option Address
  | .address a => some a
  | .other _ _ _ => none

/-- What is between two commas, with the white space around it. -/
structure Part where
  before : List Char := []
  content : Content
  after : List Char := []
  isBlank : (before ++ after).all isWhiteSpace = true := by decide

/-- The text of a part. -/
def Part.text (p : Part) : List Char := p.before ++ p.content.text ++ p.after

/-- Parts with commas between them. -/
def listing (parts : List Part) : List Char := [','].intercalate (parts.map Part.text)

/-- The addresses among parts. -/
def addresses (parts : List Part) : List Address := parts.filterMap (·.content.address?)

variable {α : Type} {env : Environment} {name : String} {s : Settings} {cs : List Char}

theorem isWhiteSpace_of_mem_dotted {a : Address} {c : Char} (h : c ∈ a.dotted) :
    isWhiteSpace c = false := by
  rcases Address.isDigit_or_eq_of_mem_dotted h with h | rfl
  · exact isWhiteSpace_of_isDigit h
  · decide

theorem Content.comma_not_mem (content : Content) : ',' ∉ content.text := by
  cases content with
  | address a =>
    intro h
    rcases Address.isDigit_or_eq_of_mem_dotted h with h | h
    · exact absurd h (by decide)
    · exact absurd h (by decide)
  | other text comma noAddress => exact comma

theorem Content.parse?_trim (content : Content) :
    Address.parse? (trim content.text) = content.address? := by
  cases content with
  | address a =>
    change Address.parse? (trim a.dotted) = some a
    rw [trim_eq_self fun c hc => isWhiteSpace_of_mem_dotted hc, Address.parse?_dotted]
  | other text comma noAddress =>
    refine Option.eq_none_iff_forall_ne_some.mpr fun a ha => ?_
    exact noAddress a (Address.parse?_eq_some_iff.mp ha)

theorem Part.comma_not_mem (p : Part) : ',' ∉ p.text := by
  have hblank : ',' ∉ p.before ++ p.after :=
    fun h => absurd (List.all_eq_true.mp p.isBlank _ h) (by decide)
  rw [List.mem_append, not_or] at hblank
  simp only [Part.text, List.mem_append, not_or]
  exact ⟨⟨hblank.1, p.content.comma_not_mem⟩, hblank.2⟩

theorem Part.parse?_trim (p : Part) : Address.parse? (trim p.text) = p.content.address? := by
  have hblank := List.forall_mem_append.mp (List.all_eq_true.mp p.isBlank)
  rw [Part.text, trim_pad hblank.1 hblank.2, p.content.parse?_trim]

/-- The addresses among parts with commas between them are read, and nothing else is. -/
theorem addressList_listing (parts : List Part) :
    addressList (listing parts) = addresses parts := by
  cases parts with
  | nil => rfl
  | cons p parts =>
    have hcomma : ∀ text ∈ (p :: parts).map Part.text, ',' ∉ text := by
      intro text htext
      obtain ⟨q, -, rfl⟩ := List.mem_map.mp htext
      exact q.comma_not_mem
    rw [addressList, listing, List.splitOn_intercalate ',' hcomma (List.cons_ne_nil _ _),
      List.filterMap_map]
    exact List.filterMap_congr fun q _ => q.parse?_trim

/-- A text without commas is a part. -/
theorem exists_part (h : ',' ∉ cs) : ∃ p : Part, p.text = cs := by
  by_cases haddress : ∃ a : Address, trim cs = a.dotted
  · obtain ⟨a, ha⟩ := haddress
    obtain ⟨before, after, hblank, hcs⟩ := exists_pad_trim cs
    rw [ha] at hcs
    exact ⟨⟨before, .address a, after, List.all_eq_true.mpr hblank⟩, hcs⟩
  · refine ⟨⟨[], .other cs h (not_exists.mp haddress), [], by decide⟩, ?_⟩
    exact List.append_nil cs

theorem comma_not_mem_of_mem_splitOn {text : List Char} (h : text ∈ cs.splitOn ',') :
    ',' ∉ text := by
  induction cs generalizing text with
  | nil =>
    rw [List.splitOn_nil, List.mem_singleton] at h
    rw [h]
    exact List.not_mem_nil
  | cons c cs ih =>
    rw [List.splitOn_cons_eq_if_modifyHead] at h
    split at h
    · rcases List.mem_cons.mp h with rfl | h
      · exact List.not_mem_nil
      · exact ih h
    · rename_i hc
      obtain ⟨first, others, hsplit⟩ := List.exists_cons_of_ne_nil (List.splitOn_ne_nil ',' cs)
      rw [hsplit, List.modifyHead_cons] at h
      rw [hsplit] at ih
      rcases List.mem_cons.mp h with rfl | h
      · rw [List.mem_cons, not_or]
        exact ⟨fun heq => hc (by rw [heq, beq_self_eq_true]), ih List.mem_cons_self⟩
      · exact ih (List.mem_cons_of_mem _ h)

/-- Every text consists of parts with commas between them. -/
theorem exists_listing (cs : List Char) : ∃ parts, listing parts = cs := by
  have hparts : cs.splitOn ',' ∈ Set.range (List.map Part.text) := by
    rw [Set.range_list_map]
    exact fun text htext => exists_part (comma_not_mem_of_mem_splitOn htext)
  obtain ⟨parts, hmap⟩ := hparts
  exact ⟨parts, by rw [listing, hmap, List.intercalate_splitOn]⟩

/-! ## Variables -/

/-- Whether there is a variable whose text means something. -/
def Says (env : Environment) (name : String) (Means : String → α → Prop) : Prop :=
  ∃ v x, env name = some v ∧ Means v x

/-- A setting is what a variable says if it says something, and stays as it was otherwise. -/
def TakenFrom (env : Environment) (name : String) (Means : String → α → Prop) (old new : α) :
    Prop :=
  (∀ v x, env name = some v → Means v x → new = x) ∧ (¬Says env name Means → new = old)

/-- A text means a number if it is written in decimal. -/
def MeansNumber (toNat : α → Nat) (v : String) (x : α) : Prop := Decimal.Denotes v.toList (toNat x)

/-- A text means yes or no. -/
def MeansFlag (v : String) (b : Bool) : Prop := b = true ↔ v = "true" ∨ v = "1"

/-- A text means the addresses among its parts. -/
def MeansAddresses (v : String) (as : List Address) : Prop :=
  ∃ parts, listing parts = v.toList ∧ addresses parts = as

theorem meansAddresses_iff (v : String) (as : List Address) :
    MeansAddresses v as ↔ as = addressList v.toList := by
  constructor
  · rintro ⟨parts, hparts, rfl⟩
    rw [← hparts, addressList_listing]
  · rintro rfl
    obtain ⟨parts, hparts⟩ := exists_listing v.toList
    exact ⟨parts, hparts, by rw [← hparts, addressList_listing]⟩

theorem meansFlag_iff (v : String) (b : Bool) :
    MeansFlag v b ↔ b = (v == "true" || v == "1") := by
  have hflag : (v == "true" || v == "1") = true ↔ v = "true" ∨ v = "1" := by
    rw [Bool.or_eq_true, beq_iff_eq, beq_iff_eq]
  rw [MeansFlag, ← hflag]
  exact Bool.eq_iff_iff.symm

theorem number?_eq_some_iff {limit n : Nat} : number? env name limit = some n ↔
    ∃ v, env name = some v ∧ Decimal.Denotes v.toList n ∧ n ≤ limit := by
  have htoOption (r : Except NumberFault Nat) : r.toOption = some n ↔ r = .ok n := by
    cases r <;> simp [Except.toOption]
  simp only [number?, Option.bind_eq_bind, Option.bind_eq_some_iff, htoOption,
    Decimal.read_eq_ok_iff]

/-- What is computed from the text of a variable is taken from it. -/
theorem takenFrom_map {Means : String → α → Prop} {read : String → α}
    (hmeans : ∀ v x, Means v x ↔ x = read v) (env : Environment) (name : String) (old : α) :
    TakenFrom env name Means old (((env name).map read).getD old) := by
  rw [TakenFrom, Says]
  cases env name with
  | none =>
    refine ⟨fun v x hv => ?_, fun _ => rfl⟩
    cases hv
  | some v =>
    refine ⟨fun v' x hv' hx => ?_, fun hnone => absurd ⟨v, _, rfl, (hmeans v _).mpr rfl⟩ hnone⟩
    cases hv'
    exact ((hmeans v x).mp hx).symm

/-- A number of a type is taken from the decimal text of a variable if it is one of that type. -/
theorem takenFrom_number {limit : Nat} {toNat : α → Nat} {ofNat : Nat → α}
    (hle : ∀ x, toNat x ≤ limit) (hofNat : ∀ x, ofNat (toNat x) = x)
    (htoNat : ∀ n ≤ limit, toNat (ofNat n) = n) (env : Environment) (name : String) (old : α) :
    TakenFrom env name (MeansNumber toNat) old (((number? env name limit).map ofNat).getD old) := by
  have hnumber {v : String} {x : α} (hv : env name = some v) (hx : MeansNumber toNat v x) :
      number? env name limit = some (toNat x) := number?_eq_some_iff.mpr ⟨v, hv, hx, hle x⟩
  refine ⟨fun v x hv hx => ?_, fun hnone => ?_⟩
  · rw [hnumber hv hx, Option.map_some, Option.getD_some, hofNat]
  · cases hread : number? env name limit with
    | none => rfl
    | some n =>
      obtain ⟨v, hv, hn, hlimit⟩ := number?_eq_some_iff.mp hread
      refine absurd ⟨v, ofNat n, hv, ?_⟩ hnone
      rw [MeansNumber, htoNat n hlimit]
      exact hn

/-- A setting does not depend on what it was if its variable says something. -/
theorem TakenFrom.congr {Means : String → α → Prop} {old old' new new' : α}
    (h : TakenFrom env name Means old new) (h' : TakenFrom env name Means old' new')
    (hsaid : Says env name Means) : new = new' := by
  obtain ⟨v, x, hv, hx⟩ := hsaid
  rw [h.1 v x hv hx, h'.1 v x hv hx]

/-- A setting that has been taken from a variable is not changed by it again. -/
theorem TakenFrom.again {Means : String → α → Prop} {old new new' : α}
    (h : TakenFrom env name Means old new) (h' : TakenFrom env name Means new new') :
    new' = new := by
  by_cases hsaid : Says env name Means
  · exact h'.congr h hsaid
  · exact h'.2 hsaid

/-! ## The settings that are taken -/

section

variable (s : Settings) (env : Environment)

theorem override_port : TakenFrom env "GDOMAP_NETWORK__PORT" (MeansNumber UInt16.toNat)
    s.listening.port (s.override env).listening.port :=
  takenFrom_number (fun n => Nat.le_sub_one_of_lt n.toNat_lt) (fun _ => UInt16.ofNat_toNat)
    (fun _ hn => UInt16.toNat_ofNat_of_lt' (Nat.lt_of_le_sub_one (by decide) hn)) env _ _

theorem override_enabled : TakenFrom env "GDOMAP_PROBE__ENABLED" MeansFlag s.probing.enabled
    (s.override env).probing.enabled :=
  takenFrom_map meansFlag_iff env _ _

theorem override_intervalSecs :
    TakenFrom env "GDOMAP_PROBE__INTERVAL_SECS" (MeansNumber UInt64.toNat) s.probing.intervalSecs
      (s.override env).probing.intervalSecs :=
  takenFrom_number (fun n => Nat.le_sub_one_of_lt n.toNat_lt) (fun _ => UInt64.ofNat_toNat)
    (fun _ hn => UInt64.toNat_ofNat_of_lt' (Nat.lt_of_le_sub_one (by decide) hn)) env _ _

theorem override_peers : TakenFrom env "GDOMAP_PROBE__PEERS" MeansAddresses s.probing.peers
    (s.override env).probing.peers :=
  takenFrom_map meansAddresses_iff env _ _

/-- Nothing else is taken. -/
theorem override_eq : s.override env =
    { s with
      listening := { s.listening with port := (s.override env).listening.port }
      probing := { s.probing with
        enabled := (s.override env).probing.enabled
        intervalSecs := (s.override env).probing.intervalSecs
        peers := (s.override env).probing.peers } } := rfl

/-- Settings that have been taken from an environment are not changed by it again. -/
theorem override_override : (s.override env).override env = s.override env := by
  have hport := (override_port s env).again (override_port (s.override env) env)
  have henabled := (override_enabled s env).again (override_enabled (s.override env) env)
  have hinterval :=
    (override_intervalSecs s env).again (override_intervalSecs (s.override env) env)
  have hpeers := (override_peers s env).again (override_peers (s.override env) env)
  rw [override_eq (s.override env) env, hport, henabled, hinterval, hpeers]

end

/-- The text of addresses with commas between them. -/
def joined (as : List Address) : String := String.ofList ([','].intercalate (as.map Address.dotted))

theorem meansAddresses_joined (as : List Address) : MeansAddresses (joined as) as := by
  refine ⟨as.map fun a => { content := .address a }, ?_, ?_⟩
  · have htext (a : Address) : Part.text { content := .address a } = a.dotted := by
      rw [Part.text, List.append_nil]
      rfl
    rw [listing, List.map_map, joined, String.toList_ofList]
    exact congrArg _ (List.map_congr_left fun a _ => htext a)
  · rw [addresses, List.filterMap_map]
    exact List.filterMap_some

/-- Four settings are taken from the environment, and nothing else is. Each becomes what its
variable says, and stays as it was where there is no such variable or its text is no number of the
right size. A list of addresses says the addresses between its commas in their order, whatever
else is there; every text is such a list. Settings that have been taken from an environment are not
changed by it again, and what a setting was before does not matter if its variable says
something. -/
theorem taken_from_environment (s : Settings) (env : Environment) :
    let t := s.override env
    t = { s with
      listening := { s.listening with port := t.listening.port }
      probing := { s.probing with
        enabled := t.probing.enabled
        intervalSecs := t.probing.intervalSecs
        peers := t.probing.peers } } ∧
    (TakenFrom env "GDOMAP_NETWORK__PORT" (MeansNumber UInt16.toNat)
        s.listening.port t.listening.port ∧
      TakenFrom env "GDOMAP_PROBE__ENABLED" MeansFlag s.probing.enabled t.probing.enabled ∧
      TakenFrom env "GDOMAP_PROBE__INTERVAL_SECS" (MeansNumber UInt64.toNat)
        s.probing.intervalSecs t.probing.intervalSecs ∧
      TakenFrom env "GDOMAP_PROBE__PEERS" MeansAddresses s.probing.peers t.probing.peers) ∧
    ((∀ parts, env "GDOMAP_PROBE__PEERS" = some (String.ofList (listing parts)) →
        t.probing.peers = addresses parts) ∧
      (∀ as, env "GDOMAP_PROBE__PEERS" = some (joined as) → t.probing.peers = as) ∧
      (env "GDOMAP_PROBE__PEERS" = some "" → t.probing.peers = []) ∧
      ∀ v, ∃ parts, v = String.ofList (listing parts)) ∧
    t.override env = t ∧
    (∀ port, Says env "GDOMAP_NETWORK__PORT" (MeansNumber UInt16.toNat) →
      override { s with listening := { s.listening with port } } env = t) ∧
    (∀ enabled, (env "GDOMAP_PROBE__ENABLED").isSome →
      override { s with probing := { s.probing with enabled } } env = t) ∧
    (∀ intervalSecs, Says env "GDOMAP_PROBE__INTERVAL_SECS" (MeansNumber UInt64.toNat) →
      override { s with probing := { s.probing with intervalSecs } } env = t) ∧
    ∀ peers, (env "GDOMAP_PROBE__PEERS").isSome →
      override { s with probing := { s.probing with peers } } env = t := by
  intro t
  have hlist (parts : List Part)
      (h : env "GDOMAP_PROBE__PEERS" = some (String.ofList (listing parts))) :
      t.probing.peers = addresses parts :=
    (override_peers s env).1 _ _ h ⟨parts, String.toList_ofList.symm, rfl⟩
  refine ⟨override_eq s env, ⟨override_port s env, override_enabled s env,
    override_intervalSecs s env, override_peers s env⟩,
    ⟨hlist, fun as h => ?_, hlist [], fun v => ?_⟩,
    override_override s env, fun port hsaid => ?_, fun enabled hsome => ?_,
    fun intervalSecs hsaid => ?_, fun peers hsome => ?_⟩
  · exact (override_peers s env).1 _ _ h (meansAddresses_joined as)
  · obtain ⟨parts, hparts⟩ := exists_listing v.toList
    exact ⟨parts, by rw [hparts, String.ofList_toList]⟩
  · have hport := (override_port { s with listening := { s.listening with port } } env).congr
      (override_port s env) hsaid
    rw [override_eq, hport]
    rfl
  · obtain ⟨v, hv⟩ := Option.isSome_iff_exists.mp hsome
    have henabled := (override_enabled { s with probing := { s.probing with enabled } } env).congr
      (override_enabled s env) ⟨v, _, hv, (meansFlag_iff v _).mpr rfl⟩
    rw [override_eq, henabled]
    rfl
  · have hinterval :=
      (override_intervalSecs { s with probing := { s.probing with intervalSecs } } env).congr
        (override_intervalSecs s env) hsaid
    rw [override_eq, hinterval]
    rfl
  · obtain ⟨v, hv⟩ := Option.isSome_iff_exists.mp hsome
    have hpeers := (override_peers { s with probing := { s.probing with peers } } env).congr
      (override_peers s env) ⟨v, _, hv, (meansAddresses_iff v _).mpr rfl⟩
    rw [override_eq, hpeers]
    rfl

/-- A port with a plus sign is taken, an interval with a unit is not, and of a list the two
addresses are taken that it has. -/
theorem port_and_peers_taken :
    let env : Environment := fun name =>
      [("GDOMAP_NETWORK__PORT", "+7538"), ("GDOMAP_PROBE__ENABLED", "no"),
        ("GDOMAP_PROBE__INTERVAL_SECS", "60s"),
        ("GDOMAP_PROBE__PEERS", "10.0.0.1, 10.0.0.2\t,bogus")].lookup name
    let t := override (defaults {}) env
    t.listening.port = 7538 ∧ t.probing.enabled = false ∧ t.probing.intervalSecs = 300 ∧
      t.probing.peers = [.ofOctets 10 0 0 1, .ofOctets 10 0 0 2] := by
  intro env t
  obtain ⟨-, ⟨hport, henabled, hinterval, -⟩, ⟨hlist, -⟩, -⟩ := taken_from_environment (defaults {}) env
  have hseconds : ¬Says env "GDOMAP_PROBE__INTERVAL_SECS" (MeansNumber UInt64.toNat) := by
    rintro ⟨v, x, hv, hx⟩
    have hread : number? env "GDOMAP_PROBE__INTERVAL_SECS" (UInt64.size - 1) = some x.toNat :=
      number?_eq_some_iff.mpr ⟨v, hv, hx, Nat.le_sub_one_of_lt x.toNat_lt⟩
    have hnone : number? env "GDOMAP_PROBE__INTERVAL_SECS" (UInt64.size - 1) = none := by
      decide +kernel
    rw [hnone] at hread
    cases hread
  refine ⟨hport.1 "+7538" 7538 (by decide) ?_, ?_, hinterval.2 hseconds, ?_⟩
  · exact ⟨"7538".toList, .inr rfl, by decide, List.all_eq_true.mp (by decide), by decide⟩
  · exact henabled.1 "no" false (by decide) ((meansFlag_iff "no" false).mpr (by decide))
  · have hbogus (a : Address) : trim "bogus".toList ≠ a.dotted := by
      intro ha
      have hnone : Address.parse? (trim "bogus".toList) = none := by decide +kernel
      rw [ha, Address.parse?_dotted] at hnone
      cases hnone
    exact hlist [{ content := .address (.ofOctets 10 0 0 1) },
      { before := [' '], content := .address (.ofOctets 10 0 0 2), after := ['\t'] },
      { content := .other "bogus".toList (by decide) hbogus }] rfl

end Settings

end PortMapper
