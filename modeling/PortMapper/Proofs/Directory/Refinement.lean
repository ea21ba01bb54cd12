import PortMapper.Proofs.Directory.NameMap
import PortMapper.Proofs.Directory.Ordered

/-!
# Directories as maps

A directory represents a map if it is ordered and its entries are the
bindings of the map (`Directory.Represents`). Each operation on a directory
that represents a map answers as the operation on the map does, and leaves a
directory that represents what that one leaves: `Represents.register`,
`Represents.lookupLive`, `Represents.withdraw` and, for those that change
nothing, `Represents.lookup`, `Represents.get?` and `Represents.listing`.

`performAll_eq_performAll_map` is about any sequence of operations on an
empty directory: whatever they are, and whatever ports are free meanwhile, it
does not differ from a map.
-/

namespace PortMapper

/-- What the name of an entry is bound to. -/
def Registration.binding (e : Registration) : Binding := ⟨e.port, e.kind⟩

theorem Registration.ext_binding {a b : Registration} (hname : a.name = b.name)
    (hbinding : a.binding = b.binding) : a = b := by
  cases a
  cases b
  simp_all [Registration.binding]

theorem Registration.binding_eq_iff {e : Registration} {port : UInt32} {kind : PortKind} :
    e.binding = ⟨port, kind⟩ ↔ e.port = port ∧ e.kind = kind := Binding.mk.injEq .. ▸ Iff.rfl

namespace Directory

/-- The directory is ordered, and its entries are the bindings of the map. -/
structure Represents (d : Directory) (m : NameMap) : Prop extends Ordered d where
  mem_iff : ∀ e, e ∈ d.entries.toList ↔ m[e.name]? = some e.binding

theorem represents_empty : Represents {} ∅ := ⟨ordered_empty, by simp⟩

namespace Represents

variable {d d' : Directory} {m : NameMap} {l r : List Registration} {e new : Registration}

/-- The entries in their order are the bindings in the order of the names. -/
theorem toList_eq (h : d.Represents m) :
    d.entries.toList.map (fun e => (e.name, e.binding)) = m.toList := by
  have hlt : (m.toList).Pairwise fun a b => a.1 < b.1 :=
    m.ordered_keys_toList.imp compare_bytes_eq_lt.mp
  have hasc : (d.entries.toList.map fun e => (e.name, e.binding)).Pairwise fun a b => a.1 < b.1 :=
    List.pairwise_map.mpr h.ascending
  have nodup {ps : List (Bytes × Binding)} (hps : ps.Pairwise fun a b => a.1 < b.1) : ps.Nodup :=
    hps.imp fun {a b} hab heq => by
      subst heq
      exact List.lt_irrefl _ hab
  -- Both lists ascend strictly, so that it is enough that they have the same members.
  refine List.Perm.eq_of_pairwise (fun a b _ _ hab hba => absurd hba (List.lt_asymm hab)) hasc hlt
    ((List.perm_ext_iff_of_nodup (nodup hasc) (nodup hlt)).mpr fun p => ?_)
  obtain ⟨n, b⟩ := p
  rw [Std.ExtTreeMap.mem_toList_iff_getElem?_eq_some, List.mem_map]
  constructor
  · rintro ⟨e, he, heq⟩
    obtain ⟨rfl, rfl⟩ := Prod.mk.inj heq
    exact (h.mem_iff e).mp he
  · intro hb
    exact ⟨⟨n, b.port, b.kind⟩, (h.mem_iff _).mpr hb, rfl⟩

/-- A name is found at its entry if it is bound, and else between the entries
of the other names. -/
theorem locate (h : d.Represents m) (name : Bytes) :
    (∃ l e r, d.locate name = .present l.length e ∧ d.entries.toList = l ++ e :: r ∧
        e.name = name ∧ m[name]? = some e.binding) ∨
      ∃ l r, d.locate name = .absent l.length ∧ d.entries.toList = l ++ r ∧
        (∀ e ∈ l, e.name < name) ∧ (∀ e ∈ r, name < e.name) ∧ m[name]? = none := by
  rcases h.toOrdered.locate name with ⟨l, e, r, hl, split, rfl⟩ | ⟨l, r, hl, split, below, above⟩
  · refine .inl ⟨l, e, r, hl, split, rfl, (h.mem_iff e).mp ?_⟩
    rw [split]
    exact List.mem_append_right l List.mem_cons_self
  · refine .inr ⟨l, r, hl, split, below, above, ?_⟩
    refine Option.eq_none_iff_forall_ne_some.mpr fun b hb => ?_
    have hmem := (h.mem_iff ⟨name, b.port, b.kind⟩).mpr hb
    rw [split, List.mem_append] at hmem
    rcases hmem with hl | hr
    · exact absurd (below _ hl) (List.lt_irrefl _)
    · exact absurd (above _ hr) (List.lt_irrefl _)

/-! ## Changing one entry -/

/-- A directory in which the entries of other names are the old ones, and
that of this name is the new one, represents the map with a new binding. -/
theorem bind (h : d.Represents m) (hd : d'.Ordered) (split : d'.entries.toList = l ++ new :: r)
    (others : ∀ a, a.name ≠ new.name → (a ∈ d.entries.toList ↔ a ∈ l ++ r)) :
    d'.Represents (m.insert new.name new.binding) := by
  refine ⟨hd, fun a => ?_⟩
  obtain ⟨below, above⟩ := hd.around split
  rw [split, List.mem_append, List.mem_cons]
  by_cases ha : a.name = new.name
  · rw [ha, Std.ExtTreeMap.getElem?_insert_self, Option.some.injEq]
    constructor
    · rintro (hl | rfl | hr)
      · exact absurd (ha ▸ below a hl) (List.lt_irrefl _)
      · rfl
      · exact absurd (ha ▸ above a hr) (List.lt_irrefl _)
    · intro hb
      exact .inr (.inl (Registration.ext_binding ha hb.symm))
  · rw [NameMap.getElem?_insert_ne (Ne.symm ha), ← h.mem_iff, others a ha, List.mem_append]
    have hne : a ≠ new := fun heq => ha (congrArg _ heq)
    simp [hne]

/-- A directory without one of the entries represents the map without its
name. -/
theorem unbind (h : d.Represents m) (split : d.entries.toList = l ++ e :: r) :
    Represents ⟨d.entries.eraseIdxIfInBounds l.length⟩ (m.erase e.name) := by
  refine ⟨h.toOrdered.remove split, fun a => ?_⟩
  obtain ⟨below, above⟩ := h.toOrdered.around split
  rw [toList_remove split, List.mem_append]
  by_cases ha : a.name = e.name
  · rw [ha, Std.ExtTreeMap.getElem?_erase_self]
    constructor
    · rintro (hl | hr)
      · exact absurd (ha ▸ below a hl) (List.lt_irrefl _)
      · exact absurd (ha ▸ above a hr) (List.lt_irrefl _)
    · intro hb
      cases hb
  · rw [NameMap.getElem?_erase_ne (Ne.symm ha), ← h.mem_iff, split, List.mem_append, List.mem_cons]
    have hne : a ≠ e := fun heq => ha (congrArg _ heq)
    simp [hne]

/-! ## The operations -/

/-- An answer of a directory that is the answer of a map. -/
structure Agrees (a : Answer) (p : UInt32 × NameMap) : Prop where
  port : a.port = p.1
  represents : a.directory.Represents p.2

theorem register (h : d.Represents m) (isFree : Vacancy) (name : Bytes) (port : UInt32)
    (kind : PortKind) :
    Agrees (d.register isFree name port kind) (m.register isFree name port kind) := by
  by_cases hacc : Directory.acceptable name port = true
  swap
  · have hout : name.length < 1 ∨ 255 < name.length ∨ port.toNat < 1 ∨ 65535 < port.toNat := by
      have := mt acceptable_iff.mpr hacc
      omega
    rw [Directory.register, NameMap.register, if_pos hout, if_pos (by simpa using hacc)]
    exact ⟨rfl, h⟩
  have hin : ¬(name.length < 1 ∨ 255 < name.length ∨ port.toNat < 1 ∨ 65535 < port.toNat) := by
    have := acceptable_iff.mp hacc
    omega
  rw [Directory.register, NameMap.register, if_neg hin, if_neg (by simpa using hacc)]
  rcases h.locate name with
    ⟨l, e, r, hl, split, rfl, hb⟩ | ⟨l, r, hl, split, below, above, hb⟩ <;>
    simp only [hl, hb]
  · by_cases hsame : e.port = port ∧ e.kind = kind
    · rw [if_pos hsame, if_pos (Registration.binding_eq_iff.mpr hsame)]
      exact ⟨rfl, h⟩
    rw [if_neg hsame, if_neg (mt Registration.binding_eq_iff.mp hsame)]
    by_cases hfree : isFree e.use = true
    · rw [if_pos hfree, if_pos (show isFree e.binding.use = true from hfree)]
      refine ⟨rfl, h.bind (h.toOrdered.replace ⟨e.name, port, kind⟩ split rfl hacc)
        (toList_replace split) fun a ha => ?_⟩
      have hne : a ≠ e := fun heq => ha (by rw [heq])
      simp [split, hne]
    · rw [if_neg hfree, if_neg (show ¬isFree e.binding.use = true from hfree)]
      exact ⟨rfl, h⟩
  · exact ⟨rfl, h.bind (h.toOrdered.insert ⟨name, port, kind⟩ split below above hacc)
      (toList_insert split) fun a _ => by rw [split]⟩

theorem lookupLive (h : d.Represents m) (isFree : Vacancy) (name : Bytes) (kind : PortKind) :
    Agrees (d.lookupLive isFree name kind) (m.lookupLive isFree name kind) := by
  rw [Directory.lookupLive, NameMap.lookupLive]
  rcases h.locate name with ⟨l, e, r, hl, split, rfl, hb⟩ | ⟨l, r, hl, -, -, -, hb⟩ <;>
    simp only [hl, hb]
  · by_cases hkind : e.kind = kind
    swap
    · rw [if_pos hkind, if_pos (show e.binding.kind ≠ kind from hkind)]
      exact ⟨rfl, h⟩
    subst hkind
    rw [if_neg (not_not.mpr rfl), if_neg (show ¬e.binding.kind ≠ e.kind from not_not.mpr rfl)]
    by_cases hudp : e.kind.transport = .udp
    · rw [if_pos hudp, if_neg (by simp [hudp])]
      exact ⟨rfl, h⟩
    have htcp : e.kind.transport = .tcp := by cases ht : e.kind.transport <;> simp_all
    rw [if_neg hudp]
    by_cases hfree : isFree e.use = true
    · rw [if_pos hfree, if_pos (show _ ∧ isFree e.binding.use = true from ⟨htcp, hfree⟩)]
      exact ⟨rfl, h.unbind split⟩
    · rw [if_neg hfree, if_neg (fun hc : _ ∧ isFree e.binding.use = true => hfree hc.2)]
      exact ⟨rfl, h⟩
  · exact ⟨rfl, h⟩

/-- Entries withdrawn at once are the bindings withdrawn at once. -/
theorem filter (h : d.Represents m) (b : Binding) :
    Represents ⟨d.entries.filter fun e => e.binding ≠ b⟩ (m.filter fun _ c => c ≠ b) where
  toOrdered := h.toOrdered.of_sublist (by simp)
  mem_iff e := by
    rw [Std.ExtTreeMap.getElem?_filter', Option.filter_eq_some_iff, ← h.mem_iff]
    simp

theorem withdraw (h : d.Represents m) (name : Bytes) (port : UInt32) (kind : PortKind) :
    Agrees (d.withdraw name port kind) (m.withdraw name port kind) := by
  rw [Directory.withdraw, NameMap.withdraw]
  by_cases hempty : name = []
  · subst hempty
    have hkeep : (fun e : Registration => !(e.port == port && e.kind == kind)) =
        fun e => decide (e.binding ≠ ⟨port, kind⟩) := by
      funext e
      rw [Bool.eq_iff_iff]
      simp [Registration.binding_eq_iff]
    have hany : (d.entries.filter fun e => e.binding ≠ ⟨port, kind⟩).size < d.entries.size ↔
        m.toList.any (·.2 = ⟨port, kind⟩) = true := by
      rw [Array.size_filter_lt_size_iff_exists, ← h.toList_eq, List.any_map, List.any_eq_true]
      simp only [Array.mem_toList_iff, Function.comp_apply, decide_not, Bool.not_eq_true',
        decide_eq_false_iff_not, not_not, decide_eq_true_eq]
    simp only [List.isEmpty_nil, if_true, hkeep, hany]
    exact ⟨rfl, h.filter ⟨port, kind⟩⟩
  · rw [if_neg hempty, if_neg (by simpa using hempty)]
    rcases h.locate name with ⟨l, e, r, hl, split, rfl, hb⟩ | ⟨l, r, hl, -, -, -, hb⟩ <;>
      simp only [hl, hb]
    · have hiff : some e.binding = some ⟨port, kind⟩ ↔ e.port = port ∧ e.kind = kind := by
        rw [Option.some.injEq, Registration.binding_eq_iff]
      by_cases hsame : e.port = port ∧ e.kind = kind
      · rw [if_pos hsame, if_pos (hiff.mpr hsame)]
        exact ⟨rfl, h.unbind split⟩
      · rw [if_neg hsame, if_neg (mt hiff.mp hsame)]
        exact ⟨rfl, h⟩
    · exact ⟨rfl, h⟩

theorem lookup (h : d.Represents m) (name : Bytes) (kind : PortKind) :
    d.lookup name kind = m.lookup name kind := by
  rw [Directory.lookup, NameMap.lookup]
  rcases h.locate name with ⟨l, e, r, hl, -, rfl, hb⟩ | ⟨l, r, hl, -, -, -, hb⟩
  · simp only [hl, hb]
    rfl
  · simp only [hl, hb]

theorem get? (h : d.Represents m) (name : Bytes) : d.get? name = m.registration? name := by
  rw [Directory.get?, NameMap.registration?]
  rcases h.locate name with ⟨l, e, r, hl, -, rfl, hb⟩ | ⟨l, r, hl, -, -, -, hb⟩ <;>
  · simp only [hl, hb]
    rfl

/-- The entry of a name is found, and nothing else is. -/
theorem get?_eq_some_iff (h : d.Represents m) {name : Bytes} :
    d.get? name = some e ↔ e ∈ d.entries ∧ e.name = name := by
  rw [Directory.get?, ← Array.mem_toList_iff]
  rcases h.locate name with ⟨l, e', r, hl, split, rfl, hb⟩ | ⟨l, r, hl, -, -, -, hb⟩
  · rw [hl, Option.some.injEq]
    constructor
    · rintro rfl
      exact ⟨split ▸ List.mem_append_right l List.mem_cons_self, rfl⟩
    · rintro ⟨he, hname⟩
      rw [h.mem_iff, hname, hb, Option.some.injEq] at he
      exact Registration.ext_binding hname.symm he
  · rw [hl]
    constructor
    · intro hnone
      cases hnone
    · rintro ⟨he, hname⟩
      rw [h.mem_iff, hname, hb] at he
      cases he

theorem listing (h : d.Represents m) : d.listing = m.listing := by
  rw [Directory.listing, NameMap.listing, ← h.toList_eq, List.map_map]
  rfl

end Represents

/-! ## Sequences of operations -/

/-- What can be done with the names of a host. -/
inductive Operation where
  | register (name : Bytes) (port : UInt32) (kind : PortKind)
  | lookup (name : Bytes) (kind : PortKind)
  | lookupLive (name : Bytes) (kind : PortKind)
  | withdraw (name : Bytes) (port : UInt32) (kind : PortKind)
  | listing
  | get (name : Bytes)
deriving DecidableEq, Repr

/-- An operation with the ports that are free when it is done. -/
structure Call where
  operation : Operation
  isFree : Vacancy

/-- What an operation answers. -/
inductive Result where
  | port (port : UInt32)
  | listing (names : List Reply.Listed)
  | entry (entry : Option Registration)
deriving DecidableEq, Repr

/-- An operation on a directory. -/
def perform (d : Directory) (c : Call) : Result × Directory :=
  let answer (a : Answer) := (.port a.port, a.directory)
  match c.operation with
  | .register name port kind => answer (d.register c.isFree name port kind)
  | .lookup name kind => (.port (d.lookup name kind), d)
  | .lookupLive name kind => answer (d.lookupLive c.isFree name kind)
  | .withdraw name port kind => answer (d.withdraw name port kind)
  | .listing => (.listing d.listing, d)
  | .get name => (.entry (d.get? name), d)

/-- The same operation on a map. -/
def performOnMap (m : NameMap) (c : Call) : Result × NameMap :=
  let answer (p : UInt32 × NameMap) := (.port p.1, p.2)
  match c.operation with
  | .register name port kind => answer (m.register c.isFree name port kind)
  | .lookup name kind => (.port (m.lookup name kind), m)
  | .lookupLive name kind => answer (m.lookupLive c.isFree name kind)
  | .withdraw name port kind => answer (m.withdraw name port kind)
  | .listing => (.listing m.listing, m)
  | .get name => (.entry (m.registration? name), m)

/-- The answers to operations done one after another, and what is left. -/
def performAll {σ : Type} (perform : σ → Call → Result × σ) (s : σ) : List Call → List Result × σ
  | [] => ([], s)
  | c :: calls =>
    let (result, s) := perform s c
    let (results, s) := performAll perform s calls
    (result :: results, s)

/-- One operation answers alike, and keeps the representation. -/
theorem Represents.perform {d : Directory} {m : NameMap} (h : d.Represents m) (c : Call) :
    (d.perform c).1 = (performOnMap m c).1 ∧ (d.perform c).2.Represents (performOnMap m c).2 := by
  obtain ⟨operation, isFree⟩ := c
  cases operation with
  | register name port kind =>
    obtain ⟨hport, hrep⟩ := h.register isFree name port kind
    exact ⟨congrArg Result.port hport, hrep⟩
  | lookup name kind => exact ⟨congrArg Result.port (h.lookup name kind), h⟩
  | lookupLive name kind =>
    obtain ⟨hport, hrep⟩ := h.lookupLive isFree name kind
    exact ⟨congrArg Result.port hport, hrep⟩
  | withdraw name port kind =>
    obtain ⟨hport, hrep⟩ := h.withdraw name port kind
    exact ⟨congrArg Result.port hport, hrep⟩
  | listing => exact ⟨congrArg Result.listing h.listing, h⟩
  | get name => exact ⟨congrArg Result.entry (h.get? name), h⟩

/-- Any number of operations answer alike, and keep the representation. -/
theorem Represents.performAll {d : Directory} {m : NameMap} (h : d.Represents m)
    (calls : List Call) :
    (Directory.performAll Directory.perform d calls).1 =
        (Directory.performAll performOnMap m calls).1 ∧
      (Directory.performAll Directory.perform d calls).2.Represents
        (Directory.performAll performOnMap m calls).2 := by
  induction calls generalizing d m with
  | nil => exact ⟨rfl, h⟩
  | cons c calls ih =>
    obtain ⟨hresult, hrep⟩ := h.perform c
    obtain ⟨hresults, hreps⟩ := ih hrep
    exact ⟨congrArg₂ List.cons hresult hresults, hreps⟩

/-- Whatever is done with an empty directory, its names then ascend byte by
byte, every name has 1 to 255 bytes and every port lies between 1 and 65535;
it has answered as a map does on which the same is done, and its entries are
the bindings of that map. -/
theorem performAll_eq_performAll_map (calls : List Call) :
    let d := performAll perform {} calls
    let m := performAll performOnMap ∅ calls
    (d.2.entries.toList.Pairwise fun a b => a.name < b.name) ∧
      (∀ e ∈ d.2.entries.toList, (1 ≤ e.name.length ∧ e.name.length ≤ 255) ∧
        1 ≤ e.port.toNat ∧ e.port.toNat ≤ 65535) ∧
      d.1 = m.1 ∧ d.2.entries.toList.map (fun e => (e.name, ⟨e.port, e.kind⟩)) = m.2.toList := by
  obtain ⟨hresults, hrep⟩ := represents_empty.performAll calls
  exact ⟨hrep.ascending, fun e he => acceptable_iff.mp (hrep.acceptable e he), hresults,
    hrep.toList_eq⟩

end Directory

end PortMapper
