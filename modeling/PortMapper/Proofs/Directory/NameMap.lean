import Mathlib
import PortMapper.Directory

/-!
# Maps from names to ports

What a directory is, without its array: a finite map from names to the ports
they are bound to, and the six things that can be done with it. Nothing here
is searched by bisection, and `NameMap.register`, `NameMap.lookupLive` and
`NameMap.withdraw` are written down in terms of the binding of one name.

The lemmas say what an operation does to the binding of a name that it is not
meant to change: `register_keeps`, `lookupLive_keeps` and `withdraw_keeps` are
about the binding of a name whose port is held.
-/

namespace PortMapper

/-- What a name is bound to. -/
structure Binding where
  port : UInt32
  kind : PortKind
deriving DecidableEq, Repr

/-- What has to be free for a binding to be obsolete. -/
def Binding.use (b : Binding) : PortUse := ⟨b.port, b.kind.transport⟩

/-- A finite map from names to bindings, listed in the order of the names. -/
abbrev NameMap := Std.ExtTreeMap Bytes Binding

namespace NameMap

/-- Binds a name of 1 to 255 bytes to a port between 1 and 65535. One that is
bound otherwise is bound anew if the port it is bound to is free. -/
def register (m : NameMap) (isFree : Vacancy) (name : Bytes) (port : UInt32) (kind : PortKind) :
    UInt32 × NameMap :=
  if name.length < 1 ∨ 255 < name.length ∨ port.toNat < 1 ∨ 65535 < port.toNat then (0, m)
  else match m[name]? with
    | none => (port, m.insert name ⟨port, kind⟩)
    | some b =>
      if b = ⟨port, kind⟩ then (port, m)
      else if isFree b.use then (port, m.insert name ⟨port, kind⟩)
      else (0, m)

/-- The port that a name is bound to under exactly this kind, or 0. -/
def lookup (m : NameMap) (name : Bytes) (kind : PortKind) : UInt32 :=
  match m[name]? with
  | some b => if b.kind = kind then b.port else 0
  | none => 0

/-- As `lookup`, but a name bound to a free TCP port is unbound. -/
def lookupLive (m : NameMap) (isFree : Vacancy) (name : Bytes) (kind : PortKind) :
    UInt32 × NameMap :=
  match m[name]? with
  | some b =>
    if b.kind ≠ kind then (0, m)
    else if kind.transport = .tcp ∧ isFree b.use then (0, m.erase name)
    else (b.port, m)
  | none => (0, m)

/-- Unbinds a name that is bound to exactly this port and kind, or every such
name if none is given. -/
def withdraw (m : NameMap) (name : Bytes) (port : UInt32) (kind : PortKind) : UInt32 × NameMap :=
  if name = [] then
    (if m.toList.any (·.2 = ⟨port, kind⟩) then port else 0, m.filter fun _ b => b ≠ ⟨port, kind⟩)
  else if m[name]? = some ⟨port, kind⟩ then (port, m.erase name)
  else (0, m)

/-- The names and their kinds, in the order of the names. -/
def listing (m : NameMap) : List Reply.Listed := m.toList.map fun p => ⟨p.1, p.2.kind⟩

/-- The registration of a name. -/
def registration? (m : NameMap) (name : Bytes) : Option Registration :=
  m[name]?.map fun b => ⟨name, b.port, b.kind⟩

/-! ## What stays bound -/

section

variable {m : NameMap} {n name : Bytes} {b : Binding} {isFree : Vacancy} {port : UInt32}
  {kind : PortKind}

theorem getElem?_insert_ne (h : name ≠ n) (c : Binding) : (m.insert name c)[n]? = m[n]? := by
  rw [Std.ExtTreeMap.getElem?_insert, if_neg (mt Std.compare_eq_iff_eq.mp h)]

theorem getElem?_erase_ne (h : name ≠ n) : (m.erase name)[n]? = m[n]? := by
  rw [Std.ExtTreeMap.getElem?_erase, if_neg (mt Std.compare_eq_iff_eq.mp h)]

/-- Registering keeps the binding of a name whose port is held. -/
theorem register_keeps (hb : m[n]? = some b) (held : isFree b.use = false) :
    (m.register isFree name port kind).2[n]? = some b := by
  by_cases hn : name = n
  · subst hn
    simp only [register, hb, held]
    split
    · exact hb
    · split <;> exact hb
  · simp only [register]
    split
    · exact hb
    split
    · rwa [getElem?_insert_ne hn]
    split
    · exact hb
    split
    · rwa [getElem?_insert_ne hn]
    · exact hb

/-- Registering a name elsewhere is refused while its port is held. -/
theorem register_eq_zero (hb : m[n]? = some b) (held : isFree b.use = false)
    (hne : b ≠ ⟨port, kind⟩) : (m.register isFree n port kind).1 = 0 := by
  simp only [register, hb, held, if_neg hne, Bool.false_eq_true, if_false]
  split <;> rfl

/-- Looking a name up keeps the binding of a name whose port is held. -/
theorem lookupLive_keeps (hb : m[n]? = some b) (held : isFree b.use = false) :
    (m.lookupLive isFree name kind).2[n]? = some b := by
  by_cases hn : name = n
  · subst hn
    simp only [lookupLive, hb, held, Bool.false_eq_true, and_false, if_false]
    split <;> exact hb
  · simp only [lookupLive]
    split
    · split
      · exact hb
      split
      · rwa [getElem?_erase_ne hn]
      · exact hb
    · exact hb

/-- A name whose port is held is found under its kind. -/
theorem lookupLive_eq_port (hb : m[n]? = some b) (held : isFree b.use = false) :
    (m.lookupLive isFree n b.kind).1 = b.port := by
  simp [lookupLive, hb, held]

/-- Withdrawing keeps a binding that is not the one withdrawn. -/
theorem withdraw_keeps (hb : m[n]? = some b) (h : b = ⟨port, kind⟩ → name ≠ n ∧ name ≠ []) :
    (m.withdraw name port kind).2[n]? = some b := by
  simp only [withdraw]
  split
  · rename_i hempty
    have hne : b ≠ ⟨port, kind⟩ := fun heq => (h heq).2 hempty
    simp [hb, hne]
  split
  · rename_i hbound
    have hn : name ≠ n := by
      rintro rfl
      exact (h (Option.some.inj (hb.symm.trans hbound))).1 rfl
    rwa [getElem?_erase_ne hn]
  · exact hb

end

end NameMap

end PortMapper
