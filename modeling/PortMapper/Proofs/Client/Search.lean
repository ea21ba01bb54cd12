import PortMapper.Proofs.Client.Calls

/-!
# Searches

A search asks the daemon for a name, then for the hosts that it knows, and then these hosts one
after another. Every host before the first that has the name is passed over
(`Client.PassedOver`), whether it answers 0 or the call to it fails. A list of hosts is passed
over as a whole or has such a first host (`Client.passedOver_or_holder`), and so a search comes
to an end in one of five ways (`Client.Searched`).

Who is asked, and for what, is what a search leaves on a network that keeps what is sent on it
(`Network.recorded`). All else is the same there.
-/

namespace PortMapper

variable {σ : Type}

/-- A network that keeps what is sent on it, the latest last. -/
def Network.recorded (network : Network σ) : Network (σ × List (Endpoint × Bytes)) :=
  fun daemon frame s =>
    let delivered := network daemon frame s.1
    (delivered.1, delivered.2, s.2 ++ [(daemon, frame)])

namespace Client

variable {α : Type} {network : Network σ} {daemon : Endpoint} {port : UInt16} {name : Bytes}
  {kind : PortKind} {s s' : σ} {sent : List (Endpoint × Bytes)} {a : Address}
  {as before : List Address} {p : UInt32}

/-- The frame that asks for a name. -/
def question (name : Bytes) (kind : PortKind) : Bytes :=
  Request.frame { opcode := .lookup, kindByte := kind.toByte, name }

/-- What a host is sent that is asked for a name. -/
def asked (port : UInt16) (name : Bytes) (kind : PortKind) (a : Address) : Endpoint × Bytes :=
  (⟨a, port⟩, question name kind)

/-- Hosts that are asked for a name one after another and do not have it: the call to each of
them fails, or it answers 0. -/
inductive PassedOver (network : Network σ) (port : UInt16) (name : Bytes) (kind : PortKind) :
    List Address → σ → σ → Prop
  | nil {s : σ} : PassedOver network port name kind [] s s
  | failing {a : Address} {as : List Address} {f : CallFault} {s s₁ s' : σ}
      (answer : lookup network ⟨a, port⟩ name kind s = (.error f, s₁))
      (rest : PassedOver network port name kind as s₁ s') :
      PassedOver network port name kind (a :: as) s s'
  | without {a : Address} {as : List Address} {s s₁ s' : σ}
      (answer : lookup network ⟨a, port⟩ name kind s = (.ok 0, s₁))
      (rest : PassedOver network port name kind as s₁ s') :
      PassedOver network port name kind (a :: as) s s'

/-- The ways in which a search for a name ends: its outcome, the state that it leaves the network
in, and what it has sent. -/
inductive Searched (network : Network σ) (daemon : Endpoint) (name : Bytes) (kind : PortKind)
    (s : σ) : Except CallFault (Option (Address × UInt32)) → σ → List (Endpoint × Bytes) → Prop
  /-- The daemon cannot be asked for the name. -/
  | unanswered {f : CallFault} {s' : σ}
      (own : lookup network daemon name kind s = (.error f, s')) :
      Searched network daemon name kind s (.error f) s' [(daemon, question name kind)]
  /-- The daemon has the name. -/
  | here {p : UInt32} {s' : σ}
      (own : lookup network daemon name kind s = (.ok p, s')) (hp : p ≠ 0) :
      Searched network daemon name kind s (.ok (some (daemon.address, p))) s'
        [(daemon, question name kind)]
  /-- The daemon cannot be asked for the hosts that it knows. -/
  | unlisted {f : CallFault} {s₁ s' : σ}
      (own : lookup network daemon name kind s = (.ok 0, s₁))
      (known : servers network daemon s₁ = (.error f, s')) :
      Searched network daemon name kind s (.error f) s'
        [(daemon, question name kind), (daemon, Request.servers.frame)]
  /-- A host has the name, and those before it do not. -/
  | there {before after : List Address} {h : Address} {p : UInt32} {s₁ s₂ s₃ s' : σ}
      (own : lookup network daemon name kind s = (.ok 0, s₁))
      (known : servers network daemon s₁ = (.ok (before ++ h :: after), s₂))
      (passed : PassedOver network daemon.port name kind before s₂ s₃)
      (answer : lookup network ⟨h, daemon.port⟩ name kind s₃ = (.ok p, s')) (hp : p ≠ 0) :
      Searched network daemon name kind s (.ok (some (h, p))) s'
        ([(daemon, question name kind), (daemon, Request.servers.frame)] ++
          before.map (asked daemon.port name kind) ++ [asked daemon.port name kind h])
  /-- No host has the name. -/
  | nowhere {as : List Address} {s₁ s₂ s' : σ}
      (own : lookup network daemon name kind s = (.ok 0, s₁))
      (known : servers network daemon s₁ = (.ok as, s₂))
      (passed : PassedOver network daemon.port name kind as s₂ s') :
      Searched network daemon name kind s (.ok none) s'
        ([(daemon, question name kind), (daemon, Request.servers.frame)] ++
          as.map (asked daemon.port name kind))

/-! ## Hosts that are passed over -/

/-- A search goes on after the hosts that it passes over. -/
theorem PassedOver.searchAmong_append (hbefore : PassedOver network port name kind before s s')
    (as : List Address) :
    searchAmong network port name kind (before ++ as) s =
      searchAmong network port name kind as s' := by
  induction hbefore with
  | nil => rfl
  | failing answer rest ih =>
    rw [List.cons_append, searchAmong, answer]
    exact ih
  | without answer rest ih =>
    rw [List.cons_append, searchAmong, answer]
    exact ih

/-- Hosts are all passed over, unless one has the name and those before it are passed over. -/
theorem passedOver_or_holder (network : Network σ) (port : UInt16) (name : Bytes)
    (kind : PortKind) (as : List Address) (s : σ) :
    (∃ s', PassedOver network port name kind as s s') ∨
      ∃ before h after s₁ p s', as = before ++ h :: after ∧
        PassedOver network port name kind before s s₁ ∧
        lookup network ⟨h, port⟩ name kind s₁ = (.ok p, s') ∧ p ≠ 0 := by
  induction as generalizing s with
  | nil => exact .inl ⟨s, .nil⟩
  | cons a as ih =>
    rcases hanswer : lookup network ⟨a, port⟩ name kind s with ⟨answer, next⟩
    rcases answer with f | p
    · rcases ih next with ⟨s', hrest⟩ | ⟨before, h, after, s₁, p, s', rfl, hbefore, hport, hp⟩
      · exact .inl ⟨s', .failing hanswer hrest⟩
      · exact .inr ⟨a :: before, h, after, s₁, p, s', rfl, .failing hanswer hbefore, hport, hp⟩
    by_cases hp : p = 0
    · subst hp
      rcases ih next with ⟨s', hrest⟩ | ⟨before, h, after, s₁, p, s', rfl, hbefore, hport, hp⟩
      · exact .inl ⟨s', .without hanswer hrest⟩
      · exact .inr ⟨a :: before, h, after, s₁, p, s', rfl, .without hanswer hbefore, hport, hp⟩
    · exact .inr ⟨[], a, as, s, p, next, rfl, .nil, hanswer, hp⟩

/-! ## What is sent -/

theorem call_recorded {r : Request} (read : Stream → Except CallFault α) :
    call network.recorded daemon (.ok r) read (s, sent) =
      ((call network daemon (.ok r) read s).1, (call network daemon (.ok r) read s).2,
        sent ++ [(daemon, r.frame)]) := by
  simp only [call, Network.recorded]
  generalize network daemon r.frame s = delivered
  obtain ⟨delivery, next⟩ := delivered
  cases delivery <;> rfl

theorem lookup_recorded (hname : name.length ≤ maxNameLength) {answer : Except CallFault UInt32}
    (h : lookup network daemon name kind s = (answer, s')) :
    lookup network.recorded daemon name kind (s, sent) =
      (answer, s', sent ++ [(daemon, question name kind)]) := by
  rw [lookup, Request.lookup, Request.naming_of_le hname] at h ⊢
  rw [call_recorded, h]
  rfl

theorem servers_recorded {answer : Except CallFault (List Address)}
    (h : servers network daemon s = (answer, s')) :
    servers network.recorded daemon (s, sent) =
      (answer, s', sent ++ [(daemon, Request.servers.frame)]) := by
  rw [servers] at h ⊢
  rw [call_recorded, h]

theorem PassedOver.recorded (hname : name.length ≤ maxNameLength)
    (h : PassedOver network port name kind as s s') (sent : List (Endpoint × Bytes)) :
    PassedOver network.recorded port name kind as (s, sent)
      (s', sent ++ as.map (asked port name kind)) := by
  induction h generalizing sent with
  | nil =>
    rw [List.map_nil, List.append_nil]
    exact .nil
  | failing answer rest ih =>
    rw [List.map_cons, List.append_cons]
    exact .failing (lookup_recorded hname answer) (ih _)
  | without answer rest ih =>
    rw [List.map_cons, List.append_cons]
    exact .without (lookup_recorded hname answer) (ih _)

/-! ## Searches -/

variable {result : Except CallFault (Option (Address × UInt32))}

theorem Searched.search_eq (h : Searched network daemon name kind s result s' sent) :
    search network daemon name kind s = (result, s') := by
  cases h with
  | unanswered own => rw [search, own]
  | here own hp =>
    rw [search, own]
    exact if_pos hp
  | unlisted own known =>
    rw [search, own]
    exact (if_neg (not_not_intro rfl)).trans (by rw [known])
  | there own known passed answer hp =>
    rw [search, own]
    refine (if_neg (not_not_intro rfl)).trans ?_
    simp only [known, passed.searchAmong_append, searchAmong, answer, if_neg hp]
  | nowhere own known passed =>
    rw [search, own]
    refine (if_neg (not_not_intro rfl)).trans ?_
    have hpassed := passed.searchAmong_append []
    rw [List.append_nil] at hpassed
    simp only [known, hpassed, searchAmong]

/-- A search that is recorded goes the same way. -/
theorem Searched.recorded (hname : name.length ≤ maxNameLength)
    (h : Searched network daemon name kind s result s' sent) :
    Searched network.recorded daemon name kind (s, []) result (s', sent) sent := by
  cases h with
  | unanswered own => exact .unanswered (lookup_recorded hname own)
  | here own hp => exact .here (lookup_recorded hname own) hp
  | unlisted own known =>
    exact .unlisted (lookup_recorded hname own) (servers_recorded known)
  | there own known passed answer hp =>
    exact .there (lookup_recorded hname own) (servers_recorded known)
      (passed.recorded hname _) (lookup_recorded hname answer) hp
  | nowhere own known passed =>
    exact .nowhere (lookup_recorded hname own) (servers_recorded known)
      (passed.recorded hname _)

/-- Every search ends in one of the ways. -/
theorem exists_searched (network : Network σ) (daemon : Endpoint) (name : Bytes)
    (kind : PortKind) (s : σ) :
    ∃ result s' sent, Searched network daemon name kind s result s' sent := by
  rcases hown : lookup network daemon name kind s with ⟨answer, s₁⟩
  rcases answer with f | p
  · exact ⟨_, _, _, .unanswered hown⟩
  by_cases hp : p ≠ 0
  · exact ⟨_, _, _, .here hown hp⟩
  obtain rfl := not_not.mp hp
  rcases hknown : servers network daemon s₁ with ⟨list, s₂⟩
  rcases list with f | as
  · exact ⟨_, _, _, .unlisted hown hknown⟩
  rcases passedOver_or_holder network daemon.port name kind as s₂ with
    ⟨s', hpassed⟩ | ⟨before, h, after, s₃, p, s', rfl, hpassed, hanswer, hp⟩
  · exact ⟨_, _, _, .nowhere hown hknown hpassed⟩
  · exact ⟨_, _, _, .there hown hknown hpassed hanswer hp⟩

/-- A search ends in one of the ways only, and is known by what it has sent. -/
theorem search_recorded_eq_iff (hname : name.length ≤ maxNameLength) :
    search network.recorded daemon name kind (s, []) = (result, s', sent) ↔
      Searched network daemon name kind s result s' sent := by
  constructor
  · intro h
    obtain ⟨result₁, s₁, sent₁, hrun⟩ := exists_searched network daemon name kind s
    have heq := (hrun.recorded hname).search_eq
    rw [h] at heq
    cases heq
    exact hrun
  · exact fun hrun => (hrun.recorded hname).search_eq

/-- No host is asked for a name that is too long. -/
theorem search_of_lt (hname : maxNameLength < name.length) :
    search network daemon name kind s = (.error (.malformed (.nameTooLong name.length)), s) := by
  have hown : lookup network daemon name kind s =
      (.error (.malformed (.nameTooLong name.length)), s) := by
    rw [lookup, Request.lookup, Request.naming_of_lt hname]
    rfl
  exact (Searched.unanswered hown).search_eq

/-- Recording what is sent changes nothing about a search. -/
theorem search_recorded (network : Network σ) (daemon : Endpoint) (name : Bytes)
    (kind : PortKind) (s : σ) :
    let recorded := search network.recorded daemon name kind (s, [])
    (recorded.1, recorded.2.1) = search network daemon name kind s := by
  intro recorded
  rcases Nat.lt_or_ge maxNameLength name.length with hlong | hname
  · rw [search_of_lt hlong, show recorded = _ from search_of_lt hlong]
  · obtain ⟨result, s', sent, hrun⟩ := exists_searched network daemon name kind s
    rw [hrun.search_eq, show recorded = _ from (hrun.recorded hname).search_eq]

theorem search_eq_none_iff : (search network daemon name kind s).1 = .ok none ↔
    ∃ s₁ as s₂ s', lookup network daemon name kind s = (.ok 0, s₁) ∧
      servers network daemon s₁ = (.ok as, s₂) ∧
      PassedOver network daemon.port name kind as s₂ s' := by
  constructor
  · intro h
    obtain ⟨result, s', sent, hrun⟩ := exists_searched network daemon name kind s
    rw [hrun.search_eq] at h
    cases hrun with
    | nowhere own known passed => exact ⟨_, _, _, _, own, known, passed⟩
    | _ => cases h
  · rintro ⟨s₁, as, s₂, s', own, known, passed⟩
    rw [(Searched.nowhere own known passed).search_eq]

/-- A port that is found is not 0. -/
theorem ne_zero_of_search (h : (search network daemon name kind s).1 = .ok (some (a, p))) :
    p ≠ 0 := by
  obtain ⟨result, s', sent, hrun⟩ := exists_searched network daemon name kind s
  rw [hrun.search_eq] at h
  cases hrun with
  | here own hp =>
    cases h
    exact hp
  | there own known passed answer hp =>
    cases h
    exact hp
  | _ => cases h

/-- A search finds the first host in order that has the name, on any network and whatever the
hosts answer or fail to answer. The daemon itself comes first, and nobody else is asked if it has
the name or cannot be asked for it or for the list of hosts; such a fault is that of the search.
The hosts of the list are asked at the port of the daemon, in their order, up to the first that
answers a port, and those that answer 0 or fail are passed over (`Searched`, which says what has
been sent to whom). Nothing is found exactly if the daemon answers 0 and all hosts of its list are
passed over. A port that is found is never 0, and nobody is asked for a name that no frame
carries. -/
theorem search_finds_first_holder (network : Network σ) (daemon : Endpoint) (name : Bytes)
    (kind : PortKind) (s : σ) :
    let recorded := search network.recorded daemon name kind (s, [])
    let found := (search network daemon name kind s).1
    (recorded.1, recorded.2.1) = search network daemon name kind s ∧
    (255 < name.length →
      recorded = (.error (.malformed (.nameTooLong name.length)), s, [])) ∧
    (name.length ≤ 255 → ∀ result s' sent, recorded = (result, s', sent) ↔
      Searched network daemon name kind s result s' sent) ∧
    (found = .ok none ↔ ∃ s₁ as s₂ s', lookup network daemon name kind s = (.ok 0, s₁) ∧
      servers network daemon s₁ = (.ok as, s₂) ∧
      PassedOver network daemon.port name kind as s₂ s') ∧
    ∀ h p, found = .ok (some (h, p)) → p ≠ 0 :=
  ⟨search_recorded network daemon name kind s, fun hname => search_of_lt hname,
    fun hname _ _ _ => search_recorded_eq_iff hname, search_eq_none_iff,
    fun _ _ => ne_zero_of_search⟩

/-- The daemon lists six hosts. The first refuses to be connected to, the second sends two bytes
and closes, the third keeps silent and the fourth answers 0. The fifth has the name, and the sixth
is not asked. -/
theorem search_passes_over_four :
    let host (n : UInt8) : Address := .ofOctets 10 17 0 n
    let kind : PortKind := ⟨.tcp, .native⟩
    let daemon : Endpoint := ⟨host 9, 538⟩
    let network : Network Unit := fun target frame s =>
      (if target.address = host 1 then .failed .connectionRefused
        else if target.address = host 2 then .received ⟨[0, 0], .closed⟩
        else if target.address = host 3 then .late .read
        else if target.address = host 5 then .received ⟨Reply.port 5000, .closed⟩
        else if frame.head? = some Opcode.servers.toByte then
          .received ⟨Reply.addresses (List.map host [1, 2, 3, 4, 5, 6]), .closed⟩
        else .received ⟨Reply.port 0, .closed⟩, s)
    let recorded := search network.recorded daemon [0x61] kind ((), [])
    [(0x61 : UInt8)].length ≤ 255 ∧
      recorded.1 = .ok (some (host 5, 5000)) ∧
      recorded.2.2.map Prod.fst = [daemon, daemon] ++ List.map (⟨host ·, 538⟩) [1, 2, 3, 4, 5] := by
  intro host kind daemon network recorded
  obtain ⟨-, -, hways, -⟩ := search_finds_first_holder network daemon [0x61] kind ()
  have passed : PassedOver network 538 [0x61] kind (List.map host [1, 2, 3, 4]) () () :=
    .failing rfl (.failing rfl (.failing rfl (.without rfl .nil)))
  have known : servers network daemon () =
      (.ok (List.map host [1, 2, 3, 4] ++ host 5 :: [host 6]), ()) := by decide +kernel
  have answer : lookup network ⟨host 5, 538⟩ [0x61] kind () = (.ok 5000, ()) := rfl
  have hrecorded : recorded = _ :=
    (hways (by decide) _ _ _).mpr (.there rfl known passed answer (by decide))
  rw [hrecorded]
  exact ⟨by decide, rfl, rfl⟩

end Client

end PortMapper
