import Mathlib.Data.List.Basic
import PortMapper.FileTree

/-!
# Changes of file trees

What is at every place after a file or a directory has been put at one of them
(`FileTree.at?_put`), and so after directories have been made
(`FileTree.exists_of_makeDirectory`) or a file has been written
(`FileTree.exists_of_write`).

Making the directories on the way of a path keeps all that is there
(`FileTree.at?_makeDirectories`), and doing it again changes nothing
(`FileTree.makeDirectories_again`). It does not change what the path leads to
(`FileTree.find?_makeWay`), unless the path goes back up from a directory that was not there
(`FileTree.Detours`).
-/

namespace PortMapper

namespace FileTree

variable {bytes : Bytes} {entries entries' : List (String × FileTree)} {name : String}
  {f : Option FileTree → Option FileTree} {new t t' files made written : FileTree} {node : Node}
  {here p q : Place} {names rest : List String} {system : System} {path : String} {ok : Bool}

/-! ## Entries -/

theorem lookup_cons_ne {first : String} {old : FileTree} {rest : List (String × FileTree)}
    (h : name ≠ first) : ((first, old) :: rest).lookup name = rest.lookup name := by
  rw [List.lookup_cons, beq_false_of_ne h]

/-- The entry of the name is changed, and no other. -/
theorem lookup_alter (h : alter entries name f = some entries') (n : String) :
    entries'.lookup n = if n = name then f (entries.lookup name) else entries.lookup n := by
  induction entries generalizing entries' with
  | nil =>
    obtain ⟨t, ht, rfl⟩ := Option.map_eq_some_iff.mp h
    by_cases hn : n = name
    · rw [hn, List.lookup_cons_self, if_pos rfl, List.lookup_nil, ht]
    · rw [lookup_cons_ne hn, if_neg hn]
  | cons entry rest ih =>
    obtain ⟨first, old⟩ := entry
    rw [alter] at h
    split at h
    · rename_i hfirst
      obtain ⟨t, ht, rfl⟩ := Option.map_eq_some_iff.mp h
      rw [← hfirst, List.lookup_cons_self]
      by_cases hn : n = first
      · rw [hn, List.lookup_cons_self, if_pos rfl, ht]
      · rw [lookup_cons_ne hn, lookup_cons_ne hn, if_neg hn]
    · rename_i hfirst
      obtain ⟨rest', hrest, rfl⟩ := Option.map_eq_some_iff.mp h
      rw [lookup_cons_ne (Ne.symm hfirst)]
      by_cases hn : n = first
      · rw [hn, List.lookup_cons_self, List.lookup_cons_self, if_neg hfirst]
      · rw [lookup_cons_ne hn, lookup_cons_ne hn, ih hrest]

theorem isSome_alter : (alter entries name f).isSome = (f (entries.lookup name)).isSome := by
  induction entries with
  | nil => rw [alter, Option.isSome_map, List.lookup_nil]
  | cons entry rest ih =>
    obtain ⟨first, old⟩ := entry
    rw [alter]
    split
    · rename_i hfirst
      rw [Option.isSome_map, ← hfirst, List.lookup_cons_self]
    · rename_i hfirst
      rw [Option.isSome_map, ih, lookup_cons_ne (Ne.symm hfirst)]

theorem exists_of_alter (h : alter entries name f = some entries') :
    ∃ t, f (entries.lookup name) = some t ∧
      ∀ n, entries'.lookup n = if n = name then some t else entries.lookup n := by
  have hsome := isSome_alter.symm.trans (Option.isSome_of_eq_some h)
  obtain ⟨t, ht⟩ := Option.isSome_iff_exists.mp hsome
  exact ⟨t, ht, fun n => by rw [lookup_alter h, ht]⟩

/-! ## Places -/

theorem at?_cons (entries : List (String × FileTree)) (name : String) (p : Place) :
    (directory entries).at? (name :: p) = (entries.lookup name).bind (at? · p) :=
  rfl

/-- Nothing is below a place where nothing is. -/
theorem at?_append_of_none (h : files.at? p = none) (q : Place) : files.at? (p ++ q) = none := by
  induction p generalizing files with
  | nil => cases files <;> cases h
  | cons name p ih =>
    cases files with
    | file bytes => rfl
    | directory entries =>
      rw [at?_cons] at h
      rw [List.cons_append, at?_cons]
      cases hold : entries.lookup name with
      | none => rfl
      | some old =>
        rw [hold] at h
        exact ih h

/-! ## Putting -/

/-- What is put in a directory becomes one of its entries, or is put in one of them. -/
theorem exists_of_put (h : put new (name :: p) t = some t') :
    ∃ entries entries' child, t = .directory entries ∧ t' = .directory entries' ∧
      (∀ n, entries'.lookup n = if n = name then some child else entries.lookup n) ∧
      (entries.lookup name = none ∧ p = [] ∧ child = new ∨
        ∃ old, entries.lookup name = some old ∧ put new p old = some child) := by
  cases t with
  | file bytes => cases h
  | directory entries =>
    obtain ⟨entries', halter, rfl⟩ := Option.map_eq_some_iff.mp h
    obtain ⟨child, hchild, hlookup⟩ := exists_of_alter halter
    refine ⟨entries, entries', child, rfl, rfl, hlookup, ?_⟩
    split at hchild
    · rename_i hnone
      split at hchild
      · exact .inl ⟨hnone, ‹_›, (Option.some.inj hchild).symm⟩
      · cases hchild
    · rename_i old hold
      exact .inr ⟨old, hold, hchild⟩

/-- What has been put where no directory is, and is itself without entries, is there, and
everything else is as it was. -/
theorem at?_put (h : put new p t = some t') (hnew : ∀ q, q ≠ [] → new.at? q = none)
    (hp : t.at? p ≠ some .directory) (q : Place) :
    t'.at? q = if q = p then new.at? [] else t.at? q := by
  induction p generalizing t t' q with
  | nil =>
    cases h
    split
    · rename_i hq
      rw [hq]
    · rename_i hq
      obtain ⟨bytes, rfl⟩ : ∃ bytes, t = .file bytes := by
        cases t with
        | file bytes => exact ⟨bytes, rfl⟩
        | directory entries => exact absurd rfl hp
      rw [hnew q hq]
      cases q with
      | nil => exact absurd rfl hq
      | cons n q => rfl
  | cons name p ih =>
    obtain ⟨entries, entries', child, rfl, rfl, hlookup, hchild⟩ := exists_of_put h
    cases q with
    | nil => rfl
    | cons n q =>
      rw [at?_cons, at?_cons, hlookup]
      by_cases hn : n = name
      · subst hn
        rw [at?_cons] at hp
        rw [if_pos rfl, Option.bind_some]
        simp only [List.cons.injEq, true_and]
        rcases hchild with ⟨hnone, rfl, rfl⟩ | ⟨old, hold, hchild⟩
        · rw [hnone, Option.bind_none]
          by_cases hq : q = []
          · rw [if_pos hq, hq]
          · rw [if_neg hq, hnew q hq]
        · rw [hold, Option.bind_some] at hp
          rw [hold, Option.bind_some]
          exact ih hchild hp q
      · rw [if_neg hn, if_neg fun hq => hn (List.cons.inj hq).1]

/-! ## Making directories -/

/-- There is a directory already; or none can be made; or there was nothing, and now there is a
directory, and everything else is as it was. -/
theorem exists_of_makeDirectory (h : files.makeDirectory system p = (ok, made)) :
    (ok = true ∧ files.at? p = some .directory ∧ made = files) ∨
      (ok = false ∧ files.at? p ≠ some .directory ∧ made = files) ∨
      (ok = true ∧ files.at? p = none ∧
        ∀ q, made.at? q = if q = p then some .directory else files.at? q) := by
  rw [makeDirectory] at h
  split at h
  · cases h
    exact .inl ⟨rfl, ‹_›, rfl⟩
  · rename_i hfile
    cases h
    exact .inr (.inl ⟨rfl, by simp [hfile], rfl⟩)
  · rename_i hnone
    split at h
    · cases h
      exact .inr (.inl ⟨rfl, by simp [hnone], rfl⟩)
    · rename_i hput
      cases h
      refine .inr (.inr ⟨rfl, hnone, fun q => ?_⟩)
      split at hput
      · rw [at?_put hput (fun q hq => ?_) (by simp [hnone])]
        · rfl
        · cases q with
          | nil => exact absurd rfl hq
          | cons n q => rfl
      · cases hput

/-- The first directory is made, if it can be, and the others after it. -/
theorem makeDirectories_cons (h : makeDirectories system files here (name :: names) = (ok, made)) :
    (ok = false ∧ made = files ∧
        ¬(files.at? here = some .directory ∧ files.at? (follow here name) = some .directory)) ∨
      ∃ first, files.at? here = some .directory ∧
        files.makeDirectory system (follow here name) = (true, first) ∧
        makeDirectories system first (follow here name) names = (ok, made) := by
  rw [makeDirectories] at h
  split at h
  · rename_i hhere
    split at h
    · exact .inr ⟨_, hhere, ‹_›, h⟩
    · rename_i hfirst
      cases h
      rcases exists_of_makeDirectory hfirst with ⟨hok, -⟩ | ⟨-, hnext, rfl⟩ | ⟨hok, -⟩
      · cases hok
      · exact .inl ⟨rfl, rfl, fun hboth => hnext hboth.2⟩
      · cases hok
  · rename_i hhere
    cases h
    exact .inl ⟨rfl, rfl, fun hboth => hhere hboth.1⟩

theorem at?_makeDirectory (h : files.makeDirectory system p = (ok, made))
    (hq : files.at? q = some node) : made.at? q = some node := by
  rcases exists_of_makeDirectory h with ⟨-, -, rfl⟩ | ⟨-, -, rfl⟩ | ⟨-, hnone, hat⟩
  · exact hq
  · exact hq
  · rw [hat, if_neg, hq]
    rintro rfl
    rw [hnone] at hq
    cases hq

/-- What there is stays. -/
theorem at?_makeDirectories (h : makeDirectories system files here names = (ok, made))
    (hq : files.at? q = some node) : made.at? q = some node := by
  induction names generalizing files here with
  | nil =>
    cases h
    exact hq
  | cons name names ih =>
    rcases makeDirectories_cons h with ⟨-, rfl, -⟩ | ⟨first, -, hfirst, hrest⟩
    · exact hq
    · exact ih hrest (at?_makeDirectory hfirst hq)

/-- Something new is only where the names lead. -/
theorem at?_makeDirectories_of_none (h : makeDirectories system files here names = (ok, made))
    (hq : files.at? q = none) (hne : ∀ before, before <+: names → before.foldl follow here ≠ q) :
    made.at? q = none := by
  induction names generalizing files here with
  | nil =>
    cases h
    exact hq
  | cons name names ih =>
    rcases makeDirectories_cons h with ⟨-, rfl, -⟩ | ⟨first, -, hfirst, hrest⟩
    · exact hq
    · refine ih hrest ?_ fun before hbefore =>
        hne (name :: before) (List.cons_prefix_cons.mpr ⟨rfl, hbefore⟩)
      rcases exists_of_makeDirectory hfirst with ⟨-, -, rfl⟩ | ⟨hok, -⟩ | ⟨-, -, hat⟩
      · exact hq
      · cases hok
      · have hnext : follow here name ≠ q :=
          hne [name] (List.cons_prefix_cons.mpr ⟨rfl, List.nil_prefix⟩)
        rw [hat, if_neg hnext.symm, hq]

/-- Names lead nowhere from where nothing is. -/
theorem locate_of_none (h : files.at? here = none) (hnames : names ≠ []) :
    files.locate here names = none := by
  cases names with
  | nil => exact absurd rfl hnames
  | cons name names => rw [locate, if_neg (by simp [h])]

/-- The directories that are there now are the way to what comes after them. -/
theorem locate_makeDirectories (h : makeDirectories system files here names = (true, made))
    (rest : List String) :
    made.locate here (names ++ rest) = made.locate (names.foldl follow here) rest := by
  induction names generalizing files here with
  | nil => rfl
  | cons name names ih =>
    rcases makeDirectories_cons h with ⟨hok, -⟩ | ⟨first, hhere, hfirst, hrest⟩
    · cases hok
    · rw [List.cons_append, locate, if_pos (at?_makeDirectories h hhere)]
      exact ih hrest

/-- If not all directories are there, there is no way. -/
theorem locate_of_makeDirectories_false
    (h : makeDirectories system files here names = (false, made)) (hrest : rest ≠ []) :
    made.locate here (names ++ rest) = none := by
  induction names generalizing files here with
  | nil => cases h
  | cons name names ih =>
    rw [List.cons_append, locate]
    split
    · rename_i hhere
      rcases makeDirectories_cons h with ⟨-, rfl, hnot⟩ | ⟨first, -, -, hfirst⟩
      · obtain ⟨n, ns, hns⟩ := List.exists_cons_of_ne_nil
          (List.append_ne_nil_of_right_ne_nil names hrest)
        rw [hns, locate, if_neg fun hnext => hnot ⟨hhere, hnext⟩]
      · exact ih hfirst
    · rfl

/-- Making directories again does the same, and makes nothing new. -/
theorem makeDirectories_again (h : makeDirectories system files here names = (ok, made)) :
    makeDirectories system made here names = (ok, made) := by
  induction names generalizing files here with
  | nil =>
    cases h
    rfl
  | cons name names ih =>
    rcases makeDirectories_cons h with ⟨-, rfl, -⟩ | ⟨first, hhere, hfirst, hrest⟩
    · exact h
    · have hnext : first.at? (follow here name) = some .directory := by
        rcases exists_of_makeDirectory hfirst with ⟨-, hat, rfl⟩ | ⟨hok, -⟩ | ⟨-, -, hat⟩
        · exact hat
        · cases hok
        · rw [hat, if_pos rfl]
      rw [makeDirectories, if_pos (at?_makeDirectories h hhere), makeDirectory,
        at?_makeDirectories hrest hnext]
      exact ih hrest

/-! ## Detours -/

/-- Whether names lead back up from where nothing is. -/
def Detours (files : FileTree) (here : Place) (names : List String) : Prop :=
  ∃ before, before ++ [".."] <+: names ∧ files.at? (before.foldl follow here) = none

theorem not_detours_of_not_mem (h : ".." ∉ names) : ¬files.Detours here names := by
  rintro ⟨before, hbefore, -⟩
  exact h (hbefore.subset (List.mem_append_right before List.mem_cons_self))

theorem Detours.cons (h : files.Detours (follow here name) names) :
    files.Detours here (name :: names) := by
  obtain ⟨before, hbefore, hnone⟩ := h
  exact ⟨name :: before, List.cons_prefix_cons.mpr ⟨rfl, hbefore⟩, hnone⟩

/-- Names that start where nothing is only lead further down, unless they make a detour. -/
theorem not_mem_of_not_detours (hnone : files.at? here = none) (h : ¬files.Detours here names) :
    ".." ∉ names := by
  induction names generalizing here with
  | nil => exact List.not_mem_nil
  | cons name names ih =>
    have hname : name ≠ ".." := by
      rintro rfl
      exact h ⟨[], List.cons_prefix_cons.mpr ⟨rfl, List.nil_prefix⟩, hnone⟩
    have hfollow : follow here name = here ++ [name] := if_neg hname
    rw [List.mem_cons, not_or]
    refine ⟨hname.symm, ih ?_ (mt Detours.cons h)⟩
    rw [hfollow, at?_append_of_none hnone]

theorem foldl_follow (h : ".." ∉ names) (here : Place) :
    names.foldl follow here = here ++ names := by
  induction names generalizing here with
  | nil => exact (List.append_nil here).symm
  | cons name names ih =>
    rw [List.mem_cons, not_or] at h
    rw [List.foldl_cons, follow, if_neg (Ne.symm h.1), ih h.2, List.append_assoc,
      List.singleton_append]

/-- Beyond directories that are made where nothing was, there is nothing. -/
theorem at?_beyond_makeDirectories {last : String}
    (h : makeDirectories system files here (name :: names) = (true, made))
    (hhere : files.at? here = some .directory) (hnone : files.at? (follow here name) = none)
    (hdown : ".." ∉ names) : made.at? (follow here name ++ (names ++ [last])) = none := by
  refine at?_makeDirectories_of_none h (at?_append_of_none hnone _) fun before hbefore heq => ?_
  cases before with
  | nil =>
    rw [List.foldl_nil] at heq
    rw [heq, at?_append_of_none hnone] at hhere
    cases hhere
  | cons n before =>
    -- What is made on the way has fewer names.
    obtain ⟨rfl, hshorter⟩ := List.cons_prefix_cons.mp hbefore
    have hbelow : ".." ∉ before := fun hmem => hdown (hshorter.subset hmem)
    rw [List.foldl_cons, foldl_follow hbelow, List.append_cancel_left_eq] at heq
    have hlength := hshorter.length_le
    rw [heq, List.length_append, List.length_singleton] at hlength
    omega

/-- Making directories does not change what is beyond them, unless the names make a detour. -/
theorem at?_locate_makeDirectories {last : String}
    (h : makeDirectories system files here names = (true, made))
    (hdetours : ¬files.Detours here (names ++ [last])) :
    (made.locate here (names ++ [last])).bind made.at? =
      (files.locate here (names ++ [last])).bind files.at? := by
  induction names generalizing files here with
  | nil =>
    cases h
    rfl
  | cons name names ih =>
    rcases makeDirectories_cons h with ⟨hok, -⟩ | ⟨first, hhere, hfirst, hrest⟩
    · cases hok
    rcases exists_of_makeDirectory hfirst with ⟨-, hnext, rfl⟩ | ⟨hok, -⟩ | ⟨-, hnone, -⟩
    · rw [List.cons_append, locate, locate, if_pos (at?_makeDirectories h hhere), if_pos hhere]
      exact ih hrest (mt Detours.cons hdetours)
    · cases hok
    · -- From the first directory that was not there the names only lead down.
      have hdown : ".." ∉ names ++ [last] :=
        not_mem_of_not_detours hnone (mt Detours.cons hdetours)
      have hbelow : ".." ∉ names := mt (List.mem_append_left [last]) hdown
      have hne : last ≠ ".." := fun heq =>
        hdown (List.mem_append_right names (List.mem_singleton.mpr heq.symm))
      have hmade : (made.locate here (name :: names ++ [last])).bind made.at? = none := by
        rw [locate_makeDirectories h, List.foldl_cons, foldl_follow hbelow, locate]
        split
        · rw [locate, Option.bind_some, follow, if_neg hne, List.append_assoc,
            at?_beyond_makeDirectories h hhere hnone hbelow]
        · rfl
      have hfiles : files.locate here (name :: names ++ [last]) = none := by
        rw [List.cons_append, locate, if_pos hhere]
        exact locate_of_none hnone (List.append_ne_nil_of_right_ne_nil names (List.cons_ne_nil _ _))
      rw [hmade, hfiles, Option.bind_none]

/-! ## The way of a path -/

theorem find?_congr
    (h : files.place? system path >>= files.at? = written.place? system path >>= written.at?) :
    files.find? system path = written.find? system path := by
  rw [find?, find?, h]

theorem find?_eq_none (h : files.place? system path = none) : files.find? system path = none := by
  rw [find?, h]
  rfl

theorem find?_eq_file (hplace : files.place? system path = some p)
    (hat : files.at? p = some (.file bytes)) (hasks : asksForDirectory path = false) :
    files.find? system path = some (.file bytes) := by
  have hfound : files.place? system path >>= files.at? = some (.file bytes) := by
    rw [hplace]
    exact hat
  rw [find?, hfound]
  simp only [hasks, Bool.false_eq_true, if_false]

/-- Making the directories on the way of a path does not change what it leads to, unless the path
makes a detour. -/
theorem find?_makeWay (h : files.makeWay system path = (true, made))
    (hdetours : ¬files.Detours (start system path) (FileTree.names path)) :
    made.find? system path = files.find? system path := by
  refine find?_congr ?_
  rw [place?, place?]
  split
  · rfl
  · rcases List.eq_nil_or_concat (FileTree.names path) with hnames | ⟨before, last, hnames⟩
    · rw [makeWay, hnames] at h
      cases h
      rfl
    · rw [makeWay, hnames, List.concat_eq_append, List.dropLast_concat] at h
      rw [hnames, List.concat_eq_append] at hdetours ⊢
      exact at?_locate_makeDirectories h hdetours

/-- Where not all directories on the way of a path are there, it leads nowhere. -/
theorem find?_of_makeWay_false (h : files.makeWay system path = (false, made)) :
    made.find? system path = none := by
  refine find?_eq_none ?_
  rw [place?]
  split
  · rfl
  · rcases List.eq_nil_or_concat (FileTree.names path) with hnames | ⟨before, last, hnames⟩
    · rw [makeWay, hnames] at h
      cases h
    · rw [makeWay, hnames, List.concat_eq_append, List.dropLast_concat] at h
      rw [hnames, List.concat_eq_append]
      exact locate_of_makeDirectories_false h (List.cons_ne_nil _ _)

/-! ## Writing -/

/-- Bytes that are not all written are cut short. -/
theorem exists_of_keep {writing : Writing} {kept : Bytes} (h : writing.keep bytes = some kept)
    (hne : kept ≠ bytes) :
    ∃ count, writing = .upTo count ∧ count < bytes.length ∧ kept = bytes.take count := by
  cases writing with
  | refused => cases h
  | upTo count =>
    cases h
    exact ⟨count, rfl, Nat.lt_of_not_le (mt List.take_of_length_le hne), rfl⟩
  | whole => exact absurd (Option.some.inj h).symm hne

/-- The file is not written; or the bytes that are kept of it are now at a place where no
directory is, and everything else is as it was. -/
theorem exists_of_writeAt (h : files.writeAt system bytes p = (ok, written)) :
    (ok = false ∧ written = files) ∨
      ∃ kept, files.at? p ≠ some .directory ∧ (system.writing p).keep bytes = some kept ∧
        ok = (kept == bytes) ∧
        ∀ q, written.at? q = if q = p then some (.file kept) else files.at? q := by
  rw [writeAt] at h
  split at h
  · cases h
    exact .inl ⟨rfl, rfl⟩
  · rename_i kept hkept
    split at hkept
    · cases hkept
    · rename_i hplace
      split at h
      · cases h
        exact .inl ⟨rfl, rfl⟩
      · rename_i hput
        cases h
        refine .inr ⟨kept, hplace, hkept, rfl, at?_put hput (fun q hq => ?_) hplace⟩
        cases q with
        | nil => exact absurd rfl hq
        | cons n q => rfl

/-- Where names lead depends only on where directories are. -/
theorem locate_congr (h : ∀ q, files.at? q = some .directory ↔ written.at? q = some .directory) :
    files.locate here names = written.locate here names := by
  induction names generalizing here with
  | nil => rfl
  | cons name names ih => rw [locate, locate, ih, if_congr (h here) rfl rfl]

/-- The file is not written; or it is what the path leads to now, and no other place has
changed. -/
theorem exists_of_write (h : files.write system bytes path = (ok, written)) :
    (ok = false ∧ written = files) ∨
      ∃ place kept, asksForDirectory path = false ∧ files.place? system path = some place ∧
        (system.writing place).keep bytes = some kept ∧ ok = (kept == bytes) ∧
        written.place? system path = some place ∧
        written.find? system path = some (.file kept) ∧
        ∀ q, q ≠ place → written.at? q = files.at? q := by
  rw [write] at h
  split at h
  · cases h
    exact .inl ⟨rfl, rfl⟩
  · rename_i place hplace
    split at hplace
    · cases hplace
    · rename_i hasks
      rw [Bool.not_eq_true] at hasks
      rcases exists_of_writeAt h with hnot | ⟨kept, hdirectory, hkeep, hok, hat⟩
      · exact .inl hnot
      · have hsame : written.place? system path = some place := by
          rw [← hplace, place?, place?]
          refine if_congr Iff.rfl rfl (locate_congr fun q => ?_)
          rw [hat]
          split
          · rename_i hq
            rw [hq]
            exact iff_of_false (by simp) hdirectory
          · rfl
        refine .inr ⟨place, kept, hasks, hplace, hkeep, hok, hsame, ?_, fun q hq => ?_⟩
        · exact find?_eq_file hsame (by rw [hat, if_pos rfl]) hasks
        · rw [hat, if_neg hq]

end FileTree

end PortMapper
