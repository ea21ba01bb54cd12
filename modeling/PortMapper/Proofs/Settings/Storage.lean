import PortMapper.Proofs.FileTree
import PortMapper.Proofs.Text.Utf8
import PortMapper.Settings.Document
import PortMapper.Settings.Storage

/-!
# The settings file that is written

A file with the defaults is written only where nothing is, and the defaults hold where nothing is.
So what is loaded is the same after it has been written (`Settings.Written.ofFile_eq`), as far as
the format reads back the defaults from what it makes of them. It is also the same if a directory
on the way cannot be made or the file cannot be opened.

There are two exceptions. Where writing breaks off there is a part of the file
(`Settings.CutShort`), which may say something else. A path that goes back up from a directory that
is not there (`FileTree.Detours`) leads nowhere, until that directory has been made.
-/

namespace PortMapper

namespace Settings

open FileTree (names start)

/-- How writing the file with the defaults ends, and which files there are then. -/
inductive Written (format : Format) (system : System) (files : FileTree) (path : String) :
    Except SettingsFault Unit → FileTree → Prop where
  | present (found : (files.find? system path).isSome) :
      Written format system files path (.ok ()) files
  | blocked {made : FileTree} (absent : files.find? system path = none)
      (noWay : files.makeWay system path = (false, made)) :
      Written format system files path (.error .writeFailed) made
  | unrendered {made : FileTree} (absent : files.find? system path = none)
      (way : files.makeWay system path = (true, made))
      (noText : format.render (defaults system) = none) :
      Written format system files path (.error .serializeFailed) made
  | broken {made after : FileTree} {text : List Char} (absent : files.find? system path = none)
      (way : files.makeWay system path = (true, made))
      (rendered : format.render (defaults system) = some text)
      (noFile : made.write system (Utf8.encode text) path = (false, after)) :
      Written format system files path (.error .writeFailed) after
  | written {made after : FileTree} {text : List Char} (absent : files.find? system path = none)
      (way : files.makeWay system path = (true, made))
      (rendered : format.render (defaults system) = some text)
      (file : made.write system (Utf8.encode text) path = (true, after)) :
      Written format system files path (.ok ()) after

/-- The file with the defaults has been cut short: writing broke off after a part of it. -/
def CutShort (format : Format) (system : System) (path : String) (after : FileTree) : Prop :=
  ∃ text place count, format.render (defaults system) = some text ∧
    after.place? system path = some place ∧ system.writing place = .upTo count ∧
    count < (Utf8.encode text).length ∧
    after.find? system path = some (.file ((Utf8.encode text).take count))

variable {format : Format} {system : System} {files after : FileTree} {path : String}
  {result : Except SettingsFault Unit} {text : List Char}

/-! ## What is loaded -/

theorem ofFile_of_none (h : files.find? system path = none) :
    ofFile format system files path = .ok (defaults system) := by
  rw [ofFile, h]

theorem ofFile_of_file {s : Settings} (htext : format.read text = some s)
    (h : files.find? system path = some (.file (Utf8.encode text))) :
    ofFile format system files path = .ok s := by
  rw [ofFile, h]
  simp only [Utf8.decode?_encode, htext]

/-- Where only directories are made, nothing is loaded from the path as before, or it makes a
detour. -/
theorem ofFile_makeWay {made : FileTree} (absent : files.find? system path = none)
    (way : files.makeWay system path = (true, made)) :
    ofFile format system made path = ofFile format system files path ∨
      files.Detours (start system path) (names path) ∧ (made.find? system path).isSome := by
  cases hfind : made.find? system path with
  | none => exact .inl (by rw [ofFile_of_none hfind, ofFile_of_none absent])
  | some node =>
    refine .inr ⟨?_, rfl⟩
    by_contra hdetours
    rw [FileTree.find?_makeWay way hdetours, absent] at hfind
    cases hfind

/-! ## What is written -/

theorem writeDefault_eq_iff : writeDefault format system files path = (result, after) ↔
    Written format system files path result after := by
  rw [writeDefault]
  constructor
  · intro h
    by_cases hfound : (files.find? system path).isSome
    · rw [if_pos hfound] at h
      cases h
      exact .present hfound
    · have habsent := Option.not_isSome_iff_eq_none.mp hfound
      rw [if_neg hfound] at h
      split at h
      · rename_i hway
        cases h
        exact .blocked habsent hway
      · rename_i hway
        split at h
        · rename_i htext
          cases h
          exact .unrendered habsent hway htext
        · rename_i htext
          split at h
          · rename_i hwrite
            cases h
            exact .broken habsent hway htext hwrite
          · rename_i hwrite
            cases h
            exact .written habsent hway htext hwrite
  · intro h
    cases h with
    | present found => rw [if_pos found]
    | blocked absent noWay => simp [absent, noWay]
    | unrendered absent way noText => simp [absent, way, noText]
    | broken absent way rendered noFile => simp [absent, way, rendered, noFile]
    | written absent way rendered file => simp [absent, way, rendered, file]

/-- Where the file is not written whole, nothing is written, or a part of it. -/
theorem cutShort_of_write {made : FileTree} (htext : format.render (defaults system) = some text)
    (h : made.write system (Utf8.encode text) path = (false, after)) :
    after = made ∨ CutShort format system path after := by
  rcases FileTree.exists_of_write h with
    ⟨-, hsame⟩ | ⟨place, kept, -, -, hkeep, hok, hplace, hat, -⟩
  · exact .inl hsame
  · obtain ⟨count, hwriting, hcount, rfl⟩ :=
      FileTree.exists_of_keep hkeep (beq_eq_false_iff_ne.mp hok.symm)
    exact .inr ⟨text, place, count, htext, hplace, hwriting, hcount, hat⟩

theorem CutShort.isSome (h : CutShort format system path after) :
    (after.find? system path).isSome := by
  obtain ⟨text, place, count, -, -, -, -, hfile⟩ := h
  exact Option.isSome_of_eq_some hfile

/-- What is written whole is there. -/
theorem find?_of_write {made : FileTree} {bytes : Bytes}
    (h : made.write system bytes path = (true, after)) :
    after.find? system path = some (.file bytes) := by
  rcases FileTree.exists_of_write h with ⟨hok, -⟩ | ⟨place, kept, -, -, -, hok, -, hat, -⟩
  · cases hok
  · rw [hat, eq_of_beq hok.symm]

/-- Writing at a path where nothing was changes no file, unless a detour leads to it. -/
theorem file_of_write {made : FileTree} {bytes kept : Bytes} {ok : Bool} {q : Place}
    (absent : files.find? system path = none) (way : files.makeWay system path = (true, made))
    (h : made.write system bytes path = (ok, after)) (hfile : files.at? q = some (.file kept)) :
    after.at? q = some (.file kept) ∨
      files.Detours (start system path) (names path) ∧ after.place? system path = some q := by
  have hmade := FileTree.at?_makeDirectories way hfile
  rcases FileTree.exists_of_write h with ⟨-, rfl⟩ | ⟨place, -, hasks, hled, -, -, hplace, -, hrest⟩
  · exact .inl hmade
  · by_cases hq : q = place
    · subst hq
      refine .inr ⟨?_, hplace⟩
      by_contra hdetours
      have hfound := FileTree.find?_eq_file hled hmade hasks
      rw [FileTree.find?_makeWay way hdetours, absent] at hfound
      cases hfound
    · rw [hrest q hq]
      exact .inl hmade

namespace Written

/-- What is loaded does not change, apart from the two exceptions. -/
theorem ofFile_eq (h : Written format system files path result after)
    (hformat : ∀ text, format.render (defaults system) = some text →
      format.read text = some (defaults system)) :
    ofFile format system after path = ofFile format system files path ∨
      result = .error .writeFailed ∧ CutShort format system path after ∨
      files.Detours (start system path) (names path) ∧ (∃ fault, result = .error fault) ∧
        (after.find? system path).isSome := by
  cases h with
  | present found => exact .inl rfl
  | blocked absent noWay =>
    have hfind := FileTree.find?_of_makeWay_false noWay
    exact .inl (by rw [ofFile_of_none hfind, ofFile_of_none absent])
  | unrendered absent way noText =>
    exact (ofFile_makeWay absent way).imp_right fun hfound => .inr ⟨hfound.1, ⟨_, rfl⟩, hfound.2⟩
  | broken absent way rendered noFile =>
    rcases cutShort_of_write rendered noFile with rfl | hcut
    · exact (ofFile_makeWay absent way).imp_right fun hfound => .inr ⟨hfound.1, ⟨_, rfl⟩, hfound.2⟩
    · exact .inr (.inl ⟨rfl, hcut⟩)
  | written absent way rendered file =>
    have hfile := ofFile_of_file (hformat _ rendered) (find?_of_write file)
    exact .inl (by rw [hfile, ofFile_of_none absent])

/-- What is there is left alone. -/
theorem eq_of_present {node : FileTree.Node} (h : Written format system files path result after)
    (hfound : files.find? system path = some node) : after = files := by
  cases h with
  | present found => rfl
  | blocked absent | unrendered absent | broken absent | written absent =>
    cases hfound.symm.trans absent

/-- No file that there was changes, unless a detour leads to it. -/
theorem file_eq {q : Place} {bytes : Bytes} (h : Written format system files path result after)
    (hfile : files.at? q = some (.file bytes)) :
    after.at? q = some (.file bytes) ∨
      files.Detours (start system path) (names path) ∧ after.place? system path = some q := by
  cases h with
  | present found => exact .inl hfile
  | blocked absent way | unrendered absent way =>
    exact .inl (FileTree.at?_makeDirectories way hfile)
  | broken absent way rendered write | written absent way rendered write =>
    exact file_of_write absent way write hfile

/-- If it succeeds, something is there: what was, or else the file with the defaults. -/
theorem find?_eq (h : Written format system files path (.ok ()) after) :
    (after.find? system path).isSome ∧ (files.find? system path = none →
      ∃ text, format.render (defaults system) = some text ∧
        after.find? system path = some (.file (Utf8.encode text))) := by
  cases h with
  | present found =>
    refine ⟨found, fun habsent => ?_⟩
    rw [habsent] at found
    cases found
  | @written made _ text absent way rendered file =>
    have hfile := find?_of_write file
    exact ⟨Option.isSome_of_eq_some hfile, fun _ => ⟨text, rendered, hfile⟩⟩

/-- The second time it ends with the same files, whether it finds something now or fails again. -/
theorem again (h : Written format system files path result after) :
    ∃ result', Written format system after path result' after := by
  by_cases hfound : (after.find? system path).isSome
  · exact ⟨_, .present hfound⟩
  · have habsent := Option.not_isSome_iff_eq_none.mp hfound
    cases h with
    | present found => exact absurd found hfound
    | blocked absent noWay => exact ⟨_, .blocked habsent (FileTree.makeDirectories_again noWay)⟩
    | unrendered absent way noText =>
      exact ⟨_, .unrendered habsent (FileTree.makeDirectories_again way) noText⟩
    | broken absent way rendered noFile =>
      rcases cutShort_of_write rendered noFile with rfl | hcut
      · exact ⟨_, .broken habsent (FileTree.makeDirectories_again way) rendered noFile⟩
      · exact absurd hcut.isSome hfound
    | written absent way rendered file =>
      exact absurd (Option.isSome_of_eq_some (find?_of_write file)) hfound

end Written

/-- Writing the file with the defaults does not change what is loaded, whether it succeeds or
fails, unless it is cut short, or fails after the directories of a detour have been made. What is
at the path already is left alone, and so is every file elsewhere. If it succeeds, something is at
the path: what was there, or else the file with the defaults. Doing it again changes nothing. -/
theorem writeDefault_keeps_loaded (format : Format) (system : System) (files : FileTree)
    (path : String)
    (hformat : ∀ text, format.render (defaults system) = some text →
      format.read text = some (defaults system)) :
    let result := (writeDefault format system files path).1
    let after := (writeDefault format system files path).2
    let detours := files.Detours (start system path) (names path)
    (ofFile format system after path = ofFile format system files path ∨
      result = .error .writeFailed ∧ CutShort format system path after ∨
      detours ∧ (∃ fault, result = .error fault) ∧ (after.find? system path).isSome) ∧
    (∀ node, files.find? system path = some node →
      after.find? system path = some node ∧ after = files) ∧
    (∀ q bytes, files.at? q = some (.file bytes) → after.at? q = some (.file bytes) ∨
      detours ∧ after.place? system path = some q) ∧
    (result = .ok () → (after.find? system path).isSome ∧ (files.find? system path = none →
      ∃ text, format.render (defaults system) = some text ∧
        after.find? system path = some (.file (Utf8.encode text)))) ∧
    (writeDefault format system after path).2 = after := by
  intro result after detours
  have h : Written format system files path result after := writeDefault_eq_iff.mp rfl
  refine ⟨h.ofFile_eq hformat, fun node hfound => ?_, fun q bytes => h.file_eq, fun hok => ?_, ?_⟩
  · have hsame := h.eq_of_present hfound
    exact ⟨hsame ▸ hfound, hsame⟩
  · rw [hok] at h
    exact h.find?_eq
  · obtain ⟨result', hagain⟩ := h.again
    rw [writeDefault_eq_iff.mpr hagain]

/-- A file that is no text stays as it is. The file with the defaults is written into a new
directory beside it, and what was loaded before is loaded from it. Nothing is written where a
directory is asked for, which leaves the directory on the way behind. -/
theorem default_file_written :
    let system : System := {}
    let format := Format.document (defaults system)
    let files : FileTree := .directory [("etc", .directory [("hosts", .file [0xff])])]
    let written := writeDefault format system files "/etc/gdomap/config.toml"
    let half := writeDefault format system files "/etc/gdomap/config/"
    format.render (defaults system) = some (render (defaults system)) ∧
    format.read (render (defaults system)) = some (defaults system) ∧
    ofFile format system (writeDefault format system files "/etc/hosts").2 "/etc/hosts" =
      .error .readFailed ∧
    written.2.find? system "/etc/gdomap/config.toml" =
      some (.file (Utf8.encode (render (defaults system)))) ∧
    ofFile format system written.2 "/etc/gdomap/config.toml" = .ok (defaults system) ∧
    written.2.at? ["etc", "hosts"] = some (.file [0xff]) ∧
    half.1 = .error .writeFailed ∧ half.2.at? ["etc", "gdomap"] = some .directory ∧
    ofFile format system half.2 "/etc/gdomap/config/" = .ok (defaults system) := by
  intro system format files written half
  have hrender : format.render (defaults system) = some (render (defaults system)) := by
    decide +kernel
  have hread : format.read (render (defaults system)) = some (defaults system) := by
    decide +kernel
  have hformat : ∀ text, format.render (defaults system) = some text →
      format.read text = some (defaults system) := by
    intro text htext
    rw [← Option.some.inj (hrender.symm.trans htext)]
    exact hread
  have hload {path : String} (hpath : ".." ∉ names path) :
      ofFile format system (writeDefault format system files path).2 path =
        ofFile format system files path := by
    rcases (writeDefault_keeps_loaded format system files path hformat).1 with
      hsame | ⟨-, text, place, count, -, -, hpart, -⟩ | ⟨hdetours, -⟩
    · exact hsame
    · cases hpart
    · exact absurd hdetours (FileTree.not_detours_of_not_mem hpath)
  obtain ⟨-, -, hkeep, hok, -⟩ :=
    writeDefault_keeps_loaded format system files "/etc/gdomap/config.toml" hformat
  refine ⟨hrender, hread, ?_, ?_, ?_, ?_, ?_, ?_, ?_⟩
  · rw [hload (by decide +kernel)]
    decide +kernel
  · obtain ⟨text, htext, hfile⟩ := (hok (by decide +kernel)).2 (by decide +kernel)
    rw [hfile, Option.some.inj (hrender.symm.trans htext)]
  · rw [hload (by decide +kernel)]
    decide +kernel
  · refine (hkeep ["etc", "hosts"] [0xff] rfl).resolve_right fun hdetours => ?_
    exact FileTree.not_detours_of_not_mem (by decide +kernel) hdetours.1
  · decide +kernel
  · decide +kernel
  · rw [hload (by decide +kernel)]
    decide +kernel

/-- Writing that breaks off after 147 bytes leaves a file that says to probe every 3 seconds, not
every 300. And nothing is found by a path that goes up from a new directory and down to an old one,
but once the new one has been made it leads to what cannot be read. -/
theorem loaded_changes_if_cut_short :
    let system : System := { writing := fun _ => .upTo 147 }
    let format := Format.document (defaults system)
    let files : FileTree := .directory [("etc", .directory [])]
    let part := writeDefault format system files "/etc/gdomap.toml"
    let detour := writeDefault format system files "/new/../etc"
    (format.render (defaults system) >>= format.read) = some (defaults system) ∧
    ofFile format system files "/etc/gdomap.toml" = .ok (defaults system) ∧
    part.1 = .error .writeFailed ∧
    ofFile format system part.2 "/etc/gdomap.toml" =
      .ok { defaults system with probing := { intervalSecs := 3 } } ∧
    ofFile format system files "/new/../etc" = .ok (defaults system) ∧
    detour.1 = .error .writeFailed ∧
    ofFile format system detour.2 "/new/../etc" = .error .readFailed := by
  decide +kernel

end Settings

end PortMapper
