import PortMapper.FileTree
import PortMapper.Settings.Environment
import PortMapper.Text.Utf8

/-!
# The settings file

Settings are loaded from a file, if there is one (`Settings.ofFile`), and then
overridden by the environment (`Settings.load`). A file with the defaults can
be put where there is nothing yet (`Settings.writeDefault`).
-/

namespace PortMapper

/-- What can go wrong with a settings file. -/
inductive SettingsFault where
  | readFailed
  | parseFailed
  | writeFailed
  | serializeFailed
deriving DecidableEq, Repr

namespace Settings

/-- The settings in the file at a path. -/
def ofFile (format : Format) (system : System) (files : FileTree) (path : String) :
    Except SettingsFault Settings :=
  match files.find? system path with
  | none => .ok (defaults system)
  | some .directory => .error .readFailed
  | some (.file bytes) =>
    match Utf8.decode? bytes with
    | none => .error .readFailed
    | some text =>
      match format.read text with
      | none => .error .parseFailed
      | some s => .ok s

/-- The settings that hold for a process. -/
def load (format : Format) (system : System) (files : FileTree) : Except SettingsFault Settings :=
  (ofFile format system files (location system.environment)).map (·.override system.environment)

/-- Puts a file with the defaults at a path if there is nothing, together with
the directories on the way. -/
def writeDefault (format : Format) (system : System) (files : FileTree) (path : String) :
    Except SettingsFault Unit × FileTree :=
  if (files.find? system path).isSome then (.ok (), files)
  else match files.makeWay system path with
    | (false, made) => (.error .writeFailed, made)
    | (true, made) =>
      match format.render (defaults system) with
      | none => (.error .serializeFailed, made)
      | some text =>
        match made.write system (Utf8.encode text) path with
        | (false, written) => (.error .writeFailed, written)
        | (true, written) => (.ok (), written)

end Settings

end PortMapper
