import PortMapper.Address.Dotted
import PortMapper.Settings
import PortMapper.System
import PortMapper.Text.Blank

/-!
# Settings in the environment

Variables of the environment say where files that need not last are kept
(`Settings.defaults`), where the settings file is (`Settings.location`), and
override some of its settings (`Settings.override`). A variable whose text is
no number leaves the setting as it is.
-/

namespace PortMapper

namespace Settings

/-- A path below another. -/
def below (directory name : String) : String :=
  if directory.isEmpty then name
  else if directory.endsWith "/" then directory ++ name
  else directory ++ "/" ++ name

/-- The settings that hold when nothing is said about any. -/
def defaults (system : System) : Settings :=
  { dumpPath := below system.temporaryDirectory "gdomap.dump" }

/-- The path of the settings file. -/
def location (env : Environment) : String :=
  match env "GDOMAP_CONFIG" with
  | some path => path
  | none =>
    let directory := match env "XDG_CONFIG_HOME" with
      | some directory => directory
      | none => below ((env "HOME").getD "/tmp") ".config"
    below (below directory "gdomap") "config.toml"

/-- The number up to a limit that a variable holds. -/
def number? (env : Environment) (name : String) (limit : Nat) : Option Nat :=
  env name >>= fun v => (Decimal.read limit v.toList).toOption

/-- The addresses in a list with commas. What is no address is left out. -/
def addressList (cs : List Char) : List Address :=
  (cs.splitOn ',').filterMap fun part => Address.parse? (trim part)

/-- The settings with what the environment says. -/
def override (s : Settings) (env : Environment) : Settings :=
  { s with
    listening := { s.listening with
      port := ((number? env "GDOMAP_NETWORK__PORT" (UInt16.size - 1)).map (·.toUInt16)).getD
        s.listening.port }
    probing := { s.probing with
      enabled := ((env "GDOMAP_PROBE__ENABLED").map fun v => v == "true" || v == "1").getD
        s.probing.enabled
      intervalSecs := ((number? env "GDOMAP_PROBE__INTERVAL_SECS" (UInt64.size - 1)).map
        (·.toUInt64)).getD s.probing.intervalSecs
      peers := ((env "GDOMAP_PROBE__PEERS").map fun v => addressList v.toList).getD
        s.probing.peers } }

end Settings

end PortMapper
