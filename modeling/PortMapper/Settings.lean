import PortMapper.Address

/-!
# Settings

What a daemon and its clients are set up with, by section, with the value
that each setting has when nothing is said about it, and what it takes to keep
them in a file (`Settings.Format`).
-/

namespace PortMapper

namespace Settings

/-- Where the daemon listens. -/
structure Listening where
  /-- The well-known port; 0 leaves it to `wellKnownPort`. -/
  port : UInt16 := 0
  bindAddress : Address := .unspecified
deriving DecidableEq, Repr

/-- How other daemons are looked for. -/
structure Probing where
  enabled : Bool := true
  /-- Whether a network that has a broadcast address is probed by it. -/
  broadcast : Bool := true
  intervalSecs : UInt64 := 300
  /-- The largest network on which every host is probed. -/
  maxUnicastHosts : UInt32 := 254
  /-- The hosts probed on networks that are not probed otherwise. -/
  peers : List Address := []
deriving DecidableEq, Repr

/-- How long the steps of an exchange may take, in seconds. -/
structure Timeouts where
  connectSecs : UInt64 := 10
  writeSecs : UInt64 := 10
  readSecs : UInt64 := 3
  /-- How long a client has to deliver its request. -/
  requestSecs : UInt64 := 30
deriving DecidableEq, Repr

/-- An interface given by hand. -/
structure InterfaceEntry where
  address : Address
  netmask : Address
  broadcast : Option Address := none
deriving DecidableEq, Repr

end Settings

/-- The settings of a daemon and its clients. -/
structure Settings where
  /-- The file that the table of neighbours is written to on request. -/
  dumpPath : String
  listening : Settings.Listening := {}
  probing : Settings.Probing := {}
  timeouts : Settings.Timeouts := {}
  /-- The interfaces of this host; none leaves it to the system. -/
  interfaces : List Settings.InterfaceEntry := []
deriving DecidableEq, Repr

/-- How settings are kept in a file. -/
structure Settings.Format where
  /-- The settings that a text describes, if it describes any. -/
  read : List Char → Option Settings
  /-- The text that describes settings, if there is one. -/
  render : Settings → Option (List Char)

/-- The name of the service in the database of services. -/
def serviceName : String := "gdomap"

/-- The port of a service that the database of services does not have. -/
def defaultPort : UInt16 := 538

/-- The port that a daemon is reached at: the configured one unless it is 0,
then that of the database of services, if it has one. -/
def wellKnownPort (configured : UInt16) (database : String → Option UInt16) : UInt16 :=
  if configured ≠ 0 then configured else (database serviceName).getD defaultPort

end PortMapper
