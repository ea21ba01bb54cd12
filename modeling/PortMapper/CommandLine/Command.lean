/-!
# Commands

The words of a command line say what to do.
-/

namespace PortMapper.CommandLine

/-- What a command line asks for. Ports are still the texts given. -/
inductive Command where
  | register (name port : String)
  /-- The empty name stands for every name at the port. -/
  | unregister (name port : String)
  | lookup (name : String)
  | names
  | servers
  | probe
  | help
  | unknown (words : List String)
deriving DecidableEq, Repr

/-- The command that words stand for. No words at all ask for the names. -/
def Command.ofWords : List String → Command
  | ["register", name, port] => .register name port
  | ["unregister", name, port] => .unregister name port
  | ["unregister-all", port] => .unregister "" port
  | ["lookup", name] => .lookup name
  | ["names"] | [] => .names
  | ["servers"] => .servers
  | ["probe"] => .probe
  | ["help"] | ["--help"] | ["-h"] => .help
  | words => .unknown words

end PortMapper.CommandLine
