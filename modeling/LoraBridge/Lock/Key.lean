/-! # Lock keys

  Every instance of the server receives every command. The one that gets the lock under the
  command's key forwards it.
-/

namespace LoraBridge.Lock

/-- What all lock keys begin with. -/
def keyRoot : String := "lora:as:downlink:lock"

/-- The key of the command with this reference for a device. -/
def key (device reference : String) : String := keyRoot ++ ":" ++ device ++ ":" ++ reference

end LoraBridge.Lock
