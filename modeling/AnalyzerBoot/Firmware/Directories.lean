import AnalyzerBoot.Error
import AnalyzerBoot.Files.Tree

/-!
Firmware images looked up in a list of directories. The first directory that has a file of the name
decides, whether or not that file can be used.
-/

set_option autoImplicit false

namespace AnalyzerBoot.Firmware

/-- Names a directory to look in, if it is set in the environment. -/
def directoryVariable : String := "FX3KIT_FIRMWARE_DIR"

def systemDirectories : List String :=
  ["/usr/local/share/sigrok-firmware", "/usr/share/sigrok-firmware"]

structure Directories where
  directories : List String
  deriving DecidableEq, Repr

namespace Directories

/-- The given directories, then the one of the environment, then those of the system. -/
def withDefaults (extra : List String) (environment : Option String) : Directories :=
  ⟨extra ++ environment.toList ++ systemDirectories⟩

def locate (directories : Directories) (files : Files.View) (name : String) : Option String :=
  (directories.directories.map (Files.join · name)).find? fun path =>
    (files path).any Files.Entry.isFile

/-- How many bytes of a file are read at most: one beyond the limit. They are counted in 64 bits, so
under the greatest limit nothing is read. -/
def readBound (limit : Nat) : Nat :=
  (limit + 1) % UInt64.size

/-- Takes the next bytes of an open file, which is known by the bytes not read yet. -/
def readBytes (count : Nat) : StateM Bytes Bytes :=
  modifyGet fun unread => (unread.take count, unread.drop count)

/-- Reads an open file, unless it reports more than the limit. -/
def readFile (name : String) (limit reportedSize : Nat) :
    StateM Bytes (Except BringupError Bytes) := do
  if limit < reportedSize then return .error (.resourceTooLarge name reportedSize limit)
  let data ← readBytes (readBound limit)
  if limit < data.length then return .error (.resourceTooLarge name data.length limit)
  return .ok data

def load (directories : Directories) (files : Files.View) (name : String) (limit : Nat) :
    Except BringupError Bytes :=
  match (directories.locate files name).bind files with
  | some (.file reportedSize content) => (readFile name limit reportedSize content).1
  | _ => .error (.resourceNotFound name)

end Directories

end AnalyzerBoot.Firmware
