import Rover.Config.Data
import Rover.Journal.Notice

/-!
# The stored configuration

A configuration is kept in one file. A missing file is no error: the session runs on the
standard configuration. What is loaded or saved is always within its bounds.
-/

namespace Rover.Config

/-- What is found at the path of the file. -/
inductive Stored where
  | absent
  | text (content : String)
  /-- A file whose bytes form no text. -/
  | undecodable
  /-- Something that can be neither read nor written, and why. -/
  | blocked (reason : String)
  deriving DecidableEq, Repr

namespace Stored

/-- What is found at a path where a directory stands. -/
def directory : Stored := .blocked "Is a directory (os error 21)"

/-- What is found in a file of the given bytes. -/
def ofBytes (bytes : ByteArray) : Stored :=
  match String.fromUTF8? bytes with
  | some content => .text content
  | none => .undecodable

end Stored

/-- Names the file in a notice. -/
def fileNotice (level : Level) (text : String) : Notice := ⟨level, "JsonConfigFile: " ++ text⟩

/-- What becomes of a load that finds something other than a text. -/
def unreadable (path reason : String) : Except ConfigError Config × List Notice :=
  (.error .ioError, [fileNotice .warn ("read " ++ path ++ " failed: " ++ reason)])

/-- Loads the configuration stored at a path, with the notices that this gives. -/
def load (path : String) (stored : Stored) : Except ConfigError Config × List Notice :=
  match stored with
  | .absent => (.ok standard, [fileNotice .info (path ++ " not found, using defaults")])
  | .text content =>
    match ofText? content with
    | none => (.error .corrupted, [fileNotice .warn (path ++ " is not valid config")])
    | some config =>
      match config.validate with
      | .error error => (.error error, [])
      | .ok () => (.ok config, [fileNotice .info ("loaded " ++ path)])
  | .undecodable => unreadable path "stream did not contain valid UTF-8"
  | .blocked reason => unreadable path reason

/-- The outcome of saving, what is stored afterwards, and the notices that this gives. -/
structure Saving where
  result : Except ConfigError Unit
  stored : Stored
  notices : List Notice

/-- Saves a configuration at a path. One out of its bounds changes nothing. -/
def save (path : String) (config : Config) (stored : Stored) : Saving :=
  match config.validate with
  | .error error => ⟨.error error, stored, []⟩
  | .ok () =>
    match stored with
    | .blocked reason =>
      ⟨.error .ioError, stored, [fileNotice .warn ("write " ++ path ++ " failed: " ++ reason)]⟩
    | .absent | .text _ | .undecodable =>
      ⟨.ok (), .text config.spreadText, [fileNotice .info ("saved " ++ path)]⟩

end Rover.Config
