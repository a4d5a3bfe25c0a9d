import FlashMarkup.Settings.KeyPath
import FlashMarkup.Settings.Value
import FlashMarkup.Storage.FileSystem

/-!
# Configuration errors

A configuration cannot be used if a key path cannot be read, if a file is missing, holds no text or is
no TOML file, or if some value is not of the kind that its setting needs.
-/

namespace FlashMarkup

/-- Why a configuration cannot be used. -/
inductive SettingsError where
  | badKey (fault : KeyPath.Fault)
  | fileNotFound (path : Path)
  | fileUnreadable (failure : FileError)
  | fileMalformed (path : Path)
  /-- A setting has a value of the wrong kind. -/
  | wrongKind (found expected key : Text) (origin : Option Text)
  /-- A section is a plain value. -/
  | wrongSection (found label : Text)
  /-- A section is a list with too few items. -/
  | shortSection (count : Nat) (label : Text) (size : Nat)
  /-- A section lacks a setting. -/
  | missingSetting (name : Text)
deriving DecidableEq, Repr

namespace SettingsError

/-- A number of elements in words. -/
def elements (count : Nat) : Text :=
  Text.decimal count ++ if count = 1 then (" element" : Text) else (" elements" : Text)

/-- The message that reports the error. -/
def message : SettingsError → Text
  | .badKey fault => fault.message
  | .fileNotFound path => "configuration file \"" ++ path.display ++ "\" not found"
  | .fileUnreadable failure => failure.message
  | .fileMalformed path => "malformed configuration file " ++ path.display
  | .wrongKind found expected key origin =>
    "invalid type: " ++ found ++ ", expected " ++ expected ++ " for key `" ++ key ++ "`" ++
      match origin with
      | some file => " in " ++ file
      | none => []
  | .wrongSection found label => "invalid type: " ++ found ++ ", expected struct " ++ label
  | .shortSection count label size =>
    "invalid length " ++ Text.decimal count ++ ", expected struct " ++ label ++ " with " ++
      elements size
  | .missingSetting name => "missing field `" ++ name ++ "`"

end SettingsError

end FlashMarkup
