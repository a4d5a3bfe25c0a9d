import FlashMarkup.CommandLine.Run
import Std.Time.Format

/-!
# The program

The program on the real system. Files are read and written as they are; the log filter of the
surroundings comes from a variable of the environment.
-/

namespace FlashMarkup.Program

/-- The cause of a failure of the system. -/
def fileErrorOf : IO.Error → FileError
  | .noFileOrDirectory _ _ _ => .notFound
  | .inappropriateType _ code _ => if code = 21 then .isDirectory else .notDirectory
  | failure => .other (toString failure)

/-- Do something with a file whose path is a text. -/
def withFile {α : Type} (path : Path) (act : String → IO α) : IO (Except FileError α) := do
  match path.toText? with
  | none => return .error .notFound
  | some written =>
    try
      return .ok (← act (String.ofList written))
    catch failure => return .error (fileErrorOf failure)

/-- The bytes of an array. -/
def bytesOf (content : ByteArray) : Bytes := content.toList

/-- The array of some bytes. -/
def arrayOf (content : Bytes) : ByteArray := ⟨content.toArray⟩

/-- The present moment. -/
def now : IO Text := do return (toString (← Std.Time.PlainDateTime.now)).toList

/-- The console of the real system. -/
def systemConsole (filter : Option Text) : Console IO where
  read path := withFile path fun file => do return bytesOf (← IO.FS.readBinFile file)
  write path content := withFile path fun file => IO.FS.writeBinFile file (arrayOf content)
  openLog path := withFile path fun file => do
    let _ ← IO.FS.Handle.mk file .append
  addToLog path line := do
    let _ ← withFile path fun file => do
      (← IO.FS.Handle.mk file .append).write (arrayOf line.toBytes)
  stamp := now
  print content := do (← IO.getStdout).putStr (String.ofList content)
  complain content := do (← IO.getStderr).putStr (String.ofList content)
  filter := filter

end FlashMarkup.Program

/-- Run the program on the real system. -/
def main (arguments : List String) : IO UInt32 := do
  let filter := (← IO.getEnv "FLASHML_LOG").map String.toList
  let code ← FlashMarkup.Program.run (FlashMarkup.Program.systemConsole filter)
    (arguments.map String.toList)
  return code.toNat.toUInt32
