import FlashMarkup.CommandLine.Console
import FlashMarkup.Storage.FileSystem

/-!
# Sessions

A session is a console held in memory: a file system and the texts that have been printed. Its clock
stands still.
-/

namespace FlashMarkup

/-- The state of a session. -/
structure Session where
  files : FileSystem
  printed : Text
  complaints : Text

namespace Session

/-- A session that starts with some files. -/
def start (files : FileSystem) : Session := ⟨files, [], []⟩

/-- Replace the files, unless there is a failure. -/
def update (change : FileSystem → Except FileError FileSystem) :
    StateM Session (Except FileError Unit) := do
  let session ← get
  match change session.files with
  | .ok files =>
    set { session with files }
    return .ok ()
  | .error failure => return .error failure

/-- The console of a session whose surroundings may ask for a log filter. -/
def console (filter : Option Text) : Console (StateM Session) where
  read path := do return (← get).files.read path
  write path content := update fun files => files.write path content
  openLog path := update fun files => files.append path []
  addToLog path line := do
    let _ ← update fun files => files.append path line.toBytes
  stamp := pure "0"
  print content := modify fun session => { session with printed := session.printed ++ content }
  complain content :=
    modify fun session => { session with complaints := session.complaints ++ content }
  filter := filter

end Session

end FlashMarkup
