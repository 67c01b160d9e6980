import ProcessIntegrity.IoFailure
import ProcessIntegrity.Text.Lines
/-!
# The program's folder

The folder that holds the program, its settings file and its log files, as a value. It has no
folders of its own.
-/

namespace ProcessIntegrity.Console

/-- The files of the folder, besides the program itself, with their bytes. -/
structure Folder where
  files : List (String × ByteArray) := []

namespace Folder

def settingsFile : String := "default.toml"

def get? (f : Folder) (name : String) : Option ByteArray :=
  f.files.lookup name

def erase (f : Folder) (name : String) : Folder :=
  ⟨f.files.filter fun file => file.1 ≠ name⟩

def put (f : Folder) (name : String) (bytes : ByteArray) : Folder :=
  ⟨(f.erase name).files ++ [(name, bytes)]⟩

def read (f : Folder) (name : String) : Except IoFailure String :=
  match f.get? name with
  | none => .error .notFound
  | some bytes => IoFailure.decode bytes

/-- Adds lines at the end of a file, which is made if it is not there yet. -/
def append (f : Folder) (name : String) (lines : List String) : Folder :=
  let added := String.join (lines.map (· ++ "\n"))
  f.put name ((f.get? name).getD ByteArray.empty ++ added.toUTF8)

/-- The lines of the log files, by name: of every file but the settings. -/
def logs (f : Folder) : List (String × List String) :=
  (f.files.filter fun file => file.1 ≠ settingsFile).map fun (name, bytes) =>
    let text := (String.fromUTF8? bytes).getD ""
    (name, (Text.lines text.toList).map String.ofList)

end Folder

end ProcessIntegrity.Console
