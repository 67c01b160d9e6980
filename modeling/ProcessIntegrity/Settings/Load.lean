import ProcessIntegrity.Log
import ProcessIntegrity.Settings.File
/-!
# Loading settings

Reading the settings file at a path, once the text of the file, or the reason why there is none, is
known. Loading logs what it does.
-/

namespace ProcessIntegrity.Settings

structure Loaded where
  result : Except Stop Settings
  records : List Log.Record

def loadRecord (level : Log.Level) (text : String) : Log.Record :=
  ⟨level, .config, text⟩

def load (defaults : Settings) (path : String) (content : Except IoFailure String) : Loaded :=
  let reading := loadRecord .debug s!"Reading config from {Text.quote path}"
  match content with
  | .error why => ⟨.error (.failed (.io why)), [reading]⟩
  | .ok text =>
    match parse defaults text with
    | .error stop => ⟨.error stop, [reading]⟩
    | .ok s => ⟨.ok s, [reading, loadRecord .info s!"Loaded config from {Text.quote path}"]⟩

/-- As `load`, but a file that does not exist gives the defaults. -/
def loadOrDefault (defaults : Settings) (path : String) (content : Except IoFailure String) :
    Loaded :=
  let loaded := load defaults path content
  if content matches .error .notFound then
    ⟨.ok defaults, loaded.records ++
      [loadRecord .info s!"No config at {Text.quote path}, using defaults"]⟩
  else
    loaded

end ProcessIntegrity.Settings
