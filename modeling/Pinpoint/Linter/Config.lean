import Pinpoint.Path
import Pinpoint.Settings

/-!
# The linter's configuration

The folder whose configuration applies to a file: the one that was chosen, or
the nearest one around the file that has a configuration.
-/

namespace Pinpoint

namespace Config

/-- The names of configuration files. -/
def fileNames : List String :=
  [".protolint.yaml", ".protolint.yml", "protolint.yaml", "protolint.yml"]

/-- Whether a folder has a configuration, given which paths are files. -/
def inFolder (isFile : Path → Bool) (folder : Path) : Bool :=
  fileNames.any fun name => isFile (Path.child folder name.toList)

/-- The nearest folder with a configuration, from the given one upwards. -/
def discover (isFile : Path → Bool) (start : Path) : Option Path :=
  (Path.ancestors start).find? (inFolder isFile)

/-- The configuration folder for a file.  A chosen file stands for its
folder. -/
def folderFor (isFile : Path → Bool) (settings : Settings) (path : Path) : Option Path :=
  match settings.configPath with
  | some chosen => if isFile chosen then Path.parent? chosen else some chosen
  | none => (Path.parent? path).bind (discover isFile)

end Config

end Pinpoint
