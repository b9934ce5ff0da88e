import ChangeCoupling.Command.Script
import ChangeCoupling.Settings

/-! The command that gives a project a file of settings. -/

namespace ChangeCoupling.Init

/-- Settings that exist already are not touched. -/
def script : Script String :=
  .probe Settings.fileName fun given =>
    if given then .fail .settingsExist
    else do
      Script.write Settings.fileName Settings.template
      return "Created " ++ Settings.fileName ++ " with default configuration\n"

end ChangeCoupling.Init
