import ChangeCoupling.Failure

/-! Why a command ends without success. -/

namespace ChangeCoupling

inductive Problem where
  | failure (cause : Failure)
  /-- A directory could not be made. -/
  | directory (path : String)
  /-- Some rules have no score, although all of them should have one. -/
  | unscored (antecedents : List String) (rules : Nat)
  | settingsExist
  deriving DecidableEq

namespace Problem

def message : Problem → String
  | failure cause => cause.message
  | directory path => "creating " ++ path
  | unscored antecedents rules =>
    antecedents.length.repr ++ " of " ++ rules.repr ++ " rules have no score: " ++ ", ".intercalate antecedents
  | settingsExist => ".cochange.toml already exists"

def help? : Problem → Option String
  | failure cause => cause.help?
  | unscored .. => some "add ground truth for these antecedents or run without --strict"
  | _ => none

end Problem

end ChangeCoupling
