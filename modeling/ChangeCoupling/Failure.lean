import ChangeCoupling.Number.Format

/-! What can go wrong, as causes. A cause belongs to one of eight kinds and has one wording, which is made here
and nowhere else. -/

namespace ChangeCoupling

/-- Why a file could not be read or written. -/
inductive FileFault where
  | notFound
  | isDirectory
  | notDirectory
  | alreadyExists
  | nameTooLong
  | permissionDenied
  | tooManyLinks
  /-- A path that holds a zero character is not even looked for. -/
  | zeroInPath
  | notText
  | other (description : String)
  deriving DecidableEq

def FileFault.message : FileFault → String
  | notFound => "No such file or directory (os error 2)"
  | isDirectory => "Is a directory (os error 21)"
  | notDirectory => "Not a directory (os error 20)"
  | alreadyExists => "File exists (os error 17)"
  | nameTooLong => "File name too long (os error 36)"
  | permissionDenied => "Permission denied (os error 13)"
  | tooManyLinks => "Too many levels of symbolic links (os error 40)"
  | zeroInPath => "file name contained an unexpected NUL byte"
  | notText => "stream did not contain valid UTF-8"
  | other description => description

/-- A parameter that is out of its range. -/
inductive RangeFault where
  | support (value : Double)
  | partitions
  | thresholds (low high : Nat)
  deriving DecidableEq

/-- The wording of a fault in an argument. -/
def RangeFault.argument : RangeFault → String
  | support value => "min_support must be in (0, 1], got " ++ Number.plain value
  | partitions => "num_partitions must be at least 1"
  | thresholds low high => s!"low threshold {low} exceeds high threshold {high}"

/-- The wording of a fault in the settings, which names the keys. -/
def RangeFault.setting : RangeFault → String
  | thresholds low high => s!"bands.low_threshold ({low}) exceeds bands.high_threshold ({high})"
  | fault => "mining." ++ fault.argument

/-- A table whose header cannot be used. -/
inductive TableFault where
  | missingHeader (table : String)
  | malformedHeader (table : String)
  | missingColumn (table column : String)
  | otherColumns (table : String) (expected : List String)
  deriving DecidableEq

def TableFault.message : TableFault → String
  | missingHeader table => table ++ ": missing header row"
  | malformedHeader table => table ++ ": malformed header row"
  | missingColumn table column => table ++ ": missing column " ++ column
  | otherColumns table expected => table ++ ": expected columns " ++ ",".intercalate expected

/-- Why the history of a repository could not be read. -/
inductive RepositoryFault where
  | notOpened
  | unknownBranch (name : String)
  | noHead
  deriving DecidableEq

def RepositoryFault.message : RepositoryFault → String
  | notOpened => "failed to open repository"
  | unknownBranch name => "failed to resolve branch '" ++ name ++ "'"
  | noHead => "failed to push HEAD"

inductive Failure where
  | file (fault : FileFault)
  | missingFile (path : String)
  | settings (fault : RangeFault)
  | argument (fault : RangeFault)
  | table (fault : TableFault)
  | repository (fault : RepositoryFault)
  | toml
  | noGroundTruth (antecedent : String)
  deriving DecidableEq

namespace Failure

/-- The kinds of failures. Each has a heading that its messages start with. -/
inductive Kind where
  | file | missingFile | settings | argument | table | repository | toml | noGroundTruth
  deriving DecidableEq

def Kind.heading : Kind → String
  | file => "IO error: "
  | missingFile => "file not found: "
  | settings => "configuration error: "
  | argument => "invalid argument: "
  | table => "parse error: "
  | repository => "git error: "
  | toml => "TOML parse error"
  | noGroundTruth => "no ground truth for antecedent "

def kind : Failure → Kind
  | file _ => .file
  | missingFile _ => .missingFile
  | settings _ => .settings
  | argument _ => .argument
  | table _ => .table
  | repository _ => .repository
  | toml => .toml
  | noGroundTruth _ => .noGroundTruth

def detail : Failure → String
  | file fault => fault.message
  | missingFile path => path
  | settings fault => fault.setting
  | argument fault => fault.argument
  | table fault => fault.message
  | repository fault => fault.message
  | toml => ""
  | noGroundTruth antecedent => antecedent

def message (failure : Failure) : String := failure.kind.heading ++ failure.detail

/-- What can be done about a failure. -/
def help? : Failure → Option String
  | missingFile _ => some "check the path, or set it under [paths] in .cochange.toml"
  | _ => none

/-- A file that is read has to be there; for any other fault the fault itself is the cause. -/
def ofRead (path : String) : FileFault → Failure
  | .notFound => missingFile path
  | fault => file fault

end Failure

end ChangeCoupling
