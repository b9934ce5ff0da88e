import ChangeCoupling.Band.Basic
import ChangeCoupling.Mining.Options
import ChangeCoupling.Text.Line
import ChangeCoupling.Toml.Reader

/-! The settings of a project, in four sections. Every setting has a default; the sections and their keys are
optional, and other keys are left alone. -/

namespace ChangeCoupling

structure Settings.History where
  branch? : Option String := none
  maxFiles? : Option Nat := none
  keywords : List String := ["FIX", "BUG", "CHANGE", "UPDATE", "REMOVE"]
  deriving DecidableEq

structure Settings.Mining where
  minSupport : Double := Double.nearest 5 1000
  partitions : Nat := 5
  deriving DecidableEq

structure Settings.Bands where
  low : Nat := 14
  high : Nat := 35
  deriving DecidableEq

structure Settings.Paths where
  transactions : String := "commit-transactions.txt"
  fileStats : String := "file-stats.csv"
  groundTruth : String := "ground-truth.txt"
  outputDir : String := "."
  deriving DecidableEq

structure Settings where
  history : Settings.History := {}
  mining : Settings.Mining := {}
  bands : Settings.Bands := {}
  paths : Settings.Paths := {}
  deriving DecidableEq

namespace Settings

/-- The file that the settings of a project are in. -/
def fileName : String := ".cochange.toml"

/-- A file of settings for a start, in which every setting is shown with its default and none is made. -/
def template : String :=
  Text.unlines ["# Cochange Configuration", "", "[history]", "# branch = \"master\"", "# max_files_per_commit = 50",
    "# bug_fix_keywords = [\"FIX\", \"BUG\", \"CHANGE\", \"UPDATE\", \"REMOVE\"]", "", "[mining]",
    "# min_support = 0.005", "# num_partitions = 5", "", "[bands]", "# low_threshold = 14", "# high_threshold = 35",
    "", "[paths]", "# transactions = \"commit-transactions.txt\"", "# file_stats = \"file-stats.csv\"",
    "# ground_truth = \"ground-truth.txt\"", "# output_dir = \".\""]

/-! Values of single settings. -/

def text? : Toml → Option String
  | .string value => some value
  | _ => none

def count? : Toml → Option Nat
  | .integer value => if value < 0 then none else some value.toNat
  | _ => none

/-- A whole number is a number, too. -/
def number? : Toml → Option Double
  | .integer value => some (Double.ofInt value)
  | .float value => some value
  | _ => none

def texts? : Toml → Option (List String)
  | .array values => values.mapM text?
  | _ => none

/-- What a section gives for its keys: it is a table or an array of the values in the order of the keys. A date has
none of the keys. -/
inductive Section where
  | named (entries : Toml.Entries)
  | listed (values : List Toml)

def Section.of? : Toml → Option Section
  | .table _ entries => some (.named entries)
  | .tables elements => some (.listed (elements.map (.table .header)))
  | .array values => some (.listed values)
  | .datetime => some (.named [])
  | _ => none

/-- The value of a key, which is the one at the given position of a list. -/
def Section.find? : Section → Nat → String → Option Toml
  | named entries, _, key => entries.lookup key
  | listed values, position, _ => values[position]?

/-- A setting with a default: if it is given it has to be of the right type. -/
def Section.get (part : Section) (position : Nat) (key : String) (decode : Toml → Option α) (default : α) :
    Option α :=
  match part.find? position key with
  | none => some default
  | some value => decode value

/-- A setting without a default, which a table need not give. A list has to give it, since the positions behind it
depend on it. -/
def Section.get? (part : Section) (position : Nat) (key : String) (decode : Toml → Option α) :
    Option (Option α) :=
  match part, part.find? position key with
  | listed _, none => none
  | named _, none => some none
  | _, some value => (decode value).map some

def History.of? (part : Section) : Option History := do
  let branch? ← part.get? 0 "branch" text?
  let maxFiles? ← part.get? 1 "max_files_per_commit" count?
  let keywords ← part.get 2 "bug_fix_keywords" texts? ({} : History).keywords
  return { branch?, maxFiles?, keywords }

def Mining.of? (part : Section) : Option Mining := do
  let minSupport ← part.get 0 "min_support" number? ({} : Mining).minSupport
  let partitions ← part.get 1 "num_partitions" count? ({} : Mining).partitions
  return { minSupport, partitions }

def Bands.of? (part : Section) : Option Bands := do
  let low ← part.get 0 "low_threshold" count? ({} : Bands).low
  let high ← part.get 1 "high_threshold" count? ({} : Bands).high
  return { low, high }

def Paths.of? (part : Section) : Option Paths := do
  let transactions ← part.get 0 "transactions" text? ({} : Paths).transactions
  let fileStats ← part.get 1 "file_stats" text? ({} : Paths).fileStats
  let groundTruth ← part.get 2 "ground_truth" text? ({} : Paths).groundTruth
  let outputDir ← part.get 3 "output_dir" text? ({} : Paths).outputDir
  return { transactions, fileStats, groundTruth, outputDir }

/-- A section of a document, or its defaults if it is missing. -/
def sectionOf? (entries : Toml.Entries) (name : String) (decode : Section → Option α) (default : α) : Option α :=
  match entries.lookup name with
  | none => some default
  | some value => (Section.of? value).bind decode

def ofEntries? (entries : Toml.Entries) : Option Settings := do
  let history ← sectionOf? entries "history" History.of? {}
  let mining ← sectionOf? entries "mining" Mining.of? {}
  let bands ← sectionOf? entries "bands" Bands.of? {}
  let paths ← sectionOf? entries "paths" Paths.of? {}
  return { history, mining, bands, paths }

/-- The settings that a text gives. -/
def read (text : String) : Except Failure Settings :=
  match (Toml.read text).bind ofEntries? with
  | some settings => .ok settings
  | none => .error .toml

/-- The options of mining. -/
def options (settings : Settings) : Except RangeFault ChangeCoupling.Mining.Options :=
  ChangeCoupling.Mining.Options.make settings.mining.minSupport settings.mining.partitions

/-- The thresholds of the bands. -/
def thresholds (settings : Settings) : Except RangeFault Band.Thresholds :=
  Band.Thresholds.make settings.bands.low settings.bands.high

/-- Checks that all settings are in their ranges. -/
def validate (settings : Settings) : Except Failure Unit :=
  match settings.options, settings.thresholds with
  | .error fault, _ => .error (.settings fault)
  | .ok _, .error fault => .error (.settings fault)
  | .ok _, .ok _ => .ok ()

end Settings

end ChangeCoupling
