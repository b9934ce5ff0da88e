import ChangeCoupling.Command.Init
import ChangeCoupling.CommandLine.Arguments

/-! Command lines and what they come to. How settings are read off a text and where the history of a
repository comes from is left open. -/

namespace ChangeCoupling.CommandLine

def version : String := "0.1.0"

/-- What is shown when no command is given. -/
def welcome : String :=
  Text.unlines ["cochange v" ++ version ++ ": files that change together", "", "Quick start:",
    "  cochange init                 Create a .cochange.toml config file",
    "  cochange extract --repo .     Build the transaction log from git",
    "  cochange mine                 Mine and band co-change sets", "", "All commands:",
    "  extract   Transaction log and file statistics from git history",
    "  mine      Frequent co-change sets, frequency bands, size files",
    "  evaluate  Precision and recall of mined rules against ground truth",
    "  init      Create default configuration", "", "Run 'cochange <command> --help' for details."]

/-- What is shown when help is asked for: how a command is called, and its options. -/
def helpText (name? : Option String) : String :=
  Text.unlines (("Usage: cochange " ++ name?.getD "<COMMAND>" ++ " [OPTIONS]") :: "" :: "Options:" ::
    (optionNames name?).map ("  " ++ ·))

/-- The script of a command. Completions are not made here, only the request for them is checked. -/
def Command.script (settings : Settings) (format : Format) : Command → Script String
  | extract options => Extract.script settings options format
  | mine options => Mine.script settings options format
  | evaluate rules options => Evaluate.script settings rules options format
  | init => Init.script
  | completions _ => return ""

/-- The script of a request. The settings are read before anything else is done. -/
def Request.script (reader : SettingsReader) : Request → Script String
  | help name? => return helpText name?
  | version => return "cochange " ++ CommandLine.version ++ "\n"
  | run globals command? => do
    let settings ← Script.loadSettings reader globals.settings?
    match command? with
    | none => return welcome
    | some command => command.script settings (globals.format?.getD .text)

/-- How a run ends. -/
inductive Status where
  | success (output : String)
  | problem (cause : Problem)
  /-- There is a mistake in the command line. -/
  | misuse

def Status.code : Status → Nat
  | success _ => 0
  | problem _ => 1
  | misuse => 2

def Status.ofResult : Except Problem String → Status
  | .ok output => success output
  | .error cause => problem cause

/-- What requests need to be carried out. -/
structure Readers where
  settings : SettingsReader
  history : HistoryReader

/-- The files after a request, and how it ends. -/
def Request.execute (readers : Readers) (files : FileSystem) (request : Request) : FileSystem × Status :=
  Prod.map id Status.ofResult ((request.script readers.settings).run readers.history files)

/-- The files after a run with the given arguments, and how it ends. -/
def run (readers : Readers) (files : FileSystem) (arguments : List String) : FileSystem × Status :=
  match Request.read arguments with
  | none => (files, .misuse)
  | some request => request.execute readers files

end ChangeCoupling.CommandLine
