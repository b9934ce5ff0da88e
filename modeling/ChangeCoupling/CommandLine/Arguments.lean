import ChangeCoupling.Command.Evaluate
import ChangeCoupling.Command.Extract
import ChangeCoupling.Command.Mine

/-! Command lines. Options have a name behind two dashes and perhaps a value, which is the next argument or stands
behind an equals sign. Arguments are read from left to right, and nothing may be given twice. -/

namespace ChangeCoupling.CommandLine

/-- Options of every command, which may stand before or behind its name. -/
structure Globals where
  settings? : Option String := none
  format? : Option Format := none
  verbose : Bool := false

/-- Behind the name of a command an option counts more than before it. -/
def Globals.orElse (inner outer : Globals) : Globals where
  settings? := inner.settings? <|> outer.settings?
  format? := inner.format? <|> outer.format?
  verbose := inner.verbose || outer.verbose

/-- Shells that completions can be asked for. -/
inductive Shell where
  | bash | elvish | fish | powershell | zsh
  deriving DecidableEq

def Shell.ofName? : String → Option Shell
  | "bash" => some bash
  | "elvish" => some elvish
  | "fish" => some fish
  | "powershell" => some powershell
  | "zsh" => some zsh
  | _ => none

inductive Command where
  | extract (options : Extract.Options)
  | mine (options : Mine.Options)
  | evaluate (rules : String) (options : Evaluate.Options)
  | init
  | completions (shell : Shell)

/-- What a command line asks for. -/
inductive Request where
  /-- Help with the command of the given name, or with all of them. -/
  | help (name? : Option String)
  | version
  | run (globals : Globals) (command? : Option Command)

/-- One argument, by how it starts. A single dash is a word. -/
inductive Argument where
  | long (name : String) (value? : Option String)
  | short (letters : List Char)
  | separator
  | word (text : String)

def Argument.ofText (text : String) : Argument :=
  match text.toList with
  | ['-', '-'] => separator
  | '-' :: '-' :: chars =>
    long (String.ofList (chars.takeWhile (· ≠ '='))) (match chars.dropWhile (· ≠ '=') with
      | [] => none
      | _ :: value => some (String.ofList value))
  | '-' :: letter :: letters => short (letter :: letters)
  | _ => word text

/-- What ends the reading of a command line before its end: a request for which the rest does not count, or a
mistake. -/
inductive Stop where
  | request (request : Request)
  | misuse

abbrev Reading := Except Stop

def misuse : Reading α := .error .misuse

/-- How the arguments of one level are read. -/
structure Grammar (σ : Type) where
  /-- The options that have a value. -/
  valued : List String := []
  assign : String → String → σ → Reading σ := fun _ _ _ => misuse
  /-- Options without a value. -/
  switches : List String := []
  raise : String → σ → Reading σ := fun _ _ => misuse
  /-- Takes up an argument that belongs to no option. -/
  operand : String → σ → Reading σ := fun _ _ => misuse
  /-- The name of a command, which is responsible for all arguments behind it. -/
  command? : Option (String → List String → σ → Reading Request) := none

/-- The options that can be given by a letter. -/
def letterName? : Char → Option String
  | 'h' => some "help"
  | 'v' => some "verbose"
  | 'V' => some "version"
  | _ => none

namespace Grammar

def raiseLetter (grammar : Grammar σ) (state : σ) (letter : Char) : Reading σ :=
  match letterName? letter with
  | none => misuse
  | some name => grammar.raise name state

/-- Reads arguments one after the other. The first parameter is an option that still needs its value. -/
def scan (grammar : Grammar σ) : Option String → List String → σ → Reading σ
  | some _, [], _ => misuse
  | some name, text :: rest, state => match Argument.ofText text with
    | .word value => grammar.assign name value state >>= grammar.scan none rest
    | _ => misuse
  | none, [], state => pure state
  | none, text :: rest, state => match Argument.ofText text with
    | .separator => rest.foldlM (fun state operand => grammar.operand operand state) state
    | .word word => match grammar.command? with
      | some command => command word rest state >>= fun request => .error (.request request)
      | none => grammar.operand word state >>= grammar.scan none rest
    | .short letters => letters.foldlM grammar.raiseLetter state >>= grammar.scan none rest
    | .long name (some value) =>
      if grammar.valued.contains name then grammar.assign name value state >>= grammar.scan none rest else misuse
    | .long name none =>
      if grammar.valued.contains name then grammar.scan (some name) rest state
      else grammar.raise name state >>= grammar.scan none rest

end Grammar

/-! Values of options. -/

/-- Stores a value for which there is none yet. -/
def once (slot value? : Option α) (store : α → σ) : Reading σ :=
  match slot, value? with
  | none, some value => pure (store value)
  | _, _ => misuse

def path? (text : String) : Option String := if text.isEmpty then none else some text

namespace Globals

def grammar : Grammar Globals where
  valued := ["config", "format"]
  assign name value globals := match name with
    | "config" => once globals.settings? (path? value) fun path => { globals with settings? := some path }
    | "format" =>
      once globals.format? (Format.read value).toOption fun format => { globals with format? := some format }
    | _ => misuse
  switches := ["verbose"]
  raise name globals := match name with
    | "verbose" => if globals.verbose then misuse else pure { globals with verbose := true }
    | _ => misuse

end Globals

/-- A command takes its own options and those of every command, and the one that asks for help with it. -/
def Grammar.withGlobals (command : String) (grammar : Grammar σ) : Grammar (Globals × σ) where
  valued := Globals.grammar.valued ++ grammar.valued
  assign name value := fun (globals, state) =>
    if grammar.valued.contains name then (globals, ·) <$> grammar.assign name value state
    else (·, state) <$> Globals.grammar.assign name value globals
  switches := "help" :: Globals.grammar.switches ++ grammar.switches
  raise name := fun (globals, state) =>
    if name = "help" then .error (.request (.help (some command)))
    else if grammar.switches.contains name then (globals, ·) <$> grammar.raise name state
    else (·, state) <$> Globals.grammar.raise name globals
  operand text := fun (globals, state) => (globals, ·) <$> grammar.operand text state

def extractGrammar : Grammar Extract.Options where
  valued := ["repo", "branch", "transactions", "stats", "max-files"]
  assign name value options := match name with
    | "repo" => once options.repository? (path? value) fun path => { options with repository? := some path }
    | "branch" => once options.branch? (some value) fun branch => { options with branch? := some branch }
    | "transactions" => once options.transactions? (path? value) fun path => { options with transactions? := some path }
    | "stats" => once options.stats? (path? value) fun path => { options with stats? := some path }
    | "max-files" => once options.maxFiles? (Number.readCount value) fun most => { options with maxFiles? := some most }
    | _ => misuse

def mineGrammar : Grammar Mine.Options where
  valued := ["transactions", "stats", "min-support", "partitions", "low-threshold", "high-threshold", "out-dir"]
  assign name value options := match name with
    | "transactions" => once options.transactions? (path? value) fun path => { options with transactions? := some path }
    | "stats" => once options.stats? (path? value) fun path => { options with stats? := some path }
    | "min-support" =>
      once options.minSupport? (Number.read value) fun support => { options with minSupport? := some support }
    | "partitions" =>
      once options.partitions? (Number.readCount value) fun count => { options with partitions? := some count }
    | "low-threshold" => once options.low? (Number.readCount value) fun low => { options with low? := some low }
    | "high-threshold" => once options.high? (Number.readCount value) fun high => { options with high? := some high }
    | "out-dir" => once options.outputDir? (path? value) fun path => { options with outputDir? := some path }
    | _ => misuse

/-- The rules have to be given, unlike everything else. -/
def evaluateGrammar : Grammar (Option String × Evaluate.Options) where
  valued := ["rules", "ground-truth", "curve"]
  assign name value := fun (rules?, options) => match name with
    | "rules" => once rules? (path? value) fun path => (some path, options)
    | "ground-truth" =>
      once options.groundTruth? (path? value) fun path => (rules?, { options with groundTruth? := some path })
    | "curve" => once options.curve? (path? value) fun path => (rules?, { options with curve? := some path })
    | _ => misuse
  switches := ["strict"]
  raise name := fun (rules?, options) => match name with
    | "strict" => if options.strict then misuse else pure (rules?, { options with strict := true })
    | _ => misuse

def completionsGrammar : Grammar (Option Shell) where
  operand text shell? := once shell? (Shell.ofName? text) some

/-- The request for a command with the given arguments. -/
def request (name : String) (grammar : Grammar σ) (start : σ) (command? : σ → Option Command)
    (arguments : List String) (outer : Globals) : Reading Request := do
  let (inner, state) ← (grammar.withGlobals name).scan none arguments ({}, start)
  match command? state with
  | none => misuse
  | some command => return .run (inner.orElse outer) (some command)

/-- The request for help with the command that is named, if one is. -/
def helpRequest : List String → Reading Request
  | [] => pure (.help none)
  | [name] =>
    if ["extract", "mine", "evaluate", "init", "completions", "help"].contains name then pure (.help (some name))
    else misuse
  | _ => misuse

def commandRequest (name : String) (arguments : List String) (outer : Globals) : Reading Request :=
  match name with
  | "extract" => request name extractGrammar {} (some ∘ .extract) arguments outer
  | "mine" => request name mineGrammar {} (some ∘ .mine) arguments outer
  | "evaluate" =>
    request name evaluateGrammar (none, {}) (fun (rules?, options) => rules?.map (.evaluate · options)) arguments outer
  | "init" => request name ({} : Grammar Unit) () (fun _ => some .init) arguments outer
  | "completions" => request name completionsGrammar none (·.map .completions) arguments outer
  | "help" => helpRequest arguments
  | _ => misuse

/-- Before the name of a command only the options of every command are known, and those that ask for help or the
version. -/
def topGrammar : Grammar Globals :=
  { Globals.grammar with
    switches := "help" :: "version" :: Globals.grammar.switches
    raise := fun name globals => match name with
      | "help" => .error (.request (.help none))
      | "version" => .error (.request .version)
      | _ => Globals.grammar.raise name globals
    command? := some commandRequest }

/-- The names of the options of one level, each with a place for its value if it has one. -/
def Grammar.optionNames (grammar : Grammar σ) : List String :=
  grammar.valued.map (fun name => "--" ++ name ++ " <VALUE>") ++ grammar.switches.map ("--" ++ ·)

/-- The options of the command of the given name, or those before any command. -/
def optionNames : Option String → List String
  | none => topGrammar.optionNames
  | some "extract" => (extractGrammar.withGlobals "extract").optionNames
  | some "mine" => (mineGrammar.withGlobals "mine").optionNames
  | some "evaluate" => (evaluateGrammar.withGlobals "evaluate").optionNames
  | some name => (({} : Grammar Unit).withGlobals name).optionNames

/-- The request of a command line, unless there is a mistake in it. -/
def Request.read (arguments : List String) : Option Request :=
  match topGrammar.scan none arguments {} with
  | .ok globals => some (.run globals none)
  | .error (.request early) => some early
  | .error .misuse => none

end ChangeCoupling.CommandLine
