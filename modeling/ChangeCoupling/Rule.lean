import ChangeCoupling.Mining.Itemset
import ChangeCoupling.Text.Json
import ChangeCoupling.Warning

/-! Rules: when the antecedent changes, the files of the consequent change with it. -/

namespace ChangeCoupling

structure Rule where
  antecedent : String
  consequent : List String
  deriving DecidableEq

namespace Rule

/-- The rule of a file and those that follow it, each of which counts once. -/
def make (antecedent : String) (consequent : List String) : Rule := ⟨antecedent, consequent.eraseDups⟩

/-- The rule of a list of files, of which the first one is the antecedent. -/
def ofFiles? : List String → Option Rule
  | [] => none
  | antecedent :: consequent => some (make antecedent consequent)

def ofLine? (line : String) : Option Rule := ofFiles? (Text.words line)

def ofItemset? (itemset : Itemset) : Option Rule := ofFiles? itemset.items

/-- The rules of a text, one a line, and a warning for each blank line. -/
def readAll (source text : String) : List Rule × List Warning :=
  let rows := (Text.numberedLines text).map fun (number, line) => (number, ofLine? line)
  (rows.filterMap (·.2), rows.filterMap fun (number, rule?) =>
    if rule?.isNone then some (.blankRule source number) else none)

def json (rule : Rule) : Text.Json :=
  .object [("antecedent", .string rule.antecedent), ("consequent", .ofList .string rule.consequent)]

end Rule

end ChangeCoupling
