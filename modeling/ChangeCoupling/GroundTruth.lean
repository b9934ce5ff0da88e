import ChangeCoupling.Text.Blank
import ChangeCoupling.Text.Line
import ChangeCoupling.Warning
import Std.Data.HashMap

/-! The ground truth: rules that are known to hold. Several rules may have the same antecedent; their order is
kept, since it decides between references that match equally well. -/

namespace ChangeCoupling

/-- The files that a known rule gives for its antecedent, each of them once. -/
abbrev Reference := List String

structure GroundTruth where
  /-- The references of each antecedent, in the order in which they were given. -/
  index : Std.HashMap String (Array Reference) := ∅
  /-- The number of rules. -/
  size : Nat := 0

namespace GroundTruth

def add (truth : GroundTruth) (antecedent : String) (consequent : List String) : GroundTruth where
  index := truth.index.insert antecedent ((truth.index.getD antecedent #[]).push consequent.eraseDups)
  size := truth.size + 1

def ofRules (rules : List (String × List String)) : GroundTruth :=
  rules.foldl (fun truth rule => truth.add rule.1 rule.2) {}

/-- The references for an antecedent. -/
def references (truth : GroundTruth) (antecedent : String) : List Reference :=
  (truth.index.getD antecedent #[]).toList

/-- The number of different antecedents. -/
def antecedents (truth : GroundTruth) : Nat := truth.index.size

/-- The antecedent and the consequent on a line, unless it is blank. -/
def ofLine? (line : String) : Option (String × List String) :=
  match Text.words line with
  | [] => none
  | antecedent :: consequent => some (antecedent, consequent)

/-- The ground truth of a text, one rule a line, and a warning for each blank line. -/
def read (source text : String) : GroundTruth × List Warning :=
  let rows := (Text.numberedLines text).map fun (number, line) => (number, ofLine? line)
  (ofRules (rows.filterMap (·.2)), rows.filterMap fun (number, rule?) =>
    if rule?.isNone then some (.blankTruth source number) else none)

end GroundTruth

end ChangeCoupling
