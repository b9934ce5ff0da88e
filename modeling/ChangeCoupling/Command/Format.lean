import ChangeCoupling.Text.LetterCase

/-! The formats in which a command reports what it did. -/

namespace ChangeCoupling

inductive Format where
  | text
  | json
  | markdown
  deriving DecidableEq

namespace Format

def name : Format → String
  | text => "text"
  | json => "json"
  | markdown => "markdown"

/-- The format with a name, in any case of letters. A name that is not known is returned in lower case. -/
def read (name : String) : Except String Format :=
  match Text.lower name with
  | "text" => .ok text
  | "json" => .ok json
  | "markdown" | "md" => .ok markdown
  | other => .error other

/-- The message for a name that is not known. -/
def unknown (name : String) : String := "unknown output format: " ++ name

end Format

end ChangeCoupling
