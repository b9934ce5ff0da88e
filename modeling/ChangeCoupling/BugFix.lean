import ChangeCoupling.Text.Blank
import ChangeCoupling.Text.LetterCase

/-! Which commits fix bugs: those whose message mentions a keyword, in any case of letters and anywhere in it. -/

namespace ChangeCoupling

/-- Whether a text occurs somewhere in another one. -/
def occursIn (part : List Char) : List Char → Bool
  | [] => part.isEmpty
  | c :: rest => part.isPrefixOf (c :: rest) || occursIn part rest

/-- Keywords that mark bug fixes, in upper case and none of them empty. -/
structure BugFix where
  keywords : List String
  deriving DecidableEq

namespace BugFix

/-- Blanks around a keyword do not count, and blank keywords are left out. -/
def ofKeywords (keywords : List String) : BugFix :=
  ⟨(keywords.map fun keyword => Text.upper (Text.trim keyword)).filter (!·.isEmpty)⟩

/-- Whether a message is that of a bug fix. -/
def marks (bugFix : BugFix) (message : String) : Bool :=
  let text := (Text.upper message).toList
  bugFix.keywords.any fun keyword => occursIn keyword.toList text

end BugFix

end ChangeCoupling
