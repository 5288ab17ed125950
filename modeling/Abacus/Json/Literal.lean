import Abacus.Json.Basic
import Abacus.Number.Text
import Abacus.Text.Quoted

/-!
# JSON values in messages

Messages about a document that is not admitted (specification §13) show a value as a literal:
`None`, `True`, a number, a quoted text, a list in brackets or members in braces. `Json.display` is
the same but for a text, which stands by itself.
-/

namespace Abacus.Json

mutual

/-- A value as a literal. -/
def literal : Json → String
  | .null => "None"
  | .bool true => "True"
  | .bool false => "False"
  | .int n => String.ofList (Number.integerChars n)
  | .float x => x.text
  | .string s => Text.quoted s
  | .array items => "[" ++ ", ".intercalate (itemLiterals items) ++ "]"
  | .object members => "\x7b" ++ ", ".intercalate (memberLiterals members) ++ "\x7d"

/-- The items of a list as literals. -/
def itemLiterals : List Json → List String
  | [] => []
  | item :: items => literal item :: itemLiterals items

/-- The members of an object as literals. -/
def memberLiterals : List (String × Json) → List String
  | [] => []
  | (key, value) :: members => (Text.quoted key ++ ": " ++ literal value) :: memberLiterals members

end

/-- A value as part of a text. -/
def display : Json → String
  | .string s => s
  | other => literal other

end Abacus.Json
