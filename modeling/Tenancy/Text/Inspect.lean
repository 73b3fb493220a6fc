import Tenancy.Unicode.Classes

namespace Tenancy.Text

def hexText (n : Nat) : String := String.ofList (Nat.toDigits 16 n)

def escapeChar (c : Char) : String :=
  match c with
  | '"' => "\\\""
  | '\\' => "\\\\"
  | '\n' => "\\n"
  | '\r' => "\\r"
  | '\t' => "\\t"
  | '\x00' => "\\0"
  | c => if Unicode.isHidden c then "\\u\x7b" ++ hexText c.toNat ++ "\x7d" else c.toString

def quoted (s : String) : String := "\"" ++ String.join (s.toList.map escapeChar) ++ "\""

def inspectList (items : List String) : String := "[" ++ ", ".intercalate items ++ "]"

/-- A value by its name and the texts of its parts, which have no names. -/
def inspectValue (name : String) (parts : List String) : String :=
  name ++ "(" ++ ", ".intercalate parts ++ ")"

/-- An optional value by the text of the value. -/
def inspectOption : Option String → String
  | none => "None"
  | some text => inspectValue "Some" [text]

def inspectBool (b : Bool) : String := if b then "true" else "false"

/-- A record by its name and the texts of its parts. -/
def inspectRecord (name : String) (parts : List (String × String)) : String :=
  name ++ " \x7b " ++ ", ".intercalate (parts.map fun (part, text) => part ++ ": " ++ text) ++ " \x7d"

end Tenancy.Text
