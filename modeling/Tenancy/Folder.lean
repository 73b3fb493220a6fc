namespace Tenancy

inductive FileFault where
  | missing
  | isDirectory
  /-- The path leads through something that is no directory. -/
  | notDirectory
  | notText
  deriving DecidableEq, Repr

namespace FileFault

def message : FileFault → String
  | missing => "No such file or directory (os error 2)"
  | isDirectory => "Is a directory (os error 21)"
  | notDirectory => "Not a directory (os error 20)"
  | notText => "stream did not contain valid UTF-8"

def inspectOs (code kind message : String) : String :=
  "Os \x7b code: " ++ code ++ ", kind: " ++ kind ++ ", message: \"" ++ message ++ "\" \x7d"

def inspect : FileFault → String
  | missing => inspectOs "2" "NotFound" "No such file or directory"
  | isDirectory => inspectOs "21" "IsADirectory" "Is a directory"
  | notDirectory => inspectOs "20" "NotADirectory" "Not a directory"
  | notText =>
    "Error \x7b kind: InvalidData, message: \"stream did not contain valid UTF-8\" \x7d"

end FileFault

/-- The text of a file, or why there is none. -/
abbrev FileText := Except FileFault String

namespace FileText

def ofBytes (bytes : ByteArray) : FileText :=
  match String.fromUTF8? bytes with
  | some text => .ok text
  | none => .error .notText

end FileText

/-- Files by their paths, which start at one directory. -/
abbrev Folder := List (String × String)

namespace Folder

/-- The names on a path that count. -/
def steps (path : String) : List String := (path.splitOn "/").filter fun s => s != "" && s != "."

/-- Something to be found only if the path leads to a directory stands at its end. -/
def asksForDirectory (path : String) : Bool := path.endsWith "/" || path.endsWith "/."

/-- The text of the file at the end of a relative path. Of two files of one path the later counts.
-/
def read (f : Folder) (path : String) : FileText :=
  let wanted := steps path
  if path.isEmpty || path.startsWith "/" then .error .missing
  else match f.reverse.find? fun file => steps file.1 == wanted with
    | some file => if asksForDirectory path then .error .notDirectory else .ok file.2
    | none =>
      if wanted.all (· == "..") || f.any fun file => wanted.isPrefixOf (steps file.1) then
        .error .isDirectory
      else if f.any fun file => (steps file.1).isPrefixOf wanted then .error .notDirectory
      else .error .missing

end Folder
end Tenancy
