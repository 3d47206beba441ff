import SignOn.Text.Split
import SignOn.Text.Utf8

/-!
# Files

The files that a configuration can name, as far as the library looks at them: whether something is
at a path, and the text of a file. A path is a row of names between slashes; each but the last leads
into a directory, and the first one is a name in the working directory. Of the directories outside
the working directory it is known that they are there, but not what they hold, and so nothing is
found in them. A name that is too long is not looked for, and neither is a path that is too long.
-/

namespace SignOn

open SignOn.Text (Bytes)

/-- What is at a path. -/
inductive FileEntry where
  | file (content : Bytes)
  | directory
deriving DecidableEq, Repr

/-- Why a file cannot be read as text. -/
inductive FileFault where
  | missing
  /-- A file stands where the path goes on into a directory. -/
  | notDirectory
  | isDirectory
  | nameTooLong
  /-- The path holds a zero, with which no path can be written. -/
  | zeroInPath
  | notText
deriving DecidableEq, Repr

/-- The wording of a file fault. -/
def FileFault.message : FileFault → String
  | .missing => "No such file or directory (os error 2)"
  | .notDirectory => "Not a directory (os error 20)"
  | .isDirectory => "Is a directory (os error 21)"
  | .nameTooLong => "File name too long (os error 36)"
  | .zeroInPath => "file name contained an unexpected NUL byte"
  | .notText => "stream did not contain valid UTF-8"

/-- The files at hand, with their paths from the working directory. -/
structure Files where
  entries : List (String × FileEntry) := []

namespace Files

/-- The greatest length of a name in a path, in bytes. -/
def maxNameSize : Nat := 255

/-- The greatest length of a path in bytes. -/
def maxPathSize : Nat := 4095

/-- A directory: the names that lead to it from the working directory, the latest first, or
`none` if it lies outside. -/
abbrev Place := Option (List String)

/-- The directory around a directory. -/
def Place.above : Place → Place
  | none | some [] => none
  | some (_ :: names) => some names

/-- What a directory holds under a name. -/
def entry? (fs : Files) (here : Place) (name : String) : Option FileEntry :=
  here.bind fun names => fs.entries.lookup ("/".intercalate (name :: names).reverse)

/-- Follows the names of a path from a directory. -/
def follow (fs : Files) : Place → List String → Except FileFault FileEntry
  | _, [] => .ok .directory
  | here, name :: rest =>
    if name = "" ∨ name = "." then follow fs here rest
    else if name = ".." then follow fs here.above rest
    else if maxNameSize < name.utf8ByteSize then .error .nameTooLong
    else
      match fs.entry? here name with
      | none => .error .missing
      | some .directory => follow fs (here.map (name :: ·)) rest
      | some (.file content) => if rest.isEmpty then .ok (.file content) else .error .notDirectory

/-- What is at a path. -/
def find (fs : Files) (path : String) : Except FileFault FileEntry :=
  if path.toList.contains '\x00' then .error .zeroInPath
  else if maxPathSize < path.utf8ByteSize then .error .nameTooLong
  else if path = "" then .error .missing
  else fs.follow (if path.toList.head? = some '/' then none else some []) (Text.splitText '/' path)

/-- Whether there is a file or a directory at a path. -/
def has (fs : Files) (path : String) : Bool :=
  (fs.find path).isOk

/-- The text of the file at a path. -/
def readText (fs : Files) (path : String) : Except FileFault String :=
  match fs.find path with
  | .error fault => .error fault
  | .ok .directory => .error .isDirectory
  | .ok (.file content) =>
    match Text.Utf8.decode content with
    | .ok text => .ok text
    | .error _ => .error .notText

end Files

end SignOn
