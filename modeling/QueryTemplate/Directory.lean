import QueryTemplate.Text

/-!
# Directories

A `Directory` is what a program can see of the files around it: the contents of each file under the
path by which the program asks for it.  To read a file as text, its bytes must be UTF-8.
-/

namespace QueryTemplate

/-- What is behind a path. -/
inductive FileContent where
  /-- A file with these bytes. -/
  | bytes (data : ByteArray)
  /-- Something that cannot be read, and why. -/
  | unreadable (reason : String)

/-- Why a file does not give a text. -/
inductive FileError where
  /-- There is nothing under the path. -/
  | missing
  /-- The bytes are not UTF-8. -/
  | notUtf8
  /-- The contents cannot be read. -/
  | unreadable (reason : String)
  deriving DecidableEq

/-- The message for a file that does not give a text. -/
def FileError.message : FileError → String
  | .missing => "No such file or directory (os error 2)"
  | .notUtf8 => "stream did not contain valid UTF-8"
  | .unreadable reason => reason

/-- **A directory**: the contents behind each path. -/
structure Directory where
  /-- Each path that leads somewhere, with what is there. -/
  files : List (Text × FileContent)

namespace Directory

/-- What is behind a path, if it leads anywhere. -/
def find? (d : Directory) (path : Text) : Option FileContent :=
  (d.files.find? fun file => file.1 = path).map Prod.snd

/-- Whether a path leads anywhere. -/
def contains (d : Directory) (path : Text) : Bool :=
  (d.find? path).isSome

/-- **The text of a file.** -/
def readText (d : Directory) (path : Text) : Except FileError Text :=
  match d.find? path with
  | none => .error .missing
  | some (.unreadable reason) => .error (.unreadable reason)
  | some (.bytes data) =>
    match String.fromUTF8? data with
    | some s => .ok s.toList
    | none => .error .notUtf8

end Directory

end QueryTemplate
