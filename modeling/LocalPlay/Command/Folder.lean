import LocalPlay.Failure

set_option autoImplicit false

/-! # Folders

The files that a path can name, as a folder in memory. It holds files only. Where a path leaves the
folder there is nothing but directories and the device that is always empty. -/

namespace LocalPlay.Command

/-- A folder: the names of its files and their texts. -/
abbrev Folder := List (String × String)

/-- Where a path has led so far. -/
inductive Spot where
  | inside
  /-- A directory outside the folder, of which nothing more is known. -/
  | outside
  /-- The directory that holds all others. -/
  | root
  | devices
  | file (text : String)
deriving DecidableEq, Repr

namespace Folder

/-- The directories that every host has right below its root. -/
def hostDirectories : List String :=
  ["bin", "boot", "etc", "home", "lib", "media", "mnt", "opt", "proc", "root", "run", "sbin", "srv",
    "sys", "tmp", "usr", "var"]

/-- The size of the longest name in a path, in bytes. -/
def longestName : Nat := 255

/-- The size of the longest path, in bytes. -/
def longestPath : Nat := 4095

/-- What a directory has under a name. -/
def enter (folder : Folder) (name : String) : Spot → Option Spot
  | .inside => (folder.lookup name).map .file
  | .root =>
    if name = "dev" then some .devices
    else if name ∈ hostDirectories then some .outside
    else none
  | .devices => if name = "null" then some (.file "") else none
  | _ => none

/-- The directory that holds another. -/
def above : Spot → Spot
  | .root | .devices => .root
  | _ => .outside

/-- Follows one name of a path. -/
def follow (folder : Folder) (spot : Spot) (name : String) : Except Failure Spot :=
  match spot with
  | .file _ => .error .notDirectory
  | _ =>
    if name = "" ∨ name = "." then .ok spot
    else if name = ".." then .ok (above spot)
    else if longestName < name.utf8ByteSize then .error .nameTooLong
    else
      match folder.enter name spot with
      | some spot' => .ok spot'
      | none => .error .fileNotFound

/-- The text of the file that a path names. A path that begins with a slash begins at the root. -/
def read (folder : Folder) (path : String) : Except Failure String := do
  if longestPath < path.utf8ByteSize then .error .nameTooLong
  else
    let start := if path.toList.head? = some '/' then Spot.root else Spot.inside
    match ← (path.splitOn "/").foldlM folder.follow start with
    | .file text => .ok text
    | _ => .error .isDirectory

end Folder

end LocalPlay.Command
