import ChallengeDns.Text.Quoted
/-!
# The state file's place

What stands where the state file is or should be: whether its folder is there, what has its name,
and whether something has the name of the temporary file through which it is replaced.  A
replacement is all or nothing: when the temporary file cannot be written, the state file stays as it
is.
-/

namespace ChallengeDns

/-- The folder of a file. -/
inductive Folder where
  | present
  | missing
  /-- A file has the folder's name. -/
  | notFolder
deriving DecidableEq

/-- What has the name of a file. -/
inductive Place where
  | absent
  | file (content : Bytes)
  | folder
deriving DecidableEq

/-- Where a state file is kept. -/
structure Disk where
  /-- The path as it is shown. -/
  path : Text
  folder : Folder
  place : Place
  /-- Whether a folder has the name of the temporary file. -/
  blocked : Bool
deriving DecidableEq

/-- Why a file could not be read or written. -/
inductive DiskFault where
  | noSuchFile (path : Text)
  | notFolder (path : Text)
  | isFolder (path : Text)
  /-- A folder has the name under which a file should be put. -/
  | folderInTheWay (source target : Text)
deriving DecidableEq

def DiskFault.message : DiskFault → Text
  | .noSuchFile path => "[Errno 2] No such file or directory: " ++ path.quoted
  | .notFolder path => "[Errno 20] Not a directory: " ++ path.quoted
  | .isFolder path => "[Errno 21] Is a directory: " ++ path.quoted
  | .folderInTheWay source target =>
    "[Errno 21] Is a directory: " ++ source.quoted ++ " -> " ++ target.quoted

namespace Disk

def temporary (d : Disk) : Text := d.path ++ ".tmp"

def read (d : Disk) : Except DiskFault Bytes :=
  match d.folder, d.place with
  | .missing, _ => .error (.noSuchFile d.path)
  | .notFolder, _ => .error (.notFolder d.path)
  | .present, .absent => .error (.noSuchFile d.path)
  | .present, .folder => .error (.isFolder d.path)
  | .present, .file content => .ok content

def write (d : Disk) (content : Bytes) : Except DiskFault Disk :=
  match d.folder with
  | .missing => .error (.noSuchFile d.temporary)
  | .notFolder => .error (.notFolder d.temporary)
  | .present =>
    if d.blocked then .error (.isFolder d.temporary)
    else if d.place = .folder then .error (.folderInTheWay d.temporary d.path)
    else .ok { d with place := .file content }

end Disk

end ChallengeDns
