import Parley.Files.Entry

namespace Parley

/-- Files and directories under the names that lead to them from the root. Whatever stands above an
entry is a directory. -/
structure FileTree where
  files : List (List String × List UInt8)
  directories : List (List String)

namespace FileTree

def isDirectory (t : FileTree) (place : List String) : Bool :=
  place.isEmpty || t.directories.any (place.isPrefixOf ·) ||
    t.files.any (fun (p, _) => place.isPrefixOf p && place.length < p.length)

/-- Follows names from the directory `place`. Nothing comes behind a file, not even a slash. -/
def follow (t : FileTree) (place : List String) : List String → FileEntry
  | [] => .directory
  | "" :: names => follow t place names
  | "." :: names => follow t place names
  | ".." :: names => follow t place.dropLast names
  | name :: names =>
    let next := place ++ [name]
    if 255 < name.utf8ByteSize then .missing .nameTooLong
    else match t.files.lookup next with
      | some bytes => if names.isEmpty then .file bytes else .missing .notDirectory
      | none => if t.isDirectory next then follow t next names else .missing .notFound

def entry (t : FileTree) (place : List String) (path : String) : FileEntry :=
  if path.isEmpty then .missing .notFound
  else if path.contains '\x00' then .missing .zeroInName
  else if 4096 ≤ path.utf8ByteSize then .missing .nameTooLong
  else if path.startsWith "/" then t.follow [] (path.splitOn "/")
  else t.follow place (path.splitOn "/")

def view (t : FileTree) (place : List String) : Files :=
  ⟨"/" ++ "/".intercalate place, t.entry place⟩

end FileTree

end Parley
