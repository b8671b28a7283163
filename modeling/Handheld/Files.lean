/-! # Files

Files as a run finds them: the content of a path, or nothing where no file can be read. A tree of
files keeps directories apart from files, so that a path leads through directories only.
-/
set_option autoImplicit false
namespace Handheld

structure Files where
  read? : String → Option ByteArray

/-- Entries under absolute paths, whose parts are listed from the root down. Directories have no
content. -/
structure FileTree where
  entries : List (List String × Option ByteArray)

namespace FileTree

def isDirectory (tree : FileTree) (path : List String) : Bool :=
  path.isEmpty || tree.entries.any fun (entry, content) =>
    path.isPrefixOf entry && (content.isNone || path.length < entry.length)

/-- Follows the parts of a path from a directory. Empty parts and single dots stay where they are
and double dots go up, but only in a directory. -/
def follow (tree : FileTree) (place : List String) : List String → Option (List String)
  | [] => some place
  | part :: rest =>
    if !tree.isDirectory place then none
    else if part = "" || part = "." then tree.follow place rest
    else if part = ".." then tree.follow place.dropLast rest
    else tree.follow (place ++ [part]) rest

/-- Whether a text can be the path of a file: it has fewer than 4096 bytes, none of which is zero,
and its names have at most 255. -/
def isPath (text : String) : Bool :=
  text.utf8ByteSize < 4096 && text.toList.all (· != '\x00') &&
    (text.splitOn "/").all (·.utf8ByteSize ≤ 255)

def locate? (tree : FileTree) (path : String) : Option (List String) :=
  if isPath path then tree.follow [] (path.splitOn "/") else none

def read? (tree : FileTree) (path : String) : Option ByteArray :=
  match tree.locate? path with
  | none => none
  | some place =>
    match tree.entries.find? fun (entry, _) => entry == place with
    | some (_, content) => content
    | none => none

def write (tree : FileTree) (path : String) (content : ByteArray) : FileTree :=
  match tree.locate? path with
  | none => tree
  | some place =>
    if tree.isDirectory place then tree
    else ⟨(place, some content) :: tree.entries.filter fun (entry, _) => entry != place⟩

def files (tree : FileTree) : Files := ⟨tree.read?⟩

end FileTree
end Handheld
