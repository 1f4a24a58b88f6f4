/-!
# Files

A directory tree as the system walks it, and the faults of reading a file from it.
-/

namespace ClusterProbe

/-- The name of a file, as the system takes it; by custom it is UTF-8. -/
abbrev Path := List UInt8

inductive FileFault where
  | notFound
  | notDirectory
  | isDirectory
  | nameTooLong
  | nulInName
  | other (text : String)
deriving DecidableEq, Repr

def FileFault.message : FileFault → String
  | .notFound => "No such file or directory (os error 2)"
  | .notDirectory => "Not a directory (os error 20)"
  | .isDirectory => "Is a directory (os error 21)"
  | .nameTooLong => "File name too long (os error 36)"
  | .nulInName => "file name contained an unexpected NUL byte"
  | .other text => text

inductive FileTree.Node where
  | directory
  | file (content : List UInt8)

/-- The directories and files below a working directory, by the names on the way to them. -/
structure FileTree where
  entries : List (List Path × FileTree.Node)

namespace FileTree

def parts (path : Path) : List Path :=
  path.foldr
    (fun b parts => match parts with
      | part :: rest => if b = 0x2F then [] :: part :: rest else (b :: part) :: rest
      | [] => [])
    [[]]

/-- What is at the end of a way that needs no walking. -/
def node? (tree : FileTree) (way : List Path) : Option Node :=
  match tree.entries.find? (·.1 = way) with
  | some (_, node) => some node
  | none =>
    if way.isEmpty ∨ tree.entries.any (fun (w, _) => way.isPrefixOf w) then some .directory
    else none

/-- Walks the parts of a path from the place at the end of `way`.  Steps above the working directory
lead to directories about which nothing else is known; `above` counts them. -/
def walk (tree : FileTree) : (above : Nat) → (way : List Path) → List Path → Except FileFault Node
  | above, way, [] =>
    if 0 < above then .ok .directory
    else match tree.node? way with
      | some node => .ok node
      | none => .error .notFound
  | above, way, part :: rest =>
    match (if 0 < above then some Node.directory else tree.node? way) with
    | none => .error .notFound
    -- Only a directory has parts below it, and dots are looked up like any other name.
    | some (.file _) => .error .notDirectory
    | some .directory =>
      if 255 < part.length then .error .nameTooLong
      else if part = [] ∨ part = [0x2E] then tree.walk above way rest
      else if part = [0x2E, 0x2E] then
        if 0 < above ∨ way.isEmpty then tree.walk (above + 1) way rest
        else tree.walk 0 way.dropLast rest
      else if 0 < above then .error .notFound
      else tree.walk 0 (way ++ [part]) rest

def read (tree : FileTree) (path : Path) : Except FileFault (List UInt8) :=
  if path.contains 0 then .error .nulInName
  else if path.isEmpty then .error .notFound
  else if 4096 ≤ path.length then .error .nameTooLong
  else if path.head? = some 0x2F then
    if path.all (· = 0x2F) then .error .isDirectory else .error .notFound
  else
    match tree.walk 0 [] (parts path) with
    | .error fault => .error fault
    | .ok .directory => .error .isDirectory
    | .ok (.file content) => .ok content

end FileTree

end ClusterProbe
