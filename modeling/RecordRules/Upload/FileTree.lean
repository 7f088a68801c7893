import RecordRules.Text.Split

/-!
Trees of files, and what a path names in them. The slashes of a path separate its steps, and a path
that starts with one starts at the root. An empty step and `.` stay where they are, which has to be
a directory, and `..` leads to the directory around it, or stays at the root. Links are followed, up
to forty of them.
-/

namespace RecordRules

inductive FileTree where
  | regular
  | directory (entries : List (String × FileTree))
  | link (target : String)
  /-- Devices and whatever else holds no data of its own. -/
  | special
  deriving Inhabited

namespace FileTree

def isDirectory : FileTree → Bool
  | directory _ => true
  | _ => false

def entry? (name : String) : FileTree → Option FileTree
  | directory entries => (entries.find? fun e => e.1 == name).map Prod.snd
  | _ => none

def steps (path : String) : List String :=
  (Text.splitAll '/' path.toList).map String.ofList

def isAbsolute (path : String) : Bool :=
  path.toList.head? == some '/'

/-- Follows the steps of a path from a place, which is given with the directories around it. -/
def walk? (root : FileTree) (links : Nat) (around : List FileTree) (place : FileTree) :
    List String → Option FileTree
  | [] => some place
  | step :: rest =>
    if step = "" ∨ step = "." then
      if place.isDirectory then walk? root links around place rest else none
    else if step = ".." then
      if place.isDirectory then
        match around with
        | [] => walk? root links [] place rest
        | parent :: around => walk? root links around parent rest
      else none
    else
      match place.entry? step with
      | some (link target) =>
        match links with
        | 0 => none
        | links + 1 =>
          if isAbsolute target then walk? root links [] root (steps target ++ rest)
          else walk? root links around place (steps target ++ rest)
      | some found => walk? root links (place :: around) found rest
      | none => none
  termination_by rest => (links, rest.length)

/-- The greatest number of bytes in a path, and in one of its steps. -/
def pathLimit : Nat := 4095
def stepLimit : Nat := 255

def linkLimit : Nat := 40

/-- What a path names. A path that does not start at the root starts at the working directory,
which is itself named from the root. -/
def resolve? (root : FileTree) (workingDirectory path : String) : Option FileTree :=
  if pathLimit < path.utf8ByteSize || path.isEmpty ||
      (steps path).any (fun step => stepLimit < step.utf8ByteSize) then none
  else
    let start := if isAbsolute path then [] else steps workingDirectory
    walk? root linkLimit [] root (start ++ steps path)

def isFile (root : FileTree) (workingDirectory path : String) : Bool :=
  match resolve? root workingDirectory path with
  | some regular => true
  | _ => false

end FileTree

end RecordRules
