import FeedWatch.Text.Quoted

/-!
# Files and folders

Paths lead to files, which have contents and the stamp of their last change, or to folders.  Every
change gives a stamp that no file had before, so two looks at a file that show one stamp saw one
content.

A path is followed name by name from the working directory, or from the root if it is absolute, and
`..` leads to the folder above.  The place that it leads to is a path without such steps, but for
those out of the working directory at its start; files and folders are kept by their places.

`Disk.replace` writes a file as a whole: the new content goes to a fresh name in the same folder and
then takes the place of the old file.  It can be stopped at any stage, and whenever it stops it
removes the fresh file again.
-/

namespace FeedWatch

/-- A path below the working directory, whose own path is empty.  An absolute path starts with the
name `/`, or with `//`, which some systems keep apart. -/
abbrev Path := List String

namespace Path

/-- What an absolute path starts with, by the number of slashes at the front of its text. -/
def root : Nat → List String
  | 0 => []
  | 2 => ["//"]
  | _ => ["/"]

/-- The names on a path; empty names and single points lead nowhere. -/
def parse (s : String) : Path :=
  root (s.toList.takeWhile (· = '/')).length ++
    ((s.toList.splitOn '/').map String.ofList).filter fun name => name != "" && name != "."

/-- The text of a path. -/
def text : Path → String
  | [] => "."
  | "/" :: names => "/" ++ "/".intercalate names
  | "//" :: names => "//" ++ "/".intercalate names
  | names => "/".intercalate names

/-- Whether a path is that of the root. -/
def isRoot (p : Path) : Bool := p = ["/"] || p = ["//"]

/-- The path without its last name, and the root itself for the root. -/
def parent (p : Path) : Path := if p.isRoot then p else p.dropLast

/-- The name that leads to the folder above. -/
def up : String := ".."

/-- Whether a place is the working directory or lies above it. -/
def isAbove (p : Path) : Bool := p.all (· = up)

/-- The place of the folder above a place; the root has itself above. -/
def above (p : Path) : Path := if p.isAbove then p ++ [up] else p.parent

/-- The greatest length of a name, in bytes. -/
def nameLimit : Nat := 255

/-- Paths have fewer bytes than this. -/
def textLimit : Nat := 4096

end Path

/-- What a path leads to. -/
inductive Node
  | file (content : ByteArray) (stamp : Nat)
  | folder

/-- Why the disk refuses an operation. -/
inductive DiskError
  | missing (path : Path)
  | occupied (path : Path)
  | notFolder (path : Path)
  | isFolder (path : Path)
  | tooLong (path : Path)
  /-- The path holds the character that ends texts. -/
  | endInside
deriving DecidableEq

/-- The wording of a refusal. -/
def DiskError.message : DiskError → String
  | missing p => "[Errno 2] No such file or directory: " ++ Text.quoted (Path.text p)
  | occupied p => "[Errno 17] File exists: " ++ Text.quoted (Path.text p)
  | notFolder p => "[Errno 20] Not a directory: " ++ Text.quoted (Path.text p)
  | isFolder p => "[Errno 21] Is a directory: " ++ Text.quoted (Path.text p)
  | tooLong p => "[Errno 36] File name too long: " ++ Text.quoted (Path.text p)
  | endInside => "embedded null byte"

/-- The files and folders by their places, and the last stamp given. -/
structure Disk where
  nodes : List (Path × Node)
  lastStamp : Nat

namespace Disk

/-- The disk with an empty working directory. -/
def empty : Disk := ⟨[], 0⟩

/-- The folders that every system has, below its root. -/
def systemFolders : List String :=
  ["bin", "dev", "etc", "home", "lib", "proc", "root", "run", "sys", "tmp", "usr", "var"]

/-- What every system has at a place. -/
def ofSystem? : Path → Option Node
  | ["/"] => some .folder
  | ["/", name] => if systemFolders.contains name then some .folder else none
  | ["/", "dev", "null"] => some (.file ⟨#[]⟩ 0)
  | p => if p.isAbove then some .folder else none

/-- What is at a place. -/
def at? (d : Disk) (place : Path) : Option Node :=
  match d.nodes.lookup place with
  | some n => some n
  | none => ofSystem? place

/-- The place that names lead to from another one; `whole` is the path that is followed. -/
def follow (d : Disk) (whole place : Path) : List String → Except DiskError Path
  | [] => .ok place
  | name :: names =>
    match d.at? place with
    | none => .error (.missing whole)
    | some (.file ..) => .error (.notFolder whole)
    | some .folder =>
      if name = Path.up then d.follow whole place.above names
      else if Path.nameLimit < name.utf8ByteSize then .error (.tooLong whole)
      else d.follow whole (place ++ [name]) names

/-- The place that a path leads to. -/
def locate (d : Disk) (p : Path) : Except DiskError Path :=
  if p.text.toList.contains '\x00' then .error .endInside
  else if Path.textLimit ≤ p.text.utf8ByteSize then .error (.tooLong p)
  else
    match p with
    | "/" :: names => d.follow p ["/"] names
    | "//" :: names => d.follow p ["/"] names
    | names => d.follow p [] names

/-- The place that a path leads to, or would lead to. -/
def placeOf (d : Disk) (p : Path) : Path := (d.locate p).toOption.getD p

/-- What a path leads to, if anything. -/
def find? (d : Disk) (p : Path) : Option Node := (d.locate p).toOption.bind d.at?

/-- Whether a path leads anywhere; a path that is too long is refused. -/
def exists? (d : Disk) (p : Path) : Except DiskError Bool :=
  match d.locate p with
  | .ok place => .ok (d.at? place).isSome
  | .error (.tooLong p) => .error (.tooLong p)
  | .error _ => .ok false

/-- The content of a file. -/
def content? (d : Disk) (p : Path) : Option ByteArray :=
  match d.find? p with
  | some (.file content _) => some content
  | _ => none

/-- When what a path leads to was changed last.  A folder counts as changed at the start. -/
def stamp? (d : Disk) (p : Path) : Option Nat :=
  match d.find? p with
  | some (.file _ stamp) => some stamp
  | some .folder => some 0
  | none => none

/-- Sets what is at a place. -/
def set (place : Path) (n : Node) (nodes : List (Path × Node)) : List (Path × Node) :=
  match nodes with
  | [] => [(place, n)]
  | (q, m) :: rest => if q = place then (place, n) :: rest else (q, m) :: set place n rest

/-- Puts a file at a place, with a new stamp. -/
def putFile (place : Path) (content : ByteArray) (d : Disk) : Disk :=
  { nodes := set place (.file content (d.lastStamp + 1)) d.nodes, lastStamp := d.lastStamp + 1 }

/-- Gives a file a new stamp. -/
def touch (place : Path) (d : Disk) : Disk :=
  match d.at? place with
  | some (.file content _) => d.putFile place content
  | _ => d

/-- Removes what is at a place, with everything below it. -/
def remove (place : Path) (d : Disk) : Disk :=
  { d with nodes := d.nodes.filter fun (q, _) => !place.isPrefixOf q }

/-- Puts a folder in the place of what was there. -/
def putFolder (place : Path) (d : Disk) : Disk :=
  let d := d.remove place
  { nodes := set place .folder d.nodes, lastStamp := d.lastStamp + 1 }

/-- The names in the folder at a place. -/
def names (d : Disk) (place : Path) : List String :=
  d.nodes.filterMap fun (q, _) =>
    if q ≠ [] ∧ Path.parent q = place then q.getLast? else none

/-- Reads a file. -/
def read (d : Disk) (p : Path) : Except DiskError ByteArray :=
  match d.locate p with
  | .error e => .error e
  | .ok place =>
    match d.at? place with
    | some (.file content _) => .ok content
    | some .folder => .error (.isFolder p)
    | none => .error (.missing p)

/-- Makes a folder in one that is there. -/
def makeOne (d : Disk) (p : Path) : Except DiskError Disk :=
  match d.locate p with
  | .error e => .error e
  | .ok place =>
    if (d.at? place).isSome then .error (.occupied p)
    else .ok { d with nodes := set place .folder d.nodes }

/-- Passes over the refusal to make a folder that is there. -/
def orThere (d : Disk) (p : Path) (e : DiskError) : Except DiskError Unit :=
  match d.find? p with
  | some .folder => .ok ()
  | _ => .error e

/-- Makes a folder in one that is there, unless it is there already. -/
def ensureOne (d : Disk) (p : Path) : Disk × Except DiskError Unit :=
  match d.makeOne p with
  | .ok d => (d, .ok ())
  | .error (.missing q) => (d, .error (.missing q))
  | .error .endInside => (d, .error .endInside)
  | .error e => (d, d.orThere p e)

/-- Makes a folder unless it is there, and the folders above it where they are missing; `fuel`
bounds their number.  The folders that were made before a refusal stay. -/
def makeFolders : Nat → Path → Disk → Disk × Except DiskError Unit
  | 0, p, d => (d, .error (.missing p))
  | fuel + 1, p, d =>
    match d.ensureOne p with
    | (d, .error (.missing q)) =>
      if p.parent = p then (d, .error (.missing q))
      else
        match makeFolders fuel p.parent d with
        | (d, .error e) => (d, .error e)
        | (d, .ok ()) => d.ensureOne p
    | result => result

/-- Makes a folder and the folders above it, unless it is there. -/
def withFolder (p : Path) (d : Disk) : Disk × Except DiskError Unit :=
  makeFolders (p.length + 1) p d

/-- The disk with a folder and the folders above it, if they can be made. -/
def makeFolder (d : Disk) (p : Path) : Except DiskError Disk :=
  (d.withFolder p).2.map fun _ => (d.withFolder p).1

/-- A name that is longer than every name in a list, and so is none of them. -/
def freshName (names : List String) : String :=
  let longest := (names.map String.length).foldl max 0
  ".settings-" ++ String.ofList (List.replicate longest '0') ++ ".json"

/-- The stages of writing a file at which it can be stopped. -/
inductive Stage
  | create
  | write
  | swap
deriving DecidableEq

/-- Why a file was not written. -/
inductive ReplaceError
  | disk (e : DiskError)
  | stopped (stage : Stage)
deriving DecidableEq

/-- Writes a file as a whole, `stop` naming a stage at which something else goes wrong. -/
def replace (stop : Option Stage) (p : Path) (content : ByteArray) (d : Disk) :
    Disk × Except ReplaceError Unit :=
  match d.withFolder p.parent with
  | (d, .error e) => (d, .error (.disk e))
  | (d, .ok ()) =>
    let folder := d.placeOf p.parent
    if stop = some .create then (d, .error (.stopped .create))
    else
      let spare := folder ++ [freshName (d.names folder)]
      let created := d.putFile spare ⟨#[]⟩
      if stop = some .write then (created.remove spare, .error (.stopped .write))
      else
        let written := created.putFile spare content
        match d.locate p with
        | .error e => (written.remove spare, .error (.disk e))
        | .ok place =>
          match d.at? place with
          | some .folder => (written.remove spare, .error (.disk (.isFolder p)))
          | _ =>
            if stop = some .swap then (written.remove spare, .error (.stopped .swap))
            else ((written.remove spare).putFile place content, .ok ())

end Disk

end FeedWatch
