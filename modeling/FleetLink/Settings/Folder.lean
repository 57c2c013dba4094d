import FleetLink.Text.Quoted
import FleetLink.Value.Basic

/-! The folder of a project: its files, the folders they lie in, and how paths are
followed in it. -/

namespace FleetLink

/-- A file holds bytes, or a document that has been read already. -/
inductive Content where
  | bytes (bytes : List UInt8)
  | document (value : Value)

/-- `name` stands for the folder in messages. Places are given by the names on the way
from the folder to them. -/
structure Folder where
  name : String
  files : List (List String × Content)
  folders : List (List String)

inductive FolderItem where
  | file (content : Content)
  | folder

/-- The names of a path; empty ones and single dots mean nothing. -/
def pathParts (path : String) : List String :=
  ((path.toList.splitOn '/').map String.ofList).filter fun part => part != "" && part != "."

namespace Folder

/-- Folders exist when named, and wherever something lies in them. -/
def holdsFolder (folder : Folder) (place : List String) : Bool :=
  place.isEmpty || folder.folders.any (place.isPrefixOf ·) ||
    folder.files.any fun (file, _) => place.isPrefixOf file && place.length < file.length

/-- Why a path leads to nothing. -/
inductive PathFault where
  | absent
  | nameTooLong
deriving DecidableEq, Repr

def item (folder : Folder) (place : List String) : Except PathFault FolderItem :=
  match folder.files.find? (·.1 == place) with
  | some (_, content) => .ok (.file content)
  | none => if folder.holdsFolder place then .ok .folder else .error .absent

/-- How many bytes a name and a whole path may have. -/
def nameLimit : Nat := 255
def pathLimit : Nat := 4095

/-- Outside the whole nothing is known to exist but the folders around it. -/
def outside : List String → Except PathFault FolderItem
  | [] => .ok .folder
  | part :: rest =>
      if part = ".." then outside rest
      else if nameLimit < part.utf8ByteSize then .error .nameTooLong
      else .error .absent

/-- Follows names from a place. Two dots lead out of a folder that exists, and the length
of a name matters only where a folder could hold it. -/
def follow (folder : Folder) (place : List String) : List String → Except PathFault FolderItem
  | [] => folder.item place
  | part :: rest =>
      if !folder.holdsFolder place then .error .absent
      else if part = ".." then
        if place.isEmpty then outside rest else folder.follow place.dropLast rest
      else if nameLimit < part.utf8ByteSize then .error .nameTooLong
      else folder.follow (place ++ [part]) rest

def isAbsolute (path : String) : Bool := path.toList.head? == some '/'

/-- The slashes that begin an absolute path: one, or two where there are exactly two. -/
def opening (path : String) : String :=
  if (path.toList.takeWhile (· == '/')).length = 2 then "//" else "/"

/-- A path as messages show it. -/
def shown (folder : Folder) (path : String) : String :=
  if isAbsolute path then opening path ++ "/".intercalate (pathParts path)
  else "/".intercalate (folder.name :: pathParts path)

/-- What a path leads to. No path holds a zero character. -/
def locate (folder : Folder) (path : String) : Except PathFault FolderItem :=
  if path.toList.contains '\x00' then .error .absent
  else if pathLimit < (folder.shown path).utf8ByteSize then .error .nameTooLong
  else if isAbsolute path then outside (pathParts path)
  else folder.follow [] (pathParts path)

def settingsFolder : String := "config"

inductive RootError where
  | notFound
  | nameTooLong (path : String)
deriving DecidableEq, Repr

def tooLongMessage (path : String) : String := "[Errno 36] File name too long: " ++ Text.quoted path

def RootError.message : RootError → String
  | .notFound =>
      "Could not find project root. Expected to find 'config/' directory within 5 levels up from config.py"
  | .nameTooLong path => tooLongMessage path

/-- The nearest place with a settings folder, at most so many levels up. A place is left
by its last name, even where that is two dots. -/
def rootFrom (folder : Folder) : Nat → List String → Except RootError (List String)
  | 0, _ => .error .notFound
  | levels + 1, place =>
      match folder.follow [] (place ++ [settingsFolder]) with
      | .ok _ => .ok place
      | .error .nameTooLong =>
          .error (.nameTooLong ("/".intercalate (folder.name :: place ++ [settingsFolder])))
      | .error .absent =>
          if place.isEmpty then .error .notFound else folder.rootFrom levels place.dropLast

def rootLevels : Nat := 5

/-- The root of the project in which a file lies. Nothing is known above the folder. -/
def root (folder : Folder) (file : String) : Except RootError (List String) :=
  match pathParts file with
  | [] => .error .notFound
  | parts => folder.rootFrom rootLevels parts.dropLast

end Folder

end FleetLink
