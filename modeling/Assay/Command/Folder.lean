import Assay.Table
import Assay.Text.Basic

/-! # Folders

The files to which a command line may refer, by their path from the folder in which it is run.
A directory is there as soon as there is a file in it.
-/

namespace Assay.Command

/-- What stands at a path. -/
inductive Node where
  | file (content : ByteArray)
  | directory

/-- What stands in the way of a new file. -/
inductive Obstacle where
  /-- A directory is to be made where there is a file. -/
  | fileExists
  /-- A directory is to be made in a file. -/
  | notDirectory
  /-- The file is to be written where there is a directory. -/
  | isDirectory
  deriving DecidableEq

def rawParts (path : String) : List String :=
  (Text.splitOn '/' path.toList).map String.ofList

def parts (path : String) : List String :=
  (rawParts path).filter fun part => part ≠ "" && part ≠ "."

def isRooted (path : String) : Bool := path.toList.head? = some '/'

/-- A path without parts that name nothing. -/
def cleanPath (path : String) : String :=
  let names := "/".intercalate (parts path)
  if isRooted path then "/" ++ names else if names.isEmpty then "." else names

def joinPath (directory file : String) : String :=
  cleanPath (cleanPath directory ++ "/" ++ file)

/-- Files by the parts of their path. -/
abbrev Folder := List (List String × ByteArray)

namespace Folder

def ofFiles (files : List (String × ByteArray)) : Folder :=
  files.map fun file => (parts file.1, file.2)

def node? (folder : Folder) (place : List String) : Option Node :=
  match folder.find? fun file => file.1 = place with
  | some file => some (.file file.2)
  | none =>
    if place.isEmpty || folder.any fun file => place.isPrefixOf file.1 then some .directory
    else none

/-- What is found on the way from a place along the parts of a path. -/
def follow? (folder : Folder) (place : List String) : List String → Option Node
  | [] => folder.node? place
  | part :: rest =>
    match folder.node? place with
    | some .directory =>
      if part = "" || part = "." then folder.follow? place rest
      else if part = ".." then
        if place.isEmpty then none else folder.follow? place.dropLast rest
      else folder.follow? (place ++ [part]) rest
    | _ => none

/-- What stands at a path. Nothing is known of what lies outside the folder. -/
def find? (folder : Folder) (path : String) : Option Node :=
  if path.isEmpty || isRooted path then none else folder.follow? [] (rawParts path)

/-- The place at the end of the parts of a path, where `..` leads back. -/
def place? (place : List String) : List String → Option (List String)
  | [] => some place
  | part :: rest =>
    if part = ".." then if place.isEmpty then none else place? place.dropLast rest
    else place? (place ++ [part]) rest

def placeOf? (path : String) : Option (List String) :=
  if isRooted path then none else place? [] (parts path)

/-- What stands in the way of a directory at a place, which is made with those that it lies in. -/
def directoryObstacle? (folder : Folder) (place : List String) : Option Obstacle :=
  match (List.range (place.length + 1)).map place.take |>.find? fun part =>
      match folder.node? part with
      | some (.file _) => true
      | _ => false with
  | none => none
  | some part => some (if part = place then .fileExists else .notDirectory)

/-- What stands in the way of a new file with a given path, for which the directories are made. -/
def obstacle? (folder : Folder) (path : String) : Option Obstacle :=
  (placeOf? path).bind fun place =>
    (folder.directoryObstacle? place.dropLast).or <|
      match folder.node? place with
      | some .directory => some .isDirectory
      | _ => none

end Folder

end Assay.Command
