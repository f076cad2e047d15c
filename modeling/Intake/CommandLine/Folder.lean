import Intake.CommandLine.Input

namespace Intake.CommandLine

structure Folder where
  files : List (String × List UInt8)
  directories : List String

namespace Folder

abbrev Place := List (List Char)

def up : List Char := ['.', '.']

def stays (name : List Char) : Bool := name == [] || name == ['.']

def split : List Char → List (List Char)
  | [] => [[]]
  | c :: cs =>
    if c = '/' then [] :: split cs
    else
      match split cs with
      | [] => [[c]]
      | n :: ns => (c :: n) :: ns

def place (path : String) : Place := (split path.toList).filter fun n => !stays n

def file? (f : Folder) (p : Place) : Option (List UInt8) :=
  (f.files.find? fun e => place e.1 == p).map (·.2)

/-- Directories are those named, those that the names of files lead through, and those above. -/
def isDirectory (f : Folder) (p : Place) : Bool :=
  p.all (· == up) || f.directories.any (fun d => p.isPrefixOf (place d)) ||
    f.files.any (fun e => p.isPrefixOf (place e.1) && place e.1 != p)

def absence (f : Folder) (p : Place) : OsError :=
  if (f.file? p).isSome then .notADirectory else .notFound

/-- One name further along a path; only a directory leads on, to itself too. -/
def follow (f : Folder) (p : Place) (name : List Char) : Except OsError Place :=
  if !f.isDirectory p then .error (f.absence p)
  else if stays name then .ok p
  else if name = up && !p.all (· == up) then .ok p.dropLast
  else .ok (p ++ [name])

/-- The place that a path leads to. One that starts at a slash leaves the working directory. -/
def find (f : Folder) (path : String) : Except OsError Place :=
  if path = "" then .error .notFound
  else (split path.toList).foldlM f.follow (if path.startsWith "/" then [up] else [])

def fetch (f : Folder) (path : String) : Fetched :=
  match f.find path with
  | .error e => .notOpened e
  | .ok p =>
    match f.file? p with
    | some content => .bytes content
    | none => if f.isDirectory p then .notRead .isADirectory else .notOpened .notFound

end Folder

end Intake.CommandLine
