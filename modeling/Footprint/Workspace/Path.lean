import Footprint.Text.Split

namespace Footprint

structure Path where
  /-- Empty for a relative path; two leading slashes are a root of their own. -/
  root : String
  parts : List String
  deriving DecidableEq, Repr

namespace Path

def rootOf (text : List Char) : String :=
  match (text.takeWhile (· == '/')).length with
  | 0 => ""
  | 2 => "//"
  | _ => "/"

def ofString (s : String) : Path where
  root := rootOf s.toList
  parts :=
    let proper := (Text.splitOn '/' s.toList).filter fun part => part != [] && part != ['.']
    proper.map String.ofList

def toString (path : Path) : String :=
  if path.root.isEmpty && path.parts.isEmpty then "."
  else path.root ++ "/".intercalate path.parts

def isRelative (path : Path) : Bool := path.root.isEmpty

def append (path other : Path) : Path :=
  if other.isRelative then { path with parts := path.parts ++ other.parts } else other

def file (directory : Path) (name : String) : Path :=
  { directory with parts := directory.parts ++ [name] }

def parent? (path : Path) : Option (Path × String) :=
  path.parts.getLast?.map fun name => ({ path with parts := path.parts.dropLast }, name)

def isWithin (path folder : Path) : Bool :=
  path.root == folder.root && folder.parts.isPrefixOf path.parts

def trimHome (home : String) : String :=
  let trimmed := (home.toList.reverse.dropWhile (· == '/')).reverse
  if trimmed.isEmpty then "/" else String.ofList trimmed

/-- A first part `~name` stands for the home directory of an account, the user's own one if there
    is no name. Nothing if there is no such directory. -/
def expandHome? (homeOf : String → Option String) (path : Path) : Option Path :=
  match path.isRelative, path.parts with
  | true, first :: rest => match first.toList with
    | '~' :: name =>
      match (homeOf (String.ofList name)).map trimHome with
      | some home =>
        if "~".toList.isPrefixOf home.toList then none else some ((ofString home).append ⟨"", rest⟩)
      | none => none
    | _ => some path
  | _, _ => some path

end Path
end Footprint
