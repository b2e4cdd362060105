import SearchClient.Text.Blank
import SearchClient.Text.Split
import SearchClient.Text.Utf8
import SearchClient.Value.Entries

set_option autoImplicit false

/-! # Files

The files of a directory by their names. A name is a path: segments with slashes between them, in
which empty segments and single dots do not count, and two dots lead up. Nothing is known of what
lies outside the directory but the directories that every system has. A file is text, and every line
end in it reads as a line feed. -/

namespace SearchClient

/-- The octets of files by their paths. -/
abbrev Files := Entries (List UInt8)

namespace Files

/-! ## Paths -/

/-- The segments of a path that count. -/
def segments (path : String) : List String :=
  ((Text.splitOn '/' path.toList).filter fun s => s ≠ [] && s ≠ ['.']).map String.ofList

/-- The slashes in front of an absolute path: two stay two, and more are one. -/
def root (path : String) : String :=
  match path.toList with
  | '/' :: '/' :: '/' :: _ => "/"
  | '/' :: '/' :: _ => "//"
  | '/' :: _ => "/"
  | _ => ""

/-- A path without empty segments and single dots. -/
def normalPath (path : String) : String :=
  let text := root path ++ "/".intercalate (segments path)
  if text.isEmpty then "." else text

/-! ## Places -/

/-- Where a walk along a path is: in a directory below the first one, or somewhere outside. -/
inductive Position where
  | inside (segments : List String)
  | outside (segments : List String)

/-- What is at a path. -/
inductive Place where
  | file (octets : List UInt8)
  | directory (position : Position)
  /-- Nothing, or the path leads through what is not there. -/
  | nothing
  /-- The path leads through a file. -/
  | belowFile
  /-- The path, or a segment of it, is longer than a name can be. -/
  | tooLong
  /-- The path holds a zero character. -/
  | unnameable

/-- The directories at the root of every system. -/
def rootNames : List String :=
  ["bin", "boot", "dev", "etc", "home", "lib", "media", "mnt", "opt", "proc", "root", "run", "sbin",
   "srv", "sys", "tmp", "usr", "var"]

/-- The longest segment, in octets. -/
def longestName : Nat :=
  255

/-- The longest path, in octets. -/
def longestPath : Nat :=
  4095

/-- Whether a file is in the directory with the given segments, or further down. -/
def isBelow (segments : List String) (name : String) : Bool :=
  segments.isPrefixOf (Files.segments name) && segments.length < (Files.segments name).length

/-- What is at a position. -/
def placeAt (files : Files) (p : Position) : Place :=
  match p with
  | .inside [] => .directory p
  | .inside ss =>
    match files.find? fun (name, _) => segments name = ss with
    | some (_, octets) => .file octets
    | none => if files.any fun (name, _) => isBelow ss name then .directory p else .nothing
  | .outside [] => .directory p
  | .outside [s] => if rootNames.contains s then .directory p else .nothing
  | .outside ["dev", "null"] => .file []
  | .outside _ => .nothing

/-- Goes up from a position; above the first directory nothing is known. -/
def Position.up : Position → Position
  | .inside [] => .outside []
  | .inside ss => .inside ss.dropLast
  | .outside ss => .outside ss.dropLast

/-- Goes down from a position. -/
def Position.down (s : String) : Position → Position
  | .inside ss => .inside (ss ++ [s])
  | .outside ss => .outside (ss ++ [s])

/-- Walks along segments. -/
def walk (files : Files) (p : Position) : List String → Place
  | [] => files.placeAt p
  | s :: ss =>
    match files.placeAt p with
    | .directory _ =>
      if longestName < s.utf8ByteSize then .tooLong
      else walk files (if s = ".." then p.up else p.down s) ss
    | .file _ => .belowFile
    | place => place

/-- What is at a path. -/
def place (files : Files) (path : String) : Place :=
  if path.toList.contains '\x00' then .unnameable
  else if longestPath < (normalPath path).utf8ByteSize then .tooLong
  else walk files (if (root path).isEmpty then .inside [] else .outside []) (segments path)

/-! ## Homes -/

/-- The name of the user at whose home a path starts, if it does. The user of the program goes by
    the empty name. -/
def homeOf? (path : String) : Option String :=
  if (root path).isEmpty then
    match (segments path).head?.map String.toList with
    | some ('~' :: name) => some (String.ofList name)
    | _ => none
  else none

/-- The users that every system has, and the user of the program. -/
def userNames : List String :=
  ["", "root", "daemon", "bin", "mail", "nobody"]

/-- What is at a path that may start at the home of a user. Nothing is known of what lies there, and
    a user that there is not has no home. -/
def placeFromHome? (files : Files) (path : String) : Option Place :=
  match homeOf? path with
  | none => some (files.place path)
  | some user => if userNames.contains user then some .nothing else none

/-! ## Contents -/

/-- The files that lie in a directory, by their own names. -/
def list (files : Files) : Position → Files
  | .inside ss =>
    files.filterMap fun (name, octets) =>
      match (segments name).getLast? with
      | some own => if segments name = ss ++ [own] then some (own, octets) else none
      | none => none
  | .outside _ => []

/-- The text of octets. -/
def text (octets : List UInt8) : Except Text.DecodeError (List Char) :=
  (Text.Utf8.decode octets).map Text.unifyLineEnds

end Files

/-- What surrounds a run of the program: the variables of its environment, and its files. -/
structure Host where
  environment : Entries String
  files : Files

end SearchClient
