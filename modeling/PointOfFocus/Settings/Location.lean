/-!
# Locations of files

A location is a sequence of names, from the root of the file system or from the working directory. Its text has one
slash between two names and no name that means the place itself, so two ways to write one location have one text.

A location may start in a home directory: a tilde alone stands for that of the user who runs the program, and a tilde
with a name for that of the user of this name. Where the home directories are is for the user database to say.
-/

namespace PointOfFocus.Settings

/-- The location of a file or a directory. -/
structure Location where
  /-- The slashes at the start of a location that goes from the root. -/
  root : String := ""
  /-- The names on the way. -/
  names : List String
deriving DecidableEq

/-- Splits a text at every slash. -/
def splitSlashes : List Char → List (List Char)
  | [] => [[]]
  | c :: cs =>
    match splitSlashes cs with
    | [] => [[c]]
    | name :: names => if c = '/' then [] :: name :: names else (c :: name) :: names

namespace Location

/-- The root that slashes at the start stand for: two are kept, any other number counts as one. -/
def rootOf (slashes : Nat) : String :=
  if slashes = 0 then "" else if slashes = 2 then "//" else "/"

/-- The location that a text writes. -/
def read (text : String) : Location where
  root := rootOf (text.toList.takeWhile (· = '/')).length
  names := ((splitSlashes text.toList).map String.ofList).filter fun name => name ≠ "" && name ≠ "."

/-- The text of a location. -/
def text (l : Location) : String :=
  if l.root = "" && l.names.isEmpty then "." else l.root ++ "/".intercalate l.names

/-- Whether the location goes from the root. -/
def isAbsolute (l : Location) : Bool := l.root ≠ ""

/-- A location as seen from another one. -/
def join (base l : Location) : Location :=
  if l.isAbsolute then l else { base with names := base.names ++ l.names }

/-- The directory that the location is in. -/
def parent (l : Location) : Location := { l with names := l.names.dropLast }

end Location

/-! ### Home directories -/

/-- The home directories of the users: the directory of the user who runs the program under the empty name, those of
others under their names. -/
abbrev Homes := String → Option String

/-- The home directories in a table that has a line for each user, with colons between its fields. The name is the
first field and the home directory the sixth. -/
def Homes.ofTable (own : Option String) (table : String) : Homes := fun user =>
  if user = "" then own
  else (table.splitOn "\n").findSome? fun line =>
    match line.splitOn ":" with
    | name :: _ :: _ :: _ :: _ :: home :: _ => if name = user then some home else none
    | _ => none

/-- Why a home directory is not found. -/
inductive HomeFault where
  /-- There is no home directory of the name. -/
  | unknown
  /-- The name has a character that no name can have. -/
  | nullCharacter
deriving DecidableEq

/-- The wording of the fault. -/
def HomeFault.message : HomeFault → String
  | .unknown => "Could not determine home directory."
  | .nullCharacter => "embedded null byte"

namespace Location

/-- The name behind the tilde that the location starts with, if it starts with one. -/
def user? (l : Location) : Option String :=
  if l.isAbsolute then none
  else
    match l.names.head?.map String.toList with
    | some ('~' :: user) => some (String.ofList user)
    | _ => none

/-- The location of a home directory; `none` if its own text starts with a tilde. -/
def ofHome? (text : String) : Option Location :=
  if text.toList.head? = some '~' then none
  else if text.toList.all (· = '/') then some (.read "/")
  else some (.read text)

/-- Puts a home directory in the place of a tilde and a name at the start. -/
def expandHome (homes : Homes) (l : Location) : Except HomeFault Location :=
  match l.user? with
  | none => .ok l
  | some user =>
    if '\x00' ∈ user.toList then .error .nullCharacter
    else
      match (homes user).bind ofHome? with
      | some home => .ok { home with names := home.names ++ l.names.tail }
      | none => .error .unknown

end Location

end PointOfFocus.Settings
