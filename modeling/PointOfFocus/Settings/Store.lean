import PointOfFocus.Settings.Configuration

/-!
# Keeping the configuration

The configuration that is read without a path is kept, and the next reading without a path gives the one that is kept,
whatever the files and the environment say by then, unless a fresh reading is forced. A reading with a path neither
uses nor changes what is kept, and neither does a reading that fails.

Every reading of a file gives its configuration a number of its own, which tells one that was kept from an equal one
that was read again.
-/

namespace PointOfFocus.Settings

/-! ### A directory with files -/

/-- The contents of a directory: the files below it and the directories that were made for them. -/
structure Folder where
  /-- The files, by the names on the way to them. -/
  files : List (List String × String) := []
  /-- The directories, by the names on the way to them. -/
  directories : List (List String) := []

namespace Folder

/-- The text of a file. -/
def text? (f : Folder) (names : List String) : Option String :=
  (f.files.find? (·.1 = names)).map (·.2)

/-- Whether there is a directory; the folder itself is one. -/
def isDirectory (f : Folder) (names : List String) : Bool :=
  names.isEmpty || f.directories.contains names

/-- The way to a place, without steps back, if one can go there. -/
def resolve (f : Folder) (passed : List String) : List String → Option (List String)
  | [] => some passed
  | name :: names =>
    if !f.isDirectory passed then none
    else if name = ".." then if passed.isEmpty then none else f.resolve passed.dropLast names
    else f.resolve (passed ++ [name]) names

/-- What is found at a path, for a folder at the given location. Nothing is found at the empty path. -/
def entryAt (f : Folder) (place : Location) (path : String) : Entry :=
  let l := Location.read path
  let below := l.root = place.root && place.names.isPrefixOf l.names
  if path = "" || (l.isAbsolute && !below) then .missing
  else
    match f.resolve [] (if below then l.names.drop place.names.length else l.names) with
    | none => .missing
    | some names =>
      match f.text? names with
      | some text => .file text
      | none => if f.isDirectory names then .directory else .missing

/-- The folder with a file in it, in place of the one of the same name. -/
def write (f : Folder) (path text : String) : Folder :=
  let names := (Location.read path).names
  let above := (List.range names.length).tail.map names.take
  { files := f.files.filter (·.1 ≠ names) ++ [(names, text)]
    directories := f.directories ++ above.filter (!f.directories.contains ·) }

/-- The folder without the file at a path, if there is one. -/
def delete (f : Folder) (place : Location) (path : String) : Except Fault Folder :=
  match f.entryAt place path with
  | .file _ => .ok { f with files := f.files.filter (·.1 ≠ (Location.read path).names) }
  | .directory => .error (.directory path)
  | .missing => .error (.noFile path)

end Folder

/-! ### Readings -/

/-- A configuration and the number of the reading that it comes from. -/
structure Reading where
  /-- The number of the reading. -/
  number : Nat
  /-- What was read. -/
  configuration : Configuration

/-- What is kept between readings. -/
structure Store where
  /-- The reading that is kept. -/
  kept : Option Reading := none
  /-- The number of the next reading. -/
  next : Nat := 0

/-- Reads the configuration from the file of a path, or from where the environment says. -/
def readConfiguration (e : Environment) (lookUp : String → Entry) (path : Option String) :
    Except Fault Configuration := do
  let source ← e.source path
  source.configuration e.homes (lookUp source.location.text)

namespace Store

/-- Reads the configuration anew. -/
def reload (s : Store) (e : Environment) (lookUp : String → Entry) (path : Option String) :
    Except Fault Reading × Store :=
  match readConfiguration e lookUp path with
  | .error fault => (.error fault, s)
  | .ok configuration =>
    let reading : Reading := ⟨s.next, configuration⟩
    (.ok reading, { kept := if path.isNone then some reading else s.kept, next := s.next + 1 })

/-- The configuration for a path, or the one that is kept. -/
def load (s : Store) (e : Environment) (lookUp : String → Entry) (path : Option String) (force : Bool) :
    Except Fault Reading × Store :=
  match path, s.kept, force with
  | none, some reading, false => (.ok reading, s)
  | _, _, _ => s.reload e lookUp path

end Store

/-! ### Histories -/

/-- A place of work: an environment, the files in its working directory, and what is kept. -/
structure Workplace where
  /-- The environment. -/
  environment : Environment
  /-- The files. -/
  folder : Folder := {}
  /-- What is kept. -/
  store : Store := {}

/-- What can happen at a place of work. -/
inductive Event where
  /-- A file is written. -/
  | write (path text : String)
  /-- A file is deleted. -/
  | delete (path : String)
  /-- The environment names another settings file, or none. -/
  | configure (path : Option String)
  /-- The configuration is asked for. -/
  | load (path : Option String) (force : Bool)

/-- What an event leads to: a reading if the configuration was asked for, and the place of work after it. -/
def Workplace.step (w : Workplace) : Event → Except Fault (Option Reading) × Workplace
  | .write path text =>
    match w.folder.entryAt w.environment.directory path with
    | .directory => (.error (.directory path), w)
    | _ => (.ok none, { w with folder := w.folder.write path text })
  | .delete path =>
    match w.folder.delete w.environment.directory path with
    | .ok folder => (.ok none, { w with folder })
    | .error fault => (.error fault, w)
  | .configure path => (.ok none, { w with environment := { w.environment with configured := path } })
  | .load path force =>
    let lookUp := w.folder.entryAt w.environment.directory
    let (result, store) := w.store.load w.environment lookUp path force
    (result.map some, { w with store })

end PointOfFocus.Settings
