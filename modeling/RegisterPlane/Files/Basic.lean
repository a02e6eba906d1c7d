import RegisterPlane.Files.Path

/-!
A tree of files: what each path leads to, and the steps that change it. A path is followed name by
name, and every name but the last must be that of a directory. A step either takes place as a whole or
fails; one that fails changes nothing, apart from the directories that it has made on its way.
-/

namespace RegisterPlane

inductive FileNode where
  | file (text : String) (mode : Nat)
  | directory
  | socket (mode : Nat := 0o755)
  deriving DecidableEq, Repr

inductive FileFault where
  | missing
  | notADirectory
  | isADirectory
  /-- No path at all: nothing, a null character, or more than fits. -/
  | malformed
  deriving DecidableEq, Repr

abbrev Location := List String

structure Files where
  nodes : List (Location × FileNode)
  /-- Where relative paths start. -/
  workingDirectory : Location
  deriving DecidableEq, Repr

namespace Files

/-- The root always is a directory. -/
def node? (fs : Files) (at' : Location) : Option FileNode :=
  if at' = [] then some .directory else (fs.nodes.find? (·.1 == at')).map (·.2)

def remove (fs : Files) (at' : Location) : Files :=
  { fs with nodes := fs.nodes.filter (·.1 != at') }

def place (fs : Files) (at' : Location) (node : FileNode) : Files :=
  { fs with nodes := (at', node) :: (fs.remove at').nodes }

def nameLimit : Nat := 255

def pathLimit : Nat := 4095

def isPath (path : String) : Bool :=
  path != "" && decide (path.utf8ByteSize ≤ pathLimit) && !path.toList.contains '\x00'

def follow (fs : Files) (at' : Location) (name : String) : Except FileFault Location :=
  match fs.node? at' with
  | none => .error .missing
  | some .directory =>
    if Path.stays name then .ok at'
    else if name = ".." then .ok at'.dropLast
    else if nameLimit < name.utf8ByteSize then .error .malformed
    else .ok (at' ++ [name])
  | some _ => .error .notADirectory

def start (fs : Files) (path : String) : Location :=
  if Path.isAbsolute path then [] else fs.workingDirectory

def locate (fs : Files) (path : String) : Except FileFault Location :=
  if isPath path then (Path.names path).foldlM fs.follow (fs.start path) else .error .malformed

def find? (fs : Files) (path : String) : Option (Location × FileNode) :=
  match fs.locate path with
  | .ok at' => (fs.node? at').map (at', ·)
  | .error _ => none

def isPresent (fs : Files) (path : String) : Bool := (fs.find? path).isSome

def text? (fs : Files) (path : String) : Option String :=
  match fs.find? path with
  | some (_, .file text _) => some text
  | _ => none

def sameFile (fs : Files) (path path' : String) : Bool :=
  match fs.find? path, fs.find? path' with
  | some (at', _), some (at'', _) => at' == at''
  | _, _ => false

def names (fs : Files) (path : String) : List String :=
  match fs.find? path with
  | some (at', .directory) =>
    (fs.nodes.filterMap fun (l, _) => if l ≠ [] ∧ l.dropLast = at' then l.getLast? else none).mergeSort
      (fun a b => decide (a ≤ b))
  | _ => []

def defaultMode : Nat := 0o644

end Files

inductive FileStep where
  | makeDirectories (path : String)
  | write (path : String) (text : String)
  | setMode (path : String) (mode : Nat)
  | rename (source target : String)
  | remove (path : String)
  deriving DecidableEq, Repr

namespace FileStep

/-- Names followed from a location, with a directory made for each that is missing. -/
def makeAlong (fs : Files) (at' : Location) : List String → Except FileFault Unit × Files
  | [] => (.ok (), fs)
  | name :: names =>
    match fs.follow at' name with
    | .error fault => (.error fault, fs)
    | .ok next =>
      match fs.node? next with
      | none => makeAlong (fs.place next .directory) next names
      | some .directory => makeAlong fs next names
      | some _ => (.error .notADirectory, fs)

def writeAt (fs : Files) (at' : Location) (text : String) : Except FileFault Files :=
  match fs.node? at' with
  | none => .ok (fs.place at' (.file text Files.defaultMode))
  | some (.file _ mode) => .ok (fs.place at' (.file text mode))
  | some _ => .error .isADirectory

/-- The modes of directories are not kept. -/
def setModeAt (fs : Files) (at' : Location) (mode : Nat) : Except FileFault Files :=
  match fs.node? at' with
  | some (.file text _) => .ok (fs.place at' (.file text mode))
  | some (.socket _) => .ok (fs.place at' (.socket mode))
  | some .directory => .ok fs
  | none => .error .missing

def renameAt (fs : Files) (source target : Location) : Except FileFault Files :=
  match fs.node? source, fs.node? target with
  | none, _ => .error .missing
  | some _, some .directory => .error .isADirectory
  | some node, _ => .ok ((fs.remove source).place target node)

def removeAt (fs : Files) (at' : Location) : Except FileFault Files :=
  match fs.node? at' with
  | none => .error .missing
  | some .directory => .error .isADirectory
  | some _ => .ok (fs.remove at')

def wholly (fs : Files) : Except FileFault Files → Except FileFault Unit × Files
  | .ok fs' => (.ok (), fs')
  | .error fault => (.error fault, fs)

def apply (fs : Files) : FileStep → Except FileFault Unit × Files
  | makeDirectories path =>
    if path = "" then (.ok (), fs)
    else if Files.isPath path then makeAlong fs (fs.start path) (Path.names path)
    else (.error .malformed, fs)
  | write path text => wholly fs do writeAt fs (← fs.locate path) text
  | setMode path mode => wholly fs do setModeAt fs (← fs.locate path) mode
  | rename source target => wholly fs do renameAt fs (← fs.locate source) (← fs.locate target)
  | remove path => wholly fs do removeAt fs (← fs.locate path)

/-- Steps one after another. The first that fails ends them; those before it have taken place. -/
def applyAll : Files → List FileStep → Except FileFault Unit × Files
  | fs, [] => (.ok (), fs)
  | fs, step :: steps =>
    match step.apply fs with
    | (.ok (), fs') => applyAll fs' steps
    | failed => failed

end FileStep

def Files.startingAt (directory : String) : Files :=
  ((FileStep.makeDirectories directory).apply ⟨[], Path.steps directory⟩).2

def Files.withText (fs : Files) (path text : String) : Files :=
  (FileStep.applyAll fs [.makeDirectories (Path.parent path), .write path text]).2

end RegisterPlane
