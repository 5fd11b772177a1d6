import Postroom.Shell.Command

/-!
# The state of a shell

What the commands of a line read and change: files, descriptors, variables, functions, the arguments
and the status.  Within a shell every text is of octets: it holds no character from 256 on.

* `Action` — what reads and changes the state;
* `Machine.write`, `Machine.readAll` — output and input by descriptor;
* `Machine.openPath` — what a descriptor is led to by a path.
-/

namespace Postroom.Shell

/-- What a file or a stream holds: the pieces written to it, last one first.  A bounded one is a
stream whose reader has gone once so much has been written. -/
structure Body where
  chunks : List Text
  size : Nat
  bound : Option Nat

namespace Body

/-- A body that holds a text. -/
def ofText (t : Text) : Body :=
  ⟨[t], t.length, none⟩

/-- What the body holds. -/
def text (b : Body) : Text :=
  b.chunks.reverse.flatten

/-- Writes at the end. -/
def append (b : Body) (t : Text) : Body :=
  { b with chunks := t :: b.chunks, size := b.size + t.length }

/-- No more can be written. -/
def isFull (b : Body) : Bool :=
  b.bound.any (· ≤ b.size)

end Body

/-- A file, by the number of its body, and who may do what with it, a bit for each right. -/
structure File where
  path : Text
  body : Nat
  mode : Nat
deriving DecidableEq, Repr

/-- Somebody may run the file. -/
def File.isExecutable (f : File) : Bool :=
  f.mode % 2 = 1 || f.mode / 8 % 2 = 1 || f.mode / 64 % 2 = 1

/-- A directory, with its rights. -/
structure Directory where
  path : Text
  mode : Nat
deriving DecidableEq, Repr

/-- A path that leads to another one, as seen from the directory that it lies in. -/
structure Link where
  path : Text
  target : Text
deriving DecidableEq, Repr

/-- What is read from: a body, and what is left of it once the reading has begun.  A place in a file
can be gone back to, one in a stream cannot. -/
structure Source where
  body : Nat
  rest : Option Text
  isSeekable : Bool
deriving DecidableEq, Repr

/-- What a descriptor stands for. -/
inductive Channel where
  | null
  | sink (body : Nat)
  | source (n : Nat)
deriving DecidableEq, Repr

/-- A variable, which has no value as long as it is only marked. -/
structure Variable where
  name : Text
  value : Option Text
  isExported : Bool
  isReadOnly : Bool
deriving DecidableEq, Repr

/-- How far the run of a line is. -/
inductive Flow where
  | running
  /-- The function at hand has been left. -/
  | returning
  /-- So many loops have been left or, for `goesOn`, the last of them goes on. -/
  | leaving (loops : Nat) (goesOn : Bool)
  | exiting
  /-- A shell that has lost the reader of its output. -/
  | stopped
  | killed
deriving DecidableEq, Repr

/-- The options of a shell, by the letters that set them. -/
abbrev Options := List Char

/-- The state of a shell. -/
structure Machine where
  bodies : Array Body
  files : List File
  directories : List Directory
  links : List Link
  /-- The names of the programs that are there without having been made. -/
  programs : List Text
  sources : Array Source
  descriptors : List (Nat × Channel)
  directory : Text
  /-- The name of the shell, its number as a process, and the line and the command it is at. -/
  name : Text
  process : Nat
  line : Nat
  caller : Option Text
  functions : List (Text × Command)
  /-- The names that stand for the beginnings of commands. -/
  aliases : List (Text × Text)
  /-- The names of the programs that have been looked for and found. -/
  tracked : List Text
  settings : List Variable
  /-- The variables that a function keeps to itself, as they were before it. -/
  locals : List Variable
  arguments : List Text
  status : Nat
  /-- The status of the last command line within a word of the command at hand. -/
  substituted : Nat
  options : Options
  /-- The statuses of the commands that have not been waited for, last one first. -/
  asides : List Nat
  /-- What is done at signals, and what is about to be done. -/
  traps : List (Text × Text)
  pending : List Text
  /-- In a part that runs apart: what the shell around it does at signals, and what it is about to
  do. -/
  outerTraps : Option (List (Text × Text))
  sent : List Text
  /-- The argument and the place in it that the next option is taken from. -/
  optionPlace : Option (Nat × Nat)
  /-- The rights that new files are not given. -/
  mask : Nat
  /-- How many loops and functions are open. -/
  loops : Nat
  calls : Nat
  /-- Some output has been lost because there was nothing that it could go to. -/
  hasLost : Bool
  flow : Flow

/-- What reads and changes the state of a shell. -/
abbrev Action := StateM Machine

/-- The number by which a shell that no other one has begun knows itself as a process. -/
def firstProcess : Nat := 2

/-- How much can be written to a stream in front of a pipe. -/
def pipeBound : Nat := 1048576

/-- The directories that are there without having been made. -/
def systemDirectories : List Text :=
  ["/".toList, "/bin".toList, "/dev".toList, "/etc".toList, "/home".toList, "/proc".toList,
    "/root".toList, "/tmp".toList, "/usr".toList, "/usr/bin".toList, "/usr/local".toList,
    "/usr/local/bin".toList, "/var".toList, "/var/tmp".toList]

/-- The directory that a shell begins in. -/
def homeDirectory : Text :=
  "/root".toList

/-- The variables that a shell is given. -/
def environment : List Variable :=
  [⟨"HOME".toList, some homeDirectory, true, false⟩,
    ⟨"PATH".toList, some "/usr/local/sbin:/usr/local/bin:/usr/sbin:/usr/bin:/sbin:/bin".toList,
      true, false⟩]

/-- The variables that a shell sets by itself. -/
def ownVariables (directory : Text) : List Variable :=
  [⟨"IFS".toList, some [' ', '\t', '\n'], false, false⟩,
    ⟨"OPTIND".toList, some ['1'], false, false⟩,
    ⟨"PPID".toList, some ['1'], false, false⟩,
    ⟨"PS1".toList, some "# ".toList, false, false⟩,
    ⟨"PS2".toList, some "> ".toList, false, false⟩,
    ⟨"PS4".toList, some "+ ".toList, false, false⟩,
    ⟨"PWD".toList, some directory, true, false⟩]

namespace Machine

/-- A shell that has run nothing yet.  Its descriptors are the input, the output and the
complaints. -/
def initial (programs directories : List Text) (files : List (Text × Text)) (input : Text) :
    Machine :=
  { bodies := ([input, [], []] ++ files.map (·.2)).toArray.map Body.ofText
    files := files.mapIdx fun i f => ⟨f.1, i + 3, 420⟩
    directories := (systemDirectories ++ directories).map fun d => ⟨d, 493⟩
    links := []
    programs
    sources := #[⟨0, none, false⟩]
    descriptors := [(0, .source 0), (1, .sink 1), (2, .sink 2)]
    directory := homeDirectory
    name := "sh".toList
    process := firstProcess
    line := 1
    caller := none
    functions := []
    aliases := []
    tracked := []
    settings := environment ++ ownVariables homeDirectory
    locals := []
    arguments := []
    status := 0
    substituted := 0
    options := []
    asides := []
    traps := []
    pending := []
    outerTraps := none
    sent := []
    optionPlace := none
    mask := 18
    loops := 0
    calls := 0
    hasLost := false
    flow := .running }

/-! ## Paths and files -/

/-- The steps of a path from the root, without those that lead nowhere. -/
def steps (path : Text) : List Text :=
  (Text.pieces (· = '/') path).foldl
    (fun done step =>
      if step = [] ∨ step = ['.'] then done
      else if step = ['.', '.'] then done.dropLast
      else done ++ [step])
    []

/-- The path from the root that consists of steps. -/
def ofSteps (ss : List Text) : Text :=
  if ss.isEmpty then ['/'] else ss.flatMap ('/' :: ·)

/-- A path from the root, as seen from the directory at hand and as it is written. -/
def absolute (m : Machine) (path : Text) : Text :=
  ofSteps (steps (if path.head? = some '/' then path else m.directory ++ '/' :: path))

/-- The directory that a path from the root lies in. -/
def parentOf (p : Text) : Text :=
  match Text.splitLast '/' p with
  | none | some ([], _) => ['/']
  | some (directory, _) => directory

/-- The last step of a path. -/
def lastStep (path : Text) : Text :=
  ((steps path).getLast?).getD ['/']

/-- Where a path from the root leads to by at most so many links. -/
def follow (links : List Link) : Nat → Text → Text
  | 0, p => p
  | n + 1, p =>
    match links.find? fun l => l.path = p ∨ (l.path ++ ['/']).isPrefixOf p with
    | none => p
    | some l =>
      let front :=
        if l.target.head? = some '/' then l.target else parentOf l.path ++ '/' :: l.target
      follow links n (ofSteps (steps (front ++ p.drop l.path.length)))

/-- How many links a path may pass. -/
def linkLimit : Nat := 40

/-- A path from the root, as seen from the directory at hand, to what it leads to. -/
def locate (m : Machine) (path : Text) : Text :=
  follow m.links linkLimit (m.absolute path)

/-- A path from the root to what is at a path, which may be a link. -/
def locateItself (m : Machine) (path : Text) : Text :=
  match (steps (m.absolute path)).getLast? with
  | none => ['/']
  | some last =>
    ofSteps (steps (follow m.links linkLimit (parentOf (m.absolute path)) ++ '/' :: last))

/-- The link at a path. -/
def link? (m : Machine) (path : Text) : Option Link :=
  if path = [] ∨ m.links.isEmpty ∨ path.getLast? = some '/' then none
  else
    let p := m.locateItself path
    m.links.find? (·.path = p)

/-- The directory at a path. -/
def directory? (m : Machine) (path : Text) : Option Directory :=
  if path = [] then none
  else
    let p := m.locate path
    m.directories.find? (·.path = p)

/-- The path is that of a directory. -/
def isDirectory (m : Machine) (path : Text) : Bool :=
  (m.directory? path).isSome

/-- The file at a path; a path with a slash at its end is none. -/
def file? (m : Machine) (path : Text) : Option File :=
  if path = [] ∨ path.getLast? = some '/' then none
  else
    let p := m.locate path
    m.files.find? (·.path = p)

/-- What a file holds. -/
def contents (m : Machine) (f : File) : Text :=
  (m.bodies[f.body]?.map Body.text).getD []

/-- A path from the root leads to where the programs are. -/
def isAmongPrograms (p : Text) : Bool :=
  parentOf p = "/usr/bin".toList || parentOf p = "/bin".toList

/-- The path is that of a program that is there without having been made. -/
def isProgram (m : Machine) (path : Text) : Bool :=
  path ≠ [] && isAmongPrograms (m.locate path) && m.programs.contains (lastStep (m.locate path))

/-- What is read from a device, as far as anyone reads, if a path from the root is that of one. -/
def device? (p : Text) : Option Text :=
  match Text.stripFront "/dev/".toList p with
  | none => none
  | some name =>
    if name = "null".toList then some []
    else if name = "zero".toList then some (List.replicate pipeBound '\x00')
    else if name = "random".toList ∨ name = "urandom".toList then
      some ((List.range pipeBound).map fun i => Char.ofNat ((i * 167 + i / 256 * 89 + 57) % 256))
    else none

/-- The path is that of a device. -/
def isDevice (m : Machine) (path : Text) : Bool :=
  path ≠ [] && (device? (m.locate path)).isSome

/-- The path from the root is that of a terminal, which there is none of. -/
def isTerminal (p : Text) : Bool :=
  p = "/dev/tty".toList

/-- There is a file or a directory at a path. -/
def doesExist (m : Machine) (path : Text) : Bool :=
  (m.file? path).isSome || m.isDirectory path || m.isProgram path || m.isDevice path
    || isTerminal (m.locate path)

/-- The directory that a path lies in is there. -/
def hasParent (m : Machine) (path : Text) : Bool :=
  m.isDirectory (parentOf (m.locate path))

/-- A step of a path other than the last one is a file. -/
def passesFile (m : Machine) (path : Text) : Bool :=
  m.files.any fun f => (f.path ++ ['/']).isPrefixOf (m.locate path ++ ['/'])
    && (f.path ≠ m.locate path || path.getLast? = some '/')

/-- Removes the file at a path, or the link. -/
def removeFile (m : Machine) (path : Text) : Machine :=
  match m.link? path with
  | some l => { m with links := m.links.filter (·.path ≠ l.path) }
  | none =>
    let p := m.locate path
    { m with files := m.files.filter (·.path ≠ p) }

/-- The rights that are left of some by what new files are not given. -/
def maskedMode (m : Machine) (mode : Nat) : Nat :=
  mode &&& (511 ^^^ m.mask)

/-- Makes a directory at a path, with rights. -/
def addDirectory (m : Machine) (path : Text) (mode : Nat) : Machine :=
  { m with directories := m.directories ++ [⟨m.locate path, mode⟩] }

/-- Adds a body. -/
def addBody (m : Machine) (b : Body) : Nat × Machine :=
  (m.bodies.size, { m with bodies := m.bodies.push b })

/-- Puts a file that holds a text at a path, in place of what another file there held. -/
def setFile (m : Machine) (path contents : Text) : Machine :=
  match m.file? path with
  | some f => { m with bodies := m.bodies.setIfInBounds f.body (.ofText contents) }
  | none =>
    let (n, m) := m.addBody (.ofText contents)
    { m with files := m.files ++ [⟨m.locate path, n, m.maskedMode 438⟩] }

/-- What lies directly in a directory, by name. -/
def entries (m : Machine) (path : Text) : List Text :=
  let directory := m.locate path
  let paths := m.files.map (·.path) ++ m.directories.map (·.path) ++ m.links.map (·.path)
  let names := paths.filterMap fun p =>
    if p ≠ directory ∧ p ≠ ['/'] ∧ parentOf p = directory then some (lastStep p) else none
  Text.sorted names

/-! ## Descriptors -/

/-- What a descriptor stands for. -/
def channel? (m : Machine) (descriptor : Nat) : Option Channel :=
  m.descriptors.lookup descriptor

/-- Lets a descriptor stand for something, or for nothing. -/
def setChannel (m : Machine) (descriptor : Nat) (c : Option Channel) : Machine :=
  let others := m.descriptors.filter (·.1 ≠ descriptor)
  { m with descriptors := (c.map fun c => (descriptor, c)).toList ++ others }

/-- Writes to what a descriptor may stand for.  A stream that is full stops the shell. -/
def writeTo (m : Machine) (c : Option Channel) (t : Text) : Machine :=
  match c with
  | some (.sink n) =>
    if m.bodies[n]?.any Body.isFull then { m with flow := .stopped, status := 141 }
    else { m with bodies := m.bodies.modify n (·.append t) }
  | _ => m

/-- Writes to a descriptor. -/
def write (m : Machine) (descriptor : Nat) (t : Text) : Machine :=
  if (m.channel? descriptor).isNone ∧ t ≠ [] ∧ descriptor = 1 then { m with hasLost := true }
  else m.writeTo (m.channel? descriptor) t

/-- Adds a source, and gives its number. -/
def addSource (m : Machine) (s : Source) : Nat × Machine :=
  (m.sources.size, { m with sources := m.sources.push s })

/-- What is left to be read from a source. -/
def restOf (m : Machine) (s : Source) : Text :=
  s.rest.getD ((m.bodies[s.body]?.map Body.text).getD [])

/-- The source that a descriptor reads from, by its number. -/
def source? (m : Machine) (descriptor : Nat) : Option (Nat × Source) :=
  match m.channel? descriptor with
  | some (.source n) => m.sources[n]?.map fun s => (n, s)
  | _ => none

/-- What is left to be read from a descriptor. -/
def unread (m : Machine) (descriptor : Nat) : Text :=
  match m.source? descriptor with
  | some (_, s) => m.restOf s
  | none => []

/-- Leaves so much to be read from a descriptor. -/
def leaveUnread (m : Machine) (descriptor : Nat) (rest : Text) : Machine :=
  match m.source? descriptor with
  | some (n, s) => { m with sources := m.sources.setIfInBounds n { s with rest := some rest } }
  | none => m

/-- All that is left to be read from a descriptor. -/
def readAll (m : Machine) (descriptor : Nat) : Text × Machine :=
  (m.unread descriptor, m.leaveUnread descriptor [])

/-- The descriptor that the path of a device names. -/
def deviceDescriptor? (path : Text) : Option Nat :=
  if path = "/dev/stdin".toList then some 0
  else if path = "/dev/stdout".toList then some 1
  else if path = "/dev/stderr".toList then some 2
  else (Text.stripFront "/dev/fd/".toList path).bind Text.toNat?

/-- A source that reads a text. -/
def addText (m : Machine) (t : Text) : Channel × Machine :=
  let (body, m) := m.addBody (.ofText t)
  let (n, m) := m.addSource ⟨body, none, true⟩
  (.source n, m)

/-- What the path of a redirection stands for, or the complaint about it. -/
def openPath (m : Machine) (opening : Opening) (path : Text) : Except Text (Channel × Machine) :=
  let isWrite := opening ≠ .read
  let cannot (why : String) : Except Text (Channel × Machine) :=
    .error ((if isWrite then "cannot create " else "cannot open ").toList ++ path ++ ": ".toList
      ++ why.toList)
  let start (m : Machine) (f : File) : Except Text (Channel × Machine) :=
    match opening with
    | .read =>
      let (n, m) := m.addSource ⟨f.body, none, true⟩
      .ok (.source n, m)
    | .append | .readWrite => .ok (.sink f.body, m)
    | .write | .clobber =>
      .ok (.sink f.body, { m with bodies := m.bodies.setIfInBounds f.body (.ofText []) })
  let p := m.locate path
  if path = [] then cannot (if isWrite then "Directory nonexistent" else "No such file")
  else if isTerminal p then cannot "No such device or address"
  else if let some t := device? p then
    if isWrite ∨ t.isEmpty then .ok (.null, m) else .ok (m.addText t)
  else
    match deviceDescriptor? p with
    | some d =>
      match m.channel? d with
      | some c => .ok (c, m)
      | none => cannot (if isWrite then "Directory nonexistent" else "No such file")
    | none =>
      if m.isDirectory path then
        if isWrite then cannot "Is a directory" else .ok (.null, m)
      else
        match m.file? path with
        | some f =>
          if opening = .write ∧ m.options.contains 'C' then cannot "File exists" else start m f
        | none =>
          if !isWrite then cannot "No such file"
          else if !m.hasParent path ∨ path.getLast? = some '/' then
            cannot (if m.hasParent path ∧ !m.passesFile path then "Is a directory"
              else "Directory nonexistent")
          else
            let m := m.setFile path []
            match m.file? path with
            | some f => start m f
            | none => cannot "Directory nonexistent"

/-! ## Variables -/

/-- The variable of a name. -/
def variableNamed? (m : Machine) (name : Text) : Option Variable :=
  m.settings.find? (·.name = name)

/-- The value of a variable, if it is set. -/
def value? (m : Machine) (name : Text) : Option Text :=
  (m.variableNamed? name).bind (·.value)

/-- Puts a variable in place of the one of its name. -/
def putVariable (m : Machine) (v : Variable) : Machine :=
  { m with settings := v :: m.settings.filter (·.name ≠ v.name) }

/-- Sets a variable, which keeps its marks. -/
def setVariable (m : Machine) (name value : Text) : Machine :=
  let marks := (m.variableNamed? name).getD ⟨name, none, false, false⟩
  let isExported := marks.isExported || m.options.contains 'a'
  let m := if name = "PATH".toList then { m with tracked := [] } else m
  m.putVariable { marks with value := some value, isExported }

/-- The variables that other programs are given. -/
def exported (m : Machine) : List Variable :=
  m.settings.filter fun v => v.isExported && v.value.isSome

/-! ## Complaints and status -/

/-- Ends a command with a status. -/
def withStatus (m : Machine) (status : Nat) : Machine :=
  { m with status }

/-- Writes a complaint. -/
def complain (m : Machine) (t : Text) : Machine :=
  m.write 2 (t ++ ['\n'])

/-- Writes a complaint of the shell itself, which tells the line and the command at hand. -/
def complainAsShell (m : Machine) (t : Text) : Machine :=
  let caller := (m.caller.map (· ++ ": ".toList)).getD []
  m.complain (m.name ++ ": ".toList ++ Text.ofNat m.line ++ ": ".toList ++ caller ++ t)

/-- Leaves the shell with a complaint. -/
def abort (m : Machine) (t : Text) : Machine :=
  { m.complainAsShell t with status := 2, flow := .exiting }

/-! ## Parts that run apart -/

/-- The shell that runs a part apart from the one at hand. -/
def forked (m : Machine) : Machine :=
  { m with
    traps := m.traps.filter (·.2 = [])
    outerTraps := some (m.outerTraps.getD m.traps)
    loops := 0 }

/-- The state in which a shell goes on after a part of it that ran apart, in the state `inner`: what
has been read and written stays, the rest is as it was. -/
def afterApart (m inner : Machine) : Machine :=
  { m with
    bodies := inner.bodies, files := inner.files, directories := inner.directories,
    links := inner.links, sources := inner.sources, status := inner.status,
    sent := if m.outerTraps.isSome then inner.sent else []
    pending := if m.outerTraps.isSome then m.pending else m.pending ++ inner.sent
    flow := if inner.flow = .killed then .killed else m.flow }

end Machine

end Postroom.Shell
