import Postroom.Shell.Utility.Rights

/-!
# Utilities on files

The utilities that make, move, copy, link and remove files and directories, and change the rights to
them.
-/

namespace Postroom.Shell.Utility

/-- The path is that of an operand with a directory in front, when the target is one. -/
def placeOf (m : Machine) (target source : Text) : Text :=
  if m.isDirectory target then
    (if target.getLast? = some '/' then target else target ++ ['/']) ++ Machine.lastStep source
  else target

/-- Complains that a path leads to nothing. -/
def missing (name : String) (status : Nat) (verb : String) (path : Text) : Action Unit := do
  let m ← get
  let why := if m.passesFile path then "Not a directory" else "No such file or directory"
  complain name status (verb.toList ++ ' ' :: Name.quoted path ++ ": ".toList ++ why.toList)

/-- Changes the file of a path. -/
def changeFile (m : Machine) (path : Text) (f : File → File) : Machine :=
  { m with files := m.files.map fun h => if h.path = path then f h else h }

/-- Makes sure that files exist. -/
def touch : Utility := fun arguments =>
  withOptions "touch" 1 "acmd:r:t:h" [("no-create", 'c'), ("date", 'd'), ("reference", 'r')]
    arguments fun g => do
    if g.operands.isEmpty then
      complain "touch" 1 "missing file operand".toList
      Action.change (·.complain "Try 'touch --help' for more information.".toList)
    for path in g.operands do
      let m ← get
      if m.doesExist path then pure ()
      else if m.hasParent path ∧ path.getLast? ≠ some '/' then
        if !g.has 'c' then set (m.setFile path [])
      else missing "touch" 1 "cannot touch" path

/-- All that lies in a directory or in those in it. -/
def isWithin (directory path : Text) : Bool :=
  (directory ++ ['/']).isPrefixOf path

/-- Removes a directory with all that is in it. -/
def removeTree (m : Machine) (path : Text) : Machine :=
  let p := m.locate path
  { m with
    files := m.files.filter fun f => !isWithin p f.path
    directories := m.directories.filter fun d => d.path ≠ p ∧ !isWithin p d.path
    links := m.links.filter fun l => !isWithin p l.path }

/-- Removes files and, with `-r`, directories. -/
def rm : Utility := fun arguments =>
  withOptions "rm" 1 "dfiIrRv" [("force", 'f'), ("recursive", 'r'), ("verbose", 'v'), ("dir", 'd')]
    arguments fun g => do
    let isForced := g.has 'f'
    if g.operands.isEmpty ∧ !isForced then
      complain "rm" 1 "missing operand".toList
      Action.change (·.complain "Try 'rm --help' for more information.".toList)
    for path in g.operands do
      let m ← get
      if (m.link? path).isSome ∨ (m.file? path).isSome then
        set (m.removeFile path)
        if g.has 'v' then writeLines ["removed ".toList ++ Name.quoted path]
      else if m.isDirectory path then
        if g.has 'r' ∨ g.has 'R' ∨ (g.has 'd' ∧ (m.entries path).isEmpty) then
          set (removeTree m path)
          if g.has 'v' then writeLines ["removed directory ".toList ++ Name.quoted path]
        else
          complain "rm" 1
            ("cannot remove ".toList ++ Name.quoted path ++ ": Is a directory".toList)
      else if !isForced then missing "rm" 1 "cannot remove" path

/-- Makes a directory with rights and, with `makesParents`, those on the way to it. -/
def makeDirectory (makesParents : Bool) (mode : Nat) (path : Text) : Action Unit := do
  let m ← get
  let cannot (why : String) : Action Unit :=
    complain "mkdir" 1
      ("cannot create directory ".toList ++ Name.marked path ++ ": ".toList ++ why.toList)
  if m.isDirectory path then if makesParents then pure () else cannot "File exists"
  else if m.doesExist path ∨ (m.link? path).isSome then cannot "File exists"
  else if makesParents then
    if m.passesFile path then cannot "Not a directory"
    else
      let all := (Machine.steps (m.locate path)).foldl
        (fun (done : Text × List Text) s =>
          (done.1 ++ '/' :: s, (done.1 ++ '/' :: s) :: done.2)) ([], [])
      set ((all.2.reverse.filter fun d => !m.isDirectory d).foldl
        (fun made d =>
          made.addDirectory d (if d = m.locate path then mode else m.maskedMode 511)) m)
  else if m.hasParent path then set (m.addDirectory path mode)
  else cannot (if m.passesFile path then "Not a directory" else "No such file or directory")

/-- Makes directories. -/
def mkdir : Utility := fun arguments =>
  withOptions "mkdir" 1 "m:pv" [("parents", 'p'), ("mode", 'm'), ("verbose", 'v')]
    arguments fun g => do
    let m ← get
    let hint : Action Unit :=
      Action.change (·.complain "Try 'mkdir --help' for more information.".toList)
    if g.operands.isEmpty then
      complain "mkdir" 1 "missing operand".toList
      hint
    let asked := (g.value? 'm').map (Rights.parse? m.mask)
    match asked with
    | some none =>
      complain "mkdir" 1 ("invalid mode ".toList ++ Name.marked ((g.value? 'm').getD []))
    | some (some cs) => g.operands.forM (makeDirectory (g.has 'p') (Rights.change true 511 cs))
    | none =>
      for path in g.operands do
        let isNew := !(← get).isDirectory path
        makeDirectory (g.has 'p') (m.maskedMode 511) path
        if g.has 'v' ∧ isNew ∧ (← get).isDirectory path then
          writeLines ["mkdir: created directory ".toList ++ Name.quoted path]

/-- Removes empty directories. -/
def rmdir : Utility := fun arguments =>
  withOptions "rmdir" 1 "pv" [("parents", 'p'), ("verbose", 'v')] arguments fun g => do
    for path in g.operands do
      let m ← get
      let cannot (why : String) : Action Unit :=
        complain "rmdir" 1
          ("failed to remove ".toList ++ Name.quoted path ++ ": ".toList ++ why.toList)
      if m.isDirectory path then
        if (m.entries path).isEmpty then set (removeTree m path)
        else cannot "Directory not empty"
      else if (m.file? path).isSome then cannot "Not a directory"
      else cannot "No such file or directory"

/-- Gives all that lies in a directory another place. -/
def moveTree (m : Machine) (old new : Text) : Machine :=
  let a := m.locate old
  let b := m.locate new
  let move (p : Text) : Text :=
    if p = a then b else if isWithin a p then b ++ p.drop a.length else p
  { m with
    files := m.files.map fun f => { f with path := move f.path }
    directories := m.directories.map fun d => { d with path := move d.path }
    links := m.links.map fun l => { l with path := move l.path } }

/-- Moves files and directories. -/
def mv : Utility := fun arguments =>
  withOptions "mv" 1 "finTt:uv" [("force", 'f'), ("no-clobber", 'n'), ("verbose", 'v')]
    arguments fun g => do
    let (sources, target) : List Text × Option Text :=
      match g.value? 't' with
      | some t => (g.operands, some t)
      | none => (g.operands.dropLast, g.operands.getLast?)
    match sources, target with
    | [], none =>
      complain "mv" 1 "missing file operand".toList
      Action.change (·.complain "Try 'mv --help' for more information.".toList)
    | [], some t =>
      complain "mv" 1 ("missing destination file operand after ".toList ++ Name.quoted t)
      Action.change (·.complain "Try 'mv --help' for more information.".toList)
    | _, none => pure ()
    | sources, some target =>
      if 1 < sources.length ∧ !(← get).isDirectory target then
        complain "mv" 1 ("target ".toList ++ Name.quoted target ++ ": ".toList
          ++ (if (← get).doesExist target then "Not a directory"
            else "No such file or directory").toList)
      else
        for source in sources do
          let m ← get
          let place := placeOf m target source
          let whole := Name.quoted source ++ " to ".toList ++ Name.quoted place
          if !m.doesExist source ∧ (m.link? source).isNone then
            missing "mv" 1 "cannot stat" source
          else if m.locateItself source = m.locateItself place then
            complain "mv" 1 (Name.quoted source ++ " and ".toList ++ Name.quoted place
              ++ " are the same file".toList)
          else if !m.hasParent place then
            complain "mv" 1 ("cannot move ".toList ++ whole ++ ": No such file or directory".toList)
          else if g.has 'n' ∧ m.doesExist place then pure ()
          else if let some l := m.link? source then
            let m := m.removeFile place
            let p := m.locateItself place
            set { m with links := m.links.map fun k => if k = l then { k with path := p } else k }
          else
            match m.file? source with
            | some f =>
              if m.isDirectory place then
                complain "mv" 1 ("cannot overwrite directory ".toList ++ Name.quoted place
                  ++ " with non-directory".toList)
              else
                let m := m.removeFile place
                let p := m.locate place
                set (changeFile m f.path fun h => { h with path := p })
                if g.has 'v' then
                  writeLines
                    ["renamed ".toList ++ Name.quoted source ++ " -> ".toList ++ Name.quoted place]
            | none => set (moveTree m source place)

/-- Copies a file. -/
def copyFile (m : Machine) (f : File) (place : Text) : Machine :=
  let isNew := (m.file? place).isNone
  changeFile (m.setFile place (m.contents f)) (m.locate place) fun h =>
    if isNew then { h with mode := m.maskedMode f.mode } else h

/-- Copies a directory with all that is in it. -/
def copyTree (m : Machine) (source place : Text) : Machine :=
  let a := m.locate source
  let b := m.locate place
  let made := b :: (m.directories.filter fun d => isWithin a d.path).map fun d =>
    b ++ d.path.drop a.length
  let m := (made.filter fun d => !m.isDirectory d).foldl
    (fun m d => m.addDirectory d (m.maskedMode 511)) m
  (m.files.filter fun f => isWithin a f.path).foldl
    (fun m f => copyFile m f (b ++ f.path.drop a.length)) m

/-- Copies files and, with `-r`, directories. -/
def cp : Utility := fun arguments =>
  withOptions "cp" 1 "abdfilLnpPrRst:Tuvx" [("force", 'f'), ("recursive", 'r'), ("archive", 'a'),
    ("no-clobber", 'n'), ("verbose", 'v')] arguments fun g => do
    let (sources, target) : List Text × Option Text :=
      match g.value? 't' with
      | some t => (g.operands, some t)
      | none => (g.operands.dropLast, g.operands.getLast?)
    match sources, target with
    | [], none =>
      complain "cp" 1 "missing file operand".toList
      Action.change (·.complain "Try 'cp --help' for more information.".toList)
    | [], some t =>
      complain "cp" 1 ("missing destination file operand after ".toList ++ Name.quoted t)
      Action.change (·.complain "Try 'cp --help' for more information.".toList)
    | _, none => pure ()
    | sources, some target =>
      if 1 < sources.length ∧ !(← get).isDirectory target then
        complain "cp" 1 ("target ".toList ++ Name.quoted target ++ ": ".toList
          ++ (if (← get).doesExist target then "Not a directory"
            else "No such file or directory").toList)
      else
        for source in sources do
          let m ← get
          let place := placeOf m target source
          if source = "/dev/stdin".toList then
            let (t, m) := m.readAll 0
            set m
            let _ ← output "cp" place t
          else if !m.doesExist source then missing "cp" 1 "cannot stat" source
          else if m.locate source = m.locate place then
            complain "cp" 1 (Name.quoted source ++ " and ".toList ++ Name.quoted place
              ++ " are the same file".toList)
          else if !m.hasParent place then
            complain "cp" 1 ((if m.isDirectory source then "cannot create directory " else
              "cannot create regular file ").toList ++ Name.quoted place
              ++ ": No such file or directory".toList)
          else if g.has 'n' ∧ m.doesExist place then pure ()
          else
            match m.file? source with
            | some f =>
              if m.isDirectory place then
                complain "cp" 1 ("cannot overwrite directory ".toList ++ Name.quoted place
                  ++ " with non-directory".toList)
              else if place = "/dev/stdout".toList then write (m.contents f)
              else set (copyFile m f place)
            | none =>
              if m.isDirectory source then
                if g.has 'r' ∨ g.has 'R' ∨ g.has 'a' then set (copyTree m source place)
                else
                  complain "cp" 1
                    ("-r not specified; omitting directory ".toList ++ Name.quoted source)
              else
                set (m.setFile place [])

/-- Puts a link at a place: a path that leads to another, or another name for a file. -/
def addLink (isSymbolic : Bool) (source place : Text) : Action Unit := do
  let m ← get
  let m := m.removeFile place
  if isSymbolic then set { m with links := m.links ++ [(⟨m.locateItself place, source⟩ : Link)] }
  else
    match m.file? source with
    | some f => set { m with files := m.files ++ [{ f with path := m.locateItself place }] }
    | none => pure ()

/-- Gives files other names: what is written by one of them is there by the other.  With `-s` the
other name is a path that leads to the first. -/
def ln : Utility := fun arguments =>
  withOptions "ln" 1 "fnrsTv" [("force", 'f'), ("symbolic", 's'), ("no-dereference", 'n'),
    ("verbose", 'v'), ("no-target-directory", 'T')] arguments fun g => do
    let isSymbolic := g.has 's'
    let (sources, target) : List Text × Text :=
      match g.operands with
      | [source] => ([source], ['.'])
      | ts => (ts.dropLast, ts.getLastD [])
    if sources.isEmpty then
      complain "ln" 1 "missing file operand".toList
      Action.change (·.complain "Try 'ln --help' for more information.".toList)
    else if 1 < sources.length ∧ !(← get).isDirectory target then
      complain "ln" 1 ("target ".toList ++ Name.quoted target ++ ": ".toList
        ++ (if (← get).doesExist target then "Not a directory"
          else "No such file or directory").toList)
    else
      for source in sources do
        let m ← get
        let isKept : Bool := g.has 'T' ∨ (g.has 'n' ∧ (m.link? target).isSome)
        let place := if isKept then target else placeOf m target source
        let kind := if isSymbolic then "symbolic".toList else "hard".toList
        let cannot (why : String) : Action Unit :=
          let goal :=
            if isSymbolic ∨ why = "File exists" then [] else " => ".toList ++ Name.quoted source
          complain "ln" 1 ("failed to create ".toList ++ kind ++ " link ".toList
            ++ Name.quoted place ++ goal ++ ": ".toList ++ why.toList)
        if !isSymbolic ∧ m.isDirectory source then
          complain "ln" 1 (source ++ ": hard link not allowed for directory".toList)
        else if !isSymbolic ∧ (m.file? source).isNone then
          missing "ln" 1 "failed to access" source
        else if (m.doesExist place ∨ (m.link? place).isSome) ∧ !g.has 'f' then cannot "File exists"
        else if !m.hasParent (m.locateItself place) then cannot "No such file or directory"
        else
          addLink isSymbolic source place
          if g.has 'v' then
            writeLines [Name.quoted place ++ (if isSymbolic then " -> " else " => ").toList
              ++ Name.quoted source]

/-- Gives a file another name as well. -/
def link : Utility := fun arguments =>
  withOptions "link" 1 "" [] arguments fun g => do
    let hint : Action Unit :=
      Action.change (·.complain "Try 'link --help' for more information.".toList)
    match g.operands with
    | [] =>
      complain "link" 1 "missing operand".toList
      hint
    | [a] =>
      complain "link" 1 ("missing operand after ".toList ++ Name.marked a)
      hint
    | _ :: _ :: c :: _ =>
      complain "link" 1 ("extra operand ".toList ++ Name.marked c)
      hint
    | [a, b] =>
      let m ← get
      let cannot (why : String) : Action Unit :=
        complain "link" 1 ("cannot create link ".toList ++ Name.quoted b ++ " to ".toList
          ++ Name.quoted a ++ ": ".toList ++ why.toList)
      if (m.file? a).isNone then cannot "No such file or directory"
      else if m.doesExist b then cannot "File exists"
      else if !m.hasParent b then cannot "No such file or directory"
      else addLink false a b

/-- Copies files, or makes directories with `-d`, with the rights of programs. -/
def install : Utility := fun arguments =>
  withOptions "install" 1 "bcCdDg:m:o:pst:Tv" [("directory", 'd'), ("mode", 'm')]
    arguments fun g => do
    let m ← get
    let hint : Action Unit :=
      Action.change (·.complain "Try 'install --help' for more information.".toList)
    match Rights.parse? 0 ((g.value? 'm').getD "755".toList) with
    | none => complain "install" 1 ("invalid mode ".toList ++ Name.marked ((g.value? 'm').getD []))
    | some cs =>
      let mode := Rights.change false 0 cs
      let (sources, target) : List Text × Option Text :=
        match g.value? 't' with
        | some t => (g.operands, some t)
        | none => (g.operands.dropLast, g.operands.getLast?)
      if g.has 'd' then g.operands.forM (makeDirectory true mode)
      else
        match sources, target with
        | [], none =>
          complain "install" 1 "missing file operand".toList
          hint
        | [], some t =>
          complain "install" 1 ("missing destination file operand after ".toList ++ Name.quoted t)
          hint
        | _, none => pure ()
        | sources, some target =>
          if g.has 'D' then
            let parent := if (g.value? 't').isSome then m.locate target
              else Machine.parentOf (m.locate target)
            makeDirectory true 493 parent
          for source in sources do
            let m ← get
            let place := placeOf m target source
            let read ← input? source fun _ => missing "install" 1 "cannot stat" source
            match read with
            | none => pure ()
            | some t =>
              let m ← get
              if m.isDirectory place ∨ !m.hasParent place then
                complain "install" 1 ("cannot create regular file ".toList ++ Name.quoted place
                  ++ ": No such file or directory".toList)
              else
                let m := (m.removeFile place).setFile place t
                set (changeFile m (m.locate place) fun f => { f with mode })

/-- Changes the rights to files. -/
def chmod : Utility := fun arguments =>
  let isMode (t : Text) : Bool := (Rights.parse? 0 t).isSome
  let isOption (t : Text) : Bool := t.head? = some '-' ∧ !isMode t
  match arguments.filter fun t => !isOption t with
  | mode :: paths => do
    leave 0
    let hint : Action Unit :=
      Action.change (·.complain "Try 'chmod --help' for more information.".toList)
    match Rights.parse? (← get).mask mode with
    | none =>
      complain "chmod" 1 ("invalid mode: ".toList ++ Name.marked mode)
      hint
    | some cs =>
      if paths.isEmpty then
        complain "chmod" 1 ("missing operand after ".toList ++ Name.marked mode)
        hint
      let descends : Bool := arguments.any fun t =>
        isOption t ∧ (t.contains 'R' ∨ t = "--recursive".toList)
      for path in paths do
        let m ← get
        let p := m.locate path
        let takes (q : Text) : Bool := q = p ∨ (descends ∧ isWithin p q)
        if !m.doesExist path then missing "chmod" 1 "cannot access" path
        else
          let changeFile (f : File) : File :=
            if takes f.path then { f with mode := Rights.change false f.mode cs } else f
          let changeDirectory (d : Directory) : Directory :=
            if takes d.path then { d with mode := Rights.change true d.mode cs } else d
          Action.change fun m =>
            { m with
              files := m.files.map changeFile, directories := m.directories.map changeDirectory }
  | [] => do
    complain "chmod" 1 "missing operand".toList
    Action.change (·.complain "Try 'chmod --help' for more information.".toList)

/-- Makes an empty file or directory of a new name, and writes its path. -/
def mktemp : Utility := fun arguments =>
  withOptions "mktemp" 1 "dp:qtu" [("directory", 'd'), ("tmpdir", 'p')] arguments fun g => do
    let m ← get
    let form := (g.operands.head?).getD "/tmp/tmp.XXXXXXXXXX".toList
    let form := match g.value? 'p' with
      | some d => if form.contains '/' then form else d ++ '/' :: form
      | none => form
    let stem := (form.reverse.dropWhile (· = 'X')).reverse
    let digits := Text.ofNat (m.bodies.size + m.directories.length)
    let path := stem ++ List.replicate (form.length - stem.length - digits.length) '0' ++ digits
    if g.has 'd' then makeDirectory false 448 path
    else
      let m := m.setFile path []
      set (changeFile m (m.locate path) fun f => { f with mode := 384 })
    writeLines [path]

end Postroom.Shell.Utility
