import GuestBridge.Guest.Library

/-!
# Loading modules

A module is looked up among the loaded ones; if it is not there, the package that it belongs to is
loaded first, and then its file is looked for, compiled and run. A module whose code fails is taken
out again.
-/

namespace GuestBridge.Guest

section
variable [Ops]

/-- Raises the error for a module that cannot be found. -/
def noModule {α : Type} (name : String) (why : String) : Exec α := do
  let shown := (Text.ofString name).quoted
  let r ← newError .moduleNotFoundError
    [← newText ("No module named " ++ shown ++ Text.ofString why)]
  putSlot r "name" (← newStr name)
  raiseRef r

/-- What `sys` says that the loaded modules are. -/
def registry : Exec Ref := do getAttr (← get).system "modules"

/-- The module of a name among those that `sys` knows. -/
def registered? (name : String) : Exec (Option Ref) := do
  let modules ← registry
  if (← classOf modules) == .builtin .dict then getName modules name
  else
    let unknown ← alloc (.of .object .plain)
    let found ← Ops.call (← getAttr modules "get") (.of [← newStr name, unknown])
    return if found == unknown then none else some found

/-- Whether `sys` knows a module of a name. -/
def isRegistered (name : String) : Exec Bool := do contains (← registry) (← newStr name)

/-- The module of a name that `sys` has to know. -/
def registered (name : String) : Exec Ref := do getItem (← registry) (← newStr name)

/-- Makes a module known by a name. -/
def register (name : String) (m : Ref) : Exec Unit := do
  setItem (← registry) (← newStr name) m

/-- Takes a module out of those that are known. -/
def unregister (name : String) : Exec Unit := do
  let taken : Exec Unit := do deleteItem (← registry) (← newStr name)
  recover taken .keyError fun _ => return ()

/-- Raises the error for a module that is marked as one not to be loaded. -/
def importHalted {α : Type} (name : String) : Exec α := do
  let r ← newError .moduleNotFoundError
    [← newStr ("import of " ++ name ++ " halted; None in sys.modules")]
  putSlot r "name" (← newStr name)
  raiseRef r

/-- The package that a module belongs to, and its own name; no package for a top-level module. -/
def splitModule (name : String) : String × String :=
  let parts := name.splitOn "."
  (".".intercalate parts.dropLast, parts.getLast?.getD name)

/-- The text of a file that modules can be loaded from. -/
def fileText? (path : String) : Exec (Option String) := do
  return (← get).files.lookup path

/-- The directories that the elements of a list name. -/
def directories (r : Ref) : Exec (List String) := do
  (← elements r).filterMapM fun d => do
    return (← text? d).map Text.lossy

/-- A module that was found. -/
inductive Located
  | library (l : Library)
  | file (path text : String) (isPackage : Bool)
  /-- Directories of the name without a file that makes them a package. -/
  | directories (paths : List String)

/-- Whether there are files under a directory. -/
def isDirectory (path : String) : Exec Bool := do
  return (← get).files.any fun (file, _) => file.startsWith (path ++ "/")

/-- Looks for a module in directories, the first one first; `bare` are the directories of its name
seen so far. -/
def findIn? (name tail : String) (bare : List String) : List String → Exec (Option Located)
  | [] => return if bare.isEmpty then none else some (.directories bare)
  | d :: ds => do
    let path := d ++ "/" ++ tail
    match ← fileText? (path ++ "/__init__.py") with
    | some t => return some (.file (path ++ "/__init__.py") t true)
    | none =>
      match ← fileText? (path ++ ".py") with
      | some t => return some (.file (path ++ ".py") t false)
      | none =>
        match (library? name).filter fun l => !l.isInternal &&
            (l.origin == path ++ ".py" || l.origin == path ++ "/__init__.py") with
        | some l => return some (.library l)
        | none => findIn? name tail (if ← isDirectory path then bare ++ [path] else bare) ds

/-- Marks a module as one whose code is still running, or no longer. -/
def markStarting (dict : Ref) (starting : Bool) : Exec Unit := do
  match ← getName dict "__spec__" with
  | some spec =>
    if isNone spec then return ()
    else
      recover (setAttr spec "_initializing" (boolRef starting)) .attributeError fun _ => return ()
  | none => return ()

/-- Runs the code of a module that is already among the loaded ones, and takes it out if that
fails. -/
def runModule (name path source : String) (m : Ref) : Exec Ref := do
  let d ← moduleDict m
  register name m
  markStarting d true
  let body : Exec Unit := do
    let unit ← loadCode .statements path source
    ensureBuiltins d
    discard <| runUnit unit d d
  tryCatch body fun e => do
    unregister name
    markStarting d false
    throw e
  -- a module that has replaced itself is what has been loaded; it is known as the latest
  let loaded : Exec Ref := do
    let m ← registered name
    unregister name
    register name m
    return m
  tryCatch (do
    let m ← loaded
    markStarting d false
    return m) fun e => do
    markStarting d false
    throw e

/-- Loads what was found. -/
def loadLocated (name : String) : Located → Exec Ref
  | .library l => do
    let m ← newLibrary l
    register name m
    return m
  | .file path source isPackage => do
    let m ← newModule name path true isPackage []
    runModule name path source m
  | .directories paths => do
    let m ← newModule name "namespace" false false
      [("__path__", ← newList (← paths.mapM newStr)), ("__package__", ← newStr name)]
    register name m
    return m

/-- Loads a module that belongs to no package; its file is named by `tail`. -/
def loadTopLevel (name tail : String) : Exec Ref := do
  let m ← get
  if name == "sys" then
    register name m.system
    return m.system
  match (library? name).filter (·.isInternal) with
  | some l => loadLocated name (.library l)
  | none =>
    let paths ← directories (← getAttr m.system "path")
    match ← findIn? name tail [] paths with
    | some l => loadLocated name l
    | none => noModule name ""

/-- Loads a module of a package that is known. -/
def loadSubmodule (name package tail : String) : Exec Ref := do
  match ← getAttr? (← registered package) "__path__" with
  | none =>
    noModule name ("; " ++ (Text.ofString package).quoted.lossy ++ " is not a package")
  | some path =>
    let m ← match ← findIn? name tail [] (← directories path) with
      | some l => loadLocated name l
      | none =>
        match (library? name).filter (·.isInternal) with
        | some l => loadLocated name (.library l)
        | none => noModule name ""
    let parent ← registered package
    recover (setAttr parent tail m) .attributeError fun _ => return ()
    return m

/-- Finds and loads a module and the packages that it belongs to. `fuel` bounds their number. -/
def findAndLoad : (fuel : Nat) → String → Exec Ref
  | 0, name => noModule name ""
  | fuel + 1, name => do
    match ← registered? name with
    | some m => if isNone m then importHalted name else return m
    | none =>
      let (package, tail) := splitModule name
      if package.isEmpty then loadTopLevel name tail
      else
        unless ← isRegistered package do discard <| findAndLoad fuel package
        if ← isRegistered name then registered name else loadSubmodule name package tail

/-- Loads a module by its full name, unless it is loaded. -/
def importPath (name : String) : Exec Ref := do
  if name.isEmpty then valueError "Empty module name"
  match (← getName (← get).modules name).filter (!isNone ·) with
  | some m => return m
  | none => findAndLoad (name.length + 1) name

/-! ### Import statements -/

/-- The package in which the code of a module's dictionary stands. -/
def packageOf (globals : Ref) : Exec String := do
  let noParent : Exec String :=
    raiseError .importError "attempted relative import with no known parent package"
  let present (id : String) : Exec (Option Ref) := do
    return (← getName globals id).filter (!isNone ·)
  let package ← match ← present "__package__", ← present "__spec__" with
    | some p, _ =>
      match ← text? p with
      | some t => pure t.lossy
      | none => typeError "package must be a string"
    | none, some spec =>
      match ← text? (← getAttr spec "parent") with
      | some t => pure t.lossy
      | none => typeError "__spec__.parent must be a string"
    | none, none =>
      match ← getName globals "__name__" with
      | none => raiseError .keyError "'__name__' not in globals"
      | some n =>
        match ← text? n with
        | none => typeError "__name__ must be a string"
        | some t =>
          if (← getName globals "__path__").isSome then pure t.lossy
          else pure (splitModule t.lossy).1
  if package.isEmpty then noParent else return package

/-- The package so many packages above another, itself being the first. -/
def packageAbove (package : String) : (level : Nat) → Exec String
  | 0 | 1 => return package
  | level + 1 => do
    let (above, _) := splitModule package
    if above.isEmpty then
      raiseError .importError "attempted relative import beyond top-level package"
    packageAbove above level

/-- The full name of a module that is named from a package; `level` is the number of dots. -/
def absoluteName (globals : Option Ref) (name : String) (level : Nat) : Exec String := do
  if level == 0 then
    if name.isEmpty then valueError "Empty module name"
    return name
  match globals with
  | none => raiseError .keyError "'__name__' not in globals"
  | some g =>
    unless ← isDict g do typeError "globals must be a dict"
    let base ← packageAbove (← packageOf g) level
    return if name.isEmpty then base else base ++ "." ++ name

/-- A module of a package that a `from` import names; what is no module is left alone. -/
def importPart (full : String) : Exec Unit := do
  tryCatch (discard <| importPath full) fun e => do
    let missing ← isError e.value .moduleNotFoundError
    let about ← errorAttr e.value "name"
    let here ← registered? full
    if missing && (← text? about).map Text.lossy == some full && here != some noneRef then
      return ()
    else throw e

/-- What a module calls itself. -/
def ownName (m : Ref) : Exec String := do
  return ((← text? (← getAttr m "__name__")).map Text.lossy).getD ""

/-- Loads the modules of a package among names; `place` says where these stand. -/
def importParts (m : Ref) (place : String) (names : List Ref) : Exec Unit := do
  for n in names do
    match ← text? n with
    | none =>
      typeError ("Item in " ++ place ++ " must be str, not " ++ (← (← classOf n).shortName))
    | some t =>
      if t.lossy != "*" then
        if (← getAttr? m t.lossy).isNone then importPart ((← ownName m) ++ "." ++ t.lossy)

/-- Loads the modules of a package that a `from` import asks for; a star stands for the names that
the package lists. -/
def importAsked (m : Ref) (names : List Ref) : Exec Unit := do
  importParts m "\x60\x60from list''" names
  let starred ← names.anyM fun n => do return (← text? n) == some (Text.ofString "*")
  if starred then
    match ← getAttr? m "__all__" with
    | some all => importParts m ((← ownName m) ++ ".__all__") (← elements all)
    | none => return ()

/-- What an import gives: the module if names are asked of it, or else the outermost package. -/
def importModule (name : String) (globals : Option Ref) (names : List Ref) (level : Nat) :
    Exec Ref := do
  let full ← absoluteName globals name level
  let m ← importPath full
  if !names.isEmpty then
    if (← getAttr? m "__path__").isSome then importAsked m names
    return m
  else if name.isEmpty || !name.contains '.' then return m
  else
    let top := String.ofList (name.toList.takeWhile (· != '.'))
    if level == 0 then importPath top
    else
      let outer := String.ofList (full.toList.take (full.length - (name.length - top.length)))
      match ← getName (← get).modules outer with
      | some v => return v
      | none =>
        raiseError .keyError ((Text.ofString outer).quoted.lossy ++
          " not in sys.modules as expected")

/-- The file that a module says that it comes from. -/
def moduleFile? (m : Ref) : Exec (Option Text) := do
  match ← dataOf m with
  | .module d =>
    match ← getName d "__file__" with
    | some f => text? f
    | none => return none
  | _ => return none

/-- A name that a `from` import takes out of a module: an attribute, or a loaded module of the
package. -/
def importFrom (m : Ref) (id : String) : Exec Ref := do
  match ← getAttr? m id with
  | some v => return v
  | none =>
    let own ← match ← getAttr? m "__name__" with
      | some n => text? n
      | none => pure none
    let found ← match own with
      | some n => getName (← get).modules (n.lossy ++ "." ++ id)
      | none => pure none
    match found with
    | some v => return v
    | none =>
      let name := own.getD (Text.ofString "<unknown module name>")
      let file ← moduleFile? m
      let starting ← if file.isSome then isStarting (← moduleDict m) else pure false
      let r ← newError .importError [← newText (Text.ofString "cannot import name " ++
        (Text.ofString id).quoted ++ " from " ++
        (if starting then "partially initialized module " else "") ++ name.quoted ++
        (if starting then " (most likely due to a circular import)" else "") ++ " (" ++
        file.getD "unknown location" ++ ")")]
      match own with
      | some n => putSlot r "name" (← newText n)
      | none => pure ()
      match file with
      | some f => putSlot r "path" (← newText f)
      | none => pure ()
      raiseRef r

/-- The names that a `from` import of everything takes out of a module. -/
def exportedNames (m : Ref) : Exec (List String) := do
  let (names, hidden) ← match ← getAttr? m "__all__" with
    | some all => do pure (← elements all, false)
    | none =>
      match ← getAttr? m "__dict__" with
      | none =>
        raiseError .importError "from-import-* object has no __dict__ and no __all__"
      | some d => do pure ((← entriesOf d).map (·.key), true)
  let ids ← names.mapM fun n => do
    match ← text? n with
    | some t => return t.lossy
    | none =>
      let owner ← ownName m
      typeError ((if hidden then "Key in " else "Item in ") ++ owner ++
        (if hidden then ".__dict__" else ".__all__") ++ " must be str, not " ++ (← typeNameOf n))
  return if hidden then ids.filter fun id => !id.startsWith "_" else ids

end

end GuestBridge.Guest
