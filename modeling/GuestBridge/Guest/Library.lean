import GuestBridge.Guest.Running
import GuestBridge.Guest.Reach

/-!
# The built-in library

The modules that the guest language comes with, as far as scripts use them: where each says it comes
from, its functions and its types. Modules that come from the library's directory are found there
like files; the others are found before any file.
-/

namespace GuestBridge.Guest

/-- A module of the library. -/
structure Library where
  name : String
  /-- Where it comes from: a word for a module without a file, or the file's path. -/
  origin : String
  isPackage : Bool
  functions : List String
  kinds : List (String × Kind)

/-- The directory of the library. -/
def libraryPath : String := "/usr/lib/python3.11"

/-- Functions that every script sees. -/
def globalFunctions : List String := Kind.names <|
  "abs all any ascii bin callable chr compile delattr dir divmod eval exec format getattr " ++
  "globals hasattr hash hex id input isinstance issubclass iter len locals max min next oct " ++
  "open ord pow print repr round setattr sorted sum vars __import__ __build_class__"

/-- The modules of the library. -/
def libraries : List Library :=
  let file (name path : String) (isPackage : Bool) (functions : List String)
      (kinds : List (String × Kind)) : Library :=
    ⟨name, libraryPath ++ "/" ++ path, isPackage, functions, kinds⟩
  [⟨"math", "built-in", false,
     Kind.names <|
       "sqrt factorial floor ceil pow exp log fabs gcd isnan isinf isfinite trunc acos asin " ++
       "atan atan2 cbrt comb copysign cos cosh degrees exp2 fmod hypot isclose isqrt lcm ldexp " ++
       "log10 log2 modf perm prod radians sin sinh tan tanh", []⟩,
   ⟨"io", "frozen", false, [],
     [("StringIO", .textBuffer), ("TextIOWrapper", .textStream),
      ("UnsupportedOperation", .error .unsupportedOperation)]⟩,
   ⟨"os", "frozen", false, [], []⟩,
   ⟨"posixpath", "frozen", false,
     Kind.names "join split splitext basename dirname isabs", []⟩,
   file "types" "types.py" false []
     [("SimpleNamespace", .simpleNamespace), ("MappingProxyType", .mappingProxy),
      ("ModuleType", .module), ("FunctionType", .function), ("LambdaType", .function),
      ("MethodType", .method), ("GeneratorType", .generator), ("CodeType", .code),
      ("BuiltinFunctionType", .builtinFunction), ("BuiltinMethodType", .builtinFunction),
      ("TracebackType", .traceback), ("NoneType", .noneType), ("EllipsisType", .ellipsis),
      ("NotImplementedType", .notImplementedType), ("UnionType", .unionType),
      ("GenericAlias", .genericAlias), ("CellType", .cell)],
   file "collections" "collections/__init__.py" true []
     [("defaultdict", .defaultDict), ("OrderedDict", .orderedDict), ("deque", .deque)],
   file "weakref" "weakref.py" false []
     [("ref", .weakReference), ("ReferenceType", .weakReference)],
   file "json" "json/__init__.py" true ["dumps"] [],
   file "xml" "xml/__init__.py" true [] [],
   file "xml.etree" "xml/etree/__init__.py" true [] [],
   file "xml.etree.ElementTree" "xml/etree/ElementTree.py" false [] []]

/-- Whether a module has no file and is found before any file. -/
def Library.isInternal (l : Library) : Bool := !l.origin.startsWith "/"

/-- The module of the library with the given name. -/
def library? (name : String) : Option Library := libraries.find? (·.name == name)

/-- What a module knows about where it comes from. -/
def newSpec (name origin : String) (hasLocation : Bool) : Exec Ref := do
  alloc { Object.of .simpleNamespace .plain with attrs := [("name", ← newStr name),
    ("origin", ← newStr origin), ("has_location", boolRef hasLocation)] }

/-- The directory of a path. -/
def dirName (path : String) : String := "/".intercalate (path.splitOn "/").dropLast

/-- A new module with the given names besides the usual ones. -/
def newModule (name origin : String) (hasFile isPackage : Bool) (names : List (String × Ref)) :
    Exec Ref := do
  let spec ← newSpec name origin hasFile
  let package := if isPackage then name else ".".intercalate (name.splitOn ".").dropLast
  let usual := [("__name__", ← newStr name), ("__doc__", noneRef),
    ("__package__", ← newStr package), ("__loader__", spec), ("__spec__", spec)]
  let path ← if isPackage then do
      pure [("__path__", ← newList [← newStr (dirName origin)])]
    else pure []
  let file ← if hasFile then do pure [("__file__", ← newStr origin)] else pure []
  let d ← newNameDict (usual ++ path ++ file ++ names)
  alloc (.of .module (.module d))

/-- The objects of functions of a module. -/
def functionObjects (module : String) (written : Bool) (ids : List String) :
    Exec (List (String × Ref)) :=
  ids.mapM fun id => do
    let k := if written then Kind.function else .builtinFunction
    return (id, ← alloc (.of k (.builtin module id)))

/-- A new module of the library. -/
def newLibrary (l : Library) : Exec Ref := do
  let fs ← functionObjects l.name (l.origin != "built-in") l.functions
  let ks := l.kinds.map fun (id, k) => (id, k.ref)
  let constants ← if l.name == "math" then do
      pure [("pi", ← newFloat 0x400921FB54442D18), ("e", ← newFloat 0x4005BF0A8B145769),
        ("tau", ← newFloat 0x401921FB54442D18),
        ("inf", ← newFloat Number.binary64.infinity),
        ("nan", ← newFloat Number.binary64.notANumber)]
    else if l.name == "os" || l.name == "posixpath" then
      [("sep", "/"), ("curdir", "."), ("pardir", ".."), ("extsep", "."), ("pathsep", ":"),
        ("devnull", "/dev/null")].mapM fun (id, text) => do return (id, ← newStr text)
    else pure []
  newModule l.name l.origin (!l.isInternal) l.isPackage (fs ++ ks ++ constants)

/-- The dictionary of a module. -/
def moduleDict (r : Ref) : Exec Ref := do
  match ← dataOf r with
  | .module d => return d
  | _ => newDict

/-- The state before any script has run: the built-in types and objects, and the modules `sys` and
`builtins`. `paths` are the directories that modules are looked for in, `files` what stands
there. -/
def startMachine (paths : List String) (files : List (String × String)) : Exec Unit := do
  set { (default : Machine) with heap := firstObjects.toArray, settling := true, files }
  let modules ← newDict
  modify fun m => { m with modules }
  let fs ← functionObjects "builtins" false globalFunctions
  let ks := (Kind.all.filter Kind.isGlobal).map fun k => (k.name, k.ref)
  let aliases := [("IOError", (Kind.error .osError).ref),
    ("EnvironmentError", (Kind.error .osError).ref)]
  let constants := [("None", noneRef), ("True", trueRef), ("False", falseRef),
    ("Ellipsis", ellipsisRef), ("NotImplemented", notImplementedRef), ("__debug__", trueRef)]
  let builtins ← newModule "builtins" "built-in" false false (fs ++ ks ++ aliases ++ constants)
  let dict ← moduleDict builtins
  modify fun m => { m with builtins := dict }
  let stream (name : String) : Exec Ref := alloc (.of .textStream (.stream name))
  let out ← alloc (.of .textBuffer (.textBuffer .empty 0))
  let sysFunctions ← functionObjects "sys" false ["exit", "getrefcount", "exc_info",
    "intern", "getrecursionlimit", "getdefaultencoding", "exception"]
  let sys ← newModule "sys" "built-in" false false <|
    [("path", ← newList (← paths.mapM newStr)), ("modules", modules), ("stdout", out),
     ("stderr", ← stream "<stderr>"), ("stdin", ← stream "<stdin>"),
     ("__stdout__", ← stream "<stdout>"), ("__stderr__", ← stream "<stderr>"),
     ("__stdin__", ← stream "<stdin>"), ("argv", ← newList [emptyStrRef]),
     ("maxsize", ← newInt maxSize), ("byteorder", ← newStr "little"),
     ("platform", ← newStr "linux"), ("version", ← newStr "3.11.2")] ++ sysFunctions
  modify fun m => { m with system := sys }
  putName modules "sys" sys
  putName modules "builtins" builtins
  let main ← newModule "__main__" "built-in" false false
    [("__annotations__", ← newDict), ("__builtins__", builtins)]
  putName modules "__main__" main
  -- what starting up has loaded already
  match library? "os", library? "posixpath" with
  | some os, some path =>
    let path ← newLibrary path
    let os ← newLibrary os
    putName (← moduleDict os) "path" path
    for (id, m) in [("os", os), ("os.path", path), ("posixpath", path)] do putName modules id m
  | _, _ => return ()

end GuestBridge.Guest
