/-!
# Built-in types of the guest

The types that the guest language comes with. Each has a name, a full name that error messages use,
a module and a base; the bases make them a tree below `object`.
-/

namespace GuestBridge.Guest

/-- The built-in exception types. -/
inductive ErrorKind
  | baseException | exception | arithmeticError | assertionError | attributeError | bufferError
  | eofError | floatingPointError | generatorExit | importError | moduleNotFoundError | indexError
  | keyError | keyboardInterrupt | lookupError | memoryError | nameError | unboundLocalError
  | notImplementedError | osError | blockingIOError | childProcessError | connectionError
  | brokenPipeError | connectionAbortedError | connectionRefusedError | connectionResetError
  | fileExistsError | fileNotFoundError | interruptedError | isADirectoryError
  | notADirectoryError | permissionError | processLookupError | timeoutError | overflowError
  | recursionError | referenceError | runtimeError | stopAsyncIteration | stopIteration
  | syntaxError | indentationError | tabError | systemError | systemExit | typeError
  | unicodeError | unicodeDecodeError | unicodeEncodeError | unicodeTranslateError | valueError
  | zeroDivisionError | warning | bytesWarning | deprecationWarning | encodingWarning
  | futureWarning | importWarning | pendingDeprecationWarning | resourceWarning
  | runtimeWarning | syntaxWarning | unicodeWarning | userWarning | unsupportedOperation
  deriving DecidableEq, Repr, Inhabited

namespace ErrorKind

/-- The name of an exception type. -/
def name : ErrorKind → String
  | baseException => "BaseException"
  | exception => "Exception"
  | arithmeticError => "ArithmeticError"
  | assertionError => "AssertionError"
  | attributeError => "AttributeError"
  | bufferError => "BufferError"
  | eofError => "EOFError"
  | floatingPointError => "FloatingPointError"
  | generatorExit => "GeneratorExit"
  | importError => "ImportError"
  | moduleNotFoundError => "ModuleNotFoundError"
  | indexError => "IndexError"
  | keyError => "KeyError"
  | keyboardInterrupt => "KeyboardInterrupt"
  | lookupError => "LookupError"
  | memoryError => "MemoryError"
  | nameError => "NameError"
  | unboundLocalError => "UnboundLocalError"
  | notImplementedError => "NotImplementedError"
  | osError => "OSError"
  | blockingIOError => "BlockingIOError"
  | childProcessError => "ChildProcessError"
  | connectionError => "ConnectionError"
  | brokenPipeError => "BrokenPipeError"
  | connectionAbortedError => "ConnectionAbortedError"
  | connectionRefusedError => "ConnectionRefusedError"
  | connectionResetError => "ConnectionResetError"
  | fileExistsError => "FileExistsError"
  | fileNotFoundError => "FileNotFoundError"
  | interruptedError => "InterruptedError"
  | isADirectoryError => "IsADirectoryError"
  | notADirectoryError => "NotADirectoryError"
  | permissionError => "PermissionError"
  | processLookupError => "ProcessLookupError"
  | timeoutError => "TimeoutError"
  | overflowError => "OverflowError"
  | recursionError => "RecursionError"
  | referenceError => "ReferenceError"
  | runtimeError => "RuntimeError"
  | stopAsyncIteration => "StopAsyncIteration"
  | stopIteration => "StopIteration"
  | syntaxError => "SyntaxError"
  | indentationError => "IndentationError"
  | tabError => "TabError"
  | systemError => "SystemError"
  | systemExit => "SystemExit"
  | typeError => "TypeError"
  | unicodeError => "UnicodeError"
  | unicodeDecodeError => "UnicodeDecodeError"
  | unicodeEncodeError => "UnicodeEncodeError"
  | unicodeTranslateError => "UnicodeTranslateError"
  | valueError => "ValueError"
  | zeroDivisionError => "ZeroDivisionError"
  | warning => "Warning"
  | bytesWarning => "BytesWarning"
  | deprecationWarning => "DeprecationWarning"
  | encodingWarning => "EncodingWarning"
  | futureWarning => "FutureWarning"
  | importWarning => "ImportWarning"
  | pendingDeprecationWarning => "PendingDeprecationWarning"
  | resourceWarning => "ResourceWarning"
  | runtimeWarning => "RuntimeWarning"
  | syntaxWarning => "SyntaxWarning"
  | unicodeWarning => "UnicodeWarning"
  | userWarning => "UserWarning"
  | unsupportedOperation => "io.UnsupportedOperation"

/-- The exception type that an exception type extends; `none` for the root. -/
def parent : ErrorKind → Option ErrorKind
  | baseException => none
  | exception | generatorExit | keyboardInterrupt | systemExit => some baseException
  | floatingPointError | overflowError | zeroDivisionError => some arithmeticError
  | moduleNotFoundError => some importError
  | indexError | keyError => some lookupError
  | unboundLocalError => some nameError
  | notImplementedError | recursionError => some runtimeError
  | blockingIOError | childProcessError | connectionError | fileExistsError | fileNotFoundError
  | interruptedError | isADirectoryError | notADirectoryError | permissionError
  | processLookupError | timeoutError | unsupportedOperation => some osError
  | brokenPipeError | connectionAbortedError | connectionRefusedError
  | connectionResetError => some connectionError
  | indentationError => some syntaxError
  | tabError => some indentationError
  | unicodeError => some valueError
  | unicodeDecodeError | unicodeEncodeError | unicodeTranslateError => some unicodeError
  | bytesWarning | deprecationWarning | encodingWarning | futureWarning | importWarning
  | pendingDeprecationWarning | resourceWarning | runtimeWarning | syntaxWarning
  | unicodeWarning | userWarning => some warning
  | _ => some exception

/-- All exception types. -/
def all : List ErrorKind :=
  [baseException, exception, arithmeticError, assertionError, attributeError, bufferError,
   eofError, floatingPointError, generatorExit, importError, moduleNotFoundError, indexError,
   keyError, keyboardInterrupt, lookupError, memoryError, nameError, unboundLocalError,
   notImplementedError, osError, blockingIOError, childProcessError, connectionError,
   brokenPipeError, connectionAbortedError, connectionRefusedError, connectionResetError,
   fileExistsError, fileNotFoundError, interruptedError, isADirectoryError, notADirectoryError,
   permissionError, processLookupError, timeoutError, overflowError, recursionError,
   referenceError, runtimeError, stopAsyncIteration, stopIteration, syntaxError,
   indentationError, tabError, systemError, systemExit, typeError, unicodeError,
   unicodeDecodeError, unicodeEncodeError, unicodeTranslateError, valueError,
   zeroDivisionError, warning, bytesWarning, deprecationWarning, encodingWarning,
   futureWarning, importWarning, pendingDeprecationWarning, resourceWarning, runtimeWarning,
   syntaxWarning, unicodeWarning, userWarning, unsupportedOperation]

/-- An exception type and those it extends, nearest first; `fuel` bounds the depth. -/
def lineageFrom : (fuel : Nat) → ErrorKind → List ErrorKind
  | 0, k => [k]
  | fuel + 1, k => k :: match k.parent with
    | some p => lineageFrom fuel p
    | none => []

/-- An exception type and those it extends, nearest first. -/
def lineage : ErrorKind → List ErrorKind
  | unsupportedOperation => [unsupportedOperation, osError, valueError, exception, baseException]
  | k => lineageFrom 8 k

end ErrorKind

/-- The built-in types. -/
inductive Kind
  | object | type | noneType | notImplementedType | ellipsis
  | int | bool | float | complex | str | bytes | bytearray | list | tuple | dict | set | frozenset
  | range | slice | memoryview
  | function | builtinFunction | method | methodDescriptor | wrapperDescriptor | methodWrapper
  | getsetDescriptor | memberDescriptor | code | property | staticMethod | classMethod
  | module | generator | traceback | frame | mappingProxy | simpleNamespace | cell
  | dictKeys | dictValues | dictItems | orderedKeys | orderedValues | orderedItems
  | listIterator | listReverseIterator | tupleIterator | strIterator | asciiIterator
  | bytesIterator | bytearrayIterator | rangeIterator | longRangeIterator
  | dictKeyIterator | dictValueIterator | dictItemIterator | dictReverseKeyIterator
  | dictReverseValueIterator | dictReverseItemIterator
  | setIterator | sequenceIterator | callableIterator | memoryIterator
  | enumerate | zip | map | filter | reversed
  | deque | dequeIterator | dequeReverseIterator | defaultDict | orderedDict | orderedIterator
  | textBuffer | textStream | weakReference | unionType | genericAlias | superType | outputSink
  | error (k : ErrorKind)
  deriving DecidableEq, Repr, Inhabited

namespace Kind

/-- The name of a type with its module where error messages show that, too. -/
def fullName : Kind → String
  | object => "object"
  | type => "type"
  | noneType => "NoneType"
  | notImplementedType => "NotImplementedType"
  | ellipsis => "ellipsis"
  | int => "int"
  | bool => "bool"
  | float => "float"
  | complex => "complex"
  | str => "str"
  | bytes => "bytes"
  | bytearray => "bytearray"
  | list => "list"
  | tuple => "tuple"
  | dict => "dict"
  | set => "set"
  | frozenset => "frozenset"
  | range => "range"
  | slice => "slice"
  | memoryview => "memoryview"
  | function => "function"
  | builtinFunction => "builtin_function_or_method"
  | method => "method"
  | methodDescriptor => "method_descriptor"
  | wrapperDescriptor => "wrapper_descriptor"
  | methodWrapper => "method-wrapper"
  | getsetDescriptor => "getset_descriptor"
  | memberDescriptor => "member_descriptor"
  | code => "code"
  | property => "property"
  | staticMethod => "staticmethod"
  | classMethod => "classmethod"
  | module => "module"
  | generator => "generator"
  | traceback => "traceback"
  | frame => "frame"
  | mappingProxy => "mappingproxy"
  | simpleNamespace => "types.SimpleNamespace"
  | cell => "cell"
  | dictKeys => "dict_keys"
  | dictValues => "dict_values"
  | dictItems => "dict_items"
  | orderedKeys => "odict_keys"
  | orderedValues => "odict_values"
  | orderedItems => "odict_items"
  | listIterator => "list_iterator"
  | listReverseIterator => "list_reverseiterator"
  | tupleIterator => "tuple_iterator"
  | strIterator => "str_iterator"
  | asciiIterator => "str_ascii_iterator"
  | bytesIterator => "bytes_iterator"
  | bytearrayIterator => "bytearray_iterator"
  | rangeIterator => "range_iterator"
  | longRangeIterator => "longrange_iterator"
  | dictKeyIterator => "dict_keyiterator"
  | dictValueIterator => "dict_valueiterator"
  | dictItemIterator => "dict_itemiterator"
  | dictReverseKeyIterator => "dict_reversekeyiterator"
  | dictReverseValueIterator => "dict_reversevalueiterator"
  | dictReverseItemIterator => "dict_reverseitemiterator"
  | setIterator => "set_iterator"
  | sequenceIterator => "iterator"
  | callableIterator => "callable_iterator"
  | memoryIterator => "memory_iterator"
  | enumerate => "enumerate"
  | zip => "zip"
  | map => "map"
  | filter => "filter"
  | reversed => "reversed"
  | deque => "collections.deque"
  | dequeIterator => "_collections._deque_iterator"
  | dequeReverseIterator => "_collections._deque_reverse_iterator"
  | defaultDict => "collections.defaultdict"
  | orderedDict => "collections.OrderedDict"
  | orderedIterator => "odict_iterator"
  | textBuffer => "_io.StringIO"
  | textStream => "_io.TextIOWrapper"
  | weakReference => "weakref.ReferenceType"
  | unionType => "types.UnionType"
  | genericAlias => "types.GenericAlias"
  | superType => "super"
  | outputSink => "tether.OutputSink"
  | error k => k.name

/-- The name of a type by itself. -/
def name (k : Kind) : String :=
  ((k.fullName.splitOn ".").getLast?).getD k.fullName

/-- The module of a type. -/
def moduleName (k : Kind) : String :=
  let parts := k.fullName.splitOn "."
  if parts.length > 1 then ".".intercalate parts.dropLast else "builtins"

/-- The type that a type extends; `none` for `object`. -/
def parent : Kind → Option Kind
  | object => none
  | bool => some int
  | defaultDict | orderedDict => some dict
  | orderedKeys => some dictKeys
  | orderedValues => some dictValues
  | orderedItems => some dictItems
  | error .baseException => some object
  | error k => k.parent.map error
  | _ => some object

/-- A type and those it extends, nearest first. -/
def lineage : Kind → List Kind
  | object => [object]
  | bool => [bool, int, object]
  | defaultDict => [defaultDict, dict, object]
  | orderedDict => [orderedDict, dict, object]
  | orderedKeys => [orderedKeys, dictKeys, object]
  | orderedValues => [orderedValues, dictValues, object]
  | orderedItems => [orderedItems, dictItems, object]
  | error k => k.lineage.map error ++ [object]
  | k => [k, object]

/-- All built-in types. -/
def all : List Kind :=
  [object, type, noneType, notImplementedType, ellipsis, int, bool, float, complex, str, bytes,
   bytearray, list, tuple, dict, set, frozenset, range, slice, memoryview, function,
   builtinFunction, method, methodDescriptor, wrapperDescriptor, methodWrapper, getsetDescriptor,
   memberDescriptor, code, property, staticMethod, classMethod, module, generator, traceback,
   frame, mappingProxy, simpleNamespace, cell, dictKeys, dictValues, dictItems, orderedKeys,
   orderedValues, orderedItems, listIterator,
   listReverseIterator, tupleIterator, strIterator, asciiIterator, bytesIterator,
   bytearrayIterator, rangeIterator, longRangeIterator, dictKeyIterator, dictValueIterator,
   dictItemIterator, dictReverseKeyIterator, dictReverseValueIterator, dictReverseItemIterator,
   setIterator, sequenceIterator, callableIterator,
   memoryIterator, enumerate, zip, map, filter, reversed, deque, dequeIterator,
   dequeReverseIterator, defaultDict, orderedDict, orderedIterator, textBuffer,
   textStream, weakReference, unionType, genericAlias, superType,
   outputSink] ++
  ErrorKind.all.map error

/-- The place of a type in the list of all. -/
def index (k : Kind) : Nat := all.idxOf k

/-- The types that a class statement may extend. -/
def isBase : Kind → Bool
  | noneType | notImplementedType | ellipsis | bool | range | slice | memoryview | function
  | builtinFunction | method | methodDescriptor | wrapperDescriptor | methodWrapper
  | getsetDescriptor | memberDescriptor | code | generator | traceback | frame | mappingProxy | cell
  | dictKeys | dictValues | dictItems | orderedKeys | orderedValues | orderedItems | listIterator
  | listReverseIterator | tupleIterator
  | strIterator | asciiIterator | bytesIterator | bytearrayIterator | rangeIterator
  | longRangeIterator | dictKeyIterator | dictValueIterator | dictItemIterator
  | dictReverseKeyIterator | dictReverseValueIterator | dictReverseItemIterator | setIterator
  | sequenceIterator | callableIterator | memoryIterator
  | dequeIterator | dequeReverseIterator | orderedIterator | unionType | outputSink => false
  | _ => true

/-- The built-in types whose own name is visible to every script. -/
def isGlobal : Kind → Bool
  | error .unsupportedOperation => false
  | object | type | int | bool | float | complex | str | bytes | bytearray | list | tuple | dict
  | set | frozenset | range | slice | memoryview | property | staticMethod | classMethod | superType
  | enumerate | zip | map | filter | reversed | error _ => true
  | _ => false

end Kind

end GuestBridge.Guest
