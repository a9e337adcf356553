import GuestBridge.Guest.Kind

/-!
# Members of built-in types

Which names the built-in types define themselves, apart from what they inherit: the special methods
behind operators and protocols, ordinary methods, and attributes that are read off the data.
-/

namespace GuestBridge.Guest

/-- What a name stands for in a built-in type. -/
inductive MemberKind
  /-- A special method. -/
  | slot
  | method
  /-- A method of the class rather than of its instances. -/
  | classMethod
  | staticMethod
  /-- An attribute that is computed from the data; `writable` if it may be set. -/
  | attribute (writable : Bool)
  deriving DecidableEq, Repr, Inhabited

namespace Kind

/-- Names of a list separated by blanks. -/
def names (s : String) : List String :=
  (s.splitOn " ").filter (· != "")

/-- The special methods of comparison. -/
def comparisonSlots : List String := names "__eq__ __ne__ __lt__ __le__ __gt__ __ge__"

/-- The special methods of numbers. -/
def numberSlots : List String := names <|
  "__add__ __radd__ __sub__ __rsub__ __mul__ __rmul__ __pow__ __rpow__ __neg__ __pos__ " ++
  "__abs__ __bool__ __truediv__ __rtruediv__"

/-- The special methods of whole numbers, beyond those of all numbers. -/
def integerSlots : List String := names <|
  "__and__ __rand__ __or__ __ror__ __xor__ __rxor__ __lshift__ __rlshift__ __rshift__ " ++
  "__rrshift__ __invert__ __index__"

/-- The special methods of ordered numbers, beyond those of all numbers. -/
def orderedNumberSlots : List String := names <|
  "__int__ __float__ __floordiv__ __rfloordiv__ __mod__ __rmod__ __divmod__ __rdivmod__"

/-- The special methods of sets. -/
def setSlots : List String := names <|
  "__and__ __rand__ __or__ __ror__ __xor__ __rxor__ __sub__ __rsub__ __len__ __iter__ " ++
  "__contains__"

/-- The special methods that a type defines itself. -/
def slots : Kind → List String
  | object => comparisonSlots ++ names
      "__repr__ __str__ __hash__ __init__ __getattribute__ __setattr__ __delattr__"
  | type =>
    names "__repr__ __call__ __getattribute__ __setattr__ __delattr__ __init__ __or__ __ror__"
  | noneType => names "__repr__ __bool__"
  | notImplementedType => names "__repr__ __bool__"
  | ellipsis => names "__repr__"
  | int => comparisonSlots ++ numberSlots ++ integerSlots ++ orderedNumberSlots ++
      names "__repr__ __hash__ __getattribute__"
  | bool => names "__repr__ __and__ __rand__ __or__ __ror__ __xor__ __rxor__"
  | float => comparisonSlots ++ numberSlots ++ orderedNumberSlots ++
      names "__repr__ __hash__ __getattribute__"
  | complex => comparisonSlots ++ numberSlots ++ names "__repr__ __hash__ __getattribute__"
  | str => comparisonSlots ++ names
      ("__repr__ __str__ __hash__ __len__ __iter__ __contains__ __getitem__ __add__ __mul__ " ++
       "__rmul__ __mod__ __rmod__ __getattribute__")
  | bytes => comparisonSlots ++ names
      ("__repr__ __str__ __hash__ __len__ __iter__ __contains__ __getitem__ __add__ __mul__ " ++
       "__rmul__ __mod__ __rmod__ __getattribute__")
  | bytearray => comparisonSlots ++ names
      ("__repr__ __str__ __hash__ __len__ __iter__ __contains__ __getitem__ __setitem__ " ++
       "__delitem__ __add__ __iadd__ __mul__ __rmul__ __imul__ __mod__ __rmod__ __init__ " ++
       "__getattribute__")
  | list => comparisonSlots ++ names
      ("__repr__ __hash__ __len__ __iter__ __contains__ __getitem__ __setitem__ __delitem__ " ++
       "__add__ __iadd__ __mul__ __rmul__ __imul__ __init__ __getattribute__")
  | tuple => comparisonSlots ++ names
      ("__repr__ __hash__ __len__ __iter__ __contains__ __getitem__ __add__ __mul__ __rmul__ " ++
       "__getattribute__")
  | dict => comparisonSlots ++ names
      ("__repr__ __hash__ __len__ __iter__ __contains__ __getitem__ __setitem__ __delitem__ " ++
       "__or__ __ror__ __ior__ __init__ __getattribute__")
  | set => comparisonSlots ++ setSlots ++ names
      "__repr__ __hash__ __iand__ __ior__ __isub__ __ixor__ __init__ __getattribute__"
  | frozenset => comparisonSlots ++ setSlots ++ names "__repr__ __hash__ __getattribute__"
  | range => comparisonSlots ++ names
      "__repr__ __hash__ __len__ __iter__ __contains__ __getitem__ __bool__ __getattribute__"
  | slice => comparisonSlots ++ names "__repr__ __hash__ __getattribute__"
  | memoryview => comparisonSlots ++ names
      "__repr__ __hash__ __len__ __getitem__ __setitem__ __delitem__ __iter__ __getattribute__"
  | function => names "__repr__ __call__ __get__"
  | builtinFunction => comparisonSlots ++ names "__repr__ __hash__ __call__ __getattribute__"
  | method => comparisonSlots ++ names "__repr__ __hash__ __call__ __get__ __getattribute__"
  | methodDescriptor | wrapperDescriptor => names "__repr__ __call__ __get__ __getattribute__"
  | memberDescriptor | getsetDescriptor =>
    names "__repr__ __get__ __set__ __delete__ __getattribute__"
  | methodWrapper => comparisonSlots ++ names "__repr__ __hash__ __call__ __getattribute__"
  | code => comparisonSlots ++ names "__repr__ __hash__ __getattribute__"
  | property => names "__get__ __set__ __delete__ __init__ __getattribute__"
  | staticMethod => names "__get__ __call__ __init__ __repr__"
  | classMethod => names "__get__ __init__ __repr__"
  | module => names "__repr__ __getattribute__ __setattr__ __delattr__ __init__"
  | generator => names "__repr__ __iter__ __next__ __del__ __getattribute__"
  | traceback => names "__getattribute__"
  | frame => names "__repr__ __getattribute__"
  | mappingProxy => comparisonSlots ++ names
      ("__repr__ __str__ __hash__ __len__ __iter__ __contains__ __getitem__ __or__ __ror__ " ++
       "__ior__ __getattribute__")
  | simpleNamespace => comparisonSlots ++ names "__repr__ __init__ __getattribute__"
  | cell => comparisonSlots ++ names "__repr__ __getattribute__"
  | dictKeys | dictItems =>
    comparisonSlots ++ setSlots ++ names "__repr__ __hash__ __getattribute__"
  | dictValues => names "__repr__ __len__ __iter__ __getattribute__"
  | enumerate | zip | map | filter | reversed => names "__iter__ __next__ __getattribute__"
  | listIterator | listReverseIterator | tupleIterator | strIterator | asciiIterator
  | bytesIterator | bytearrayIterator | rangeIterator | longRangeIterator | dictKeyIterator
  | dictValueIterator | dictItemIterator | dictReverseKeyIterator | dictReverseValueIterator
  | dictReverseItemIterator | setIterator
  | sequenceIterator | callableIterator | memoryIterator | dequeIterator | dequeReverseIterator
  | orderedIterator =>
    names "__iter__ __next__ __getattribute__"
  | deque => comparisonSlots ++ names
      ("__repr__ __hash__ __len__ __iter__ __contains__ __getitem__ __setitem__ __delitem__ " ++
       "__add__ __iadd__ __mul__ __rmul__ __imul__ __bool__ __init__ __getattribute__")
  | defaultDict => names "__repr__ __init__ __or__ __ror__ __getattribute__"
  | orderedDict => comparisonSlots ++ names
      "__repr__ __init__ __iter__ __or__ __ror__ __ior__ __hash__ __setitem__ __delitem__"
  | textBuffer => names "__init__ __next__ __iter__"
  | textStream => names "__repr__ __init__ __next__ __iter__"
  | weakReference => comparisonSlots ++ names "__repr__ __hash__ __call__ __init__"
  | superType => names "__repr__ __get__ __getattribute__ __init__"
  | unionType => comparisonSlots ++ names "__repr__ __hash__ __or__ __ror__ __getattribute__"
  | genericAlias => comparisonSlots ++ names
      "__repr__ __hash__ __call__ __getitem__ __or__ __ror__ __iter__ __getattribute__"
  | error .baseException =>
    names "__repr__ __str__ __init__ __getattribute__ __setattr__ __delattr__"
  | error .keyError | error .osError | error .importError | error .syntaxError
  | error .unicodeDecodeError | error .unicodeEncodeError | error .unicodeTranslateError =>
    names "__str__ __init__"
  | error _ => names "__init__"
  | _ => []

/-- The ordinary methods that texts and byte strings share. -/
def stringMethods : List String := names <|
  "capitalize center count endswith expandtabs find index isalnum isalpha isascii isdigit " ++
  "islower isspace istitle isupper join ljust lower lstrip partition removeprefix removesuffix " ++
  "replace rfind rindex rjust rpartition rsplit rstrip split splitlines startswith strip " ++
  "swapcase title translate upper zfill"

/-- The ordinary methods that a type defines itself. -/
def methods : Kind → List String
  | object => names "__dir__ __format__ __reduce__ __reduce_ex__ __sizeof__"
  | type => names "mro __subclasses__ __instancecheck__ __subclasscheck__ __dir__ __sizeof__"
  | int => names
      ("as_integer_ratio bit_count bit_length conjugate to_bytes __ceil__ __floor__ __round__ " ++
       "__trunc__ __format__ __getnewargs__ __sizeof__")
  | float => names
      ("as_integer_ratio conjugate hex is_integer __ceil__ __floor__ __round__ __trunc__ " ++
       "__format__ __getnewargs__")
  | complex => names "conjugate __complex__ __format__ __getnewargs__"
  | str => stringMethods ++ names
      ("casefold encode format format_map isdecimal isidentifier isnumeric isprintable " ++
       "__format__ __getnewargs__ __sizeof__")
  | bytes => stringMethods ++ names "decode hex __bytes__ __getnewargs__"
  | bytearray => stringMethods ++ names
      ("append clear copy decode extend hex insert pop remove reverse __alloc__ __reduce__ " ++
       "__reduce_ex__ __sizeof__")
  | list => names
      "append clear copy count extend index insert pop remove reverse sort __reversed__ __sizeof__"
  | tuple => names "count index __getnewargs__"
  | dict => names
      "clear copy get items keys pop popitem setdefault update values __reversed__ __sizeof__"
  | set => names <|
      "add clear copy difference difference_update discard intersection intersection_update " ++
      "isdisjoint issubset issuperset pop remove symmetric_difference " ++
      "symmetric_difference_update union update __reduce__ __sizeof__"
  | frozenset => names
      ("copy difference intersection isdisjoint issubset issuperset symmetric_difference union " ++
       "__reduce__ __sizeof__")
  | range => names "count index __reversed__ __reduce__"
  | slice => names "indices __reduce__"
  | memoryview => names "cast hex release tobytes tolist toreadonly __enter__ __exit__"
  | builtinFunction | method | methodDescriptor | methodWrapper => names "__reduce__"
  | code => names "co_lines co_positions replace __sizeof__"
  | property => names "deleter getter setter __set_name__"
  | module => names "__dir__"
  | generator => names "close send throw"
  | mappingProxy => names "copy get items keys values __reversed__"
  | simpleNamespace => names "__reduce__"
  | dictKeys | dictItems => names "isdisjoint __reversed__"
  | dictValues => names "__reversed__"
  | deque => names <|
      "append appendleft clear copy count extend extendleft index insert pop popleft remove " ++
      "reverse rotate __copy__ __reduce__ __reversed__ __sizeof__"
  | defaultDict => names "copy __copy__ __missing__ __reduce__"
  | orderedDict => names
      ("clear copy items keys move_to_end pop popitem setdefault update values __reduce__ " ++
       "__reversed__ __sizeof__")
  | textBuffer => names
      ("close getvalue read readable readline seek seekable tell truncate writable write " ++
       "__getstate__ __setstate__ flush isatty fileno readlines writelines detach __enter__ " ++
       "__exit__")
  | textStream => names
      ("close detach fileno flush isatty read readable readline reconfigure seek seekable tell " ++
       "truncate writable write readlines writelines __enter__ __exit__")
  | listIterator | listReverseIterator | tupleIterator | strIterator | asciiIterator
  | bytesIterator | bytearrayIterator | rangeIterator | longRangeIterator =>
    names "__length_hint__ __reduce__ __setstate__"
  | dictKeyIterator | dictValueIterator | dictItemIterator | dictReverseKeyIterator
  | dictReverseValueIterator | dictReverseItemIterator
  | setIterator | dequeIterator | dequeReverseIterator => names "__length_hint__ __reduce__"
  | sequenceIterator => names "__length_hint__ __reduce__ __setstate__"
  | callableIterator | enumerate | zip | map | filter | memoryIterator => names "__reduce__"
  | reversed => names "__length_hint__ __reduce__ __setstate__"
  | genericAlias => names "__mro_entries__ __instancecheck__ __subclasscheck__ __reduce__"
  | unionType => names "__instancecheck__ __subclasscheck__"
  | outputSink => names "flush isatty writable write"
  | error .baseException => names "add_note with_traceback __reduce__ __setstate__"
  | _ => []

/-- The methods of the class itself. -/
def classMethods : Kind → List String
  | object => names "__init_subclass__ __subclasshook__"
  | int => names "from_bytes"
  | float => names "fromhex __getformat__"
  | bytes | bytearray => names "fromhex"
  | dict => names "fromkeys __class_getitem__"
  | orderedDict => names "fromkeys"
  | list | tuple | set | frozenset | deque | enumerate | slice | weakReference =>
    names "__class_getitem__"
  | _ => []

/-- The methods that get neither an instance nor the class. -/
def staticMethods : Kind → List String
  | str | bytes | bytearray => names "maketrans __new__"
  | object | type | int | bool | float | complex | list | tuple | dict | set | frozenset | range
  | slice | memoryview | function | method | property | module | simpleNamespace | enumerate
  | zip | map | filter | reversed | deque | orderedDict | textBuffer | weakReference
  | noneType | genericAlias | error _ => names "__new__"
  | _ => []

/-- The attributes read off the data that can be set, and those that cannot. -/
def attributes : Kind → List String × List String
  | object => (["__class__"], ["__doc__"])
  | type => (names "__name__ __qualname__ __module__ __bases__ __doc__ __abstractmethods__",
      names "__mro__ __dict__ __base__ __basicsize__ __flags__ __itemsize__")
  | int => ([], names "real imag numerator denominator")
  | float | complex => ([], names "real imag")
  | range | slice => ([], names "start stop step")
  | function => (names
      ("__name__ __qualname__ __doc__ __defaults__ __kwdefaults__ __code__ __dict__ " ++
       "__annotations__ __module__"),
      names "__globals__ __closure__ __builtins__")
  | builtinFunction =>
    ([], names "__name__ __qualname__ __self__ __doc__ __module__ __text_signature__")
  | methodDescriptor | wrapperDescriptor | methodWrapper | memberDescriptor | getsetDescriptor =>
    ([], names "__name__ __qualname__ __objclass__ __doc__ __self__ __text_signature__")
  | method => ([], names "__func__ __self__ __doc__")
  | code => ([], names
      ("co_name co_qualname co_filename co_firstlineno co_argcount co_posonlyargcount " ++
       "co_kwonlyargcount co_varnames co_cellvars co_freevars co_nlocals co_flags"))
  | property => (["__doc__"], names "fget fset fdel __isabstractmethod__")
  | staticMethod | classMethod => ([], names "__func__ __wrapped__")
  | module => ([], names "__dict__")
  | generator => (names "__name__ __qualname__",
      names "gi_code gi_frame gi_running gi_suspended gi_yieldfrom")
  | traceback => (["tb_next"], names "tb_frame tb_lasti tb_lineno")
  | frame => (names "f_lineno f_trace f_trace_lines f_trace_opcodes",
      names "f_back f_builtins f_code f_globals f_lasti f_locals")
  | cell => (["cell_contents"], [])
  | memoryview => ([], names
      ("obj nbytes readonly itemsize format ndim shape strides suboffsets contiguous " ++
       "c_contiguous f_contiguous"))
  | simpleNamespace => ([], ["__dict__"])
  | dictKeys | dictValues | dictItems => ([], ["mapping"])
  | deque => ([], ["maxlen"])
  | defaultDict => (["default_factory"], [])
  | orderedDict => ([], ["__dict__"])
  | textBuffer => ([], names "closed newlines line_buffering encoding errors __dict__")
  | textStream => (["mode"], names "name encoding errors newlines closed buffer line_buffering")
  | weakReference => ([], ["__callback__"])
  | unionType => ([], names "__args__ __parameters__")
  | genericAlias => ([], names "__origin__ __args__ __parameters__")
  | superType => ([], names "__thisclass__ __self__ __self_class__")
  | error .baseException =>
    (names "args __cause__ __context__ __traceback__ __suppress_context__ __dict__", [])
  | error .stopIteration => (["value"], [])
  | error .systemExit => (["code"], [])
  | error .importError => (names "name path msg", [])
  | error .osError => (names "errno strerror filename filename2", [])
  | error .syntaxError => (names
      "msg filename lineno offset text print_file_and_line end_lineno end_offset", [])
  | error .unicodeDecodeError | error .unicodeEncodeError | error .unicodeTranslateError =>
    (names "encoding object start end reason", [])
  | error .nameError => (["name"], [])
  | error .attributeError => (names "name obj", [])
  | _ => ([], [])

/-- What a name stands for in the type itself. -/
def member? (k : Kind) (id : String) : Option MemberKind :=
  if k.slots.contains id then some .slot
  else if k.methods.contains id then some .method
  else if k.classMethods.contains id then some .classMethod
  else if k.staticMethods.contains id then some .staticMethod
  else if k.attributes.1.contains id then some (.attribute true)
  else if k.attributes.2.contains id then some (.attribute false)
  else none

end Kind

end GuestBridge.Guest
