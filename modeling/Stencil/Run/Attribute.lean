import Stencil.Run.Method.Lists
import Stencil.Run.Method.Mappings
import Stencil.Run.Method.Strings

/-! # Attributes

Every kind of values has methods, some have further attributes, and the attributes of
a namespace are its fields. Only the fields of a namespace can be changed.
-/

namespace Stencil.Run

open Script

/-- One of several names. -/
def isNamed (name : Name) (names : List String) : Bool := names.any fun known => text known == name

/-- The names of the methods of a kind. -/
def Kind.methodNames : Kind → List String
  | .string => StringMethod.known.map Prod.fst ++ StringMethod.others
  | .list => ListMethod.known.map Prod.fst
  | .tuple => tupleMethods.map Prod.fst
  | .dict => MappingMethod.ofDicts.map Prod.fst
  | .proxy => MappingMethod.ofProxies.map Prod.fst
  | .set =>
      MappingMethod.ofSets.map Prod.fst ++
        ["copy", "difference", "difference_update", "intersection", "intersection_update",
          "isdisjoint", "issubset", "issuperset", "pop", "remove", "symmetric_difference",
          "symmetric_difference_update", "union", "update"]
  | .frozenSet =>
      ["copy", "difference", "intersection", "isdisjoint", "issubset", "issuperset",
        "symmetric_difference", "union"]
  | .dictKeys | .dictItems => ["isdisjoint"]
  | .range => ["count", "index"]
  | .slice => ["indices"]
  | .bool | .int =>
      ["as_integer_ratio", "bit_count", "bit_length", "conjugate", "from_bytes", "to_bytes"]
  | .float => ["as_integer_ratio", "conjugate", "fromhex", "hex", "is_integer"]
  | .bytes =>
      ["capitalize", "center", "count", "decode", "endswith", "expandtabs", "find", "fromhex",
        "hex", "index", "isalnum", "isalpha", "isascii", "isdigit", "islower", "isspace",
        "istitle", "isupper", "join", "ljust", "lower", "lstrip", "maketrans", "partition",
        "removeprefix", "removesuffix", "replace", "rfind", "rindex", "rjust", "rpartition",
        "rsplit", "rstrip", "split", "splitlines", "startswith", "strip", "swapcase", "title",
        "translate", "upper", "zfill"]
  | .generator => ["close", "send", "throw"]
  | .exception _ => ["add_note", "with_traceback"]
  | _ => []

/-- The kind that the methods of a kind belong to. -/
def Kind.methodOwner : Kind → Kind
  | .bool => .int
  | .exception _ => .exception .baseException
  | kind => kind

/-- The method of a kind with a name, apart from a value; some methods need none. -/
def Kind.method? (kind : Kind) (name : Name) : Option Value :=
  if !isNamed name kind.methodNames then none
  else if isNamed name ["fromkeys", "fromhex", "from_bytes", "maketrans"] then
    some (.method (.ofKind kind) name)
  else some (.unboundMethod kind.methodOwner name)

/-- The names of attributes that are no methods, and that are not run. -/
def Kind.fieldNames : Kind → List String
  | .bool | .int | .float => ["real", "imag", "numerator", "denominator"]
  | .generator => ["gi_code", "gi_frame", "gi_running", "gi_suspended", "gi_yieldfrom"]
  | .dictKeys | .dictValues | .dictItems => ["mapping"]
  | .exception .stopIteration => ["value"]
  | .exception .systemExit => ["code"]
  | .exception .nameError | .exception .unboundLocalError => ["name"]
  | .exception .attributeError => ["name", "obj"]
  | .exception .importError | .exception .moduleNotFoundError => ["msg", "name", "path"]
  | .exception kind =>
      if kind.isBelow .osError then
        ["characters_written", "errno", "filename", "filename2", "strerror"]
      else if kind.isBelow .syntaxError then
        ["end_lineno", "end_offset", "filename", "lineno", "msg", "offset",
          "print_file_and_line", "text"]
      else if kind.isBelow .unicodeError && kind != .unicodeError then
        ["encoding", "end", "object", "reason", "start"]
      else []
  | _ => []

/-- The attributes that every value has, and that are not run. -/
def commonNames : List String :=
  ["__delattr__", "__dir__", "__doc__", "__eq__", "__format__", "__ge__", "__getattribute__",
    "__getstate__", "__gt__", "__hash__", "__init__", "__init_subclass__", "__le__", "__lt__",
    "__ne__", "__new__", "__reduce__", "__reduce_ex__", "__repr__", "__setattr__",
    "__sizeof__", "__str__", "__subclasshook__"]

/-- Further attributes of special names that some values have, and that are not run. -/
def specialNames : List String :=
  ["__len__", "__iter__", "__next__", "__contains__", "__getitem__", "__setitem__", "__delitem__",
    "__add__", "__mul__", "__call__", "__dict__", "__module__", "__qualname__", "__bool__",
    "__int__", "__float__", "__index__", "__abs__", "__neg__", "__reversed__", "__defaults__",
    "__code__", "__globals__", "__closure__", "__mro__", "__bases__", "__base__",
    "__annotations__", "__kwdefaults__", "__cause__", "__context__", "__traceback__",
    "__suppress_context__", "__notes__", "__self__", "__class_getitem__"]

/-- A number among the attributes of a value. -/
def numericField? (value : Value) (name : Name) : Option Value :=
  match value with
  | .range start stop step =>
      if name == text "start" then some (.int start)
      else if name == text "stop" then some (.int stop)
      else if name == text "step" then some (.int step) else none
  | .slice lower upper step =>
      if name == text "start" then some lower
      else if name == text "stop" then some upper
      else if name == text "step" then some step else none
  | .float number =>
      if name == text "real" then some (.float number)
      else if name == text "imag" then some (.float 0) else none
  | other =>
      match other.int? with
      | some number =>
          if name == text "real" || name == text "numerator" then some (.int number)
          else if name == text "imag" then some (.int 0)
          else if name == text "denominator" then some (.int 1) else none
      | none => none

/-- The last part of a path. -/
def lastPart (path : Text) : Text := (Text.splitOn 46 path).getLastD path

/-- The name that a value has by itself. -/
def Value.givenNameIn? (store : Store) : Value → Option Text
  | .ofKind kind => some (text kind.label)
  | .builtin function => some function.label
  | .method _ name | .unboundMethod _ name => some name
  | .publicModule => some (text "builtins")
  | .ref address =>
      match store.object address with
      | .function function => some (lastPart function.path)
      | _ => none
  | _ => none

/-- An attribute that belongs to the value itself and not to its kind. -/
def Value.fieldIn? (store : Store) (value : Value) (name : Name) : Option Value :=
  match value with
  | .ref address =>
      match store.object address with
      | .namespace fields => fields.lookup name
      | .exception kind arguments => kind.field? arguments name
      | _ => none
  | .publicModule => publicValue? name
  | other => numericField? other name

/-- A value lacks an attribute. -/
def lacksAttribute {α : Type} (value : Value) (name : Name) : Action α := do
  match value with
  | .ofKind kind => complain (.typeNoAttribute kind name)
  | .publicModule => complain (.moduleNoAttribute name)
  | other => complain (.noAttribute (← kindOf other) name)

/-- The attribute of a value with a name. -/
def attributeOf (value : Value) (name : Name) : Action Value := do
  let store ← get
  let kind := value.kindIn store
  match value.fieldIn? store name with
  | some field => return field
  | none =>
      if name == text "__class__" then return .ofKind kind
      else if name == text "__name__" then
        match value.givenNameIn? store with
        | some given => return .string given
        | none => lacksAttribute value name
      else if isNamed name kind.methodNames then return .method value name
      else
        let inherited : Option Value :=
          match value with
          | .ofKind kind => kind.method? name
          | _ => none
        let isField : Bool :=
          match value with
          | .ofKind kind => isNamed name kind.fieldNames
          | _ => false
        if let some method := inherited then return method
        else if isField || isNamed name (commonNames ++ specialNames ++ kind.fieldNames) then
          unsupported "special attributes"
        else lacksAttribute value name

/-- The value of a field in place of its old one, or behind the others. -/
def insertField (name : Name) (value : Value) : List (Name × Value) → List (Name × Value)
  | [] => [(name, value)]
  | field :: rest =>
      if field.1 == name then (name, value) :: rest else field :: insertField name value rest

/-- An attribute of a value cannot be changed. -/
def refuseChange (value : Value) (name : Name) : Action Unit := do
  let kind ← kindOf value
  match value with
  | .ofKind kind =>
      complain ⟨.typeError, text "cannot set " ++ Complaint.marked name ++
        text " attribute of immutable type " ++ Complaint.marked kind.name⟩
  | _ =>
      if isNamed name (kind.methodNames ++ kind.fieldNames) then
        complain ⟨.attributeError, Complaint.marked kind.name ++ text " object attribute " ++
          Complaint.marked name ++ text " is read-only"⟩
      else lacksAttribute value name

/-- An attribute of a value is assigned. -/
def assignAttribute (object : Value) (name : Name) (value : Value) : Action Unit := do
  match object with
  | .ref address =>
      match ← load address with
      | .namespace fields => save address (.namespace (insertField name value fields))
      | .function _ | .exception _ _ => unsupported "attributes of functions and exceptions"
      | _ => refuseChange object name
  | .publicModule => unsupported "changes of public names"
  | _ => refuseChange object name

/-- An attribute of a value is deleted. -/
def deleteAttribute (object : Value) (name : Name) : Action Unit := do
  match object with
  | .ref address =>
      match ← load address with
      | .namespace fields =>
          if (fields.lookup name).isSome then
            save address (.namespace (fields.filter fun field => field.1 != name))
          else raiseWith .attributeError [.string name]
      | .function _ | .exception _ _ => unsupported "attributes of functions and exceptions"
      | _ => refuseChange object name
  | .publicModule => unsupported "changes of public names"
  | _ => refuseChange object name

/-- A method of a value is called. -/
def callMethod (engine : Engine) (receiver : Value) (name : Name) (arguments : Arguments) :
    Action Value := do
  let find {α : Type} (methods : List (String × α)) : Option α :=
    (methods.find? fun entry => text entry.1 == name).map Prod.snd
  let missing : Action Value := do unsupported "this method"
  match receiver with
  | .ofKind .dict => MappingMethod.fromKeys engine arguments
  | .string value =>
      match find StringMethod.known with
      | some method => method engine value arguments
      | none => missing
  | .tuple items =>
      match find tupleMethods with
      | some method => method items arguments
      | none => missing
  | .ref address =>
      match ← load address with
      | .list _ =>
          match find ListMethod.known with
          | some method => method engine address arguments
          | none => missing
      | .dict _ =>
          match find MappingMethod.ofDicts with
          | some method => method engine address arguments
          | none => missing
      | .proxy _ =>
          match find MappingMethod.ofProxies with
          | some method => method engine address arguments
          | none => missing
      | .set _ =>
          match find MappingMethod.ofSets with
          | some method => method engine address arguments
          | none => missing
      | _ => missing
  | _ => missing

/-- A method is called with the value that it belongs to as its first argument. -/
def callUnbound (engine : Engine) (kind : Kind) (name : Name) (arguments : Arguments) :
    Action Value := do
  match arguments.positional with
  | [] =>
      complain ⟨.typeError, text "unbound method " ++ kind.name ++ text "." ++ name ++
        text "() needs an argument"⟩
  | receiver :: rest => do
      let given ← kindOf receiver
      if given.isBelow kind then
        callMethod engine receiver name { arguments with positional := rest }
      else
        complain ⟨.typeError, text "descriptor " ++ Complaint.marked name ++ text " for " ++
          Complaint.marked kind.name ++ text " objects doesn't apply to a " ++
          Complaint.marked given.name ++ text " object"⟩

end Stencil.Run
