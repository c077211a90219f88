import Stencil.Number.FloatText
import Stencil.Run.Wording
import Stencil.Text.Quoted

/-! # Values as text

A value is displayed in the notation of the language, inside collections with its
quotation marks. A collection that contains itself shows three dots in its own
place. The text of a text is itself, and the text of an exception is its message.
-/

namespace Stencil.Run

/-- The deepest nesting of values that operations follow. -/
def nestingLimit : Nat := 985

/-- The most digits that a whole number is written with. -/
def digitLimit : Nat := 4300

/-- A whole number in decimal notation, unless it has too many digits. -/
def displayInt (value : Int) : Except Complaint Text :=
  if value.natAbs.log2 < 3 * digitLimit || value.natAbs < tenTo digitLimit then .ok (intText value)
  else .error .tooManyDigits

/-- A byte between quotation marks. -/
def displayByte (mark : CodePoint) (byte : Nat) : Text :=
  if byte = CodePoint.backslash || byte = mark then [CodePoint.backslash, byte]
  else if byte = CodePoint.tab then text "\\t"
  else if byte = CodePoint.lineFeed then text "\\n"
  else if byte = CodePoint.carriageReturn then text "\\r"
  else if byte < 32 || 127 ≤ byte then text "\\x" ++ hexText 2 byte
  else [byte]

/-- Bytes in the notation of the language. -/
def displayBytes (value : List Nat) : Text :=
  let mark :=
    if value.contains CodePoint.apostrophe && !value.contains CodePoint.doubleQuote then
      CodePoint.doubleQuote
    else CodePoint.apostrophe
  text "b" ++ [mark] ++ value.flatMap (displayByte mark) ++ [mark]

/-- An address in the notation of the language. -/
def displayAddress (address : Address) : Text :=
  text "0x" ++ hexText 12 (0x7f0000000000 + 16 * address)

/-- An object without a notation of its own. -/
def displayOpaque (name : Text) (address : Address) : Text :=
  text "<" ++ name ++ text " object at " ++ displayAddress address ++ text ">"

/-- Public names whose values introduce themselves. -/
def introductions : List (String × String) :=
  [("exit", "Use exit() or Ctrl-D (i.e. EOF) to exit"),
    ("quit", "Use quit() or Ctrl-D (i.e. EOF) to exit"),
    ("help", "Type help() for interactive help, or help(object) for help about object."),
    ("license", "Type license() to see the full license text")]

/-- A public function in the notation of the language. -/
def displayBuiltin (function : Builtin) : Text :=
  match introductions.find? fun entry => text entry.1 == function.label with
  | some entry => text entry.2
  | none =>
      if function = .written then
        text "<function " ++ function.label ++ text " at " ++ displayAddress 0 ++ text ">"
      else text "<built-in function " ++ function.label ++ text ">"

/-- The notation of a collection: its items between two brackets. -/
def bracketed (opening closing : String) (items : List Text) : Text :=
  text opening ++ Text.join (text ", ") items ++ text closing

/-- A value in the notation of the language. Collections that are being displayed already are not
displayed again. -/
def Value.displayIn (store : Store) (depth : Nat) (active : List Address) (value : Value) :
    Except Complaint Text :=
  match depth with
  | 0 => .error (.nesting " while getting the repr of an object")
  | depth + 1 =>
      let display (active : List Address) (value : Value) : Except Complaint Text :=
        value.displayIn store depth active
      let displayEntry (active : List Address) (entry : Value × Value) :
          Except Complaint Text := do
        return (← display active entry.1) ++ text ": " ++ (← display active entry.2)
      match value with
      | .nothing => .ok (text "None")
      | .ellipsis => .ok (text "Ellipsis")
      | .notImplemented => .ok (text "NotImplemented")
      | .bool value => .ok (text (if value then "True" else "False"))
      | .int value => displayInt value
      | .float value => .ok (floatText value)
      | .string value => .ok value.quoted
      | .bytes value => .ok (displayBytes value)
      | .tuple [only] => return text "(" ++ (← display active only) ++ text ",)"
      | .tuple items => return bracketed "(" ")" (← items.mapM (display active))
      | .range start stop step => do
          let ends := [start, stop] ++ if step = 1 then [] else [step]
          return bracketed "range(" ")" (← ends.mapM displayInt)
      | .slice lower upper step =>
          return bracketed "slice(" ")" (← [lower, upper, step].mapM (display active))
      | .view kind dict => do
          let shown ← (store.entries dict).mapM fun entry =>
            match kind with
            | .keys => display active entry.1
            | .values => display active entry.2
            | .items => display active (.tuple [entry.1, entry.2])
          return kind.kind.name ++ bracketed "([" "])" shown
      | .ofKind kind => .ok (text "<class '" ++ kind.name ++ text "'>")
      | .builtin function => .ok (displayBuiltin function)
      | .method receiver name =>
          .ok (text "<built-in method " ++ name ++ text " of " ++ (receiver.kindIn store).name ++
            text " object at " ++ displayAddress 0 ++ text ">")
      | .unboundMethod kind name =>
          .ok (text "<method " ++ Complaint.marked name ++ text " of " ++
            Complaint.marked kind.name ++ text " objects>")
      | .publicModule => .ok (text "<module 'builtins' (built-in)>")
      | .ref address =>
          let again := active.contains address
          let active := address :: active
          match store.object address with
          | .list items =>
              if again then .ok (text "[...]")
              else return bracketed "[" "]" (← items.toList.mapM (display active))
          | .dict content =>
              if again then .ok (text "\x7b...\x7d")
              else return bracketed "\x7b" "\x7d" (← content.entries.mapM (displayEntry active))
          | .set [] => .ok (text "set()")
          | .set members =>
              if again then .ok (text "set(...)")
              else return bracketed "\x7b" "\x7d" (← members.mapM (display active))
          | .namespace fields =>
              if again then .ok (text "namespace(...)")
              else
                let named := fields.filter fun field => !field.1.isEmpty
                return bracketed "namespace(" ")" (← named.mapM fun field => do
                  return field.1 ++ text "=" ++ (← display active field.2))
          | .proxy dict => return text "mappingproxy(" ++ (← display active (.ref dict)) ++ text ")"
          | .function function =>
              .ok (text "<function " ++ function.path ++ text " at " ++ displayAddress address ++
                text ">")
          | .cursor kind _ => .ok (displayOpaque kind.name address)
          | .exception kind arguments =>
              let shown := kind.shown arguments
              if again && shown.length ≠ 1 then .ok (text kind.label ++ text "(...)")
              else return text kind.label ++ bracketed "(" ")" (← shown.mapM (display active))
          | .frame _ => .ok (displayOpaque (text "frame") address)

/-- A value in the notation of the language, or the complaint about it. -/
def Value.display (store : Store) (value : Value) : Except Complaint Text :=
  value.displayIn store nestingLimit []

/-- The text of a group of exceptions. -/
def groupText (message : Text) (count : Nat) : Text :=
  message ++ text " (" ++ natText 10 count ++ text " sub-exception" ++ Complaint.plural count ++
    text ")"

/-- The text of a value; the text of an exception is made of its parts. -/
def Value.textAt (store : Store) : Nat → Value → Except Complaint Text
  | 0, _ => .error (.nesting " while getting the str of an object")
  | _ + 1, .string value => .ok value
  | depth + 1, .ref address =>
      match store.object address with
      | .exception kind arguments =>
          match kind.wording arguments with
          | .plain value => value.textAt store depth
          | .displayed value => value.display store
          | .group message count => return groupText (← message.textAt store depth) count
          | .system number message files => do
              let said := text "[Errno " ++ (← number.textAt store depth) ++ text "] " ++
                (← message.textAt store depth)
              let shown ← files.mapM fun file => file.display store
              if shown.isEmpty then return said
              else return said ++ text ": " ++ Text.join (text " -> ") shown
      | .proxy dict => (Value.ref dict).display store
      | _ => (Value.ref address).display store
  | _ + 1, value => value.display store

/-- The text of a value. -/
def Value.textIn (store : Store) (value : Value) : Except Complaint Text :=
  value.textAt store nestingLimit

/-- The result of a computation that may end with a complaint. -/
def settle {α : Type} : Except Complaint α → Action α
  | .ok result => pure result
  | .error complaint => complain complaint

/-- A value in the notation of the language. -/
def display (value : Value) : Action Text := do
  settle (value.display (← get))

/-- The text of a value. -/
def textOf (value : Value) : Action Text := do
  settle (value.textIn (← get))

/-- The text that a directive writes for a value: nothing is written for nothing. -/
def written (value : Value) : Action Text :=
  if value.isNothing then pure [] else textOf value

end Stencil.Run
