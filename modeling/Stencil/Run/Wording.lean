import Stencil.Run.Basic

/-! # Parts of exceptions

An exception keeps the arguments that it was made with. Some kinds take them apart: an
error of the system into its number, its message and its files, a group into its message
and its exceptions. The text of an exception is made of these parts.
-/

namespace Stencil.Run

open Script

/-- What the text of an exception is made of. -/
inductive Wording where
  | plain (value : Value)
  | displayed (value : Value)
  /-- The number and the message of an error of the system, and the files that it is about. -/
  | system (number message : Value) (files : List Value)
  /-- The message of a group, and the number of its exceptions. -/
  | group (message : Value) (count : Nat)

/-- The errors of the system that have a kind of their own, by their numbers. -/
def systemErrors : List (Int × ExceptionKind) :=
  [(1, .permissionError), (2, .fileNotFoundError), (3, .processLookupError),
    (4, .interruptedError), (10, .childProcessError), (11, .blockingIOError),
    (13, .permissionError), (17, .fileExistsError), (20, .notADirectoryError),
    (21, .isADirectoryError), (32, .brokenPipeError), (103, .connectionAbortedError),
    (104, .connectionResetError), (108, .brokenPipeError), (110, .timeoutError),
    (111, .connectionRefusedError), (114, .blockingIOError), (115, .blockingIOError)]

namespace ExceptionKind

/-- A kind of groups of exceptions. -/
def isGroup (kind : ExceptionKind) : Bool :=
  kind == .exceptionGroup || kind == .baseExceptionGroup

/-- The arguments of an error of the system are its parts. -/
def hasSystemParts (kind : ExceptionKind) (arguments : List Value) : Bool :=
  kind.isBelow .osError && 2 ≤ arguments.length && arguments.length ≤ 5

/-- The files that an error of the system is about; only with a first one there is a second. -/
def files (kind : ExceptionKind) (arguments : List Value) : List Value :=
  if kind.hasSystemParts arguments then
    match arguments.drop 2 with
    | [] | .nothing :: _ => []
    | first :: rest =>
        if kind == .blockingIOError && first.int?.isSome then []
        else
          match rest.drop 1 with
          | [] | .nothing :: _ => [first]
          | second :: _ => [first, second]
  else []

/-- The arguments that an exception shows: files, and the exceptions that a group has gathered,
stand apart from them. -/
def shown (kind : ExceptionKind) (arguments : List Value) : List Value :=
  if kind.isGroup || !(kind.files arguments).isEmpty then arguments.take 2 else arguments

/-- The exceptions of a group. -/
def gathered (arguments : List Value) : List Value :=
  match arguments.drop 2 with
  | .tuple exceptions :: _ => exceptions
  | _ => []

/-- What the text of an exception is made of. -/
def wording (kind : ExceptionKind) (arguments : List Value) : Wording :=
  match kind, arguments with
  | .keyError, [key] => .displayed key
  | kind, arguments =>
      if kind.isBelow .syntaxError then .plain (arguments.headD .nothing)
      else if kind.isGroup then
        .group (arguments.headD .nothing) (gathered arguments).length
      else
        match arguments with
        | [] => .plain (.string [])
        | [only] => .plain only
        | number :: message :: _ =>
            if kind.hasSystemParts arguments then
              .system number message (kind.files arguments)
            else .displayed (.tuple arguments)

/-- A part of an exception that is an attribute. -/
def field? (kind : ExceptionKind) (arguments : List Value) (name : Name) : Option Value :=
  let isAsked (field : String) : Bool := name == text field
  if isAsked "args" then some (.tuple (kind.shown arguments))
  else if kind.isGroup then
    if isAsked "message" then arguments.head?
    else if isAsked "exceptions" then some (.tuple (gathered arguments))
    else none
  else if kind == .stopIteration && isAsked "value" then some (arguments.headD .nothing)
  else if kind == .systemExit && isAsked "code" then
    match arguments with
    | [] => some .nothing
    | [only] => some only
    | several => some (.tuple several)
  else if kind.isBelow .syntaxError && isAsked "msg" then some (arguments.headD .nothing)
  else if kind.isBelow .importError && isAsked "msg" then
    match arguments with
    | [only] => some only
    | _ => some .nothing
  else if kind.isBelow .osError then
    let part (place : Nat) : Value :=
      if kind.hasSystemParts arguments then (arguments[place]?).getD .nothing else .nothing
    if isAsked "errno" then some (part 0)
    else if isAsked "strerror" then some (part 1)
    else if isAsked "filename" then some (((kind.files arguments)[0]?).getD .nothing)
    else if isAsked "filename2" then some (((kind.files arguments)[1]?).getD .nothing)
    else none
  else none

end ExceptionKind

end Stencil.Run
