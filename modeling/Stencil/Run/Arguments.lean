import Stencil.Run.Subscript

/-! # Arguments of public functions

A public function either takes a number of arguments by position, or has parameters
with names. The binding of arguments to parameters refuses too many arguments first,
then too few positions, then parameters without an argument, and last the names that
no parameter has.
-/

namespace Stencil.Run

open Script

/-- The arguments of a call. -/
structure Arguments where
  positional : List Value
  named : List (Name × Value)

namespace Arguments

/-- There are no arguments by name. -/
def requireUnnamed (callee : Text) (arguments : Arguments) : Action Unit :=
  if arguments.named.isEmpty then pure () else complain (.noKeywords callee)

/-- There are no arguments at all. -/
def requireNone (callee : Text) (arguments : Arguments) : Action Unit := do
  arguments.requireUnnamed callee
  if arguments.positional.isEmpty then pure ()
  else complain (.noArguments callee arguments.positional.length)

/-- The only argument. -/
def single (callee : Text) (arguments : Arguments) : Action Value := do
  arguments.requireUnnamed callee
  match arguments.positional with
  | [only] => return only
  | others => complain (.oneArgument callee others.length)

/-- Arguments by position between two numbers. -/
def between (callee : Text) (least most : Nat) (positional : List Value) : Action Unit :=
  let given := positional.length
  if least = most && given ≠ least then complain (.exactly callee least given)
  else if given < least then complain (.atLeast callee least given)
  else if most < given then complain (.atMost callee most given)
  else pure ()

end Arguments

/-- The parameters of a public function. -/
structure Signature where
  callee : Text
  /-- The number of parameters without a name, which come first. -/
  unnamed : Nat
  names : List String
  /-- The number of arguments that may be given by position. -/
  positions : Nat
  /-- The number of parameters that need an argument, which come first. -/
  needed : Nat

namespace Signature

/-- Too many arguments are given. -/
def tooMany (signature : Signature) (arguments : Arguments) : Complaint :=
  let most := signature.unnamed + signature.names.length
  let sort := if arguments.positional.isEmpty then text "keyword " else []
  .call signature.callee (text "takes at most " ++ natText 10 most ++ text " " ++ sort ++
    text "argument" ++ Complaint.plural most ++ text " (" ++
    natText 10 (arguments.positional.length + arguments.named.length) ++ text " given)")

/-- The wrong number of arguments is given by position. -/
def wrongPositions (signature : Signature) (manner : String) (count given : Nat) : Complaint :=
  .call signature.callee (text "takes " ++ text manner ++ text " " ++ natText 10 count ++
    text " positional argument" ++ Complaint.plural count ++ text " (" ++ natText 10 given ++
    text " given)")

/-- A parameter gets no argument. -/
def lacking (signature : Signature) (name : String) (position : Nat) : Complaint :=
  .call signature.callee (text "missing required argument " ++ Complaint.marked (text name) ++
    text " (pos " ++ natText 10 position ++ text ")")

/-- A named argument has no parameter, or one that has an argument already. -/
def unwanted (signature : Signature) (positions : Nat) (name : Name) : Complaint :=
  let place :=
    (signature.names.findIdx? fun known => text known == name).map (· + signature.unnamed + 1)
  match place with
  | some place =>
      if place ≤ positions then
        ⟨.typeError, text "argument for " ++ signature.callee ++ text "() given by name (" ++
          Complaint.marked name ++ text ") and position (" ++ natText 10 place ++ text ")"⟩
      else
        ⟨.typeError, Complaint.marked name ++ text " is an invalid keyword argument for " ++
          signature.callee ++ text "()"⟩
  | none =>
      ⟨.typeError, Complaint.marked name ++ text " is an invalid keyword argument for " ++
        signature.callee ++ text "()"⟩

/-- The arguments of named parameters from a position on. -/
def bindNamed (signature : Signature) (named : List (Name × Value)) (given : List Value) :
    Nat → List String → Action (List (Option Value))
  | _, [] => return []
  | position, name :: names => do
      let found :=
        if position ≤ given.length then given[position - 1]? else named.lookup (text name)
      if found.isNone && position ≤ signature.needed then
        complain (signature.lacking name position)
      else return found :: (← bindNamed signature named given (position + 1) names)

/-- The argument of each parameter. -/
def bind (signature : Signature) (arguments : Arguments) : Action (List (Option Value)) := do
  let given := arguments.positional.length
  let unnamedNeeded := min signature.unnamed signature.needed
  if signature.unnamed + signature.names.length < given + arguments.named.length then
    complain (signature.tooMany arguments)
  else if signature.positions < given then
    complain (signature.wrongPositions "at most" signature.positions given)
  else if given < unnamedNeeded then
    complain (signature.wrongPositions
      (if unnamedNeeded < signature.positions then "at least" else "exactly") unnamedNeeded given)
  else
    let first := (List.range signature.unnamed).map fun place => arguments.positional[place]?
    let others ← signature.bindNamed arguments.named arguments.positional
      (signature.unnamed + 1) signature.names
    let wanted (entry : Name × Value) : Bool :=
      match signature.names.findIdx? fun known => text known == entry.1 with
      | some place => given < place + signature.unnamed + 1
      | none => false
    match arguments.named.find? fun entry => !wanted entry with
    | some entry => complain (signature.unwanted given entry.1)
    | none => return first ++ others

end Signature

/-- The argument as a whole number. -/
def wholeArgument (value : Value) : Action Int := do
  match value.int? with
  | some number => return number
  | none => complainOf .notInteger value

/-- The argument as a whole number of moderate size. -/
def smallArgument (value : Value) : Action Int := do
  let number ← wholeArgument value
  if fitsPlace number then return number else complain .sizeTooLarge

end Stencil.Run
