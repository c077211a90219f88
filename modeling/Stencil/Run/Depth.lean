import Stencil.Run.Generator

/-! # The depth of a run

A call runs one level deeper than its caller, and the number of levels is limited. An
engine of some depth does its work with an engine of the depth below, so every run
ends, and a run that needs one level more than there are ends with an exception.
-/

namespace Stencil.Run

open Script

/-- There are no further levels for something. -/
def tooDeep {α : Type} (activity : String) : Action α := complain (.nesting activity)

/-- A call for which there are no further levels; functions that are not of the program say so. -/
def callTooDeep (callee : Value) : Action Value :=
  match callee with
  | .builtin .written | .ref _ => tooDeep ""
  | _ => tooDeep " while calling a Python object"

/-- A value whose text needs no level of its own. -/
def hasOwnText : List Value → Bool
  | [.string _] | [.nothing] => true
  | _ => false

/-- A call with a few levels left: the text of a value needs one more than its function. -/
def callShallow (below : Engine) (callee : Value) (positional : List Value)
    (named : List (Name × Value)) : Action Value :=
  match callee with
  | .builtin .written =>
      if hasOwnText positional then callValue below callee positional named
      else tooDeep " while getting the str of an object"
  | _ => callValue below callee positional named

/-- The engine with some levels below. -/
def Engine.ofDepth : Nat → Engine
  | 0 =>
      { call := fun callee _ _ => callTooDeep callee
        draw := fun _ => tooDeep ""
        expression := fun _ _ => tooDeep ""
        assign := fun _ _ _ => tooDeep ""
        body := fun _ _ => tooDeep ""
        resume := fun _ _ _ _ => tooDeep "" }
  | depth + 1 =>
      let below := Engine.ofDepth depth
      { call := if depth < 2 then callShallow below else callValue below
        draw := Run.draw below
        expression := evaluate below
        assign := assignTarget below
        body := runBody below
        resume := Run.resume below }

/-- The number of levels of a run; a call takes two. -/
def depthLimit : Nat := 1984

/-- The engine of a run. -/
def Engine.standard : Engine := Engine.ofDepth depthLimit

end Stencil.Run
