import Stencil.Run.Basic

/-! # Names in a run

A name belongs to the innermost layer that owns it, and to the program where a layer
declares so or no layer owns it. A name of the program that has no value may still be
public. What is missing is reported by where the name belongs.
-/

namespace Stencil.Run

open Script

/-- Where a name belongs. -/
inductive Home where
  | running (frame : Address)
  | enclosing (frame : Address)
  | program
  deriving DecidableEq, Repr

/-- Where a name belongs outside the running function. -/
def homeAround (name : Name) : List Layer → Home
  | [] => .program
  | layer :: outer =>
      if layer.declared.contains name then .program
      else if layer.own.contains name then .enclosing layer.frame
      else homeAround name outer

/-- Where a name belongs. -/
def Scene.home (scene : Scene) (name : Name) : Home :=
  match scene.layers with
  | [] => .program
  | layer :: outer =>
      if layer.declared.contains name then .program
      else if layer.own.contains name then .running layer.frame
      else homeAround name outer

/-- The frame in which a name is kept. -/
def Scene.frameOf (scene : Scene) (name : Name) : Address :=
  match scene.home name with
  | .running frame | .enclosing frame => frame
  | .program => scene.globals

/-- The value of a name in the frame at an address. -/
def valueInFrame (frame : Address) (name : Name) : Action (Option Value) := do
  match ← load frame with
  | .frame slots => return slots.lookup name
  | _ => return none

/-- The value of a name of the program. -/
def readProgramName (scene : Scene) (name : Name) : Action Value := do
  match (← valueInFrame scene.globals name).or (publicValue? name) with
  | some value => return value
  | none => complain (.undefined name)

/-- The value of a name. -/
def readName (scene : Scene) (name : Name) : Action Value := do
  match scene.home name with
  | .running frame =>
      match ← valueInFrame frame name with
      | some value => return value
      | none => complain (.unboundLocal name)
  | .enclosing frame =>
      match ← valueInFrame frame name with
      | some value => return value
      | none => complain (.unboundFree name)
  | .program => readProgramName scene name

/-- The slots with a value for a name. -/
def insertSlot (name : Name) (value : Value) : List (Name × Value) → List (Name × Value)
  | [] => [(name, value)]
  | slot :: rest =>
      if slot.1 == name then (name, value) :: rest else slot :: insertSlot name value rest

/-- A name gets a value. -/
def bindName (scene : Scene) (name : Name) (value : Value) : Action Unit :=
  change (scene.frameOf name) fun
    | .frame slots => .frame (insertSlot name value slots)
    | other => other

/-- A name loses its value if it has one. -/
def clearName (scene : Scene) (name : Name) : Action Unit :=
  change (scene.frameOf name) fun
    | .frame slots => .frame (slots.filter fun slot => slot.1 != name)
    | other => other

/-- A name loses the value that it has. -/
def unbindName (scene : Scene) (name : Name) : Action Unit := do
  match ← valueInFrame (scene.frameOf name) name with
  | some _ => clearName scene name
  | none =>
      match scene.home name with
      | .running _ => complain (.unboundLocal name)
      | .enclosing _ => complain (.unboundFree name)
      | .program => complain (.undefined name)

/-- Names get their values one after the other. -/
def bindNames (scene : Scene) : List (Name × Value) → Action Unit
  | [] => return ()
  | (name, value) :: rest => do
      bindName scene name value
      bindNames scene rest

end Stencil.Run
