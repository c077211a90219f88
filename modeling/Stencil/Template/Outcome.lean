import Stencil.Run.Display

/-! # Outcomes

What a caller gets to see of a run: an output, another value by its kind, or the kind
and the message of an exception.
-/

namespace Stencil

open Run

/-- What a caller sees of a run. -/
inductive Outcome where
  | output (content : Text)
  /-- A value of another kind, with its notation if the kind has one. -/
  | returned (kind : Text) (shown : Option Text)
  | failed (kind message : Text)
  /-- An exception about the form of a program, which is shown without a message. -/
  | misshapen
  | unanswered (reason : String)
  deriving DecidableEq, Repr

namespace Outcome

/-- The kinds whose values are shown. -/
def isShown : Kind → Bool
  | .nothing | .bool | .int | .list | .tuple | .dict => true
  | _ => false

/-- A complaint as an outcome. -/
def ofComplaint (complaint : Complaint) : Outcome :=
  .failed (text complaint.kind.label) complaint.message

/-- What a caller sees of a value. -/
def ofValue (store : Store) (value : Value) : Outcome :=
  match value with
  | .string content => .output content
  | other =>
      let kind := other.kindIn store
      if isShown kind then
        match other.display store with
        | .ok shown => .returned (text kind.label) (some shown)
        | .error complaint => ofComplaint complaint
      else .returned (text kind.label) none

/-- What a caller sees of a run that stops. -/
def ofStop (store : Store) : Stop → Outcome
  | .raised address =>
      let kind := (Value.ref address).kindIn store
      if kind.isBelow (.exception .syntaxError) then .misshapen
      else
        match (Value.ref address).textIn store with
        | .ok message => .failed (text kind.label) message
        | .error complaint => ofComplaint complaint
  | .unfinished => .unanswered "the run does not end"
  | .unsupported part => .unanswered part

end Outcome

end Stencil
