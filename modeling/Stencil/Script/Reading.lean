import Stencil.Script.Grammar.Statement
import Stencil.Script.Names
import Stencil.Script.WalkDepth
import Stencil.Text.Quoted

/-! # Reading a source text

A source text is read as a program after it has been looked at as a whole: a
lone surrogate cannot be part of it, and neither can the code point zero.
-/

namespace Stencil.Script

/-- Why a source text is no program. -/
inductive SourceFault where
  /-- It does not follow the grammar, or a statement stands where it may not. -/
  | malformed
  /-- It holds lone surrogates; the first run of them has a start and a length. -/
  | surrogates (first : CodePoint) (start length : Nat)
  | nullPoint
  | deepTree
  /-- Its tree is too deep to be walked over. -/
  | deepWalk
  deriving DecidableEq, Repr

/-- The wording of a fault that is not about grammar. -/
def SourceFault.message : SourceFault → Text
  | .malformed => text "invalid syntax"
  | .surrogates first start length =>
      let place :=
        if length = 1 then
          text "character '" ++ Text.numericEscape first ++ text "' in position " ++
            natText 10 start
        else
          text "characters in position " ++ natText 10 start ++ text "-" ++
            natText 10 (start + length - 1)
      text "'utf-8' codec can't encode " ++ place ++ text ": surrogates not allowed"
  | .nullPoint => text "source code string cannot contain null bytes"
  | .deepTree => text "maximum recursion depth exceeded during ast construction"
  | .deepWalk => text "maximum recursion depth exceeded"

/-- The program that a source text spells. -/
def readProgram (source : Text) : Except SourceFault Program :=
  match source.findIdx? CodePoint.isSurrogate with
  | some start =>
      let run := (source.drop start).takeWhile CodePoint.isSurrogate
      .error (.surrogates (source.getD start 0) start run.length)
  | none =>
      if source.contains 0 then .error .nullPoint
      else
        match parse? source with
        | some program => .ok program
        | none => .error .malformed

/-- The names of a program that is not too deep for the walk that gathers them. -/
def gatherNames (program : Program) : Except SourceFault NameUse :=
  if programDepth program ≤ walkLimit then .ok (NameUse.ofProgram program)
  else .error (if programDepth program ≤ treeLimit then .deepWalk else .deepTree)

end Stencil.Script
