import Stencil.Script.Scope

/-! # Declarations of names

Which uses of a name a scope allows depends on the uses before them: a name is not
declared global or nonlocal after it has been used, a parameter is named once, and
what a comprehension iterates is assigned to by nothing else inside it. A
nonlocal name has to live in a function around its scope. A private name inside a
class is another one than the same name outside of it.
-/

namespace Stencil.Script

/-- The mark of a private name, which begins with it and does not end with it. -/
def privateMark : Name := text "__"

/-- The name that a name inside a class stands for; a class whose name is all underscores has
no private names. -/
def privateName (owner : Option Name) (name : Name) : Name :=
  let bare := (owner.getD []).dropWhile fun point => text "_" == [point]
  if privateMark.isPrefixOf name && !privateMark.isSuffixOf name && !bare.isEmpty then
    text "_" ++ bare ++ name
  else name

/-- The name of what stands for the class above one. -/
def classAboveName : Name := text "super"

/-- The name of the class around a function, for the function. -/
def classAroundName : Name := text "__class__"

/-- What has happened to a name in a scope so far. -/
structure NameStatus where
  isParameter : Bool
  isBound : Bool
  isImported : Bool
  isRead : Bool
  isHinted : Bool
  isGlobal : Bool
  /-- It is declared to belong to an enclosing function. -/
  isNonlocal : Bool
  isIterated : Bool
  deriving DecidableEq, Repr

namespace NameStatus

/-- A name that has not been used. -/
def unused : NameStatus := ⟨false, false, false, false, false, false, false, false⟩

/-- The name is declared to live in another scope. -/
def isElsewhere (status : NameStatus) : Bool := status.isGlobal || status.isNonlocal

/-- The name can no longer be declared. -/
def isSettled (status : NameStatus) : Bool :=
  status.isParameter || status.isBound || status.isRead || status.isHinted

/-- The status after one more use in some role. -/
def after (status : NameStatus) : NameRole → NameStatus
  | .read => { status with isRead := true }
  | .bind => { status with isBound := true }
  | .imported => { status with isImported := true }
  | .parameter => { status with isParameter := true }
  | .hinted => { status with isHinted := true, isBound := true }
  | .declaredGlobal => { status with isGlobal := true }
  | .declaredNonlocal => { status with isNonlocal := true }

/-- The name gets a value in the scope. -/
def isOccupied (status : NameStatus) : Bool :=
  status.isParameter || status.isBound || status.isImported

end NameStatus

/-- The names of a scope with their status. -/
abbrev NameTable := List (Name × NameStatus)

namespace NameTable

/-- The status of a name. -/
def status (table : NameTable) (name : Name) : NameStatus :=
  (table.lookup name).getD .unused

/-- The table with another status for a name. -/
def update (table : NameTable) (name : Name) (status : NameStatus) : NameTable :=
  (name, status) :: table.filter fun entry => entry.1 != name

/-- The table after a use of a name; a use in what a comprehension iterates marks it. -/
def use (table : NameTable) (role : NameRole) (name : Name) (inTarget : Bool) :
    Option NameTable :=
  let earlier := table.status name
  let status := earlier.after role
  if role = .parameter && earlier.isParameter then none
  else if inTarget then
    if status.isElsewhere then none
    else some (table.update name { status with isIterated := true })
  else some (table.update name status)

end NameTable

/-- A scope with the table of its names and the scopes inside it. -/
inductive ScopeTable where
  /-- The kind of the scope, its names, and the scopes inside it. -/
  | mk (kind : ScopeKind) (names : NameTable) (inner : List ScopeTable)

/-- A scope that is still being read. -/
structure OpenScope where
  kind : ScopeKind
  /-- The name of the innermost class that the scope is or is in. -/
  owner : Option Name
  names : NameTable
  /-- The scopes inside it so far, the last one first. -/
  inner : List ScopeTable

namespace OpenScope

/-- The start of a scope that opens inside another one. -/
def opened (kind : ScopeKind) (outer : Option OpenScope) : OpenScope :=
  let owner :=
    match kind with
    | .ofClass name => some name
    | _ => outer.bind OpenScope.owner
  ⟨kind, owner, [], []⟩

/-- The scope after a use of a name. -/
def useOnly (scope : OpenScope) (role : NameRole) (name : Name) (around : Surroundings) :
    Option OpenScope := do
  let known := privateName scope.owner name
  let earlier := scope.names.status known
  let refused : Bool :=
    match role with
    | .declaredGlobal | .declaredNonlocal => earlier.isSettled
    | .hinted => earlier.isElsewhere && scope.kind != .program
    | _ => false
  if refused then none
  else return { scope with names := ← scope.names.use role known around.inTarget }

/-- The scope after a use of a name and of what comes with it: a function that reads the class
above reads the class around it. -/
def use (scope : OpenScope) (role : NameRole) (name : Name) (around : Surroundings) :
    Option OpenScope := do
  let used ← scope.useOnly role name around
  if role = .read && name = classAboveName && scope.kind.isCalled then
    used.useOnly .read classAroundName around
  else return used

/-- The scope after it has been read as a whole. -/
def close (scope : OpenScope) : ScopeTable := .mk scope.kind scope.names scope.inner.reverse

/-- The scope is that of hints. -/
def isHint (scope : OpenScope) : Bool := scope.kind == .hint

/-- No value can be handed to a caller from the scope. -/
def refusesYield (scope : OpenScope) : Bool := scope.kind.isComprehension || scope.isHint

/-- The scope after another one inside it has been read; that of hints leaves no trace. -/
def enclose (scope closed : OpenScope) : OpenScope :=
  if closed.isHint then scope else { scope with inner := closed.close :: scope.inner }

end OpenScope

/-- What an assignment inside a comprehension makes of its name there, and the scopes around
it; the name lands in the first of them that is not a comprehension. The comprehensions are
asked for the name as it is written. -/
def landWalrus (name : Name) : List OpenScope → Option (NameRole × List OpenScope)
  | [] => none
  | scope :: outer =>
      let status := scope.names.status name
      let known := privateName scope.owner name
      match scope.kind with
      | .comprehension _ =>
          if status.isIterated then none
          else (landWalrus name outer).map fun (role, outer) => (role, scope :: outer)
      | .hint => (landWalrus name outer).map fun (role, outer) => (role, scope :: outer)
      | .ofClass _ => none
      | .program => do
          let landed ← scope.names.use .declaredGlobal known false
          return (.declaredGlobal, { scope with names := landed } :: outer)
      | .function _ | .lambda => do
          let landed ← scope.names.use .bind known false
          return (if status.isGlobal then .declaredGlobal else .declaredNonlocal,
            { scope with names := landed } :: outer)

/-- The scopes after an assignment inside an expression of the innermost one has begun. In a
comprehension the name comes from the scope in which it lands. -/
def beginWalrus (name : Name) (around : Surroundings) (scopes : List OpenScope) :
    Option (List OpenScope) := do
  if around.inSource then none
  else if scopes.head?.any OpenScope.isHint then none
  else
    let (innermost, outer) ← scopes.head?.map fun scope => (scope, scopes.tail)
    if innermost.kind.isComprehension then
      let status := innermost.names.status name
      if status.isIterated then none
      else
        let (role, outer) ← landWalrus name outer
        let known := privateName innermost.owner name
        let names ← innermost.names.use role known around.inTarget
        return { innermost with names := names } :: outer
    else
      return scopes

mutual

/-- The scopes after an event of the innermost one. -/
def ScopeEvent.apply (scopes : List OpenScope) : ScopeEvent → Option (List OpenScope)
  | .use role name around =>
      match scopes with
      | [] => none
      | innermost :: outer => (innermost.use role name around).map (· :: outer)
  | .walrus name around => beginWalrus name around scopes
  | .walrusEnds name around =>
      match scopes with
      | [] => none
      | innermost :: outer => (innermost.useOnly .bind name around).map (· :: outer)
  | .importAll => if scopes.head?.map OpenScope.kind = some .program then some scopes else none
  | .yields => if scopes.head?.any OpenScope.refusesYield then none else some scopes
  | .awaits => if scopes.head?.any OpenScope.isHint then none else some scopes
  | .opens (.mk kind events) => do
      match ← applyAll (.opened kind scopes.head? :: scopes) events with
      | closed :: outer :: others => return outer.enclose closed :: others
      | _ => none

/-- The scopes after several events of the innermost one. -/
def applyAll (scopes : List OpenScope) : List ScopeEvent → Option (List OpenScope)
  | [] => some scopes
  | event :: rest => do applyAll (← event.apply scopes) rest

end

/-- The names of a table that pass a test. -/
def NameTable.having (table : NameTable) (test : NameStatus → Bool) : List Name :=
  (table.filter fun entry => test entry.2).map Prod.fst

mutual

/-- Every nonlocal name of a scope and of the scopes inside it lives in a function around its
scope. The names that live around the scope are given unless it is the whole program. -/
def ScopeTable.isResolved (around : Option (List Name)) : ScopeTable → Bool
  | .mk kind names inner =>
      let known := around.getD []
      let declared := names.having (·.isGlobal)
      let passed := known.filter fun name => !declared.contains name
      let own := names.having fun status => status.isOccupied && !status.isElsewhere
      let handedOn :=
        match kind with
        | .ofClass _ => classAroundName :: known
        | .program => passed
        | _ => own ++ passed
      (names.all fun (name, status) =>
        !(status.isGlobal && status.isNonlocal) && (!status.isNonlocal || known.contains name)) &&
      areResolved handedOn inner

/-- Every nonlocal name of several scopes lives in a function around its scope. -/
def areResolved (around : List Name) : List ScopeTable → Bool
  | [] => true
  | first :: rest => first.isResolved (some around) && areResolved around rest

end

/-- The declarations of a program agree with how it uses its names. -/
def declaresConsistently (program : Program) : Bool :=
  match applyAll [.opened .program none] (stmtsScopeEvents program) with
  | some [scope] => scope.close.isResolved none
  | _ => false

end Stencil.Script
