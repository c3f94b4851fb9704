import Stencil.Value.Basic

/-!
Tables under construction. A table comes to be by a header of its own, as a step on the way to another
header's table, or by a dotted key; what may be added to it later depends on that. A table that was only
a step may get its own header later, and then counts as new.
-/
namespace Stencil.Toml

/-- How a table came to be: not by a header of its own, and by a dotted key. -/
structure Origin where
  implicit : Bool
  dotted : Bool
deriving DecidableEq

def Origin.header : Origin := ⟨false, false⟩

inductive Item where
  | value (value : Value)
  | table (origin : Origin) (members : List (String × Item))
  | tables (elements : List (List (String × Item)))

abbrev Members := Fields Item

mutual

def Item.toValue : Item → Value
  | .value value => value
  | .table _ members => .object (membersToValue members)
  | .tables elements => .array (elementsToValue elements)

def membersToValue : List (String × Item) → List (String × Value)
  | [] => []
  | (name, item) :: rest => (name, item.toValue) :: membersToValue rest

def elementsToValue : List (List (String × Item)) → List Value
  | [] => []
  | members :: rest => .object (membersToValue members) :: elementsToValue rest

end

/-- Change the table at the end of the path, making the tables on the way that do not exist yet. Of an
array of tables the last one is entered. A dotted key enters no table that has a header. -/
def changeAt (dotted : Bool) (change : Origin → Members → Option Members) :
    List String → Origin → Members → Option Members
  | [], origin, members => change origin members
  | key :: path, _, members =>
    match Fields.get? members key with
    | none => do
      let origin : Origin := ⟨true, dotted⟩
      let inner ← changeAt dotted change path origin []
      return Fields.put members key (.table origin inner)
    | some (.value _) => none
    | some (.tables elements) => do
      let inner ← changeAt dotted change path .header (elements.getLast?.getD [])
      return Fields.put members key (.tables (elements.dropLast ++ [inner]))
    | some (.table origin inner) =>
      if dotted && !origin.implicit then none
      else do
        let inner ← changeAt dotted change path origin inner
        return Fields.put members key (.table origin inner)

/-- Add a member under a key that may be dotted. Only tables made by dotted keys take such members. -/
def addMember (path : List String) (key : String) (item : Item) (members : Members) :
    Option Members :=
  changeAt true (fun origin inner =>
    if origin.dotted == path.isEmpty || Fields.has inner key then none
    else some (Fields.put inner key item)) path .header members

/-- The table that a header speaks of, and the members that are given to it. -/
structure Section where
  path : List String
  key : String
  isElement : Bool
  members : Members

structure Draft where
  root : Members
  current : Option Section

/-- Put the table of the current header in its place. -/
def Draft.close (draft : Draft) : Option Members :=
  match draft.current with
  | none => some draft.root
  | some part =>
    changeAt false (fun _ parent =>
      if part.isElement then
        match Fields.get? parent part.key with
        | none => some (Fields.put parent part.key (.tables [part.members]))
        | some (.tables elements) =>
            some (Fields.put parent part.key (.tables (elements ++ [part.members])))
        | some _ => none
      else if Fields.has parent part.key then none
      else some (Fields.put parent part.key (.table .header part.members)))
      part.path .header draft.root

/-- What a table that was only a step on the way holds already. -/
def stepMembers (path : List String) (key : String) (members : Members) : Members :=
  match path with
  | [] =>
    match Fields.get? members key with
    | some (.table _ inner) => inner
    | _ => []
  | step :: path =>
    match Fields.get? members step with
    | some (.table _ inner) => stepMembers path key inner
    | some (.tables elements) => stepMembers path key (elements.getLast?.getD [])
    | _ => []

/-- The header of a table. One that exists may only have been a step, and moves to the end. -/
def Draft.openTable (draft : Draft) (path : List String) (key : String) : Option Draft := do
  let root ← draft.close
  let without ← changeAt false (fun _ parent =>
    match Fields.get? parent key with
    | none => some parent
    | some (.table origin _) =>
        if origin.implicit && !origin.dotted then some (Fields.erase parent key) else none
    | some _ => none) path .header root
  return ⟨without, some ⟨path, key, false, stepMembers path key root⟩⟩

/-- The header of an element of an array of tables. -/
def Draft.openElement (draft : Draft) (path : List String) (key : String) : Option Draft := do
  let root ← draft.close
  let root ← changeAt false (fun _ parent =>
    match Fields.get? parent key with
    | none => some (Fields.put parent key (.tables []))
    | some (.tables _) => some parent
    | some _ => none) path .header root
  return ⟨root, some ⟨path, key, true, []⟩⟩

def Draft.addMember (draft : Draft) (path : List String) (key : String) (item : Item) :
    Option Draft :=
  match draft.current with
  | none => do
    let root ← Toml.addMember path key item draft.root
    return { draft with root }
  | some part => do
    let members ← Toml.addMember path key item part.members
    return { draft with current := some { part with members } }

end Stencil.Toml
