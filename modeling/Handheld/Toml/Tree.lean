import Handheld.Toml.Value

/-! # Tables under construction

A document builds its tables piece by piece. How a table came about decides whether it may still
grow: a header may fill in a table that so far was only passed through, dotted keys may extend a
table that dotted keys made, and a written value is closed.
-/
set_option autoImplicit false
namespace Handheld.Toml

inductive Origin
  | passed
  | dotted
  | headed
  deriving DecidableEq

inductive Node
  | value (value : Value)
  | table (origin : Origin) (fields : List (String × Node))
  /-- Tables under one double-bracketed header, the last one open. -/
  | series (tables : List (List (String × Node)))

abbrev Fields := List (String × Node)

def Fields.find? (fields : Fields) (key : String) : Option Node :=
  (List.find? (fun entry => entry.1 == key) fields).map Prod.snd

def Fields.put (fields : Fields) (key : String) (node : Node) : Fields :=
  match fields with
  | [] => [(key, node)]
  | entry :: rest =>
    if entry.1 = key then (key, node) :: rest else entry :: Fields.put rest key node

def changeLast (change : Fields → Option Fields) : List Fields → Option (List Fields)
  | [] => none
  | [last] => (change last).map ([·])
  | first :: rest => (changeLast change rest).map (first :: ·)

/-- Gives a value to a path of keys below a table. All but the last key name tables that no header
has made; a dotted key adds only to a table of dotted keys. -/
def assign (path : List String) (value : Value) (fields : Fields) : Option Fields :=
  match path with
  | [] => none
  | [key] => if (fields.find? key).isSome then none else some (fields.put key (.value value))
  | key :: next :: rest =>
    match fields.find? key with
    | none =>
      (assign (next :: rest) value []).map fun inner => fields.put key (.table .dotted inner)
    | some (.table .dotted inner) =>
      (assign (next :: rest) value inner).map fun inner => fields.put key (.table .dotted inner)
    | some (.table .passed inner) =>
      if rest.isEmpty then none
      else
        (assign (next :: rest) value inner).map fun inner => fields.put key (.table .passed inner)
    | some (.series tables) =>
      if rest.isEmpty then none
      else
        (changeLast (assign (next :: rest) value) tables).map fun tables =>
          fields.put key (.series tables)
    | some (.table .headed _) | some (.value _) => none

/-- Changes the table that a header path leads to, passing through tables of any origin and
through the last table of a series. -/
def descend (change : Fields → Option Fields) (path : List String) (fields : Fields) :
    Option Fields :=
  match path with
  | [] => change fields
  | key :: rest =>
    match fields.find? key with
    | none => (descend change rest []).map fun inner => fields.put key (.table .passed inner)
    | some (.table origin inner) =>
      (descend change rest inner).map fun inner => fields.put key (.table origin inner)
    | some (.series tables) =>
      (changeLast (descend change rest) tables).map fun tables => fields.put key (.series tables)
    | some (.value _) => none

/-- Opens the table of a header. Only a table that was merely passed through may exist already. -/
def openTable (key : String) (fields : Fields) : Option Fields :=
  match fields.find? key with
  | none => some (fields.put key (.table .headed []))
  | some (.table .passed inner) => some (fields.put key (.table .headed inner))
  | some _ => none

def openSeries (key : String) (fields : Fields) : Option Fields :=
  match fields.find? key with
  | none => some (fields.put key (.series [[]]))
  | some (.series tables) => some (fields.put key (.series (tables ++ [[]])))
  | some _ => none

def openAt (opener : String → Fields → Option Fields) (path : List String) (fields : Fields) :
    Option Fields :=
  match path.getLast? with
  | none => none
  | some key => descend (opener key) path.dropLast fields

mutual

def Node.finish : Node → Value
  | .value value => value
  | .table _ fields => .table (finishFields fields)
  | .series tables => .array (finishTables tables)

def finishFields : List (String × Node) → List (String × Value)
  | [] => []
  | (key, node) :: rest => (key, node.finish) :: finishFields rest

def finishTables : List (List (String × Node)) → List Value
  | [] => []
  | fields :: rest => .table (finishFields fields) :: finishTables rest

end

end Handheld.Toml
