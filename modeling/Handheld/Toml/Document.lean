import Handheld.Toml.Key
import Handheld.Toml.Scalar
import Handheld.Toml.Tree

/-! # Documents

A document is a sequence of lines: assignments, headers of tables and headers of series of tables.
An array or a table written in place may hold others, up to a fixed depth, and may be spread over
lines.
-/
set_option autoImplicit false
namespace Handheld.Toml

def maxDepth : Nat := 80

mutual

/-- A value at the start, with the fuel for it and the depth that is left for nesting. -/
def valueWithin : Nat → Nat → List Char → Option (Value × List Char)
  | 0, _, _ => none
  | fuel + 1, depth, cs =>
    match cs with
    | '[' :: rest =>
      if depth = 0 then none
      else do
        let (items, rest) ← itemsWithin fuel (depth - 1) [] rest
        return (.array items, rest)
    | '\x7b' :: rest =>
      if depth = 0 then none
      else do
        let (fields, rest) ← entriesWithin fuel (depth - 1) [] rest
        return (.table (finishFields fields), rest)
    | '"' :: _ | '\'' :: _ => (quoted? cs).map fun (content, rest) => (.text content, rest)
    | _ => scalar? cs

def itemsWithin : Nat → Nat → List Value → List Char → Option (List Value × List Char)
  | 0, _, _, _ => none
  | fuel + 1, depth, items, cs => do
    match ← skipLines false cs with
    | ']' :: rest => return (items.reverse, rest)
    | cs =>
      let (item, rest) ← valueWithin fuel depth cs
      match ← skipLines false rest with
      | ']' :: rest => return ((item :: items).reverse, rest)
      | ',' :: rest => itemsWithin fuel depth (item :: items) rest
      | _ => none

/-- The entries of a table written in place, up to its closing brace. Lines may end around a path
and a value, but not within a path. -/
def entriesWithin : Nat → Nat → Fields → List Char → Option (Fields × List Char)
  | 0, _, _, _ => none
  | fuel + 1, depth, fields, cs => do
    match ← skipLines false cs with
    | '\x7d' :: rest => return (fields, rest)
    | cs =>
      let (path, rest) ← path? cs
      match ← skipLines false rest with
      | '=' :: rest =>
        let (value, rest) ← valueWithin fuel depth (← skipLines false rest)
        let fields ← assign path value fields
        match ← skipLines false rest with
        | '\x7d' :: rest => return (fields, rest)
        | ',' :: rest => entriesWithin fuel depth fields rest
        | _ => none
      | _ => none

end

def value? (cs : List Char) : Option (Value × List Char) :=
  valueWithin (2 * cs.length + 2) maxDepth cs

structure Draft where
  root : Fields
  header : List String

def header? (draft : Draft) (cs : List Char) : Option (Draft × List Char) :=
  match cs with
  | '[' :: rest => do
    let (path, rest) ← path? rest
    match rest with
    | ']' :: ']' :: rest =>
      let root ← openAt openSeries path draft.root
      return (⟨root, path⟩, ← endLine false rest)
    | _ => none
  | _ => do
    let (path, rest) ← path? cs
    match rest with
    | ']' :: rest =>
      let root ← openAt openTable path draft.root
      return (⟨root, path⟩, ← endLine false rest)
    | _ => none

def assignment? (draft : Draft) (cs : List Char) : Option (Draft × List Char) := do
  let (path, rest) ← path? cs
  match rest with
  | '=' :: rest =>
    let (value, rest) ← value? (skipBlanks rest)
    let root ← descend (assign path value) draft.header draft.root
    return ({ draft with root }, ← endLine false rest)
  | _ => none

def linesWithin : Nat → Draft → List Char → Option Draft
  | 0, _, _ => none
  | fuel + 1, draft, cs => do
    match ← skipLines false cs with
    | [] => return draft
    | '[' :: rest =>
      let (draft, rest) ← header? draft rest
      linesWithin fuel draft rest
    | cs =>
      let (draft, rest) ← assignment? draft cs
      linesWithin fuel draft rest

/-- The root table of a document; a mark of the byte order at its start does not count. -/
def parse? (document : String) : Option Value :=
  let cs := match document.toList with
    | '\ufeff' :: rest => rest
    | cs => cs
  (linesWithin (cs.length + 1) ⟨[], []⟩ cs).map fun draft => .table (finishFields draft.root)

end Handheld.Toml
