/-! # TOML values

The values of a TOML document. A number that cannot be made out is a value as well: it counts
against a document only where the document is asked for it.
-/
set_option autoImplicit false
namespace Handheld.Toml

inductive Value
  | text (content : String)
  | integer (n : Int)
  | float
  /-- A number that denotes nothing or is beyond every size. -/
  | unreadable
  | boolean (b : Bool)
  | moment
  | array (items : List Value)
  | table (fields : List (String × Value))

mutual

def Value.readable : Value → Bool
  | .text _ | .integer _ | .float | .boolean _ | .moment => true
  | .unreadable => false
  | .array items => itemsReadable items
  | .table fields => fieldsReadable fields

def itemsReadable : List Value → Bool
  | [] => true
  | item :: rest => item.readable && itemsReadable rest

def fieldsReadable : List (String × Value) → Bool
  | [] => true
  | (_, field) :: rest => field.readable && fieldsReadable rest

end

end Handheld.Toml
