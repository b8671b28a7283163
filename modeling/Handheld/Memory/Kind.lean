/-! # Kinds of memory region

A program names a region by a one-byte code with a single bit set.
-/
set_option autoImplicit false
namespace Handheld

inductive RegionKind
  | runtime
  | graph
  | buffer
  | text
  | string
  deriving DecidableEq

namespace RegionKind

def all : List RegionKind := [runtime, graph, buffer, text, string]

def code : RegionKind → UInt8
  | runtime => 0x01
  | graph => 0x02
  | buffer => 0x04
  | text => 0x08
  | string => 0x10

def ofCode? (code : UInt8) : Option RegionKind := all.find? fun kind => kind.code == code

def name : RegionKind → String
  | runtime => "runtime"
  | graph => "graph"
  | buffer => "buffer"
  | text => "text"
  | string => "string"

def ofName? (name : String) : Option RegionKind := all.find? fun kind => kind.name == name

theorem mem_all (kind : RegionKind) : kind ∈ all := by cases kind <;> decide

theorem ofCode?_code (kind : RegionKind) : ofCode? kind.code = some kind := by
  cases kind <;> decide

end RegionKind
end Handheld
