import Handheld.Attempt
import Handheld.Memory.AddressSpace

/-! # Access to memory

A store is an address space together with the text pages behind it. Bytes are found by address;
longer accesses go byte by byte, may run across regions, and are little-endian.
-/
set_option autoImplicit false
namespace Handheld

structure Store where
  space : AddressSpace
  pages : TextPages

namespace Store

def readByte (store : Store) (addr : UInt32) : Except MemoryError UInt8 :=
  match store.space.find? addr with
  | none => .error (.unmapped addr)
  | some i =>
    match store.space.regions[i]? with
    | none => .error (.unmapped addr)
    | some region => (region.read store.pages addr).mapError .region

def writeByte (store : Store) (addr : UInt32) (value : UInt8) : Attempt MemoryError Store :=
  match store.space.find? addr with
  | none => .stopped (.unmapped addr) store
  | some i =>
    match store.space.regions[i]? with
    | none => .stopped (.unmapped addr) store
    | some region =>
      match region.write store.pages addr value with
      | .error e => .stopped (.region e) store
      | .ok (region, pages) => .done ⟨store.space.setRegion i region, pages⟩

/-- The address a distance further on. The distance counts as a 32-bit number, and there is no
address beyond the last one. -/
def advance (addr : UInt32) (distance : Nat) : Except MemoryError UInt32 :=
  if addr.toNat + distance % 0x100000000 < addressLimit then
    .ok (UInt32.ofNat (addr.toNat + distance % 0x100000000))
  else .error (.unmapped addr)

def readAt (store : Store) (addr : UInt32) (distance : Nat) : Except MemoryError UInt8 :=
  match advance addr distance with
  | .error e => .error e
  | .ok there => store.readByte there

def readFrom (store : Store) (addr : UInt32) (distance : Nat) :
    Nat → Array UInt8 → Except MemoryError (Array UInt8)
  | 0, acc => .ok acc
  | n + 1, acc =>
    match store.readAt addr distance with
    | .error e => .error e
    | .ok value => store.readFrom addr (distance + 1) n (acc.push value)

def read (store : Store) (addr : UInt32) (size : Nat) : Except MemoryError (List UInt8) :=
  (store.readFrom addr 0 size #[]).map Array.toList

/-- Writes on from a distance; the bytes before a fault stay written. -/
def writeFrom (addr : UInt32) (distance : Nat) :
    List UInt8 → Store → Attempt MemoryError Store
  | [], store => .done store
  | value :: rest, store =>
    match advance addr distance with
    | .error e => .stopped e store
    | .ok there => (store.writeByte there value).andThen (writeFrom addr (distance + 1) rest)

def write (store : Store) (addr : UInt32) (data : List UInt8) : Attempt MemoryError Store :=
  writeFrom addr 0 data store

def ofLittleEndian : List UInt8 → Nat
  | [] => 0
  | low :: rest => low.toNat + 256 * ofLittleEndian rest

def toLittleEndian : Nat → Nat → List UInt8
  | 0, _ => []
  | width + 1, value => UInt8.ofNat value :: toLittleEndian width (value / 256)

def readHalfword (store : Store) (addr : UInt32) : Except MemoryError UInt16 :=
  (store.read addr 2).map fun bytes => UInt16.ofNat (ofLittleEndian bytes)

def readWord (store : Store) (addr : UInt32) : Except MemoryError UInt32 :=
  (store.read addr 4).map fun bytes => UInt32.ofNat (ofLittleEndian bytes)

def writeHalfword (store : Store) (addr : UInt32) (value : UInt16) : Attempt MemoryError Store :=
  store.write addr (toLittleEndian 2 value.toNat)

def writeWord (store : Store) (addr : UInt32) (value : UInt32) : Attempt MemoryError Store :=
  store.write addr (toLittleEndian 4 value.toNat)

def clearAll (store : Store) : Store where
  space := { store.space with regions := store.space.regions.map Region.zeroed }
  pages := store.space.regions.foldl
    (fun pages region => region.backing.onPages (·.map fun _ => 0) pages) store.pages

end Store
end Handheld
