import RadioStack.Address
import RadioStack.Compression.ContextNumber

/-!
Address contexts: network halves that both ends of a link know, so that an address within one of
them is sent as a two-bit context number and the part of its identifier that cannot be inferred.
-/

namespace RadioStack.Compression

structure ContextTable where
  slots : Vector (Option UInt64) 4
  deriving DecidableEq, Repr

namespace ContextTable

def empty : ContextTable := ⟨.replicate 4 none⟩

def standard : ContextTable := ⟨#v[some Address.linkLocalNetwork, none, none, none]⟩

def ofList (slots : List (Option UInt64)) : ContextTable := ⟨.ofFn fun i => slots[i.val]?.join⟩

def get? (table : ContextTable) (index : Nat) : Option UInt64 := table.slots[index]?.join

def find? (table : ContextTable) (address : Address) : Option ContextNumber :=
  (List.finRange 4).find? fun i => table.slots[i] == some address.network

end ContextTable

end RadioStack.Compression
