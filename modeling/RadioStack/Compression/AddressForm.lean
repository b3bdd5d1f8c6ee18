import RadioStack.Compression.ContextTable
import RadioStack.Compression.Control
import RadioStack.Compression.Reader

/-!
The forms of a compressed address: which one an address gets, the octets it leaves in the packet,
and the address those octets stand for.
-/

namespace RadioStack.Compression

inductive AddressForm
  | full
  | long (context : ContextNumber)
  | short (context : ContextNumber)
  | elided (context : ContextNumber)
  | multicast
  deriving DecidableEq, Repr

namespace AddressForm

def mode : AddressForm → AddressMode
  | .full => .full
  | .long _ => .long
  | .short _ => .short
  | .elided _ => .elided
  | .multicast => .short

def context : AddressForm → ContextNumber
  | .long context | .short context | .elided context => context
  | .full | .multicast => .zero

/-- Identifiers below this bound are given by their last two octets. A set top bit there marks a
multicast group. -/
def shortBound : UInt64 := 0x8000

def ofUnicast (contexts : ContextTable) (link : LinkAddress) (address : Address) : AddressForm :=
  match contexts.find? address with
  | some context =>
    if address.identifier = link.identifier then .elided context
    else if address.identifier < shortBound then .short context
    else .long context
  | none => .full

def ofDestination (contexts : ContextTable) (link : LinkAddress) (address : Address) :
    AddressForm :=
  if address.isMulticast then
    if address.isWellKnownGroup then .multicast else .full
  else ofUnicast contexts link address

/-- A group is sent as 101, its scope and a nine-bit number. -/
def octets (form : AddressForm) (address : Address) : Octets :=
  match form with
  | .full => address.octets
  | .long _ => Octets.bigEndian 8 address.identifier.toNat
  | .short _ => Octets.bigEndian 2 address.identifier.toNat
  | .elided _ => []
  | .multicast => [(160 + 2 * address.scope.toNat).toUInt8, address.identifier.toUInt8]

end AddressForm

namespace Reader

def network (contexts : ContextTable) (context : ContextNumber) : Reader UInt64 :=
  match contexts.get? context with
  | some network => pure network
  | none => throw (.contextNotFound context)

def address (contexts : ContextTable) (mode : AddressMode) (context : ContextNumber)
    (link : LinkAddress) : Reader Address :=
  match mode with
  | .full => Address.ofOctets <$> take 16
  | .long => do
    let network ← network contexts context
    let identifier ← number 8
    return ⟨network, identifier.toUInt64⟩
  | .short => do
    let high ← octet
    let low ← octet
    if high < 0x80 then
      let network ← network contexts context
      return ⟨network, (Octets.value [high, low]).toUInt64⟩
    else
      return ⟨Address.multicastNetwork ((high / 2) % 16).toUInt64, low.toUInt64⟩
  | .elided => do
    let network ← network contexts context
    return ⟨network, link.identifier⟩

end Reader

end RadioStack.Compression
