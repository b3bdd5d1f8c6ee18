import RadioStack.Numeral
import RadioStack.Octets

/-!
Link addresses and IPv6 addresses. An IPv6 address is its network half and its interface
identifier; the identifier of a station follows from its link address by toggling one bit.
-/

namespace RadioStack

structure LinkAddress where
  value : UInt64
  deriving DecidableEq, Repr

namespace LinkAddress

/-- Set in an interface identifier that was assigned universally. -/
def universalBit : UInt64 := 0x0200000000000000

def octets (address : LinkAddress) : Octets := Octets.bigEndian 8 address.value.toNat

def identifier (address : LinkAddress) : UInt64 := address.value ^^^ universalBit

def ofIdentifier (identifier : UInt64) : LinkAddress := ⟨identifier ^^^ universalBit⟩

def text (address : LinkAddress) : String :=
  ":".intercalate (address.octets.map fun octet => Numeral.hex 2 octet.toNat)

@[simp] theorem identifier_ofIdentifier (identifier : UInt64) :
    (ofIdentifier identifier).identifier = identifier := by
  simp only [ofIdentifier, LinkAddress.identifier, UInt64.xor_assoc, UInt64.xor_self,
    UInt64.xor_zero]

@[simp] theorem ofIdentifier_identifier (address : LinkAddress) :
    ofIdentifier address.identifier = address := by
  simp only [ofIdentifier, identifier, UInt64.xor_assoc, UInt64.xor_self, UInt64.xor_zero]

end LinkAddress

structure LinkPair where
  source : LinkAddress
  destination : LinkAddress
  deriving DecidableEq, Repr

structure Address where
  network : UInt64
  identifier : UInt64
  deriving DecidableEq, Repr

namespace Address

def linkLocalNetwork : UInt64 := 0xfe80000000000000

def multicastNetwork (scope : UInt64) : UInt64 := (0xff00 ||| scope) <<< 48

def unspecified : Address := ⟨0, 0⟩
def allNodes : Address := ⟨multicastNetwork 2, 1⟩
def allRouters : Address := ⟨multicastNetwork 2, 2⟩
def linkLocal (identifier : UInt64) : Address := ⟨linkLocalNetwork, identifier⟩

def octets (address : Address) : Octets :=
  Octets.bigEndian 8 address.network.toNat ++ Octets.bigEndian 8 address.identifier.toNat

def ofOctets (octets : Octets) : Address :=
  ⟨(Octets.value (octets.take 8)).toUInt64, (Octets.value ((octets.drop 8).take 8)).toUInt64⟩

def isLinkLocal (address : Address) : Bool := address.network == linkLocalNetwork

def isMulticast (address : Address) : Bool := address.network >>> 56 == 0xff

def scope (address : Address) : UInt64 := (address.network >>> 48) &&& 0x0f

/-- Groups 1 and 2, all nodes and all routers, of some scope and without flags. -/
def isWellKnownGroup (address : Address) : Bool :=
  address.network == multicastNetwork address.scope &&
    (address.identifier == 1 || address.identifier == 2)

/-- Eight groups of hexadecimal digits; a run of zero groups is not shortened. -/
def text (address : Address) : String :=
  ":".intercalate ((Octets.words address.octets).map (Numeral.hex 1))

@[simp] theorem length_octets (address : Address) : address.octets.length = 16 := by
  simp [octets]

end Address

end RadioStack
