import RadioStack.Compression.ContextNumber
import RadioStack.Octets

/-! The two control octets in front of a compressed packet. -/

namespace RadioStack.Compression

inductive AddressMode
  | full
  /-- The interface identifier; the network comes from a context. -/
  | long
  /-- Two octets: the end of an identifier, or a multicast group. -/
  | short
  /-- Nothing; the identifier comes from the link address. -/
  | elided
  deriving DecidableEq, Repr

namespace AddressMode

def number : AddressMode → Nat
  | .full => 0
  | .long => 1
  | .short => 2
  | .elided => 3

def ofNumber (number : Nat) : AddressMode :=
  match number % 4 with
  | 0 => .full
  | 1 => .long
  | 2 => .short
  | _ => .elided

end AddressMode

inductive HopLimitMode
  | stated
  | one
  | sixtyFour
  | maximal
  deriving DecidableEq, Repr

namespace HopLimitMode

def number : HopLimitMode → Nat
  | .stated => 0
  | .one => 1
  | .sixtyFour => 2
  | .maximal => 3

def ofNumber (number : Nat) : HopLimitMode :=
  match number % 4 with
  | 0 => .stated
  | 1 => .one
  | 2 => .sixtyFour
  | _ => .maximal

def ofHopLimit (hopLimit : UInt8) : HopLimitMode :=
  if hopLimit = 1 then .one
  else if hopLimit = 64 then .sixtyFour
  else if hopLimit = 255 then .maximal
  else .stated

def value? : HopLimitMode → Option UInt8
  | .stated => none
  | .one => some 1
  | .sixtyFour => some 64
  | .maximal => some 255

end HopLimitMode

structure Control where
  zeroTrafficClass : Bool
  zeroFlow : Bool
  compressedUdp : Bool
  hopLimit : HopLimitMode
  sourceMode : AddressMode
  sourceContext : ContextNumber
  destinationMode : AddressMode
  destinationContext : ContextNumber
  deriving DecidableEq, Repr

namespace Control

/-- The three lowest bits of the first octet are not in use. -/
def first (control : Control) : UInt8 :=
  (128 * control.zeroTrafficClass.toNat + 64 * control.zeroFlow.toNat +
    32 * control.compressedUdp.toNat + 8 * control.hopLimit.number).toUInt8

def second (control : Control) : UInt8 :=
  (64 * control.sourceMode.number + 16 * control.sourceContext.val +
    4 * control.destinationMode.number + control.destinationContext.val).toUInt8

def octets (control : Control) : Octets := [control.first, control.second]

def ofOctets (first second : UInt8) : Control where
  zeroTrafficClass := first.toNat.testBit 7
  zeroFlow := first.toNat.testBit 6
  compressedUdp := first.toNat.testBit 5
  hopLimit := .ofNumber (first.toNat / 8)
  sourceMode := .ofNumber (second.toNat / 64)
  sourceContext := .ofNat (second.toNat / 16)
  destinationMode := .ofNumber (second.toNat / 4)
  destinationContext := .ofNat second.toNat

end Control

end RadioStack.Compression
