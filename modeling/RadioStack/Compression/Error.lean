import RadioStack.Compression.ContextNumber

/-! Why a packet cannot be decompressed or compressed. -/

namespace RadioStack.Compression

inductive DecodeError
  | shortPacket
  | contextNotFound (context : ContextNumber)
  /-- The dispatch octet or the encoding of the next header is unknown. -/
  | unsupportedCompression
  /-- The version in front of a flow label is not 6. -/
  | badVersion
  deriving DecidableEq, Repr

namespace DecodeError

def all : List DecodeError :=
  [.shortPacket, .contextNotFound .zero, .unsupportedCompression, .badVersion]

def name : DecodeError → String
  | .shortPacket => "ShortPacket"
  | .contextNotFound _ => "ContextNotFound"
  | .unsupportedCompression => "UnsupportedCompression"
  | .badVersion => "BadVersion"

def message : DecodeError → String
  | .shortPacket => "packet is truncated"
  | .contextNotFound _ => "unknown address context"
  | .unsupportedCompression => "unsupported compression"
  | .badVersion => "IP version is not 6"

end DecodeError

inductive EncodeError
  | bufferTooSmall
  | malformed
  deriving DecidableEq, Repr

namespace EncodeError

def all : List EncodeError := [.bufferTooSmall, .malformed]

def name : EncodeError → String
  | .bufferTooSmall => "BufferTooSmall"
  | .malformed => "Malformed"

def message : EncodeError → String
  | .bufferTooSmall => "buffer too small"
  | .malformed => "malformed IPv6 packet"

end EncodeError

end RadioStack.Compression
