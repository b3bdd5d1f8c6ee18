/-! The control flags of a TCP segment. -/

namespace RadioStack.Tcp

structure Flags where
  bits : UInt8
  deriving DecidableEq, Repr

namespace Flags

def empty : Flags := ⟨0⟩
def fin : Flags := ⟨1⟩
def syn : Flags := ⟨2⟩
def rst : Flags := ⟨4⟩
def psh : Flags := ⟨8⟩
def ack : Flags := ⟨16⟩
def urg : Flags := ⟨32⟩

instance : OrOp Flags := ⟨fun first second => ⟨first.bits ||| second.bits⟩⟩

def contains (flags other : Flags) : Bool := flags.bits &&& other.bits == other.bits

def names : List (Flags × String) :=
  [(syn, "SYN"), (ack, "ACK"), (fin, "FIN"), (rst, "RST"), (psh, "PSH"), (urg, "URG")]

def text (flags : Flags) : String :=
  match (names.filter fun entry => flags.contains entry.1).map Prod.snd with
  | [] => "-"
  | present => "|".intercalate present

end Flags

end RadioStack.Tcp
