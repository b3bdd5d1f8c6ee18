/-! The numbers of address contexts. -/

namespace RadioStack.Compression

abbrev ContextNumber := Fin 4

def ContextNumber.ofNat (number : Nat) : ContextNumber := Fin.ofNat 4 number

/-- Stands where no context is needed. -/
def ContextNumber.zero : ContextNumber := .ofNat 0

end RadioStack.Compression
