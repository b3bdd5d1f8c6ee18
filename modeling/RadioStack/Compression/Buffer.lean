import RadioStack.Compression.Error
import RadioStack.Octets

/-! A buffer of fixed size that is filled from its front. -/

namespace RadioStack.Compression

/-- What has been written, and the room that is left with its former content. -/
structure Buffer where
  written : Octets
  room : Octets
  deriving DecidableEq, Repr

namespace Buffer

def ofOctets (octets : Octets) : Buffer := ⟨[], octets⟩

def octets (buffer : Buffer) : Octets := buffer.written ++ buffer.room

def put (buffer : Buffer) (octets : Octets) : Except EncodeError Buffer :=
  if octets.length ≤ buffer.room.length then
    .ok ⟨buffer.written ++ octets, buffer.room.drop octets.length⟩
  else .error .bufferTooSmall

def putAll (buffer : Buffer) (fields : List Octets) : Except EncodeError Buffer :=
  fields.foldlM put buffer

theorem putAll_eq (buffer : Buffer) (fields : List Octets) :
    buffer.putAll fields =
      if fields.flatten.length ≤ buffer.room.length then
        .ok ⟨buffer.written ++ fields.flatten, buffer.room.drop fields.flatten.length⟩
      else .error .bufferTooSmall := by
  unfold putAll
  induction fields generalizing buffer with
  | nil => simp [pure, Except.pure]
  | cons field fields ih =>
      rw [List.foldlM_cons, put, List.flatten_cons, List.length_append]
      by_cases first : field.length ≤ buffer.room.length
      · rw [if_pos first]
        refine (ih _).trans ?_
        simp only [List.length_drop, List.append_assoc, List.drop_drop]
        by_cases rest : fields.flatten.length ≤ buffer.room.length - field.length
        · rw [if_pos rest, if_pos (by omega)]
        · rw [if_neg rest, if_neg (by omega)]
      · rw [if_neg first, if_neg (by omega)]
        rfl

end Buffer

end RadioStack.Compression
