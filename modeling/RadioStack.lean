import RadioStack.Proofs.Air
import RadioStack.Proofs.Capacity
import RadioStack.Proofs.Compression.Forgetting
import RadioStack.Proofs.Compression.InPlace
import RadioStack.Proofs.Compression.Recompression
import RadioStack.Proofs.Compression.Shortest
import RadioStack.Proofs.Tcp.Acknowledgment
import RadioStack.Proofs.Tcp.Binding
import RadioStack.Proofs.Tcp.Contention
import RadioStack.Proofs.Tcp.Crossing
import RadioStack.Proofs.Tcp.Damage
import RadioStack.Proofs.Tcp.Demultiplexing
import RadioStack.Proofs.Tcp.Ending
import RadioStack.Proofs.Tcp.Handshake
import RadioStack.Proofs.Tcp.Quiet
import RadioStack.Proofs.Tcp.Rejection
import RadioStack.Proofs.Tcp.Reopening
import RadioStack.Proofs.Tcp.Resetting
import RadioStack.Proofs.Tcp.Ring
import RadioStack.Proofs.Tcp.Session
import RadioStack.Proofs.Tcp.Timer
import RadioStack.Proofs.Tcp.Transition
import RadioStack.Proofs.Tcp.Waiting
import RadioStack.Proofs.Tcp.Refusal
