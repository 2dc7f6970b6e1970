import ElevatorController.Machinery.RoundRobin
import ElevatorController.Machinery.Runs
import ElevatorController.Model.Send

/-!
# Model/Transport — the sockets, and the transport callback that receives

    datagrams ──▸ socket of Network Port 1 ─┐
    datagrams ──▸ socket of Network Port 2 ─┼──▸ HelperReceiveMessage ──▸ the stack
                          …                 ┘

One entry for each Network Port, with its socket and the last peer that sent to it from another UDP
port.  What the operating system does is an event: a datagram arrives on a socket, and a `bind()`
succeeds or not.  The log lines are left out.
-/

namespace Controller

/-- A datagram as `recvfrom` gives it. -/
structure ReceivedDatagram where
  fromIp : Ipv4
  fromPort : UInt16
  data : List UInt8
  deriving DecidableEq

/-- `SimpleUDP`: the socket, with the datagrams queued on it. -/
structure SimpleUdp where
  connected : Bool := false
  queue : List ReceivedDatagram := []
  deriving DecidableEq

/-- `SimpleUDP::Connect`: a new socket, if the port can be bound. -/
def SimpleUdp.connect (binds : Bool) : SimpleUdp := { connected := binds, queue := [] }

/-- `SimpleUDP::Receive`.  A datagram of which no octet is received counts as none. -/
def SimpleUdp.receive (maxLength : ℕ) (udp : SimpleUdp) : Option ReceivedDatagram × SimpleUdp :=
  if udp.connected then
    match udp.queue with
    | [] => (none, udp)
    | datagram :: queue =>
      let received := datagram.data.take maxLength
      (if received.length > 0 then some { datagram with data := received } else none,
        { udp with queue })
  else (none, udp)

/-- An entry of `g_udpBindings`: the binding and its socket. -/
structure UdpEntry where
  binding : UdpBinding
  udp : SimpleUdp
  deriving DecidableEq

/-- `MAX_UDP_BINDINGS`. -/
def maxUdpBindings : ℕ := 4

/-- The state behind the transport callbacks. -/
structure Transport where
  /-- `g_udpBindings`, up to `g_udpBindingCount`. -/
  udpBindings : List UdpEntry := []
  /-- `s_nextBindingToCheck`. -/
  nextBindingToCheck : ℕ := 0
  /-- `g_port`. -/
  port : ℕ := 47808
  /-- `g_networkPortInstance`. -/
  networkPortInstance : ℕ := 1

/-- The bindings, without their sockets. -/
def Transport.bindings (t : Transport) : List UdpBinding := t.udpBindings.map UdpEntry.binding

/-! ## Setting up -/

/-- An entry nobody has bound yet. -/
def UdpEntry.unbound (networkPortInstance : ℕ) : UdpEntry where
  binding :=
    { port := 0, networkPortInstance, bound := false, peerIp := ⟨0, 0, 0, 0⟩, peerPort := 0,
      hasPeer := false }
  udp := {}

/-- An entry after `Connect`. -/
def UdpEntry.connect (port : UInt16) (binds : Bool) (entry : UdpEntry) : UdpEntry where
  binding := if binds then { entry.binding with port := port.toNat, bound := true }
    else entry.binding
  udp := .connect binds

/-- `SetupUDP`, for a `bind()` that succeeds or not. -/
def Transport.setupUdp (port : UInt16) (networkPortInstance : ℕ) (binds : Bool) (t : Transport) :
    Bool × Transport :=
  let isEntry (entry : UdpEntry) : Bool := entry.binding.networkPortInstance = networkPortInstance
  let bindAt (entries : List UdpEntry) (i : ℕ) : Bool × Transport :=
    (binds,
      { t with
        udpBindings := entries.modify i (.connect port binds)
        port := if binds ∧ networkPortInstance = t.networkPortInstance then port.toNat
          else t.port })
  match t.udpBindings.findIdx? isEntry with
  | some i => bindAt t.udpBindings i
  | none =>
    if t.udpBindings.length ≥ maxUdpBindings then (false, t)
    else bindAt (t.udpBindings ++ [.unbound networkPortInstance]) t.udpBindings.length

/-- `SetNetworkPortInstance`. -/
def Transport.setNetworkPortInstance (networkPortInstance : ℕ) (t : Transport) : Transport :=
  { t with networkPortInstance }

/-- `ShutdownUDP`. -/
def Transport.shutdownUdp (t : Transport) : Transport :=
  { t with
    udpBindings := t.udpBindings.map fun entry =>
      if entry.binding.bound then
        { binding := { entry.binding with bound := false }, udp := {} }
      else entry }

/-! ## Receiving -/

/-- What `HelperReceiveMessage` hands to the stack. -/
structure Reception where
  message : List UInt8
  sourceConnectionString : List UInt8
  networkPortInstance : ℕ
  deriving DecidableEq

/-- One entry of the loop, with the Network Port that is serviced. -/
def UdpEntry.poll (maxMessageLength : ℕ) (entry : UdpEntry) :
    Option (ℕ × ReceivedDatagram) × UdpEntry :=
  if entry.binding.bound then
    let (received, udp) := entry.udp.receive maxMessageLength
    (received.map fun datagram => (entry.binding.networkPortInstance, datagram),
      { entry with udp })
  else (none, entry)

/-- Remember the peer, if it is not on the bound UDP port. -/
def UdpEntry.notePeer (servicedInstance : ℕ) (datagram : ReceivedDatagram) (entry : UdpEntry) :
    UdpEntry :=
  if entry.binding.bound ∧ entry.binding.networkPortInstance = servicedInstance
      ∧ datagram.fromPort.toNat ≠ entry.binding.port then
    { entry with
      binding := { entry.binding with
        peerIp := datagram.fromIp
        peerPort := datagram.fromPort.toNat
        hasPeer := true } }
  else entry

/-- The six octets of a BACnet/IP address: IP[4] and port[2], big-endian. -/
def connectionString (ip : Ipv4) (port : UInt16) : List UInt8 :=
  [ip.o0, ip.o1, ip.o2, ip.o3, (port >>> 8).toUInt8, port.toUInt8]

/-- `HelperReceiveMessage`: what it hands to the stack, if anything. -/
def Transport.helperReceiveMessage (maxMessageLength maxConnectionStringLength : ℕ)
    (t : Transport) : Option Reception × Transport :=
  if maxConnectionStringLength < 6 ∨ t.udpBindings.length = 0 then (none, t)
  else
    match RoundRobin.turn (UdpEntry.poll maxMessageLength) t.udpBindings t.nextBindingToCheck with
    | (none, udpBindings, nextBindingToCheck) =>
      (none, { t with udpBindings, nextBindingToCheck })
    | (some (_, servicedInstance, datagram), udpBindings, nextBindingToCheck) =>
      (some
        { message := datagram.data
          sourceConnectionString := connectionString datagram.fromIp datagram.fromPort
          networkPortInstance := servicedInstance },
        { t with
          udpBindings := udpBindings.map (UdpEntry.notePeer servicedInstance datagram)
          nextBindingToCheck })

/-! ## Announcing -/

/-- The connection string that `SendIAm` passes to the stack, to be broadcast: the local subnet
broadcast, at the port of the instance's socket. -/
def Transport.sendIAm (host : HostNetwork) (t : Transport) (networkPortInstance : ℕ) :
    List UInt8 :=
  let port := match findUdpBindingByInstance t.bindings networkPortInstance with
    | some binding => if binding.bound then binding.port else t.port
    | none => t.port
  connectionString host.localBroadcast (.ofNat port)

/-! ## Runs -/

/-- What may happen to the transport. -/
inductive TransportEvent where
  | setupUdp (port : UInt16) (networkPortInstance : ℕ) (binds : Bool)
  | setNetworkPortInstance (networkPortInstance : ℕ)
  | shutdownUdp
  /-- A datagram arrives on the socket of an entry. -/
  | arrive (i : ℕ) (datagram : ReceivedDatagram)
  | receive (maxMessageLength maxConnectionStringLength : ℕ)

/-- The socket queues a datagram. -/
def SimpleUdp.enqueue (datagram : ReceivedDatagram) (udp : SimpleUdp) : SimpleUdp :=
  if udp.connected then { udp with queue := udp.queue ++ [datagram] } else udp

/-- One event. -/
def TransportEvent.step (t : Transport) : TransportEvent → Transport
  | .setupUdp port networkPortInstance binds => (t.setupUdp port networkPortInstance binds).2
  | .setNetworkPortInstance networkPortInstance => t.setNetworkPortInstance networkPortInstance
  | .shutdownUdp => t.shutdownUdp
  | .arrive i datagram =>
    { t with
      udpBindings := t.udpBindings.modify i fun entry =>
        { entry with udp := entry.udp.enqueue datagram } }
  | .receive maxMessageLength maxConnectionStringLength =>
    (t.helperReceiveMessage maxMessageLength maxConnectionStringLength).2

/-- What an event hands to the stack. -/
def TransportEvent.reception (t : Transport) : TransportEvent → Option Reception
  | .receive maxMessageLength maxConnectionStringLength =>
    (t.helperReceiveMessage maxMessageLength maxConnectionStringLength).1
  | _ => none

end Controller
