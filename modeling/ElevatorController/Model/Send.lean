import ElevatorController.Model.Frame

/-!
# Model/Send — the transport callback that sends

    stack ── message, connection string, Network Port ──▸ HelperSendMessage ──▸ datagrams

A frame goes to the address the stack names, or to the subnet if it names none; a broadcast that the
stack chose goes to the last peer on another port as well.  What the host answers, its own address
and how much it sends, is a parameter; the log lines are left out.
-/

namespace Controller

/-- An IPv4 address. -/
structure Ipv4 where
  o0 : UInt8
  o1 : UInt8
  o2 : UInt8
  o3 : UInt8
  deriving DecidableEq

/-- A socket bound to a UDP port, and the last peer that sent to it from another one. -/
structure UdpBinding where
  port : ℕ
  networkPortInstance : ℕ
  bound : Bool
  peerIp : Ipv4
  peerPort : ℕ
  hasPeer : Bool
  deriving DecidableEq

/-- `FindUdpBindingByInstance`, among the bindings in use. -/
def findUdpBindingByInstance (bindings : List UdpBinding) (networkPortInstance : ℕ) :
    Option UdpBinding :=
  bindings.find? fun binding => binding.networkPortInstance = networkPortInstance

/-- What is handed to `SimpleUDP::Send`. -/
structure Datagram where
  ip : Ipv4
  port : ℕ
  data : List UInt8
  deriving DecidableEq

structure HostNetwork where
  /-- `GetPrimaryIPv4`: the address and the mask, if an interface is up. -/
  primary : Option (Ipv4 × Ipv4)
  /-- The octets that `SimpleUDP::Send` reports sent. -/
  send : Datagram → ℕ

/-- `GetLocalBroadcastIPv4`. -/
def HostNetwork.localBroadcast (host : HostNetwork) : Ipv4 :=
  match host.primary with
  | some (ip, mask) =>
    ⟨ip.o0 ||| ~~~mask.o0, ip.o1 ||| ~~~mask.o1, ip.o2 ||| ~~~mask.o2, ip.o3 ||| ~~~mask.o3⟩
  | none => ⟨255, 255, 255, 255⟩

/-- Where a connection string sends to.  An empty one, or the null pointer, is a broadcast on the
link; one of one to five octets is refused. -/
def HostNetwork.destination (host : HostNetwork) (binding : UdpBinding)
    (connectionString : List UInt8) (broadcast : Bool) : Option (Ipv4 × ℕ) :=
  match connectionString with
  | [] => some (host.localBroadcast, binding.port)
  | i0 :: i1 :: i2 :: i3 :: p0 :: p1 :: _ =>
    let ip : Ipv4 := ⟨i0, i1, i2, i3⟩
    let port := p0.toNat <<< 8 ||| p1.toNat
    -- a broadcast addressed to this socket itself: the stack means this subnet
    if broadcast ∧ port = binding.port ∧ host.primary.map Prod.fst = some ip then
      some (host.localBroadcast, port)
    else some (ip, port)
  | _ => none

/-- `HelperSendMessage`: what it returns, and the datagrams it sends, in order. -/
def helperSendMessage (host : HostNetwork) (bindings : List UdpBinding)
    (message connectionString : List UInt8) (networkPortInstance : ℕ) (broadcast : Bool) :
    Option (ℕ × List Datagram) :=
  match findUdpBindingByInstance bindings networkPortInstance with
  | none => some (0, [])
  | some binding =>
    if ¬ binding.bound then some (0, [])
    else
      match host.destination binding connectionString broadcast with
      | none => some (0, [])
      | some (ip, port) =>
        let datagram : Datagram := ⟨ip, port, message⟩
        let sent := host.send datagram
        -- the same frame unicast to the last peer on another port
        if connectionString.isEmpty ∧ binding.hasPeer then do
          let chosen ← isStackChosenBroadcast message
          some (sent,
            if chosen then [datagram, ⟨binding.peerIp, binding.peerPort, message⟩] else [datagram])
        else some (sent, [datagram])

end Controller
