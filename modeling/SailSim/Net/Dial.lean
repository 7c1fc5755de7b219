import SailSim.Net.Url

/-!
# Dialling

A program reaches its servers through a network, which is a parameter of the program: for a
host and a port, the network either connects to a peer or says why no connection can be made
(`Network.dial`). The peers this library talks to are a run archive and a live viewer; any
other server that answers is `Peer.other`. Only whether a dial connects, and its error, are
modelled: a connection that is made carries requests to the peer's model directly.

A machine without a route anywhere is `Network.offline`: dialling an address literal fails at
once, and a name is first looked up at the machine's resolver, which cannot be reached either.
With no resolver configured that is the local host's port 53, the last address tried being
`[::1]:53`, and this is the default network.

The address arithmetic the clients share is here too: which hosts are address literals, how a
host and port are joined, and which host and port a URL's host part dials.
-/

namespace SailSim.Net

/-- What answers a connection. -/
inductive Peer where
  | archive
  | viewer
  | other
  deriving Repr, BEq, DecidableEq, Inhabited

/-- A network: for a host and a port, the peer a connection reaches, or the dial's error. -/
structure Network where
  dial : String → String → Except String Peer

/-- Whether a text is a dotted IPv4 address: four decimal parts up to 255, without leading
zeros. -/
def isIPv4 (h : String) : Bool :=
  let parts := h.splitOn "."
  parts.length == 4 && parts.all fun p =>
    let ds := p.toList
    !ds.isEmpty && ds.length ≤ 3 && ds.all Char.isDigit && p.toNat! ≤ 255 &&
      (ds.length == 1 || ds.head? != some '0')

/-- Whether a host is an address literal: IPv4, or IPv6 (which holds colons). -/
def isAddressLiteral (h : String) : Bool := h.isEmpty || isIPv4 h || h.toList.contains ':'

/-- `host:port`, with an IPv6 host bracketed. -/
def joinHostPort (host port : String) : String :=
  if host.toList.contains ':' then "[" ++ host ++ "]:" ++ port else host ++ ":" ++ port

/-- The host name and port a URL's host part dials: brackets around an IPv6 host are removed,
and the port is `defaultPort` when no colon follows the host. -/
def dialTarget (host defaultPort : String) : String × String :=
  let u : Url := { host }
  if ((Text.splitAt host ']').getLastD "").toList.contains ':' then (u.hostname, u.port)
  else (u.hostname, defaultPort)

namespace Network

/-- The network of a machine with no route anywhere, asking the resolver at `resolver` for
names. -/
def offline (resolver : String) : Network where
  dial host port :=
    if isAddressLiteral host then
      .error ("dial tcp " ++ joinHostPort host port ++ ": connect: network is unreachable")
    else
      .error ("dial tcp: lookup " ++ host ++ " on " ++ resolver ++ ": dial udp " ++ resolver ++
        ": connect: network is unreachable")

/-- Without a network, and without a resolver configured. -/
instance : Inhabited Network := ⟨offline "[::1]:53"⟩

end Network

end SailSim.Net
