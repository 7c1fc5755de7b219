import SailSim.Net.Dial
import SailSim.Text.Quote

/-!
# HTTP requests

An HTTP request goes out in three steps, each of which may fail:

* its URL is read, when the request is built; the error is the URL's own;
* it needs the scheme `http` or `https` and a host, and its connection is dialled through the
  network to the host's port, `80` or `443` when none is written; the peers modelled here
  speak plain HTTP, so an `https` request fails at the handshake;
* the peer answers it with a status.

A failure after the request was built names the method and the URL, with a password written
`***`: `Get "URL": reason`.
-/

namespace SailSim.Net

/-- An HTTP method. -/
inductive Method where
  | get
  | post
  deriving Repr, BEq, Inhabited

/-- The method as requests name it. -/
def Method.name : Method → String
  | .get => "GET"
  | .post => "POST"

/-- The method as errors name it. -/
def Method.errorName : Method → String
  | .get => "Get"
  | .post => "Post"

namespace Http

/-- Reads a request's URL, a port written as a bare colon dropped. -/
def requestUrl (s : String) : Except String Url := do
  let u ← Url.parse s
  pure (if u.host.endsWith ":" then { u with host := (u.host.dropEnd 1).copy } else u)

/-- The URL as errors show it, with a password written `***`. -/
def shown (u : Url) : String :=
  let user := u.user.map fun ui => match ui.splitOn ":" with
    | name :: _ :: _ => name ++ ":***"
    | _ => ui
  Url.render { u with user }

/-- The host and port a request dials. -/
def target (u : Url) : String × String :=
  let (host, port) := dialTarget u.host (if u.scheme == "https" then "443" else "80")
  (host, if port.isEmpty then (if u.scheme == "https" then "443" else "80") else port)

/-- Opens the connection of a request: the peer it reached, or why none was made. -/
def connect (net : Network) (u : Url) : Except String Peer :=
  if !(u.scheme == "http" || u.scheme == "https") then
    .error ("unsupported protocol scheme " ++ Text.quote u.scheme)
  else if u.host.isEmpty then .error "http: no Host in request URL"
  else
    let (host, port) := target u
    match net.dial host port with
    | .error e => .error e
    | .ok peer =>
      if u.scheme == "https" then .error "tls: first record does not look like a TLS handshake"
      else .ok peer

/-- The path a server sees. -/
def serverPath (u : Url) : String := if u.path.isEmpty then "/" else u.path

/-- Sends a request: `serve` answers it, given the peer reached, with a status. -/
def send {σ : Type} (net : Network) (method : Method) (u : Url) (server : σ)
    (serve : Peer → σ → Nat × σ) : Except String Nat × σ :=
  match connect net u with
  | .error e => (.error (method.errorName ++ " " ++ Text.quote (shown u) ++ ": " ++ e), server)
  | .ok peer =>
    let (status, server) := serve peer server
    (.ok status, server)

end Http

end SailSim.Net
