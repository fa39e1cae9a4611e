import StubResolver.Environment
import StubResolver.Frame
import StubResolver.Text.Base64Url

set_option autoImplicit false

namespace StubResolver.Exchange

variable {σ : Type} (env : Environment σ)

def udp (ns : Nameserver) (family : Family) (timeout : Duration)
    (message : Bytes) : Task σ Bytes := do
  Task.io (env.dial ⟨.udp, ns, family, timeout⟩)
  Task.io (env.datagram message)

/-- Writes a frame and reads one message back; what the peer sends after it is dropped. -/
def framed (frame : Bytes) : Task σ Bytes := do
  let received ← Task.io (env.stream frame)
  let (reply, _) ← Task.ofExcept .io (Frame.read received)
  return reply

def tcp (ns : Nameserver) (family : Family) (timeout : Duration)
    (message : Bytes) : Task σ Bytes := do
  Task.io (env.dial ⟨.tcp, ns, family, timeout⟩)
  let frame ← Task.ofExcept .io (Frame.write message)
  framed env frame

def tls (ns : Nameserver) (family : Family) (timeout : Duration)
    (serverName : String) (verify : Bool) (message : Bytes) : Task σ Bytes := do
  Task.io (env.dial ⟨.tcp, ns, family, timeout⟩)
  let frame ← Task.ofExcept .io (Frame.write message)
  Task.io (env.handshake serverName verify)
  framed env frame

def mediaType : String := "application/dns-message"

def request (r : HttpRequest) : Task σ HttpReply :=
  Task.ofAction (fun f => .http (f.text r.url)) (env.http r)

def badUrl (e : Url.Error) : Error := .http s!"Bad URL: failed to parse URL: {e.label}: {e.message}"

/-- Posts the message. A server that does not allow that gets it as a
parameter of a second request. -/
def https (url : String) (message : Bytes) : Task σ Bytes := do
  let url ← Task.ofExcept badUrl (Url.ofText url)
  let reply ← request env
    ⟨.post, url, [("Content-Type", mediaType), ("Accept", mediaType)], message⟩
  let reply ←
    if reply.status = 405 then
      request env ⟨.get, url.withParameter "dns" (Text.Base64Url.encode message),
        [("Accept", mediaType)], []⟩
    else pure reply
  if reply.status != 200 then throw (.http s!"{reply.status} {reply.reason}")
  Task.ofExcept .io reply.body

end StubResolver.Exchange
