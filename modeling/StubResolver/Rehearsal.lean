import StubResolver.Resolver

/-!
A rehearsal: an outside world that follows a script. Every connection takes the next cue, which
says whether it is made, what the peer replies and how long that takes; the world remembers what
the peer has seen. The machine may be without a network interface, and then no connection gets
through whatever its cue says.

The peer is reached in one of two ways: as a guided connection, which ends up at the peer
whatever nameserver it is meant for, or through the sockets of the operating system, where only
the peer's own address answers.
-/

set_option autoImplicit false

namespace StubResolver.Rehearsal

open DnsCrypt (Certificate Session)

structure Cue where
  /-- Why the connection is refused, if it is. -/
  failure : Option String
  delay : Duration
  /-- The reply, of which the first two bytes stand for the identifier;
  nothing if the peer stays silent. -/
  wire : Option Bytes
  idMask : UInt16
  /-- The announced length of the reply, if not the true one. -/
  frameLength : Option Nat
  status : Nat
  reason : String
  /-- Whether an encrypted query is answered in plain text. -/
  plain : Bool
  /-- Position of a byte to be damaged, from the end if negative. -/
  flip : Option Int
  /-- Length that the reply is cut to. -/
  cut : Option Nat
  deriving DecidableEq, Repr

structure SeenRequest where
  method : HttpMethod
  url : Url
  headers : List (String × String)
  deriving DecidableEq, Repr

inductive Contact where
  | dial (d : Dial)
  | http (authority : String)
  deriving DecidableEq, Repr

inductive Link where
  | up | down
  deriving DecidableEq, Repr

/-- Without an interface there is no route to an IPv4 address, and no local address to
reach an IPv6 address from. -/
def Link.failure? : Link → IpAddress → Option IoError
  | up, _ => none
  | down, .v4 _ => some .networkUnreachable
  | down, .v6 ip => some (if ip.mapped?.isSome then .networkUnreachable else .addressNotAvailable)

structure Encounter where
  contact : Contact
  request : Option SeenRequest
  tls : Bool
  /-- Size of the packet, if it was encrypted. -/
  packetSize : Option Nat
  query : Option Bytes
  deriving DecidableEq, Repr

structure World where
  cues : List Cue
  /-- The cue of the connection in use. -/
  current : Option Cue
  seen : List Encounter
  /-- The certificates of the peer, with their secret keys. -/
  certificates : List Certificate
  link : Link
  hosts : List (String × List IpAddress)
  elapsed : Duration
  clock : Int
  entropy : Entropy
  /-- How many identifiers have been handed out. -/
  identifiers : Nat
  /-- How often the table of answers has been asked. -/
  asked : Nat

namespace World

def start (link : Link) (cues : List Cue) (hosts : List (String × List IpAddress)) : World :=
  { cues, current := none, seen := [], certificates := [], link, hosts, elapsed := .zero, clock := 0
    entropy := ⟨fun _ => 0, 0⟩, identifiers := 0, asked := 0 }

def amend (w : World) (f : Encounter → Encounter) : World :=
  { w with seen := match w.seen.getLast? with
      | some e => w.seen.dropLast ++ [f e]
      | none => [] }

def advance (w : World) (d : Duration) : World := { w with elapsed := ⟨w.elapsed.nanos + d.nanos⟩ }

end World

def failureKind (reason : String) : IoKind :=
  if reason = "refused" then .connectionRefused
  else if reason = "timeout" then .timedOut
  else if reason = "notfound" then .notFound
  else .other

/-- Takes the next cue; the error is why there is none or why it refuses the connection. -/
def takeCue (contact : Contact) : Action World IoError Cue := fun w =>
  let w := { w with seen := w.seen ++ [Encounter.mk contact none false none none] }
  match w.cues with
  | [] => (.error (IoError.mk .other "script exhausted"), w)
  | c :: cs =>
    let w := { w with cues := cs }
    match c.failure with
    | some reason => (.error (IoError.mk (failureKind reason) ("scripted " ++ reason)), w)
    | none => (.ok c, { w with current := some c })

def loopback : IpAddress := .v4 ⟨127, 0, 0, 1⟩

def connect (w : World) : Except IoError Unit :=
  match w.link.failure? loopback with
  | some e => .error e
  | none => .ok ()

def dial (d : Dial) : Action World IoError Unit := fun w =>
  match takeCue (.dial d) w with
  | (.error e, w) => (.error e, w)
  | (.ok _, w) => (connect w, w)

def handshake (verify : Bool) : Action World IoError Unit := fun w =>
  (if verify then .error .unknownIssuer else .ok (), w.amend fun e => { e with tls := true })

/-- The query in a packet, and the session to answer in if it was encrypted
for one of the certificates. -/
def openPacket (certificates : List Certificate) (packet : Bytes) : Bytes × Option Session :=
  match certificates.find? fun c => packet.take 8 = c.clientMagic.bytes with
  | none => (packet, none)
  | some c =>
    match DnsCrypt.decryptQuery c packet with
    | .ok (query, session) => (query, some session)
    | .error _ => (packet, none)

def withIdentifier (query : Bytes) (mask : UInt16) (wire : Bytes) : Bytes :=
  if wire.length < 2 then wire
  else Bytes.xor (query.take 2 ++ Bytes.zeros (2 - query.length))
    (Bytes.ofUInt16 mask) ++ wire.drop 2

def damage (position : Option Int) (b : Bytes) : Bytes :=
  match position with
  | none => b
  | some p =>
    let i := if p < 0 then p + b.length else p
    if i < 0 then b else b.modify i.toNat (· ^^^ 1)

def shorten (size : Option Nat) (b : Bytes) : Bytes :=
  match size with
  | none => b
  | some n => b.take n

def deliver (packet : Bytes) (w : World) : Option Bytes × World :=
  match w.current with
  | none => (none, w)
  | some c =>
    let (query, session) := openPacket w.certificates packet
    let w := (w.amend fun e =>
      { e with query := some query, packetSize := session.map fun _ => packet.length }).advance
        c.delay
    match c.wire with
    | none => (none, w)
    | some wire =>
      let plain := withIdentifier query c.idMask wire
      let (reply, w) := match c.plain, session with
        | false, some session =>
          let (reply, entropy) := session.encryptResponse Entropy.draw plain w.entropy
          (reply, { w with entropy })
        | _, _ => (plain, w)
      (some (shorten c.cut (damage c.flip reply)), w)

def datagram (message : Bytes) : Action World IoError Bytes := fun w =>
  match deliver message w with
  | (some reply, w) => (.ok reply, w)
  | (none, w) => (.error .receiveTimeout, w)

/-- A peer that has nothing to say closes the connection. -/
def stream (frame : Bytes) : Action World IoError Bytes := fun w =>
  let length := w.current.bind Cue.frameLength
  match deliver (frame.drop 2) w with
  | (some reply, w) => (.ok (Bytes.ofNatBE 2 (length.getD reply.length) ++ reply), w)
  | (none, w) => (.ok [], w)

def lastParameter (query : Option String) : Bytes :=
  let text := ((query.getD "").toList.reverse.takeWhile (· != '=')).reverse
  ((Text.Base64Url.decode (Bytes.ofString (String.ofList text))).toOption).getD []

def http (r : HttpRequest) : Action World HttpFailure HttpReply := fun w =>
  match takeCue (.http r.url.authority) w with
  | (.error e, w) => (.error (.nameLookup e.text), w)
  | (.ok c, w) =>
    match connect w with
    | .error e => (.error (.connect e.text), w)
    | .ok () =>
      let w := w.amend fun e => { e with request := some ⟨r.method, r.url, r.headers⟩ }
      let message := match r.method with
        | .post => r.body
        | .get => lastParameter r.url.query
      let (reply, w) := deliver message w
      (.ok ⟨c.status, c.reason, .ok (reply.getD [])⟩, w)

def hostAddresses (name : String) : Action World IoError (List IpAddress) := fun w =>
  match w.hosts.lookup name with
  | some (ip :: ips) => (.ok (ip :: ips), w)
  | _ => (.error .unknownHost, w)

def environment : Environment World where
  dial := dial
  handshake := fun _ verify => handshake verify
  datagram := datagram
  stream := stream
  http := http
  hostAddresses := hostAddresses
  elapsed := World.elapsed
  wallClock := World.clock
  queryIds := fun w =>
    (fun i => UInt16.ofNat (w.identifiers + i), { w with identifiers := w.identifiers + 256 })
  random := fun n w =>
    let (b, entropy) := w.entropy.draw n
    (b, { w with entropy })

/-- Connects to an address; a datagram socket is connected to wherever there is a way. -/
def accept (link : Link) (listener : Option SocketAddress) (p : Protocol) (a : SocketAddress) :
    Except IoError Unit :=
  match link.failure? a.ip with
  | some e => .error e
  | none => if p = .udp ∨ listener = some a then .ok () else .error .connectionRefused

def reach (listener : Option SocketAddress) (d : Dial) : Action World IoError SocketAddress :=
  SystemDial.dial hostAddresses (fun p _ a w => (accept w.link listener p a, w)) d

/-- Only a connection to the peer takes a cue; nothing answers at any other address. -/
def dialSocket (listener : Option SocketAddress) (d : Dial) : Action World IoError Unit := fun w =>
  match reach listener d w with
  | (.error e, w) => (.error e, w)
  | (.ok a, w) =>
    if listener = some a then
      match takeCue (.dial d) w with
      | (.error e, w) => (.error e, w)
      | (.ok _, w) => (.ok (), w)
    else (.ok (), { w with current := none })

/-- The peer does not speak HTTP. -/
def httpSocket (listener : Option SocketAddress) (r : HttpRequest) :
    Action World HttpFailure HttpReply :=
  fun w =>
    match Nameserver.ofText? r.url.authority r.url.port with
    | none => (.error (.nameLookup IoError.unknownHost.text), w)
    | some ns =>
      match SystemDial.socketAddresses hostAddresses ns w with
      | (.error e, w) => (.error (.nameLookup e.text), w)
      | (.ok all, w) =>
        match SystemDial.firstConnected (fun a w => (accept w.link listener .tcp a, w))
            SystemDial.notConnected all w with
        | (.error e, w) => (.error (.connect e.text), w)
        | (.ok _, w) => (.error (.connect IoError.endOfStream.text), w)

def sockets (listener : Option SocketAddress) : Environment World :=
  { environment with dial := dialSocket listener, http := httpSocket listener }

def table (records : List (String × List (String × String)))
    (question : Question) : Task World Response :=
  fun w =>
    let found := (records.lookup question.name).getD []
    (.ok ⟨[question], found.map fun p => ⟨question.name, p.1, "", "", p.2, "", "", ""⟩, []⟩,
      { w with asked := w.asked + 1 })

end StubResolver.Rehearsal
