import Signal2sip.Daemon.Reload

/-!
# Where INVITEs arrive

`onIncomingCall` looks the local port of the receiving transport up in `g_portToAccount`, which
`setupAccount` fills and nothing clears. The sockets themselves are the operating system's: a
transport of its own for every SIP account, and for a TLS account the connections to its PBX, each
with a local port. `Routing` keeps them next to the daemon, together with every port that a setup
has ever recorded; the program has neither list.

Ports are given out by the operating system, so an event carries the port that was given. `Possible`
says which runs it can give rise to: a bound port is not given out again under the same protocol, and
a transport's address tells its port.
-/

namespace Signal2sip

inductive Protocol
  | udp
  | tcp
deriving DecidableEq, Repr

/-- A bound socket: an account's own transport (`dedicated`) or one of its connections. -/
structure Socket where
  owner : ObjPtr
  protocol : Protocol
  port : Int
  dedicated : Bool
deriving DecidableEq, Repr

/-- The protocol of an account's transport. -/
def AccountConfig.protocol (config : AccountConfig) : Protocol :=
  if config.sipTransport = "tls" then .tcp else .udp

/-- The setup creates a transport and a SIP account on it. -/
def Daemon.opensTransport (d : Daemon) (db : Db) (config : AccountConfig) (o : SetupOutcomes) :
    Bool :=
  let (d', result) := setupAccount db config o d
  config.name ∉ d.g_accounts && result = .returned true && config.hasSip && d'.g_ep &&
    o.transportCreate.isSome

structure Routing where
  daemon : Daemon
  sockets : List Socket := []
  recordings : List (Int × ObjPtr) := []

inductive RoutingEvent
  | setup (db : Db) (config : AccountConfig) (o : SetupOutcomes) (port : Int)
  | teardown (name : String) (closes : Bool)
  | connect (name : String) (port : Int)
  | disconnect (socket : Socket)
  | invite (socket : Socket) (invoked : String)

namespace Routing

/-- A setup may open a transport, and then records the port that its address tells. -/
def setup (s : Routing) (db : Db) (config : AccountConfig) (o : SetupOutcomes) (port : Int) :
    Routing :=
  if s.daemon.opensTransport db config o then
    let owner : ObjPtr := ⟨config.name, s.daemon.nextSerial⟩
    { daemon := s.daemon.setup db config o
      sockets := ⟨owner, config.protocol, port, true⟩ :: s.sockets
      recordings := (o.localAddress.bind portOfLocalAddress).toList.map (·, owner) ++ s.recordings }
  else { s with daemon := s.daemon.setup db config o }

/-- The running account of that name owns the socket. -/
def owns (s : Routing) (name : String) (socket : Socket) : Bool :=
  socket.owner.name = name && (s.daemon.account? socket.owner).isSome

/-- A teardown closes the account's transport, if it can. Connections stay until they end. -/
def teardown (s : Routing) (name : String) (closes : Bool) : Routing where
  daemon := s.daemon.teardown name closes
  sockets := s.sockets.filter fun socket => !(closes && socket.dedicated && s.owns name socket)
  recordings := s.recordings

/-- A TLS account connects to its PBX. -/
def connect (s : Routing) (name : String) (port : Int) : Routing :=
  match s.daemon.g_accounts.lookup name with
  | none => s
  | some acct =>
    { s with sockets := ⟨Daemon.ptr name acct, acct.config.protocol, port, false⟩ :: s.sockets }

/-- An INVITE changes none of the tables that the next one is routed by. -/
def step (s : Routing) : RoutingEvent → Routing
  | .setup db config o port => s.setup db config o port
  | .teardown name closes => s.teardown name closes
  | .connect name port => s.connect name port
  | .disconnect socket => { s with sockets := s.sockets.erase socket }
  | .invite _ _ => s

/-- No socket of the protocol is bound to the port. -/
def Free (s : Routing) (protocol : Protocol) (port : Int) : Prop :=
  ∀ socket ∈ s.sockets, socket.protocol = protocol → socket.port ≠ port

instance (s : Routing) (protocol : Protocol) (port : Int) : Decidable (s.Free protocol port) :=
  inferInstanceAs (Decidable (∀ socket ∈ s.sockets, socket.protocol = protocol → socket.port ≠ port))

/-- What the operating system and PJSIP can do next. -/
def Possible (s : Routing) : RoutingEvent → Prop
  | .setup db config o port =>
    s.daemon.opensTransport db config o = true →
      s.Free config.protocol port ∧ ∀ p, o.localAddress.bind portOfLocalAddress = some p → p = port
  | .teardown _ _ => True
  | .connect name port =>
    ∃ acct, s.daemon.g_accounts.lookup name = some acct ∧ name ∈ s.daemon.g_sipAccounts ∧
      acct.config.protocol = .tcp ∧ s.Free .tcp port
  | .disconnect socket => socket.dedicated = false
  | .invite socket invoked => socket ∈ s.sockets ∧ invoked ∈ s.daemon.g_sipAccounts

end Routing

end Signal2sip
