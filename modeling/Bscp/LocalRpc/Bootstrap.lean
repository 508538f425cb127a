import Bscp.LocalRpc.Channel

/-!
The initial handshake of the local-RPC bridge (`InitialBootstrap.c`), without its test
hooks. A client process connects channels one at a time: it opens a channel at the service,
waits at its callback interface for one `Offer`, and asks the service to associate; the
service answers with the `Offer` from inside that call. Offers come from anybody who finds
the interface. What is done under `pendingLock` or a channel's lock is one step. Tokens,
strings and the handles that are only closed again are left out: where they make a call
fail, the call may fail.
-/

namespace Bscp.LocalRpc.Bootstrap

/-- A process object. It keeps its PID, which another may have once it has exited. -/
abbrev Process := Nat

inductive Life where
  | unborn
  | alive
  | exited
  deriving DecidableEq, Repr

structure Config where
  pid : Process → Nat
  /-- The client, and the process that serves its channels. -/
  self : Process
  service : Process

/-- `P_CONFIGURED` to `P_CLOSING`; nothing sets `P_UNKNOWN`. -/
inductive Stage where
  | configured
  | awaiting
  | proofReady
  | published
  | closing
  deriving DecidableEq, Repr

abbrev Nonce := Vector UInt8 32

structure InitialChannel where
  launch : Process := 0
  generation : UInt64 := 0
  id : Nat := 0
  nonce : Nonce := Vector.replicate 32 0
  stage : Stage := .configured
  proofCount : Nat := 0
  registered : Bool := false
  /-- `retireCallback` has begun. -/
  retiring : Bool := false

/-! `CbServer_Offer`. -/

structure Offer where
  caller : Process
  /-- The processes of the two handles. -/
  sender : Process
  actualClient : Process
  nonce : Nonce
  generation : UInt64
  id : Nat
  protocol : Nat

inductive Progress where
  | borrowed
  | sender
  | client
  | challenge
  deriving DecidableEq, Repr

inductive OfferPc where
  | absent
  | called (offer : Offer)
  | checking (p : Nat) (offer : Offer) (progress : Progress)
  | decided (p : Nat) (offer : Offer) (accepted : Bool)
  | finished (offer : Offer) (ok : Bool)
  | returned (offer : Offer) (ok : Bool)

namespace OfferPc

def running : OfferPc → Bool
  | .absent => false
  | .returned _ _ => false
  | _ => true

end OfferPc

/-! `InitialConnect` and `InitialChannelClose`. -/

inductive After where
  | publish
  | fail
  | close
  deriving DecidableEq, Repr

inductive Place where
  | allocated
  | opened
  | offered
  /-- The interface is registered, and `p->registered` is not set yet. -/
  | listening
  | ready
  | calling (call : Nat)
  | associated
  | proven
  | failing
  | closing
  | retiring (after : After)
  | drained (after : After)
  | retired (after : After)
  | published
  | destroyed
  deriving DecidableEq, Repr

def Place.retires : Place → Option After
  | .proven => some .publish
  | .failing => some .fail
  | .closing => some .close
  | _ => none

/-- The calls that fail lead to the label `fail`. -/
def Place.fallible : Place → Bool
  | .allocated => true
  | .opened => true
  | .ready => true
  | .calling _ => true
  | .retired .publish => true
  | _ => false

inductive Connect where
  | idle
  | checked (launch : Process) (generation : UInt64)
  | guarded (launch : Process) (generation : UInt64)
  | holding (p : Nat) (place : Place)
  deriving DecidableEq, Repr

/-- Where a `retireCallback` that fails leads: to `fail`, or to `quarantine`. -/
def After.stuck (p : Nat) : After → Connect
  | .publish => .holding p .failing
  | .fail => .holding p .destroyed
  | .close => .idle

def After.destroyed (p : Nat) : After → Connect
  | .publish => .holding p .published
  | .fail => .holding p .destroyed
  | .close => .idle

structure Client where
  pending : Option Nat := none
  callbackBorrows : Nat := 0
  handshakeBusy : Bool := false
  /-- The callback interface is registered with the RPC runtime. -/
  interface : Bool := false
  channel : Nat → InitialChannel := fun _ => {}
  made : Nat := 0
  connect : Nat → Connect := fun _ => .idle
  offer : Nat → OfferPc := fun _ => .absent
  /-- What has happened so far: the offers that were accepted, and for which channel; the
  channels that `InitialConnect` has returned. -/
  accepted : List (Nat × Offer) := []
  connected : List Nat := []

namespace Client

def setOffer (c : Client) (k : Nat) (pc : OfferPc) : Client :=
  { c with offer := Function.update c.offer k pc }

def setConnect (c : Client) (thread : Nat) (pc : Connect) : Client :=
  { c with connect := Function.update c.connect thread pc }

def setChannel (c : Client) (p : Nat) (channel : InitialChannel) : Client :=
  { c with channel := Function.update c.channel p channel }

end Client

section Steps

variable (config : Config) (life : Process → Life)

inductive OfferStep : Client → Client → Prop
  | begin {c : Client} (k : Nat) (offer : Offer) (fresh : c.offer k = .absent)
      (listed : c.interface = true) (live : life offer.caller = .alive) :
      OfferStep c (c.setOffer k (.called offer))
  | borrow {c : Client} {k p : Nat} {offer : Offer} (here : c.offer k = .called offer)
      (found : c.pending = some p) (awaiting : (c.channel p).stage = .awaiting) :
      OfferStep c { c.setOffer k (.checking p offer .borrowed) with
        callbackBorrows := c.callbackBorrows + 1 }
  | unwanted {c : Client} {k : Nat} {offer : Offer} (here : c.offer k = .called offer)
      (nobody : ∀ p, c.pending = some p → (c.channel p).stage ≠ .awaiting) :
      OfferStep c (c.setOffer k (.finished offer false))
  | sender {c : Client} {k p : Nat} {offer : Offer} (here : c.offer k = .checking p offer .borrowed)
      (live : life offer.sender = .alive) (same : config.pid offer.sender = config.pid offer.caller)
      (launched : life (c.channel p).launch = .alive) (equal : offer.sender = (c.channel p).launch) :
      -- `actualSender`.
      OfferStep c (c.setOffer k (.checking p offer .sender))
  | client {c : Client} {k p : Nat} {offer : Offer} (here : c.offer k = .checking p offer .sender)
      (live : life offer.actualClient = .alive) (equal : offer.actualClient = config.self) :
      OfferStep c (c.setOffer k (.checking p offer .client))
  | challenge {c : Client} {k p : Nat} {offer : Offer} (here : c.offer k = .checking p offer .client)
      (protocol : offer.protocol = 1) (nonce : offer.nonce = (c.channel p).nonce)
      (generation : (c.channel p).generation = offer.generation) (id : (c.channel p).id = offer.id) :
      OfferStep c (c.setOffer k (.checking p offer .challenge))
  | deny {c : Client} {k p : Nat} {offer : Offer} {progress : Progress}
      (here : c.offer k = .checking p offer progress) :
      OfferStep c (c.setOffer k (.decided p offer false))
  | accept {c : Client} {k p : Nat} {offer : Offer} (here : c.offer k = .checking p offer .challenge)
      (found : c.pending = some p) (awaiting : (c.channel p).stage = .awaiting)
      (live : life offer.sender = .alive ∧ life (c.channel p).launch = .alive ∧
        life offer.actualClient = .alive) :
      OfferStep c { (c.setOffer k (.decided p offer true)).setChannel p { c.channel p with
          stage := .proofReady
          proofCount := (c.channel p).proofCount + 1 } with
        accepted := (p, offer) :: c.accepted }
  | release {c : Client} {k p : Nat} {offer : Offer} {accepted : Bool} (ok : Bool)
      (here : c.offer k = .decided p offer accepted) (agrees : ok = true → accepted = true) :
      -- A handle that does not close spoils the answer.
      OfferStep c { c.setOffer k (.finished offer ok) with
        callbackBorrows := c.callbackBorrows - 1 }
  | answer {c : Client} {k : Nat} {offer : Offer} {ok : Bool} (here : c.offer k = .finished offer ok) :
      OfferStep c (c.setOffer k (.returned offer ok))

/-- `Server_AssociateInitial` of a channel. -/
structure Request where
  channel : Nat
  generation : UInt64
  nonce : Nonce

inductive Event where
  | silent
  | opens (generation : UInt64) (id : Nat)
  | calls (call : Nat) (request : Request)
  | returns (call : Nat)

inductive ConnectStep : Event → Client → Client → Prop
  | check {c : Client} (thread : Nat) (launch : Process) (generation : UInt64)
      (here : c.connect thread = .idle) (live : life launch = .alive) :
      -- `InitialCheckConfigured`.
      ConnectStep .silent c (c.setConnect thread (.checked launch generation))
  | busy {c : Client} {thread : Nat} {launch : Process} {generation : UInt64}
      (here : c.connect thread = .checked launch generation) (taken : c.handshakeBusy = true) :
      ConnectStep .silent c (c.setConnect thread .idle)
  | guard {c : Client} {thread : Nat} {launch : Process} {generation : UInt64}
      (here : c.connect thread = .checked launch generation) (free : c.handshakeBusy = false) :
      ConnectStep .silent c { c.setConnect thread (.guarded launch generation) with
        handshakeBusy := true }
  | allocateFails {c : Client} {thread : Nat} {launch : Process} {generation : UInt64}
      (here : c.connect thread = .guarded launch generation) :
      ConnectStep .silent c { c.setConnect thread .idle with handshakeBusy := false }
  | allocate {c : Client} {thread : Nat} {launch : Process} {generation : UInt64}
      (here : c.connect thread = .guarded launch generation) :
      ConnectStep .silent c { (c.setConnect thread (.holding c.made .allocated)).setChannel c.made
          { launch := launch, generation := generation } with
        made := c.made + 1 }
  | fails {c : Client} {thread p : Nat} {place : Place} (here : c.connect thread = .holding p place)
      (fallible : place.fallible = true) :
      ConnectStep .silent c (c.setConnect thread (.holding p .failing))
  | opens {c : Client} {thread p : Nat} (id : Nat) (here : c.connect thread = .holding p .allocated) :
      ConnectStep (.opens (c.channel p).generation id) c
        ((c.setConnect thread (.holding p .opened)).setChannel p { c.channel p with id := id })
  | offer {c : Client} {thread p : Nat} (nonce : Nonce) (here : c.connect thread = .holding p .opened)
      (free : c.pending = none) :
      ConnectStep .silent c { (c.setConnect thread (.holding p .offered)).setChannel p
          { c.channel p with nonce := nonce, stage := .awaiting } with
        pending := some p }
  | registerFails {c : Client} {thread p : Nat} (here : c.connect thread = .holding p .offered) :
      ConnectStep .silent c { c.setConnect thread (.holding p .failing) with pending := none }
  | register {c : Client} {thread p : Nat} (here : c.connect thread = .holding p .offered) :
      ConnectStep .silent c { c.setConnect thread (.holding p .listening) with interface := true }
  | registered {c : Client} {thread p : Nat} (here : c.connect thread = .holding p .listening) :
      ConnectStep .silent c ((c.setConnect thread (.holding p .ready)).setChannel p
        { c.channel p with registered := true })
  | calls {c : Client} {thread p : Nat} (call : Nat) (here : c.connect thread = .holding p .ready) :
      ConnectStep (.calls call ⟨(c.channel p).id, (c.channel p).generation, (c.channel p).nonce⟩) c
        (c.setConnect thread (.holding p (.calling call)))
  | returns {c : Client} {thread p call : Nat} (here : c.connect thread = .holding p (.calling call)) :
      ConnectStep (.returns call) c (c.setConnect thread (.holding p .associated))
  | proven {c : Client} {thread p : Nat} (here : c.connect thread = .holding p .associated)
      (proof : (c.channel p).stage = .proofReady ∧ (c.channel p).proofCount = 1) :
      ConnectStep .silent c (c.setConnect thread (.holding p .proven))
  | unproven {c : Client} {thread p : Nat} (here : c.connect thread = .holding p .associated)
      (missing : ¬((c.channel p).stage = .proofReady ∧ (c.channel p).proofCount = 1)) :
      ConnectStep .silent c (c.setConnect thread (.holding p .failing))
  | retire {c : Client} {thread p : Nat} {place : Place} {after : After}
      (here : c.connect thread = .holding p place) (retires : place.retires = some after)
      (listed : (c.channel p).registered = true) :
      ConnectStep .silent c ((c.setConnect thread (.holding p (.retiring after))).setChannel p
        { c.channel p with stage := .closing, retiring := true })
  | unlisted {c : Client} {thread p : Nat} {place : Place} {after : After}
      (here : c.connect thread = .holding p place) (retires : place.retires = some after)
      (unlisted : (c.channel p).registered = false) :
      ConnectStep .silent c ((c.setConnect thread (.holding p (.retired after))).setChannel p
        { c.channel p with retiring := true })
  | unregister {c : Client} {thread p : Nat} {after : After}
      (here : c.connect thread = .holding p (.retiring after))
      (waited : ∀ k, (c.offer k).running = false) :
      ConnectStep .silent c { c.setConnect thread (.holding p (.drained after)) with
        interface := false }
  | unregisterFails {c : Client} {thread p : Nat} {after : After}
      (here : c.connect thread = .holding p (.retiring after)) :
      ConnectStep .silent c (c.setConnect thread (after.stuck p))
  | drain {c : Client} {thread p : Nat} {after : After}
      (here : c.connect thread = .holding p (.drained after)) (none' : c.callbackBorrows = 0) :
      ConnectStep .silent c { (c.setConnect thread (.holding p (.retired after))).setChannel p
          { c.channel p with registered := false } with
        pending := if c.pending = some p then none else c.pending }
  | drainBusy {c : Client} {thread p : Nat} {after : After}
      (here : c.connect thread = .holding p (.drained after)) (some' : c.callbackBorrows ≠ 0) :
      ConnectStep .silent c (c.setConnect thread (after.stuck p))
  | publish {c : Client} {thread p : Nat} (here : c.connect thread = .holding p (.retired .publish))
      (live : life (c.channel p).launch = .alive ∧ life config.self = .alive) :
      ConnectStep .silent c ((c.setConnect thread (.holding p .published)).setChannel p
        { c.channel p with stage := .published })
  | succeed {c : Client} {thread p : Nat} (here : c.connect thread = .holding p .published) :
      ConnectStep .silent c { c.setConnect thread .idle with
        handshakeBusy := false
        connected := p :: c.connected }
  | destroy {c : Client} {thread p : Nat} {after : After}
      (here : c.connect thread = .holding p (.retired after)) (gone : after ≠ .publish) :
      ConnectStep .silent c (c.setConnect thread (after.destroyed p))
  | finish {c : Client} {thread p : Nat} (here : c.connect thread = .holding p .destroyed) :
      ConnectStep .silent c { c.setConnect thread .idle with
        handshakeBusy := if c.pending = none then false else c.handshakeBusy }
  | close {c : Client} (thread : Nat) {p : Nat} (here : c.connect thread = .idle)
      (owned : p ∈ c.connected) :
      ConnectStep .silent c ((c.setConnect thread (.holding p .closing)).setChannel p
        { c.channel p with stage := .closing })
  | shutdown {c : Client} {p : Nat} (owned : p ∈ c.connected) :
      -- `InitialChannelShutdown`, and every call that finds the channel dead.
      ConnectStep .silent c (c.setChannel p { c.channel p with stage := .closing })

end Steps

/-! The server. -/

structure ServerChannel where
  generation : UInt64 := 0
  closing : Bool := false
  sessionClosing : Bool := false
  association : Association := .unassociated

inductive CallPc where
  | absent
  | called (request : Request)
  | callback (request : Request)
  | settling (request : Request) (ok : Bool)
  | returned (request : Request) (ok : Bool)

structure Server where
  /-- `idCounter`: the ids so far are 1 to this. -/
  opened : Nat := 0
  channel : Nat → ServerChannel := fun _ => {}
  call : Nat → CallPc := fun _ => .absent

namespace Server

def openChannel (v : Server) (generation : UInt64) : Server :=
  { v with
    opened := v.opened + 1
    channel := Function.update v.channel (v.opened + 1) { generation := generation } }

def setCall (v : Server) (k : Nat) (pc : CallPc) : Server :=
  { v with call := Function.update v.call k pc }

def setChannel (v : Server) (id : Nat) (channel : ServerChannel) : Server :=
  { v with channel := Function.update v.channel id channel }

def settles (v : Server) (request : Request) (ok : Bool) : Bool :=
  ok && !(v.channel request.channel).closing && !(v.channel request.channel).sessionClosing &&
    (v.channel request.channel).association == .associating

end Server

inductive ServerStep (config : Config) (offers : Nat → OfferPc) : Server → Server → Prop
  | opens {v : Server} (generation : UInt64) : ServerStep config offers v (v.openChannel generation)
  | request {v : Server} (k : Nat) (request : Request) (fresh : v.call k = .absent)
      (known : request.channel ≤ v.opened) :
      ServerStep config offers v (v.setCall k (.called request))
  | refuse {v : Server} {k : Nat} {request : Request} (here : v.call k = .called request) :
      ServerStep config offers v (v.setCall k (.returned request false))
  | begin {v : Server} {k : Nat} {request : Request} (ok : Bool) (here : v.call k = .called request)
      (living : (v.channel request.channel).closing = false ∧
        (v.channel request.channel).sessionClosing = false)
      (generation : (v.channel request.channel).generation = request.generation)
      (fresh : (v.channel request.channel).association = .unassociated) :
      -- Handles that cannot be duplicated end the call without an offer.
      ServerStep config offers v ((v.setCall k (if ok then .callback request else .settling request false)).setChannel
        request.channel { v.channel request.channel with association := .associating })
  | callback {v : Server} {k o : Nat} {request : Request} {offer : Offer}
      (here : v.call k = .callback request) (answered : offers o = .returned offer true)
      (own : offer.caller = config.service ∧ offer.nonce = request.nonce ∧
        offer.generation = (v.channel request.channel).generation ∧ offer.id = request.channel ∧
        offer.protocol = 1) :
      ServerStep config offers v (v.setCall k (.settling request true))
  | callbackFails {v : Server} {k : Nat} {request : Request} (here : v.call k = .callback request) :
      ServerStep config offers v (v.setCall k (.settling request false))
  | settle {v : Server} {k : Nat} {request : Request} {ok : Bool} (here : v.call k = .settling request ok) :
      ServerStep config offers v ((v.setCall k (.returned request (v.settles request ok))).setChannel
        request.channel { v.channel request.channel with
          association := if v.settles request ok then .associated else .refused })
  | close {v : Server} (id : Nat) :
      ServerStep config offers v (v.setChannel id { v.channel id with closing := true })
  | closeSession {v : Server} (id : Nat) :
      ServerStep config offers v (v.setChannel id { v.channel id with sessionClosing := true })

def Answers : Event → Server → Server → Prop
  | .silent, v, next => next = v
  | .opens generation id, v, next => id = v.opened + 1 ∧ next = v.openChannel generation
  | .calls k request, v, next =>
      v.call k = .absent ∧ request.channel ≤ v.opened ∧ next = v.setCall k (.called request)
  | .returns k, v, next => next = v ∧ ∃ request, v.call k = .returned request true

structure State where
  life : Process → Life
  client : Client := {}
  server : Server := {}

inductive Step (config : Config) : State → State → Prop
  | spawn {s : State} (process : Process) (unborn : s.life process = .unborn)
      (apart : ∀ other, s.life other = .alive → config.pid other ≠ config.pid process) :
      Step config s { s with life := Function.update s.life process .alive }
  | exit {s : State} (process : Process) (alive : s.life process = .alive) :
      Step config s { s with life := Function.update s.life process .exited }
  | offer {s : State} {client : Client} (move : OfferStep config s.life s.client client) :
      Step config s { s with client := client }
  | connect {s : State} {client : Client} {server : Server} {event : Event}
      (move : ConnectStep config s.life event s.client client)
      (answer : Answers event s.server server) :
      Step config s { s with client := client, server := server }
  | serve {s : State} {server : Server} (move : ServerStep config s.client.offer s.server server) :
      Step config s { s with server := server }

def State.start (config : Config) : State :=
  { life := fun process => if process = config.self then .alive else .unborn }

abbrev Reachable (config : Config) (s : State) : Prop :=
  Machine.Reach (Step config) (State.start config) s

end Bscp.LocalRpc.Bootstrap
