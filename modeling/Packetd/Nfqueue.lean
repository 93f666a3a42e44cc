import Packetd.Walk

/-! `nfqueueCallback` and `callSubscribers` with the tiers run one after the other: the session
and conntrack tables, the heap of session objects, and the plugins as functions from the message
to what they do. -/

namespace Packetd

structure IPv4Layer where
  protocol : UInt8
  srcIP : UInt32
  dstIP : UInt32
  deriving DecidableEq, Repr

structure IPv6Layer where
  nextHeader : UInt8
  srcIP : IPv6Address
  dstIP : IPv6Address
  deriving DecidableEq, Repr

structure TCPLayer where
  srcPort : UInt16
  dstPort : UInt16
  rst : Bool
  fin : Bool
  deriving DecidableEq, Repr

structure UDPLayer where
  srcPort : UInt16
  dstPort : UInt16
  deriving DecidableEq, Repr

/-- The layers gopacket decoded from a queued packet. -/
structure Packet where
  ip4 : Option IPv4Layer
  ip6 : Option IPv6Layer
  tcp : Option TCPLayer
  udp : Option UDPLayer
  deriving DecidableEq, Repr

/-- `NfqueueMessage`, as the plugins receive it. -/
structure NfqueueMessage where
  session : Option Session
  msgTuple : Tuple
  family : UInt32
  packetMark : UInt32
  length : Nat
  clientToServer : Bool
  ip4Layer : Option IPv4Layer
  ip6Layer : Option IPv6Layer
  tcpLayer : Option TCPLayer
  udpLayer : Option UDPLayer

/-- The layer and port extraction at the top of `nfqueueCallback`: none when the packet has
neither an IPv4 nor an IPv6 layer. A UDP layer's ports replace a TCP layer's. -/
def parseMessage (family : UInt32) (packet : Packet) (packetLength : Nat) (pmark : UInt32) :
    Option NfqueueMessage :=
  let addressed : Option (UInt8 × IP × IP × Option IPv4Layer × Option IPv6Layer) :=
    match packet.ip4, packet.ip6 with
    | some ip4, _ => some (ip4.protocol, .v4 ip4.srcIP, .v4 ip4.dstIP, some ip4, none)
    | none, some ip6 => some (ip6.nextHeader, .v6 ip6.srcIP, .v6 ip6.dstIP, none, some ip6)
    | none, none => none
  addressed.map fun (protocol, client, server, ip4Layer, ip6Layer) =>
    let ports : UInt16 × UInt16 :=
      match packet.udp, packet.tcp with
      | some udp, _ => (udp.srcPort, udp.dstPort)
      | none, some tcp => (tcp.srcPort, tcp.dstPort)
      | none, none => (0, 0)
    { session := none, msgTuple := ⟨protocol, client, ports.1, server, ports.2⟩, family,
      packetMark := pmark, length := packetLength, clientToServer := false, ip4Layer, ip6Layer,
      tcpLayer := packet.tcp, udpLayer := packet.udp }

theorem parseMessage_length {family : UInt32} {packet : Packet} {packetLength : Nat}
    {pmark : UInt32} {mess : NfqueueMessage}
    (parsed : parseMessage family packet packetLength pmark = some mess) :
    mess.length = packetLength := by
  unfold parseMessage at parsed
  obtain ⟨_, -, rfl⟩ := Option.map_eq_some'.1 parsed
  rfl

/-- The conntrack record of a flow, as far as the dispatcher reads it. -/
structure Conntrack where
  conntrackID : UInt32
  clientSideTuple : Tuple

/-- The dispatcher's shared state. Session objects live in a heap addressed by their session
id; the session table maps a conntrack id to one of them. Ids from `nextSessionID` on are
unused, so a created session is a new object. -/
structure System where
  sessionTable : UInt32 → Option Nat
  sessions : Nat → Option Session
  conntrackTable : UInt32 → Option Conntrack
  dict : Dict
  nextSessionID : Nat
  unallocated : ∀ id, nextSessionID ≤ id → sessions id = none

def System.empty : System :=
  ⟨fun _ => none, fun _ => none, fun _ => none, Dict.empty, 0, fun _ _ => rfl⟩

/-- What a plugin's handler does with the session while it runs. -/
inductive PluginAction
  /-- `dispatch.ReleaseSession(mess.Session, <its own name>)`. -/
  | releaseSession
  /-- `dict.AddSessionEntry(ctid, field, value)`. -/
  | addSessionEntry (field : String) (value : Value)
  /-- `mess.Session.PutAttachment(key, value)`. -/
  | putAttachment (key : String) (value : String)
  deriving DecidableEq

/-- A handler's actions, in order, and the `NfqueueResult` it returns. -/
structure HandlerRun where
  actions : List PluginAction
  sessionRelease : Bool

/-- An `NfqueueHandlerFunction`: message, conntrack id, new-session flag. -/
abbrev Handler := NfqueueMessage → UInt32 → Bool → HandlerRun

/-- The nfqueue subscriptions registered at startup: each plugin's priority, by name, and
its handler. -/
structure Plugins where
  registry : SubscriptionTable
  handler : String → Handler

namespace System

def findSession (sys : System) (ctid : UInt32) : Option (Nat × Session) :=
  (sys.sessionTable ctid).bind fun sid => (sys.sessions sid).map (sid, ·)

/-- Allocate `session` as a new object and enter it in the session table under `ctid`. -/
def insertSession (sys : System) (ctid : UInt32) (session : Session) : System :=
  { sys with
    sessionTable := Function.update sys.sessionTable ctid (some sys.nextSessionID)
    sessions := Function.update sys.sessions sys.nextSessionID (some session)
    nextSessionID := sys.nextSessionID + 1
    unallocated := fun id fresh => by
      rw [Function.update_noteq (by omega)]
      exact sys.unallocated id (by omega) }

/-- Change the session object `sid` in place. -/
def modifySession (sys : System) (sid : Nat) (change : Session → Session) : System :=
  { sys with
    sessions := fun id => if id = sid then (sys.sessions id).map change else sys.sessions id
    unallocated := fun id fresh => by simp [sys.unallocated id fresh] }

def addSessionEntry (sys : System) (write : DictWrite) : System :=
  { sys with dict := sys.dict.addSessionEntry write }

/-- `ReleaseSession` on the session object `sid`. -/
def releaseSession (sys : System) (sid : Nat) (owner : String) : System :=
  match sys.sessions sid with
  | some session =>
      let released := Packetd.releaseSession session owner
      { sys.modifySession sid (fun _ => released.1) with dict := sys.dict.addAll released.2 }
  | none => sys

/-- `session.removeFromSessionTable()`: the table entry under the session's conntrack id. -/
def removeFromSessionTable (sys : System) (session : Session) : System :=
  { sys with sessionTable := Function.update sys.sessionTable session.conntrackID none }

def removeConntrack (sys : System) (ctid : UInt32) : System :=
  { sys with conntrackTable := Function.update sys.conntrackTable ctid none }

end System

/-- `createSession`: a new session for the message's flow, holding a copy of the registered
subscriptions, entered in the session table under `ctid`. -/
def createSession (plugins : Plugins) (now : Nat) (mess : NfqueueMessage) (ctid : UInt32)
    (sys : System) : Nat × Session × System :=
  let session : Session :=
    { sessionID := sys.nextSessionID, conntrackID := ctid, creationTime := now,
      packetCount := 1, byteCount := mess.length, eventCount := 1, lastActivity := now,
      clientSideTuple := mess.msgTuple, family := mess.family.toUInt8,
      conntrackConfirmed := false, clientInterfaceID := 0, clientInterfaceType := 0,
      serverInterfaceID := 0, serverInterfaceType := 0, subscriptions := plugins.registry,
      attachments := [] }
  (sys.nextSessionID, session, sys.insertSession ctid session)

/-- How `nfqueueCallback` settles the packet's session. -/
inductive Resolved
  /-- No session and no new mark: `bypass_packetd` is written and the packet accepted. -/
  | midSession
  /-- The session object `sid` takes the packet; `newSession` as the code leaves it. -/
  | found (sid : Nat) (session : Session) (newSession : Bool)

/-- The session lookup and ctid-reuse reconciliation of `nfqueueCallback`. -/
def resolveSession (plugins : Plugins) (now : Nat) (ctid : UInt32) (mess : NfqueueMessage)
    (newSession : Bool) (sys : System) : Resolved × System :=
  match sys.findSession ctid with
  | none =>
      if !newSession then (.midSession, sys.addSessionEntry (bypassWrite ctid))
      else
        let created := createSession plugins now mess ctid sys
        (.found created.1 created.2.1 true, created.2.2)
  | some (sid, session) =>
      if newSession then
        if mess.msgTuple = session.clientSideTuple then (.found sid session false, sys)
        else
          let created := createSession plugins now mess ctid (sys.removeFromSessionTable session)
          (.found created.1 created.2.1 true, created.2.2)
      else (.found sid session false, sys)

/-- Conntrack reconciliation, direction, interface attribution and accounting, between the
session lookup and `callSubscribers`. -/
def updateSession (now : Nat) (pmark : UInt32) (newSession : Bool)
    (mess : NfqueueMessage) (session : Session) : Session × Bool :=
  let clientToServer := mess.msgTuple.clientAddress == session.clientSideTuple.clientAddress
  let session :=
    if newSession then
      { session with clientInterfaceID := (pmark &&& 0x000000FF).toUInt8,
                     clientInterfaceType := ((pmark &&& 0x03000000) >>> 24).toUInt8 }
    else session
  let session :=
    if !clientToServer && session.serverInterfaceID == 0 then
      { session with serverInterfaceID := (pmark &&& 0x000000FF).toUInt8,
                     serverInterfaceType := ((pmark &&& 0x03000000) >>> 24).toUInt8 }
    else session
  ({ session with lastActivity := now, packetCount := session.packetCount + 1,
                  byteCount := session.byteCount + mess.length,
                  eventCount := session.eventCount + 1 }, clientToServer)

/-- One plugin action, on the session object `sid` and the dictionary entry `ctid`. -/
def applyAction (owner : String) (ctid : UInt32) (sid : Nat) (sys : System) :
    PluginAction → System
  | .releaseSession => sys.releaseSession sid owner
  | .addSessionEntry field value => sys.addSessionEntry ⟨ctid, field, value⟩
  | .putAttachment key value =>
      sys.modifySession sid fun session =>
        { session with attachments := (key, value) :: session.attachments }

/-- One priority tier: every handler of the tier runs, then the join releases the session for
each result with `SessionRelease` set. -/
def runTier (plugins : Plugins) (ctid : UInt32) (sid : Nat) (mess : NfqueueMessage)
    (newSession : Bool) (sys : System) (owners : List String) : System :=
  let ran := owners.foldl (fun (state : System × List (String × Bool)) owner =>
      let run := plugins.handler owner mess ctid newSession
      (run.actions.foldl (applyAction owner ctid sid) state.1,
        state.2 ++ [(owner, run.sessionRelease)]))
    (sys, [])
  ran.2.foldl (fun sys result => if result.2 then sys.releaseSession sid result.1 else sys) ran.1

/-- `callSubscribers`, its tiers run one after the other; a `panic` is an `error`. -/
def callSubscribers (plugins : Plugins) (ctid : UInt32) (sid : Nat) (session : Session)
    (mess : NfqueueMessage) (newSession : Bool) (sys : System) : Except String (Nat × System) :=
  let sublist := session.subscriptions
  if sublist.keys.length = 0 then
    .ok (nfAccept, sys.addSessionEntry (bypassWrite session.conntrackID))
  else
    let walk := priorityWalk sublist
    let sys := walk.tiers.foldl (runTier plugins ctid sid mess newSession) sys
    match walk.exit with
    | .normal => .ok (nfAccept, sys)
    | .panic => .error "Constraint failed - infinite loop detected"

theorem callSubscribers_released (plugins : Plugins) (ctid : UInt32) (sid : Nat)
    (session : Session) (mess : NfqueueMessage) (newSession : Bool) (sys : System)
    (released : session.subscriptions.keys = []) :
    callSubscribers plugins ctid sid session mess newSession sys =
      .ok (nfAccept, sys.addSessionEntry (bypassWrite session.conntrackID)) := by
  simp [callSubscribers, released]

/-- The rest of `nfqueueCallback` once the session is settled: the stale conntrack record of a
new session goes, the session is updated, and the plugins run. -/
def processSession (plugins : Plugins) (now : Nat) (ctid pmark : UInt32) (mess : NfqueueMessage)
    (sid : Nat) (session : Session) (newSession : Bool) (sys : System) :
    Except String (Nat × System) :=
  let sys := if newSession then sys.removeConntrack ctid else sys
  let updated := updateSession now pmark newSession mess session
  let sys := sys.modifySession sid fun _ => updated.1
  callSubscribers plugins ctid sid updated.1
    { mess with session := some updated.1, clientToServer := updated.2 } newSession sys

/-- `nfqueueCallback`: the verdict and the state afterwards, or the panic. -/
def nfqueueCallback (plugins : Plugins) (now : Nat) (ctid : UInt32) (family : UInt32)
    (packet : Packet) (packetLength : Nat) (pmark : UInt32) (sys : System) :
    Except String (Nat × System) :=
  match parseMessage family packet packetLength pmark with
  | none => .ok (nfAccept, sys)
  | some mess =>
      if mess.msgTuple.clientAddress.isLoopback || mess.msgTuple.serverAddress.isLoopback then
        .ok (nfAccept, sys)
      else
        let newSession := pmark &&& 0x10000000 != 0
        match resolveSession plugins now ctid mess newSession sys with
        | (.midSession, sys) => .ok (nfAccept, sys)
        | (.found sid session newSession, sys) =>
            processSession plugins now ctid pmark mess sid session newSession sys

/-! Frame lemmas: plugins change the dictionary and the subscriptions and attachments of
session objects, nothing else. -/

/-- A session with its plugin-owned parts emptied: what plugins cannot change. -/
def Session.withoutPlugins (session : Session) : Session :=
  { session with subscriptions := ∅, attachments := [] }

/-- The tables and the allocator are as before, and every session object is there as before
up to its subscriptions and attachments, with no subscription it did not have. -/
structure PluginFrame (sys sys' : System) : Prop where
  sessionTable : sys'.sessionTable = sys.sessionTable
  conntrackTable : sys'.conntrackTable = sys.conntrackTable
  nextSessionID : sys'.nextSessionID = sys.nextSessionID
  sessions : ∀ id, (sys'.sessions id).map Session.withoutPlugins =
    (sys.sessions id).map Session.withoutPlugins
  shrinks : ∀ id session', sys'.sessions id = some session' →
    ∃ session, sys.sessions id = some session ∧
      session'.subscriptions.entries ⊆ session.subscriptions.entries

theorem PluginFrame.refl (sys : System) : PluginFrame sys sys :=
  ⟨rfl, rfl, rfl, fun _ => rfl, fun _ session stored => ⟨session, stored, List.Subset.refl _⟩⟩

theorem PluginFrame.trans {first second third : System} (one : PluginFrame first second)
    (two : PluginFrame second third) : PluginFrame first third := by
  refine ⟨two.sessionTable.trans one.sessionTable, two.conntrackTable.trans one.conntrackTable,
    two.nextSessionID.trans one.nextSessionID, fun id => (two.sessions id).trans (one.sessions id),
    fun id session stored => ?_⟩
  obtain ⟨middle, stored, fewer⟩ := two.shrinks id session stored
  obtain ⟨original, stored, fewer'⟩ := one.shrinks id middle stored
  exact ⟨original, stored, fewer.trans fewer'⟩

theorem modifySession_frame (sys : System) (sid : Nat) (change : Session → Session)
    (edits : ∀ session, (change session).withoutPlugins = session.withoutPlugins)
    (fewer : ∀ session, (change session).subscriptions.entries ⊆ session.subscriptions.entries) :
    PluginFrame sys (sys.modifySession sid change) := by
  refine ⟨rfl, rfl, rfl, fun id => ?_, fun id session stored => ?_⟩
  · simp only [System.modifySession]
    split
    · rw [Option.map_map]
      exact Option.map_congr fun session _ => edits session
    · rfl
  · simp only [System.modifySession] at stored
    split at stored
    · obtain ⟨original, found, rfl⟩ := Option.map_eq_some'.1 stored
      exact ⟨original, found, fewer original⟩
    · exact ⟨session, stored, List.Subset.refl _⟩

theorem addSessionEntry_frame (sys : System) (write : DictWrite) :
    PluginFrame sys (sys.addSessionEntry write) :=
  ⟨rfl, rfl, rfl, fun _ => rfl, fun _ session stored => ⟨session, stored, List.Subset.refl _⟩⟩

theorem System.releaseSession_sessions (sys : System) (sid id : Nat) (owner : String) :
    (sys.releaseSession sid owner).sessions id =
      if id = sid then
        (sys.sessions sid).map fun session => (Packetd.releaseSession session owner).1
      else sys.sessions id := by
  unfold System.releaseSession
  split
  · next session found => simp only [System.modifySession, found]; split <;> simp_all
  · next missing => split <;> simp_all

theorem releaseSession_frame (sys : System) (sid : Nat) (owner : String) :
    PluginFrame sys (sys.releaseSession sid owner) := by
  have table : (sys.releaseSession sid owner).sessionTable = sys.sessionTable := by
    unfold System.releaseSession; split <;> rfl
  have conntrack : (sys.releaseSession sid owner).conntrackTable = sys.conntrackTable := by
    unfold System.releaseSession; split <;> rfl
  have next : (sys.releaseSession sid owner).nextSessionID = sys.nextSessionID := by
    unfold System.releaseSession; split <;> rfl
  refine ⟨table, conntrack, next, fun id => ?_, fun id session stored => ?_⟩
  · rw [System.releaseSession_sessions]
    split
    · next same =>
        subst same
        cases sys.sessions id <;> simp [releaseSession_fst, Session.withoutPlugins]
    · rfl
  · rw [System.releaseSession_sessions] at stored
    split at stored
    · next same =>
        subst same
        obtain ⟨original, found, rfl⟩ := Option.map_eq_some'.1 stored
        rw [releaseSession_fst]
        exact ⟨original, found, (List.kerase_sublist owner _).subset⟩
    · exact ⟨session, stored, List.Subset.refl _⟩

theorem applyAction_frame (owner : String) (ctid : UInt32) (sid : Nat) (sys : System)
    (action : PluginAction) : PluginFrame sys (applyAction owner ctid sid sys action) := by
  cases action with
  | releaseSession => exact releaseSession_frame sys sid owner
  | addSessionEntry field value => exact addSessionEntry_frame sys _
  | putAttachment key value =>
      exact modifySession_frame sys sid _ (fun _ => rfl) fun _ => List.Subset.refl _

theorem foldl_frame {α : Type} (act : System → α → System)
    (acts : ∀ sys a, PluginFrame sys (act sys a)) :
    ∀ (items : List α) (sys : System), PluginFrame sys (items.foldl act sys)
  | [], sys => PluginFrame.refl sys
  | item :: items, sys => (acts sys item).trans (foldl_frame act acts items _)

theorem runTier_frame (plugins : Plugins) (ctid : UInt32) (sid : Nat)
    (mess : NfqueueMessage) (newSession : Bool) (sys : System) (owners : List String) :
    PluginFrame sys (runTier plugins ctid sid mess newSession sys owners) := by
  unfold runTier
  have handlers : ∀ (items : List String) (results : List (String × Bool)) (sys : System),
      PluginFrame sys (items.foldl (fun (state : System × List (String × Bool)) owner =>
        ((plugins.handler owner mess ctid newSession).actions.foldl (applyAction owner ctid sid)
          state.1,
          state.2 ++ [(owner, (plugins.handler owner mess ctid newSession).sessionRelease)]))
        (sys, results)).1 := by
    intro items
    induction items with
    | nil => exact fun _ sys => PluginFrame.refl sys
    | cons owner rest ih =>
        intro results sys
        exact (foldl_frame _ (applyAction_frame owner ctid sid) _ sys).trans (ih _ _)
  refine (handlers owners [] sys).trans (foldl_frame _ (fun sys result => ?_) _ _)
  split
  · exact releaseSession_frame sys sid result.1
  · exact PluginFrame.refl sys

theorem callSubscribers_frame (plugins : Plugins) (ctid : UInt32) (sid : Nat) (session : Session)
    (mess : NfqueueMessage) (newSession : Bool) (sys : System) {verdict : Nat} {sys' : System}
    (returned :
      callSubscribers plugins ctid sid session mess newSession sys = .ok (verdict, sys')) :
    verdict = nfAccept ∧ PluginFrame sys sys' := by
  unfold callSubscribers at returned
  dsimp only at returned
  split at returned
  · cases returned
    exact ⟨rfl, addSessionEntry_frame sys _⟩
  · split at returned
    · cases returned
      exact ⟨rfl, foldl_frame _ (runTier_frame plugins ctid sid mess newSession) _ _⟩
    · cases returned

theorem callSubscribers_returns_iff (plugins : Plugins) (ctid : UInt32) (sid : Nat)
    (session : Session) (mess : NfqueueMessage) (newSession : Bool) (sys : System) :
    (∃ sys', callSubscribers plugins ctid sid session mess newSession sys = .ok (nfAccept, sys')) ↔
      CalledBelow session.subscriptions 100 := by
  by_cases empty : session.subscriptions.keys.length = 0
  · have entries : session.subscriptions.entries = [] := by
      simpa [AList.keys, List.keys] using List.eq_nil_of_length_eq_zero empty
    simp [callSubscribers, empty, CalledBelow, entries]
  · rw [← priorityWalk_normal_iff session.subscriptions]
    simp only [callSubscribers, empty, if_false]
    cases (priorityWalk session.subscriptions).exit <;> simp

theorem runTier_congr {plugins plugins' : Plugins} {owners : List String}
    (agree : ∀ owner ∈ owners, plugins.handler owner = plugins'.handler owner) (ctid : UInt32)
    (sid : Nat) (mess : NfqueueMessage) (newSession : Bool) (sys : System) :
    runTier plugins ctid sid mess newSession sys owners =
      runTier plugins' ctid sid mess newSession sys owners := by
  unfold runTier
  dsimp only
  congr 1 <;> congr 1 <;> exact List.foldl_ext _ _ _ fun state owner member => by
    rw [agree owner member]

theorem callSubscribers_congr {plugins plugins' : Plugins} {session : Session}
    (agree : ∀ owner ∈ session.subscriptions, plugins.handler owner = plugins'.handler owner)
    (ctid : UInt32) (sid : Nat) (mess : NfqueueMessage) (newSession : Bool) (sys : System) :
    callSubscribers plugins ctid sid session mess newSession sys =
      callSubscribers plugins' ctid sid session mess newSession sys := by
  unfold callSubscribers
  dsimp only
  rw [List.foldl_ext _ _ _ fun sys called member => runTier_congr
    (fun owner inTier => agree owner (mem_of_mem_priorityWalk_tiers _ member inTier)) _ _ _ _ _]

/-! The three ways `nfqueueCallback` settles a packet's session. -/

/-- Each session in the table is stored under its own conntrack id. -/
def WellKeyed (sys : System) : Prop :=
  ∀ ctid sid, sys.sessionTable ctid = some sid →
    ∃ session, sys.sessions sid = some session ∧ session.conntrackID = ctid

theorem findSession_eq_none (sys : System) (ctid : UInt32) (keyed : WellKeyed sys) :
    sys.findSession ctid = none ↔ sys.sessionTable ctid = none := by
  unfold System.findSession
  cases mapped : sys.sessionTable ctid with
  | none => simp
  | some sid =>
      obtain ⟨session, found, -⟩ := keyed ctid sid mapped
      simp [found]

theorem findSession_eq_some {sys : System} {ctid : UInt32} {sid : Nat} {session : Session}
    (found : sys.findSession ctid = some (sid, session)) :
    sys.sessionTable ctid = some sid ∧ sys.sessions sid = some session := by
  unfold System.findSession at found
  cases mapped : sys.sessionTable ctid with
  | none => simp [mapped] at found
  | some id =>
      cases stored : sys.sessions id with
      | none => simp [mapped, stored] at found
      | some object =>
          simp only [mapped, stored, Option.some_bind, Option.map_some', Option.some.injEq,
            Prod.mk.injEq] at found
          obtain ⟨rfl, rfl⟩ := found
          exact ⟨rfl, stored⟩

theorem findSession_of_mapped {sys : System} {ctid : UInt32} {sid : Nat} {session : Session}
    (mapped : sys.sessionTable ctid = some sid) (stored : sys.sessions sid = some session) :
    sys.findSession ctid = some (sid, session) := by
  simp [System.findSession, mapped, stored]

theorem WellKeyed.key {sys : System} (keyed : WellKeyed sys) {ctid : UInt32} {sid : Nat}
    {session : Session} (mapped : sys.sessionTable ctid = some sid)
    (stored : sys.sessions sid = some session) : session.conntrackID = ctid := by
  obtain ⟨object, stored', key⟩ := keyed ctid sid mapped
  cases stored.symm.trans stored'
  exact key

@[simp] theorem updateSession_subscriptions (now : Nat) (pmark : UInt32) (newSession : Bool)
    (mess : NfqueueMessage) (session : Session) :
    (updateSession now pmark newSession mess session).1.subscriptions = session.subscriptions := by
  unfold updateSession; dsimp only; split <;> split <;> rfl

@[simp] theorem updateSession_clientSideTuple (now : Nat) (pmark : UInt32) (newSession : Bool)
    (mess : NfqueueMessage) (session : Session) :
    (updateSession now pmark newSession mess session).1.clientSideTuple =
      session.clientSideTuple := by
  unfold updateSession; dsimp only; split <;> split <;> rfl

@[simp] theorem updateSession_conntrackID (now : Nat) (pmark : UInt32) (newSession : Bool)
    (mess : NfqueueMessage) (session : Session) :
    (updateSession now pmark newSession mess session).1.conntrackID = session.conntrackID := by
  unfold updateSession; dsimp only; split <;> split <;> rfl

@[simp] theorem updateSession_packetCount (now : Nat) (pmark : UInt32) (newSession : Bool)
    (mess : NfqueueMessage) (session : Session) :
    (updateSession now pmark newSession mess session).1.packetCount = session.packetCount + 1 := by
  unfold updateSession; dsimp only; split <;> split <;> rfl

@[simp] theorem updateSession_byteCount (now : Nat) (pmark : UInt32) (newSession : Bool)
    (mess : NfqueueMessage) (session : Session) :
    (updateSession now pmark newSession mess session).1.byteCount =
      session.byteCount + mess.length := by
  unfold updateSession; dsimp only; split <;> split <;> rfl

theorem accounting_of_withoutPlugins {object session : Session} {now : Nat} {pmark : UInt32}
    {newSession : Bool} {mess : NfqueueMessage}
    (updated : object.withoutPlugins =
      (updateSession now pmark newSession mess session).1.withoutPlugins) :
    object.clientSideTuple = session.clientSideTuple ∧
      object.packetCount = session.packetCount + 1 ∧
      object.byteCount = session.byteCount + mess.length :=
  ⟨by simpa [Session.withoutPlugins] using congrArg Session.clientSideTuple updated,
    by simpa [Session.withoutPlugins] using congrArg Session.packetCount updated,
    by simpa [Session.withoutPlugins] using congrArg Session.byteCount updated⟩

theorem processSession_sessions (plugins : Plugins) (now : Nat) (ctid pmark : UInt32)
    (mess : NfqueueMessage) (sid : Nat) (session : Session) (newSession : Bool)
    {sys sys' : System} {verdict : Nat}
    (returned : processSession plugins now ctid pmark mess sid session newSession sys =
      .ok (verdict, sys')) (id : Nat) :
    (sys'.sessions id).map Session.withoutPlugins =
      if id = sid then (sys.sessions id).map
        fun _ => (updateSession now pmark newSession mess session).1.withoutPlugins
      else (sys.sessions id).map Session.withoutPlugins := by
  obtain ⟨-, frame⟩ := callSubscribers_frame plugins ctid sid _ _ newSession _ returned
  rw [frame.sessions id]
  simp only [System.modifySession]
  have base : (if newSession then sys.removeConntrack ctid else sys).sessions = sys.sessions := by
    split <;> rfl
  split <;> simp only [base, Option.map_map, Function.comp_def]

theorem processSession_updated (plugins : Plugins) (now : Nat) (ctid pmark : UInt32)
    (mess : NfqueueMessage) (sid : Nat) (session : Session) (newSession : Bool)
    {sys sys' : System} {verdict : Nat} {old : Session}
    (returned : processSession plugins now ctid pmark mess sid session newSession sys =
      .ok (verdict, sys')) (stored : sys.sessions sid = some old) :
    ∃ object, sys'.sessions sid = some object ∧
      object.withoutPlugins =
        (updateSession now pmark newSession mess session).1.withoutPlugins := by
  have after := processSession_sessions plugins now ctid pmark mess sid session newSession
    returned sid
  rw [if_pos rfl, stored, Option.map_some'] at after
  exact Option.map_eq_some'.1 after

theorem processSession_ok (plugins : Plugins) (now : Nat) (ctid pmark : UInt32)
    (mess : NfqueueMessage) (sid : Nat) (session : Session) (newSession : Bool) (sys : System)
    (stored : sys.sessions sid ≠ none) (inRange : CalledBelow session.subscriptions 100) :
    ∃ sys', processSession plugins now ctid pmark mess sid session newSession sys =
        .ok (nfAccept, sys') ∧
      sys'.sessionTable = sys.sessionTable ∧
      sys'.conntrackTable =
        (if newSession then Function.update sys.conntrackTable ctid none else sys.conntrackTable) ∧
      ∃ object, sys'.sessions sid = some object ∧
        object.withoutPlugins =
          (updateSession now pmark newSession mess session).1.withoutPlugins := by
  obtain ⟨sys', returned⟩ := (callSubscribers_returns_iff plugins ctid sid
    (updateSession now pmark newSession mess session).1
    { mess with session := some (updateSession now pmark newSession mess session).1,
                clientToServer := (updateSession now pmark newSession mess session).2 }
    newSession _).2 (by rwa [updateSession_subscriptions])
  obtain ⟨-, frame⟩ := callSubscribers_frame plugins ctid sid _ _ newSession _ returned
  refine ⟨sys', returned, frame.sessionTable.trans ?_, frame.conntrackTable.trans ?_, ?_⟩
  · split <;> rfl
  · split <;> rfl
  · obtain ⟨old, found⟩ := Option.ne_none_iff_exists'.1 stored
    exact processSession_updated plugins now ctid pmark mess sid session newSession returned found

/-- Every session's subscriptions are drawn from the registry: sessions start with a copy of
it, and plugins only remove their own entries. -/
def Snapshots (registry : SubscriptionTable) (sys : System) : Prop :=
  ∀ sid session, sys.sessions sid = some session →
    ∀ entry ∈ session.subscriptions.entries, entry ∈ registry.entries

theorem wellKeyed_removeFromSessionTable {sys : System} (keyed : WellKeyed sys)
    (session : Session) : WellKeyed (sys.removeFromSessionTable session) :=
    fun ctid sid mapped => by
  simp only [System.removeFromSessionTable, Function.update_apply] at mapped
  split at mapped
  · cases mapped
  · exact keyed ctid sid mapped

theorem wellKeyed_insertSession {sys : System} (keyed : WellKeyed sys) {ctid : UInt32}
    {session : Session} (key : session.conntrackID = ctid) :
    WellKeyed (sys.insertSession ctid session) := fun other sid mapped => by
  simp only [System.insertSession, Function.update_apply] at mapped ⊢
  split at mapped
  · next same =>
      cases mapped
      exact ⟨session, by simp, same ▸ key⟩
  · obtain ⟨object, stored, key'⟩ := keyed other sid mapped
    have fresh : sid ≠ sys.nextSessionID := fun same => by
      rw [sys.unallocated sid same.ge] at stored
      cases stored
    exact ⟨object, by simp [fresh, stored], key'⟩

theorem wellKeyed_of_frame {sys sys' : System} (frame : PluginFrame sys sys')
    (keyed : WellKeyed sys) : WellKeyed sys' := fun ctid sid mapped => by
  rw [frame.sessionTable] at mapped
  obtain ⟨session, stored, key⟩ := keyed ctid sid mapped
  have kept := frame.sessions sid
  rw [stored] at kept
  obtain ⟨session', stored', same⟩ := Option.map_eq_some'.1 kept
  exact ⟨session', stored', (congrArg Session.conntrackID same).trans key⟩

theorem snapshots_of_frame {registry : SubscriptionTable} {sys sys' : System}
    (frame : PluginFrame sys sys') (snapshots : Snapshots registry sys) :
    Snapshots registry sys' := fun sid session' stored' entry mem => by
  obtain ⟨session, stored, fewer⟩ := frame.shrinks sid session' stored'
  exact snapshots sid session stored entry (fewer mem)

theorem calledBelow_of_snapshot {registry : SubscriptionTable} {sys : System} {sid : Nat}
    {session : Session} (snapshots : Snapshots registry sys)
    (stored : sys.sessions sid = some session) (inRange : CalledBelow registry 100) :
    CalledBelow session.subscriptions 100 :=
  fun entry mem => inRange entry (snapshots sid session stored entry mem)

theorem nfqueueCallback_of_parsed (plugins : Plugins) (now : Nat) (ctid family : UInt32)
    (packet : Packet) (packetLength : Nat) (pmark : UInt32) (sys : System) {mess : NfqueueMessage}
    (parsed : parseMessage family packet packetLength pmark = some mess)
    (remote : (mess.msgTuple.clientAddress.isLoopback || mess.msgTuple.serverAddress.isLoopback)
      = false) :
    nfqueueCallback plugins now ctid family packet packetLength pmark sys =
      match resolveSession plugins now ctid mess (pmark &&& 0x10000000 != 0) sys with
      | (.midSession, sys) => .ok (nfAccept, sys)
      | (.found sid session newSession, sys) =>
          processSession plugins now ctid pmark mess sid session newSession sys := by
  simp only [nfqueueCallback, parsed, remote, Bool.false_eq_true, ↓reduceIte]

theorem resolveSession_midSession (plugins : Plugins) (now : Nat) (ctid : UInt32)
    (mess : NfqueueMessage) (sys : System) (unmapped : sys.findSession ctid = none) :
    resolveSession plugins now ctid mess false sys =
      (.midSession, sys.addSessionEntry (bypassWrite ctid)) := by
  simp [resolveSession, unmapped]

theorem resolveSession_found (plugins : Plugins) (now : Nat) (ctid : UInt32)
    (mess : NfqueueMessage) (newSession : Bool) {sys : System} {sid : Nat} {session : Session}
    (found : sys.findSession ctid = some (sid, session))
    (same : newSession = false ∨ mess.msgTuple = session.clientSideTuple) :
    resolveSession plugins now ctid mess newSession sys = (.found sid session false, sys) := by
  rcases same with rfl | same
  · simp [resolveSession, found]
  · cases newSession <;> simp [resolveSession, found, same]

theorem resolveSession_stored (plugins : Plugins) (now : Nat) (ctid : UInt32)
    (mess : NfqueueMessage) (newSession : Bool) (sys : System) {sid : Nat} {session : Session}
    {found : Bool}
    (resolved :
      (resolveSession plugins now ctid mess newSession sys).1 = .found sid session found) :
    (resolveSession plugins now ctid mess newSession sys).2.sessions sid = some session := by
  have created : ∀ sys, (createSession plugins now mess ctid sys).2.2.sessions
      (createSession plugins now mess ctid sys).1 =
        some (createSession plugins now mess ctid sys).2.1 :=
    fun _ => Function.update_same _ _ _
  cases lookup : sys.findSession ctid with
  | none =>
      cases newSession
      · simp [resolveSession, lookup] at resolved
      · simp only [resolveSession, lookup, Bool.not_true, Bool.false_eq_true, ↓reduceIte]
          at resolved ⊢
        cases resolved
        exact created sys
  | some entry =>
      obtain ⟨id, object⟩ := entry
      by_cases replaced : newSession = true ∧ mess.msgTuple ≠ object.clientSideTuple
      · obtain ⟨rfl, differs⟩ := replaced
        simp only [resolveSession, lookup, differs, ↓reduceIte] at resolved ⊢
        cases resolved
        exact created _
      · rw [resolveSession_found plugins now ctid mess newSession lookup
          (by cases newSession <;> simp_all)] at resolved ⊢
        cases resolved
        exact (findSession_eq_some lookup).2

theorem resolveSession_sessions (plugins : Plugins) (now : Nat) (ctid : UInt32)
    (mess : NfqueueMessage) (newSession : Bool) (sys : System) :
    ((∀ sid session, (resolveSession plugins now ctid mess newSession sys).1 ≠
        .found sid session true) ∧
      (resolveSession plugins now ctid mess newSession sys).2.sessions = sys.sessions) ∨
    ∃ session, (resolveSession plugins now ctid mess newSession sys).1 =
        .found sys.nextSessionID session true ∧
      (resolveSession plugins now ctid mess newSession sys).2.sessions =
        Function.update sys.sessions sys.nextSessionID (some session) := by
  unfold resolveSession
  split
  · split
    · exact .inl ⟨fun _ _ => nofun, rfl⟩
    · exact .inr ⟨_, rfl, rfl⟩
  · split
    · split
      · exact .inl ⟨fun _ _ => nofun, rfl⟩
      · exact .inr ⟨_, rfl, rfl⟩
    · exact .inl ⟨fun _ _ => nofun, rfl⟩

theorem resolveSession_midSession_eq (plugins : Plugins) (now : Nat) (ctid : UInt32)
    (mess : NfqueueMessage) (newSession : Bool) (sys : System)
    (answered : (resolveSession plugins now ctid mess newSession sys).1 = .midSession) :
    (resolveSession plugins now ctid mess newSession sys).2 =
      sys.addSessionEntry (bypassWrite ctid) := by
  unfold resolveSession at answered ⊢
  split <;> rename_i found <;> simp only [found] at answered
  · split
    · rfl
    · simp_all
  · split
    · split <;> simp_all
    · simp_all

theorem resolveSession_conntrackID (plugins : Plugins) (now : Nat) (ctid : UInt32)
    (mess : NfqueueMessage) (newSession : Bool) {sys : System} (keyed : WellKeyed sys)
    {sid : Nat} {session : Session} {created : Bool}
    (resolved : (resolveSession plugins now ctid mess newSession sys).1 =
      .found sid session created) :
    session.conntrackID = ctid := by
  unfold resolveSession at resolved
  split at resolved
  · split at resolved
    · cases resolved
    · cases resolved; rfl
  · next found =>
      obtain ⟨mapped, stored⟩ := findSession_eq_some found
      split at resolved
      · split at resolved
        · cases resolved; exact keyed.key mapped stored
        · cases resolved; rfl
      · cases resolved; exact keyed.key mapped stored

theorem resolveSession_found_dict (plugins : Plugins) (now : Nat) (ctid : UInt32)
    (mess : NfqueueMessage) (newSession : Bool) (sys : System) {sid : Nat} {session : Session}
    {created : Bool}
    (resolved : (resolveSession plugins now ctid mess newSession sys).1 =
      .found sid session created) :
    (resolveSession plugins now ctid mess newSession sys).2.dict = sys.dict := by
  unfold resolveSession at resolved ⊢
  split <;> rename_i found <;> simp only [found] at resolved
  · split
    · simp_all
    · rfl
  · split
    · split <;> rfl
    · rfl

theorem resolveSession_created (plugins : Plugins) (now : Nat) (ctid : UInt32)
    (mess : NfqueueMessage) (sys : System) (keyed : WellKeyed sys)
    (differs : ∀ sid session, sys.findSession ctid = some (sid, session) →
      mess.msgTuple ≠ session.clientSideTuple) :
    ∃ sys', resolveSession plugins now ctid mess true sys =
        (.found sys.nextSessionID (createSession plugins now mess ctid sys).2.1 true, sys') ∧
      sys'.sessionTable = Function.update sys.sessionTable ctid (some sys.nextSessionID) ∧
      sys'.sessions sys.nextSessionID = some (createSession plugins now mess ctid sys).2.1 ∧
      sys'.conntrackTable = sys.conntrackTable := by
  unfold resolveSession
  cases found : sys.findSession ctid with
  | none => exact ⟨_, rfl, rfl, Function.update_same _ _ _, rfl⟩
  | some entry =>
      obtain ⟨sid, session⟩ := entry
      obtain ⟨mapped, stored⟩ := findSession_eq_some found
      have key := keyed.key mapped stored
      simp only [differs sid session found, ↓reduceIte, if_true]
      refine ⟨_, rfl, ?_, Function.update_same _ _ _, rfl⟩
      simp [createSession, System.insertSession, System.removeFromSessionTable, key]

theorem nfqueueCallback_created (plugins : Plugins) (now : Nat) (ctid family : UInt32)
    (packet : Packet) (packetLength : Nat) (pmark : UInt32) (sys : System) (mess : NfqueueMessage)
    (keyed : WellKeyed sys) (inRange : CalledBelow plugins.registry 100)
    (parsed : parseMessage family packet packetLength pmark = some mess)
    (remote : (mess.msgTuple.clientAddress.isLoopback || mess.msgTuple.serverAddress.isLoopback)
      = false)
    (set : pmark &&& 0x10000000 ≠ 0)
    (differs : ∀ sid session, sys.findSession ctid = some (sid, session) →
      mess.msgTuple ≠ session.clientSideTuple) :
    ∃ sys', nfqueueCallback plugins now ctid family packet packetLength pmark sys =
        .ok (nfAccept, sys') ∧
      sys'.sessionTable = Function.update sys.sessionTable ctid (some sys.nextSessionID) ∧
      sys'.conntrackTable = Function.update sys.conntrackTable ctid none ∧
      ∃ object, sys'.sessions sys.nextSessionID = some object ∧
        object.withoutPlugins = (updateSession now pmark true mess
          (createSession plugins now mess ctid sys).2.1).1.withoutPlugins := by
  obtain ⟨sys', resolved, table, stored, conntrack⟩ :=
    resolveSession_created plugins now ctid mess sys keyed differs
  obtain ⟨sys'', returned, table', conntrack', updated⟩ :=
    processSession_ok plugins now ctid pmark mess sys.nextSessionID
      (createSession plugins now mess ctid sys).2.1 true sys' (by simp [stored]) inRange
  rw [nfqueueCallback_of_parsed plugins now ctid family packet packetLength pmark sys parsed remote,
    bne_iff_ne.2 set, resolved]
  exact ⟨sys'', returned, table'.trans table, by rw [conntrack', conntrack, if_pos rfl], updated⟩

theorem nfqueueCallback_continued (plugins : Plugins) (now : Nat) (ctid family : UInt32)
    (packet : Packet) (packetLength : Nat) (pmark : UInt32) (sys : System) (mess : NfqueueMessage)
    (sid : Nat) (session : Session)
    (parsed : parseMessage family packet packetLength pmark = some mess)
    (remote : (mess.msgTuple.clientAddress.isLoopback || mess.msgTuple.serverAddress.isLoopback)
      = false)
    (found : sys.findSession ctid = some (sid, session))
    (same : pmark &&& 0x10000000 = 0 ∨ mess.msgTuple = session.clientSideTuple)
    (inRange : CalledBelow session.subscriptions 100) :
    ∃ sys', nfqueueCallback plugins now ctid family packet packetLength pmark sys =
        .ok (nfAccept, sys') ∧
      sys'.sessionTable = sys.sessionTable ∧ sys'.conntrackTable = sys.conntrackTable ∧
      ∃ object, sys'.sessions sid = some object ∧
        object.withoutPlugins = (updateSession now pmark false mess session).1.withoutPlugins := by
  obtain ⟨-, stored⟩ := findSession_eq_some found
  have resolved := resolveSession_found plugins now ctid mess (pmark &&& 0x10000000 != 0) found
    (same.imp (fun clear => by simp [clear]) id)
  rw [nfqueueCallback_of_parsed plugins now ctid family packet packetLength pmark sys parsed remote,
    resolved]
  exact processSession_ok plugins now ctid pmark mess sid session false sys (by simp [stored])
    inRange

/-- The three outcomes of `nfqueueCallback` for a parsed packet with no loopback address, on a
state whose sessions are stored under their own conntrack ids and hold subscriptions drawn from
a registry whose priorities lie in `[0, 99]`. -/
theorem nfqueueCallback_resolution (plugins : Plugins) (now : Nat) (ctid family : UInt32)
    (packet : Packet) (packetLength : Nat) (pmark : UInt32) (sys : System) (mess : NfqueueMessage)
    (keyed : WellKeyed sys) (snapshots : Snapshots plugins.registry sys)
    (inRange : CalledBelow plugins.registry 100)
    (parsed : parseMessage family packet packetLength pmark = some mess)
    (remote : (mess.msgTuple.clientAddress.isLoopback || mess.msgTuple.serverAddress.isLoopback)
      = false) :
    (sys.sessionTable ctid = none → pmark &&& 0x10000000 = 0 →
      nfqueueCallback plugins now ctid family packet packetLength pmark sys =
        .ok (nfAccept, sys.addSessionEntry (bypassWrite ctid))) ∧
    (pmark &&& 0x10000000 ≠ 0 →
      (∀ sid session, sys.findSession ctid = some (sid, session) →
        mess.msgTuple ≠ session.clientSideTuple) →
      ∃ sid sys', nfqueueCallback plugins now ctid family packet packetLength pmark sys =
          .ok (nfAccept, sys') ∧
        sys.sessions sid = none ∧ sys'.sessionTable ctid = some sid ∧
        (∃ session, sys'.sessions sid = some session ∧ session.clientSideTuple = mess.msgTuple) ∧
        sys'.conntrackTable ctid = none ∧
        ∀ other, other ≠ ctid → sys'.sessionTable other = sys.sessionTable other ∧
          sys'.conntrackTable other = sys.conntrackTable other) ∧
    (∀ sid session, sys.findSession ctid = some (sid, session) →
      (pmark &&& 0x10000000 = 0 ∨ mess.msgTuple = session.clientSideTuple) →
      ∃ sys', nfqueueCallback plugins now ctid family packet packetLength pmark sys =
          .ok (nfAccept, sys') ∧
        sys'.sessionTable = sys.sessionTable ∧ sys'.conntrackTable = sys.conntrackTable) := by
  refine ⟨fun unmapped clear => ?_, fun set differs => ?_, fun sid session found same => ?_⟩
  · have unmapped : sys.findSession ctid = none := (findSession_eq_none sys ctid keyed).2 unmapped
    rw [nfqueueCallback_of_parsed plugins now ctid family packet packetLength pmark sys parsed
      remote, clear, bne_self_eq_false,
      resolveSession_midSession plugins now ctid mess sys unmapped]
  · obtain ⟨sys', returned, table, conntrack, object, stored, updated⟩ :=
      nfqueueCallback_created plugins now ctid family packet packetLength pmark sys mess keyed
        inRange parsed remote set differs
    have tuple := congrArg Session.clientSideTuple updated
    simp only [Session.withoutPlugins, updateSession_clientSideTuple] at tuple
    refine ⟨sys.nextSessionID, sys', returned, sys.unallocated _ le_rfl, by simp [table],
      ⟨object, stored, tuple⟩, by simp [conntrack], fun other ne => ?_⟩
    simp [table, conntrack, ne]
  · obtain ⟨-, stored⟩ := findSession_eq_some found
    obtain ⟨sys', returned, table, conntrack, -⟩ :=
      nfqueueCallback_continued plugins now ctid family packet packetLength pmark sys mess sid
        session parsed remote found same (calledBelow_of_snapshot snapshots stored inRange)
    exact ⟨sys', returned, table, conntrack⟩

def releasingPlugins : Plugins :=
  ⟨List.toAList [⟨"geoip", 0⟩], fun _ _ _ _ => ⟨[.releaseSession], false⟩⟩

/-- The first packet of a TCP flow from 10.0.0.5:54321 to 93.184.216.34:443. -/
def firstPacket : Packet :=
  ⟨some ⟨6, 0x0a000005, 0x5db8d822⟩, none, some ⟨54321, 443, false, false⟩, none⟩

/-- The reply to `firstPacket`, from the server. -/
def replyPacket : Packet :=
  ⟨some ⟨6, 0x5db8d822, 0x0a000005⟩, none, some ⟨443, 54321, false, false⟩, none⟩

/-- The first packet of another TCP flow between the same hosts, from port 54322. -/
def otherPortPacket : Packet :=
  ⟨some ⟨6, 0x0a000005, 0x5db8d822⟩, none, some ⟨54322, 443, false, false⟩, none⟩

def flowState : System :=
  System.empty.insertSession 7
    { sessionID := 0, conntrackID := 7, creationTime := 5, packetCount := 1, byteCount := 60,
      eventCount := 1, lastActivity := 5,
      clientSideTuple := ⟨6, .v4 0x0a000005, 54321, .v4 0x5db8d822, 443⟩, family := 2,
      conntrackConfirmed := false, clientInterfaceID := 2, clientInterfaceType := 0,
      serverInterfaceID := 0, serverInterfaceType := 0,
      subscriptions := releasingPlugins.registry, attachments := [] }

/-- The three ways: `firstPacket` without the new mark and with no session gets the bypass
write; under the same ct id, the new-marked first packet of another flow replaces session 0 by
a new object; and `firstPacket` marked new again goes on with session 0. -/
theorem nfqueueCallback_resolution_firstPacket :
    nfqueueCallback releasingPlugins 5 7 2 firstPacket 60 0x00000002 System.empty =
        .ok (nfAccept, System.empty.addSessionEntry (bypassWrite 7)) ∧
      (∃ sid sys', nfqueueCallback releasingPlugins 6 7 2 otherPortPacket 60 0x10000002
          flowState = .ok (nfAccept, sys') ∧
        flowState.sessionTable 7 = some 0 ∧ flowState.sessions sid = none ∧
        sys'.sessionTable 7 = some sid) ∧
      ∃ sys', nfqueueCallback releasingPlugins 6 7 2 firstPacket 60 0x10000002 flowState =
          .ok (nfAccept, sys') ∧ sys'.sessionTable = flowState.sessionTable := by
  have inRange : CalledBelow releasingPlugins.registry 100 := by decide
  have keyed : WellKeyed flowState :=
    @wellKeyed_insertSession System.empty (fun _ _ mapped => nomatch mapped) 7 _ rfl
  have snapshots : Snapshots releasingPlugins.registry flowState := fun sid session stored => by
    simp only [flowState, System.insertSession, Function.update_apply] at stored
    split at stored
    · cases stored
      exact fun _ => id
    · cases stored
  have found : flowState.findSession 7 = some (0, _) := rfl
  obtain ⟨midSession, -, -⟩ := nfqueueCallback_resolution releasingPlugins 5 7 2 firstPacket 60
    0x00000002 System.empty _ (fun _ _ mapped => nomatch mapped) (fun _ _ stored => nomatch stored)
    inRange rfl rfl
  obtain ⟨-, replaced, -⟩ := nfqueueCallback_resolution releasingPlugins 6 7 2 otherPortPacket 60
    0x10000002 flowState _ keyed snapshots inRange rfl rfl
  obtain ⟨-, -, continued⟩ := nfqueueCallback_resolution releasingPlugins 6 7 2 firstPacket 60
    0x10000002 flowState _ keyed snapshots inRange rfl rfl
  obtain ⟨sid, sys', returned, fresh, table, -⟩ := replaced (by decide) fun sid session found' => by
    rw [found, Option.some.injEq, Prod.mk.injEq] at found'
    obtain ⟨-, rfl⟩ := found'
    decide
  obtain ⟨sys'', returned', table', -⟩ := continued 0 _ found (.inr rfl)
  exact ⟨midSession rfl (by decide), ⟨sid, sys', returned, rfl, fresh, table⟩, sys'', returned',
    table'⟩

theorem nfqueueCallback_created_counts (plugins : Plugins) (now : Nat) (ctid family : UInt32)
    (packet : Packet) (packetLength : Nat) (pmark : UInt32) (sys : System) (mess : NfqueueMessage)
    (keyed : WellKeyed sys) (inRange : CalledBelow plugins.registry 100)
    (parsed : parseMessage family packet packetLength pmark = some mess)
    (remote : (mess.msgTuple.clientAddress.isLoopback || mess.msgTuple.serverAddress.isLoopback)
      = false)
    (set : pmark &&& 0x10000000 ≠ 0)
    (differs : ∀ sid session, sys.findSession ctid = some (sid, session) →
      mess.msgTuple ≠ session.clientSideTuple) :
    ∃ sys', nfqueueCallback plugins now ctid family packet packetLength pmark sys =
        .ok (nfAccept, sys') ∧
      ∃ session, sys'.sessions sys.nextSessionID = some session ∧
        session.packetCount = 2 ∧ session.byteCount = packetLength + packetLength := by
  obtain ⟨sys', returned, -, -, object, stored, updated⟩ :=
    nfqueueCallback_created plugins now ctid family packet packetLength pmark sys mess keyed
      inRange parsed remote set differs
  obtain ⟨-, packets, bytes⟩ := accounting_of_withoutPlugins updated
  refine ⟨sys', returned, object, stored, packets, ?_⟩
  rw [bytes, ← parseMessage_length parsed]
  rfl

theorem nfqueueCallback_counts_first_packet_twice :
    ∃ sys', nfqueueCallback releasingPlugins 5 7 2 firstPacket 60 0x10000002 System.empty =
        .ok (nfAccept, sys') ∧
      ∃ session, sys'.sessions 0 = some session ∧
        session.packetCount = 2 ∧ session.byteCount = 120 :=
  nfqueueCallback_created_counts releasingPlugins 5 7 2 firstPacket 60 0x10000002 System.empty _
    (fun _ _ mapped => nomatch mapped) (by decide) rfl rfl (by decide)
    fun _ _ found => nomatch found

end Packetd