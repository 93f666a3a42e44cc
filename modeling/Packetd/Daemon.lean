import Packetd.Geoip

/-! The states the dispatcher reaches from startup, one `nfqueueCallback` call after another.
In every one of them each session is stored under its own conntrack id and holds subscriptions
drawn from the registry; so with the registry's priorities in `[0, 99]` no call ever reaches the
priority walk's panic. -/

namespace Packetd

/-- The dispatcher's states from startup on, one `nfqueueCallback` call after another. -/
inductive Processed (plugins : Plugins) : System → Prop
  | startup : Processed plugins System.empty
  | packet {sys sys' : System} {verdict : Nat} (now : Nat) (ctid family : UInt32)
      (packet : Packet) (packetLength : Nat) (pmark : UInt32) : Processed plugins sys →
      nfqueueCallback plugins now ctid family packet packetLength pmark sys = .ok (verdict, sys') →
      Processed plugins sys'

structure WellFormed (registry : SubscriptionTable) (sys : System) : Prop where
  keyed : WellKeyed sys
  snapshots : Snapshots registry sys

theorem wellFormed_empty (registry : SubscriptionTable) : WellFormed registry System.empty :=
  ⟨fun _ _ mapped => (nomatch mapped), fun _ _ stored => nomatch stored⟩

section Preservation

variable {registry : SubscriptionTable} {sys : System}

theorem WellFormed.insertSession (formed : WellFormed registry sys) {ctid : UInt32}
    {session : Session} (key : session.conntrackID = ctid)
    (drawn : ∀ entry ∈ session.subscriptions.entries, entry ∈ registry.entries) :
    WellFormed registry (sys.insertSession ctid session) := by
  refine ⟨wellKeyed_insertSession formed.keyed key, fun sid object stored => ?_⟩
  simp only [System.insertSession, Function.update_apply] at stored
  split at stored
  · cases stored
    exact drawn
  · exact formed.snapshots sid object stored

theorem WellFormed.modifySession (formed : WellFormed registry sys) (sid : Nat)
    (change : Session → Session)
    (keeps : ∀ session, sys.sessions sid = some session →
      (change session).conntrackID = session.conntrackID ∧
        (change session).subscriptions = session.subscriptions) :
    WellFormed registry (sys.modifySession sid change) := by
  have changed : ∀ id session', (sys.modifySession sid change).sessions id = some session' →
      ∃ session, sys.sessions id = some session ∧ session'.conntrackID = session.conntrackID ∧
        session'.subscriptions = session.subscriptions := by
    intro id session' stored
    simp only [System.modifySession] at stored
    split at stored
    · next same =>
        subst same
        obtain ⟨session, found, rfl⟩ := Option.map_eq_some'.1 stored
        exact ⟨session, found, keeps session found⟩
    · exact ⟨session', stored, rfl, rfl⟩
  refine ⟨fun ctid id mapped => ?_, fun id session' stored entry mem => ?_⟩
  · obtain ⟨session, stored, key⟩ := formed.keyed ctid id mapped
    have kept : (sys.modifySession sid change).sessions id ≠ none := by
      simp only [System.modifySession]
      split <;> simp [stored]
    obtain ⟨session', stored'⟩ := Option.ne_none_iff_exists'.1 kept
    obtain ⟨object, found, sameKey, -⟩ := changed id session' stored'
    cases stored.symm.trans found
    exact ⟨session', stored', sameKey.trans key⟩
  · obtain ⟨session, found, -, same⟩ := changed id session' stored
    exact formed.snapshots id session found entry (same ▸ mem)

theorem resolveSession_wellFormed (plugins : Plugins) (now : Nat) (ctid : UInt32)
    (mess : NfqueueMessage) (newSession : Bool) (formed : WellFormed plugins.registry sys) :
    WellFormed plugins.registry (resolveSession plugins now ctid mess newSession sys).2 ∧
      ∀ sid session found, (resolveSession plugins now ctid mess newSession sys).1 =
        .found sid session found →
        (resolveSession plugins now ctid mess newSession sys).2.sessions sid = some session := by
  refine ⟨?_, fun _ _ _ resolved =>
    resolveSession_stored plugins now ctid mess newSession sys resolved⟩
  cases found : sys.findSession ctid with
  | none =>
      cases newSession
      · rw [resolveSession_midSession plugins now ctid mess sys found]
        exact ⟨formed.keyed, formed.snapshots⟩
      · simp only [resolveSession, found, Bool.not_true, Bool.false_eq_true, ↓reduceIte]
        exact formed.insertSession rfl fun _ => id
  | some entry =>
      obtain ⟨sid, session⟩ := entry
      by_cases replaced : newSession = true ∧ mess.msgTuple ≠ session.clientSideTuple
      · obtain ⟨rfl, differs⟩ := replaced
        simp only [resolveSession, found, differs, ↓reduceIte]
        exact WellFormed.insertSession
          ⟨wellKeyed_removeFromSessionTable formed.keyed session, formed.snapshots⟩ rfl fun _ => id
      · rw [resolveSession_found plugins now ctid mess newSession found
          (by cases newSession <;> simp_all)]
        exact formed

theorem processSession_wellFormed (plugins : Plugins) (now : Nat) (ctid pmark : UInt32)
    (mess : NfqueueMessage) (sid : Nat) (session : Session) (newSession : Bool)
    (formed : WellFormed plugins.registry sys) (stored : sys.sessions sid = some session)
    {verdict : Nat} {sys' : System}
    (processed : processSession plugins now ctid pmark mess sid session newSession sys =
      .ok (verdict, sys')) :
    WellFormed plugins.registry sys' := by
  unfold processSession at processed
  obtain ⟨-, frame⟩ := callSubscribers_frame plugins ctid sid _ _ newSession _ processed
  have removed : WellFormed plugins.registry
      (if newSession then sys.removeConntrack ctid else sys) := by
    split
    · exact ⟨formed.keyed, formed.snapshots⟩
    · exact formed
  have updated := removed.modifySession sid
    (fun _ => (updateSession now pmark newSession mess session).1) fun object found => by
      have found : sys.sessions sid = some object := by split at found <;> exact found
      cases stored.symm.trans found
      exact ⟨updateSession_conntrackID .., updateSession_subscriptions ..⟩
  exact ⟨wellKeyed_of_frame frame updated.keyed, snapshots_of_frame frame updated.snapshots⟩

theorem nfqueueCallback_cases (plugins : Plugins) (now : Nat) (ctid family : UInt32)
    (packet : Packet) (packetLength : Nat) (pmark : UInt32)
    (formed : WellFormed plugins.registry sys) :
    (∃ sys', nfqueueCallback plugins now ctid family packet packetLength pmark sys =
        .ok (nfAccept, sys') ∧ WellFormed plugins.registry sys') ∨
      ∃ mess sid session newSession sys', WellFormed plugins.registry sys' ∧
        sys'.sessions sid = some session ∧
        nfqueueCallback plugins now ctid family packet packetLength pmark sys =
          processSession plugins now ctid pmark mess sid session newSession sys' := by
  unfold nfqueueCallback
  dsimp only
  split
  · exact .inl ⟨sys, rfl, formed⟩
  · next mess _ =>
      split
      · exact .inl ⟨sys, rfl, formed⟩
      · obtain ⟨formed', stored⟩ := resolveSession_wellFormed plugins now ctid mess
          (pmark &&& 0x10000000 != 0) formed
        split
        · next sys₁ resolved =>
            rw [resolved] at formed'
            exact .inl ⟨sys₁, rfl, formed'⟩
        · next sid session newSession sys₁ resolved =>
            rw [resolved] at formed' stored
            exact .inr ⟨mess, sid, session, newSession, sys₁, formed',
              stored sid session newSession rfl, rfl⟩

theorem nfqueueCallback_wellFormed (plugins : Plugins) (now : Nat) (ctid family : UInt32)
    (packet : Packet) (packetLength : Nat) (pmark : UInt32)
    (formed : WellFormed plugins.registry sys) {verdict : Nat} {sys' : System}
    (called : nfqueueCallback plugins now ctid family packet packetLength pmark sys =
      .ok (verdict, sys')) :
    WellFormed plugins.registry sys' := by
  rcases nfqueueCallback_cases plugins now ctid family packet packetLength pmark formed with
    ⟨sys₁, answered, formed'⟩ | ⟨mess, sid, session, newSession, sys₁, formed', stored, handed⟩
  · rw [answered] at called
    cases called
    exact formed'
  · rw [handed] at called
    exact processSession_wellFormed plugins now ctid pmark mess sid session newSession formed'
      stored called

end Preservation

theorem processed_wellFormed (plugins : Plugins) {sys : System}
    (processed : Processed plugins sys) : WellFormed plugins.registry sys := by
  induction processed with
  | startup => exact wellFormed_empty plugins.registry
  | packet now ctid family packet packetLength pmark _ called ih =>
      exact nfqueueCallback_wellFormed plugins now ctid family packet packetLength pmark ih called

theorem processed_accepts (plugins : Plugins) {sys : System} (processed : Processed plugins sys)
    (inRange : CalledBelow plugins.registry 100) (now : Nat) (ctid family : UInt32)
    (packet : Packet) (packetLength : Nat) (pmark : UInt32) :
    ∃ sys', nfqueueCallback plugins now ctid family packet packetLength pmark sys =
      .ok (nfAccept, sys') := by
  rcases nfqueueCallback_cases plugins now ctid family packet packetLength pmark
      (processed_wellFormed plugins processed) with
    ⟨sys', answered, -⟩ | ⟨mess, sid, session, newSession, sys₁, formed, stored, handed⟩
  · exact ⟨sys', answered⟩
  · obtain ⟨sys', returned, -⟩ := processSession_ok plugins now ctid pmark mess sid session
      newSession sys₁ (by simp [stored]) (calledBelow_of_snapshot formed.snapshots stored inRange)
    exact ⟨sys', handed.trans returned⟩

/-! ### The packets of one flow -/

/-- The arguments of one `nfqueueCallback` call other than the conntrack id. -/
structure Delivery where
  now : Nat
  family : UInt32
  packet : Packet
  packetLength : Nat
  pmark : UInt32

/-- The packets of one conntrack id handed to `nfqueueCallback` one after another, up to the
first call that does not return. -/
def deliverAll (plugins : Plugins) (ctid : UInt32) : System → List Delivery → Except String System
  | sys, [] => .ok sys
  | sys, d :: ds =>
      match nfqueueCallback plugins d.now ctid d.family d.packet d.packetLength d.pmark sys with
      | .ok (_, sys') => deliverAll plugins ctid sys' ds
      | .error e => .error e

def totalLength : List Delivery → Nat
  | [] => 0
  | d :: ds => d.packetLength + totalLength ds

/-- A later packet of the flow whose client-side tuple is `tuple`: it parses, has no loopback
address, and has that tuple or no new mark. -/
def OfFlow (tuple : Tuple) (d : Delivery) : Prop :=
  ∃ mess, parseMessage d.family d.packet d.packetLength d.pmark = some mess ∧
    (mess.msgTuple.clientAddress.isLoopback || mess.msgTuple.serverAddress.isLoopback) = false ∧
    (d.pmark &&& 0x10000000 = 0 ∨ mess.msgTuple = tuple)

section Flow

variable (plugins : Plugins) (ctid : UInt32)

theorem nfqueueCallback_flow_step (inRange : CalledBelow plugins.registry 100) {sys : System}
    {sid : Nat} {session : Session} (formed : WellFormed plugins.registry sys)
    (found : sys.findSession ctid = some (sid, session)) (d : Delivery)
    (flow : OfFlow session.clientSideTuple d) :
    ∃ sys' object, nfqueueCallback plugins d.now ctid d.family d.packet d.packetLength d.pmark
        sys = .ok (nfAccept, sys') ∧
      WellFormed plugins.registry sys' ∧ sys'.findSession ctid = some (sid, object) ∧
      object.clientSideTuple = session.clientSideTuple ∧
      object.packetCount = session.packetCount + 1 ∧
      object.byteCount = session.byteCount + d.packetLength := by
  obtain ⟨mess, parsed, remote, same⟩ := flow
  obtain ⟨mapped, stored⟩ := findSession_eq_some found
  obtain ⟨sys', returned, table, -, object, stored', updated⟩ :=
    nfqueueCallback_continued plugins d.now ctid d.family d.packet d.packetLength d.pmark sys mess
      sid session parsed remote found same (calledBelow_of_snapshot formed.snapshots stored inRange)
  obtain ⟨tuple, packets, bytes⟩ := accounting_of_withoutPlugins updated
  refine ⟨sys', object, returned,
    nfqueueCallback_wellFormed plugins d.now ctid d.family d.packet d.packetLength d.pmark formed
      returned, findSession_of_mapped (table ▸ mapped) stored', tuple, packets, ?_⟩
  rw [bytes, parseMessage_length parsed]

theorem deliverAll_counts (inRange : CalledBelow plugins.registry 100) (ds : List Delivery) :
    ∀ {sys : System} {sid : Nat} {session : Session}, WellFormed plugins.registry sys →
      sys.findSession ctid = some (sid, session) → (∀ d ∈ ds, OfFlow session.clientSideTuple d) →
      ∃ sys' object, deliverAll plugins ctid sys ds = .ok sys' ∧
        sys'.findSession ctid = some (sid, object) ∧
        object.packetCount = session.packetCount + ds.length ∧
        object.byteCount = session.byteCount + totalLength ds := by
  induction ds with
  | nil => exact fun _ found _ => ⟨_, _, rfl, found, rfl, rfl⟩
  | cons d ds ih =>
      intro sys sid session formed found flow
      obtain ⟨sys₁, object, returned, formed₁, found₁, tuple, packets, bytes⟩ :=
        nfqueueCallback_flow_step plugins ctid inRange formed found d
          (flow d (List.mem_cons_self _ _))
      obtain ⟨sys', object', delivered, found', packets', bytes'⟩ :=
        ih formed₁ found₁ fun d' member => tuple ▸ flow d' (List.mem_cons_of_mem _ member)
      refine ⟨sys', object', by rw [deliverAll, returned]; exact delivered, found', ?_, ?_⟩
      · rw [packets', packets, List.length_cons]
        omega
      · rw [bytes', bytes, totalLength]
        omega

/-- From the packet that creates a flow's session on, in any state the dispatcher reaches, the
session counts one packet more than it has received and its first packet's bytes twice:
`createSession` counts the creating packet, and the accounting block of `nfqueueCallback`
counts it again. -/
theorem deliverAll_counts_from_creation (inRange : CalledBelow plugins.registry 100)
    {sys : System} (processed : Processed plugins sys) (first : Delivery) {mess : NfqueueMessage}
    (parsed : parseMessage first.family first.packet first.packetLength first.pmark = some mess)
    (remote : (mess.msgTuple.clientAddress.isLoopback || mess.msgTuple.serverAddress.isLoopback)
      = false)
    (set : first.pmark &&& 0x10000000 ≠ 0)
    (differs : ∀ sid session, sys.findSession ctid = some (sid, session) →
      mess.msgTuple ≠ session.clientSideTuple)
    (rest : List Delivery) (flow : ∀ d ∈ rest, OfFlow mess.msgTuple d) :
    ∃ sys' session, deliverAll plugins ctid sys (first :: rest) = .ok sys' ∧
      sys'.findSession ctid = some (sys.nextSessionID, session) ∧
      session.packetCount = (first :: rest).length + 1 ∧
      session.byteCount = first.packetLength + totalLength (first :: rest) := by
  have formed := processed_wellFormed plugins processed
  obtain ⟨sys₁, returned, table, -, object, stored, updated⟩ :=
    nfqueueCallback_created plugins first.now ctid first.family first.packet first.packetLength
      first.pmark sys mess formed.keyed inRange parsed remote set differs
  obtain ⟨tuple, packets, bytes⟩ := accounting_of_withoutPlugins updated
  have found : sys₁.findSession ctid = some (sys.nextSessionID, object) :=
    findSession_of_mapped (by rw [table, Function.update_same]) stored
  obtain ⟨sys', session, delivered, found', packets', bytes'⟩ :=
    deliverAll_counts plugins ctid inRange rest
      (nfqueueCallback_wellFormed plugins first.now ctid first.family first.packet
        first.packetLength first.pmark formed returned) found
      fun d member => tuple ▸ flow d member
  refine ⟨sys', session, by rw [deliverAll, returned]; exact delivered, found', ?_, ?_⟩
  · rw [packets', packets, List.length_cons]
    change 1 + 1 + rest.length = rest.length + 1 + 1
    omega
  · rw [bytes', bytes, totalLength, ← parseMessage_length parsed]
    change mess.length + mess.length + _ = mess.length + (mess.length + _)
    omega

def firstFlow : List Delivery :=
  [⟨6, 2, firstPacket, 60, 0x10000002⟩, ⟨7, 2, replyPacket, 60, 0x00000003⟩,
    ⟨8, 2, firstPacket, 60, 0x00000002⟩]

/-- After a packet of another flow under ct id 9, the three packets of `firstFlow` under ct id 7
leave its session counting four packets and the first packet's bytes twice. -/
theorem deliverAll_counts_from_creation_firstFlow :
    ∃ sys₀, nfqueueCallback (geoipPlugins none) 5 9 2 otherPortPacket 60 0x10000002
        System.empty = .ok (nfAccept, sys₀) ∧
      ∃ sys' session, deliverAll (geoipPlugins none) 7 sys₀ firstFlow = .ok sys' ∧
        sys'.findSession 7 = some (sys₀.nextSessionID, session) ∧
        session.packetCount = firstFlow.length + 1 ∧
        session.byteCount = 60 + totalLength firstFlow :=
  ⟨_, rfl, deliverAll_counts_from_creation (geoipPlugins none) 7 (geoipPlugins_inRange none)
    (.packet 5 9 2 otherPortPacket 60 0x10000002 .startup rfl) ⟨6, 2, firstPacket, 60, 0x10000002⟩
    rfl rfl (by decide) (fun _ _ found => Option.noConfusion (found.symm.trans (rfl : _ = none))) _
    fun d member => by
      rcases List.mem_cons.1 member with rfl | member
      · exact ⟨_, rfl, rfl, .inl rfl⟩
      · rcases List.mem_singleton.1 member with rfl
        exact ⟨_, rfl, rfl, .inl rfl⟩⟩

end Flow

/-- The dispatcher of this repository, whose only subscriber is geoip, never panics. -/
theorem geoip_processed_accepts (geoDatabase : Option GeoDatabase) {sys : System}
    (processed : Processed (geoipPlugins geoDatabase) sys) (now : Nat) (ctid family : UInt32)
    (packet : Packet) (packetLength : Nat) (pmark : UInt32) :
    ∃ sys', nfqueueCallback (geoipPlugins geoDatabase) now ctid family packet packetLength pmark
      sys = .ok (nfAccept, sys') :=
  processed_accepts _ processed (geoipPlugins_inRange geoDatabase) now ctid family packet
    packetLength pmark

/-- After the first packet of a flow, the server's reply is accepted too. -/
theorem geoip_processed_accepts_firstPacket :
    ∃ sys₁, nfqueueCallback (geoipPlugins none) 5 7 2 firstPacket 60 0x10000002 System.empty =
        .ok (nfAccept, sys₁) ∧
      ∃ sys', nfqueueCallback (geoipPlugins none) 6 7 2 replyPacket 60 0x00000003 sys₁ =
        .ok (nfAccept, sys') :=
  ⟨_, rfl, geoip_processed_accepts none (.packet 5 7 2 firstPacket 60 0x10000002 .startup rfl) 6 7 2
    replyPacket 60 0x00000003⟩

/-! ### Interface attribution

The client side of a session is set once, from the mark of the packet that creates it; a later
packet reaches `updateSession` with `newSession` reset (the reconciliation hands an equal-tuple
re-marked packet to the old object as not new, and a packet with another tuple to a new object),
and sets the server side only while its id is unset. No invariant of the state is needed. -/

/-- What a later packet may do to a session object's interfaces: nothing to the client side, and
nothing to the server id once it is set. -/
structure InterfacesKept (o o' : Session) : Prop where
  clientID : o'.clientInterfaceID = o.clientInterfaceID
  clientType : o'.clientInterfaceType = o.clientInterfaceType
  serverID : o.serverInterfaceID ≠ 0 → o'.serverInterfaceID = o.serverInterfaceID

theorem InterfacesKept.refl (o : Session) : InterfacesKept o o := ⟨rfl, rfl, fun _ => rfl⟩

theorem InterfacesKept.trans {o o' o'' : Session} (one : InterfacesKept o o')
    (two : InterfacesKept o' o'') : InterfacesKept o o'' :=
  ⟨two.clientID.trans one.clientID, two.clientType.trans one.clientType,
    fun set => (two.serverID (one.serverID set ▸ set)).trans (one.serverID set)⟩

theorem interfacesKept_of_withoutPlugins {o o' : Session}
    (same : o'.withoutPlugins = o.withoutPlugins) : InterfacesKept o o' :=
  ⟨(congrArg Session.clientInterfaceID same :), (congrArg Session.clientInterfaceType same :),
    fun _ => (congrArg Session.serverInterfaceID same :)⟩

theorem interfacesKept_updateSession (now : Nat) (pmark : UInt32) (mess : NfqueueMessage)
    (session : Session) :
    InterfacesKept session (updateSession now pmark false mess session).1 := by
  simp only [updateSession, Bool.false_eq_true, ↓reduceIte]
  split
  · rename_i unset
    exact ⟨rfl, rfl, fun set => absurd (beq_iff_eq.1 (Bool.and_eq_true_iff.1 unset).2) set⟩
  · exact ⟨rfl, rfl, fun _ => rfl⟩

theorem updateSession_new_client (now : Nat) (pmark : UInt32) (mess : NfqueueMessage)
    (session : Session) :
    (updateSession now pmark true mess session).1.clientInterfaceID =
        (pmark &&& 0x000000FF).toUInt8 ∧
      (updateSession now pmark true mess session).1.clientInterfaceType =
        ((pmark &&& 0x03000000) >>> 24).toUInt8 := by
  simp only [updateSession, ↓reduceIte]
  split <;> exact ⟨rfl, rfl⟩

theorem mark_interface_toNat (pmark : UInt32) :
    (pmark &&& 0x000000FF).toUInt8.toNat = (pmark &&& 0xFF).toNat ∧
      ((pmark &&& 0x03000000) >>> 24).toUInt8.toNat = ((pmark &&& 0x03000000) >>> 24).toNat := by
  constructor <;> apply UInt8.toNat_ofNat_of_lt
  · rw [UInt32.and_toNat]
    exact Nat.lt_of_le_of_lt Nat.and_le_right (by decide)
  · have := (pmark &&& 0x03000000).toBitVec.isLt
    show (pmark &&& 0x03000000).toNat >>> 24 < 256
    rw [Nat.shiftRight_eq_div_pow]
    unfold UInt32.toNat
    omega

/-- One `nfqueueCallback` call that returns, with any arguments. -/
def CallbackStep (plugins : Plugins) (sys sys' : System) : Prop :=
  ∃ now ctid family packet packetLength pmark verdict,
    nfqueueCallback plugins now ctid family packet packetLength pmark sys = .ok (verdict, sys')

/-- What one call does to a session object: one that was there is there after with its
interfaces kept, and one the call creates has the client side of the call's mark. -/
inductive InterfaceStep (pmark : UInt32) : Option Session → Option Session → Prop
  | kept {o o' : Session} : InterfacesKept o o' → InterfaceStep pmark (some o) (some o')
  | absent : InterfaceStep pmark none none
  | created {o' : Session} : o'.clientInterfaceID = (pmark &&& 0x000000FF).toUInt8 →
      o'.clientInterfaceType = ((pmark &&& 0x03000000) >>> 24).toUInt8 →
      InterfaceStep pmark none (some o')

theorem interfaceStep_of_map (pmark : UInt32) {object object' : Option Session}
    (same : object'.map Session.withoutPlugins = object.map Session.withoutPlugins) :
    InterfaceStep pmark object object' := by
  cases object with
  | none => rw [Option.map_eq_none'.1 same]; exact .absent
  | some o =>
      obtain ⟨o', rfl, plain⟩ := Option.map_eq_some'.1 same
      exact .kept (interfacesKept_of_withoutPlugins plain)

theorem nfqueueCallback_interfaces (plugins : Plugins) (now : Nat) (ctid family : UInt32)
    (packet : Packet) (packetLength : Nat) (pmark : UInt32) {sys sys' : System} {verdict : Nat}
    (returned : nfqueueCallback plugins now ctid family packet packetLength pmark sys =
      .ok (verdict, sys')) (sid : Nat) :
    InterfaceStep pmark (sys.sessions sid) (sys'.sessions sid) := by
  unfold nfqueueCallback at returned
  split at returned
  · cases returned; exact interfaceStep_of_map pmark rfl
  split at returned
  · cases returned; exact interfaceStep_of_map pmark rfl
  rename_i mess _ _
  dsimp only at returned
  split at returned
  · rename_i sysR resolved
    cases returned
    rcases resolveSession_sessions plugins now ctid mess (pmark &&& 0x10000000 != 0) sys with
      ⟨-, same⟩ | ⟨_, created, -⟩ <;> rw [resolved] at *
    · rw [same]; exact interfaceStep_of_map pmark rfl
    · cases created
  · rename_i sid₀ session newSession sysR resolved
    have stored := resolveSession_stored plugins now ctid mess _ sys (by rw [resolved])
    rw [resolved] at stored
    obtain ⟨o', stored', plain⟩ := processSession_updated plugins now ctid pmark mess sid₀ session
      newSession returned stored
    have after := processSession_sessions plugins now ctid pmark mess sid₀ session newSession
      returned sid
    rcases resolveSession_sessions plugins now ctid mess (pmark &&& 0x10000000 != 0) sys with
      ⟨fresh, same⟩ | ⟨_, created, same⟩ <;> rw [resolved] at * <;> rw [same] at stored after
    · -- no object is created: the packet's session was there, and is not new
      cases newSession
      · by_cases here : sid = sid₀
        · subst here
          rw [stored, stored']
          exact .kept ((interfacesKept_updateSession now pmark mess session).trans
            (interfacesKept_of_withoutPlugins plain))
        · rw [if_neg here] at after
          exact interfaceStep_of_map pmark after
      · exact absurd rfl (fresh sid₀ session)
    · -- the packet's session is the new object in the next free slot
      cases created
      by_cases here : sid = sys.nextSessionID
      · subst here
        rw [sys.unallocated _ le_rfl, stored']
        obtain ⟨clientID, clientType⟩ := updateSession_new_client now pmark mess session
        exact .created ((congrArg Session.clientInterfaceID plain :).trans clientID)
          ((congrArg Session.clientInterfaceType plain :).trans clientType)
      · rw [if_neg here, Function.update_noteq here] at after
        exact interfaceStep_of_map pmark after

theorem InterfaceStep.kept_of_some {pmark : UInt32} {o : Session} {object' : Option Session}
    (step : InterfaceStep pmark (some o) object') :
    ∃ o', object' = some o' ∧ InterfacesKept o o' := by
  cases step with
  | kept kept => exact ⟨_, rfl, kept⟩

theorem InterfaceStep.client_of_none {pmark : UInt32} {o' : Session}
    (step : InterfaceStep pmark none (some o')) :
    o'.clientInterfaceID = (pmark &&& 0x000000FF).toUInt8 ∧
      o'.clientInterfaceType = ((pmark &&& 0x03000000) >>> 24).toUInt8 := by
  cases step with
  | created clientID clientType => exact ⟨clientID, clientType⟩

theorem callbackRun_interfacesKept {plugins : Plugins} {sys sys' : System}
    (run : Relation.ReflTransGen (CallbackStep plugins) sys sys') {sid : Nat} {o : Session}
    (stored : sys.sessions sid = some o) :
    ∃ o', sys'.sessions sid = some o' ∧ InterfacesKept o o' := by
  induction run with
  | refl => exact ⟨o, stored, .refl o⟩
  | tail _ step kept =>
      obtain ⟨o₁, stored₁, kept₁⟩ := kept
      obtain ⟨now, ctid, family, packet, packetLength, pmark, verdict, returned⟩ := step
      have next := nfqueueCallback_interfaces plugins now ctid family packet packetLength pmark
        returned sid
      rw [stored₁] at next
      obtain ⟨o₂, stored₂, kept₂⟩ := next.kept_of_some
      exact ⟨o₂, stored₂, kept₁.trans kept₂⟩

/-- Over every run after the packet that creates a session, whatever the later packets and
their marks: the client interface id and type stay those of the creating mark, and a server id,
once set, stays. -/
theorem session_interfaces_fixed (plugins : Plugins) (now : Nat) (ctid family : UInt32)
    (packet : Packet) (packetLength : Nat) (m0 : UInt32) {sys sys₁ sysA sysB : System}
    {verdict : Nat}
    (creating : nfqueueCallback plugins now ctid family packet packetLength m0 sys =
      .ok (verdict, sys₁))
    {sid : Nat} {o₁ : Session} (absent : sys.sessions sid = none)
    (created : sys₁.sessions sid = some o₁)
    (toA : Relation.ReflTransGen (CallbackStep plugins) sys₁ sysA)
    (toB : Relation.ReflTransGen (CallbackStep plugins) sysA sysB) :
    ∃ oA oB, sysA.sessions sid = some oA ∧ sysB.sessions sid = some oB ∧
      oB.clientInterfaceID.toNat = (m0 &&& 0xFF).toNat ∧
      oB.clientInterfaceType.toNat = ((m0 &&& 0x03000000) >>> 24).toNat ∧
      (oA.serverInterfaceID ≠ 0 → oB.serverInterfaceID = oA.serverInterfaceID) := by
  have first := nfqueueCallback_interfaces plugins now ctid family packet packetLength m0 creating
    sid
  rw [absent, created] at first
  obtain ⟨clientID, clientType⟩ := first.client_of_none
  obtain ⟨oA, storedA, keptA⟩ := callbackRun_interfacesKept toA created
  obtain ⟨oB, storedB, keptB⟩ := callbackRun_interfacesKept toB storedA
  obtain ⟨idBits, typeBits⟩ := mark_interface_toNat m0
  refine ⟨oA, oB, storedA, storedB, ?_, ?_, keptB.serverID⟩
  · rw [(keptA.trans keptB).clientID, clientID, idBits]
  · rw [(keptA.trans keptB).clientType, clientType, typeBits]

/-- `firstPacket` creates session 0 from interface 2; the same packet marked new again from
interface 5 and the server's reply from interface 3 follow, then another reply from interface
4. The client side stays as the first packet set it, and the server side as the first reply set
it. -/
theorem session_interfaces_fixed_firstPacket :
    ∃ sys₁ sysR sysA sysB,
      nfqueueCallback releasingPlugins 5 7 2 firstPacket 60 0x10000002 System.empty =
        .ok (nfAccept, sys₁) ∧
      nfqueueCallback releasingPlugins 6 7 2 firstPacket 60 0x10000005 sys₁ =
        .ok (nfAccept, sysR) ∧
      nfqueueCallback releasingPlugins 7 7 2 replyPacket 60 0x00000003 sysR =
        .ok (nfAccept, sysA) ∧
      nfqueueCallback releasingPlugins 8 7 2 replyPacket 60 0x00000004 sysA =
        .ok (nfAccept, sysB) ∧
      (sysA.sessions 0).map (·.serverInterfaceID) = some 3 ∧
      ∃ oA oB, sysA.sessions 0 = some oA ∧ sysB.sessions 0 = some oB ∧
        oB.clientInterfaceID.toNat = ((0x10000002 : UInt32) &&& 0xFF).toNat ∧
        oB.clientInterfaceType.toNat = (((0x10000002 : UInt32) &&& 0x03000000) >>> 24).toNat ∧
        (oA.serverInterfaceID ≠ 0 → oB.serverInterfaceID = oA.serverInterfaceID) :=
  ⟨_, _, _, _, rfl, rfl, rfl, rfl, by decide,
    @session_interfaces_fixed releasingPlugins 5 7 2 firstPacket 60 0x10000002 System.empty _ _ _
      _ rfl 0 _ rfl rfl
      (.tail (.single ⟨6, 7, 2, firstPacket, 60, 0x10000005, _, rfl⟩)
        ⟨7, 7, 2, replyPacket, 60, 0x00000003, _, rfl⟩)
      (.single ⟨8, 7, 2, replyPacket, 60, 0x00000004, _, rfl⟩)⟩

end Packetd
