import Packetd.Flow
import Packetd.Geoip

/-! The kernel and the dispatcher together, for a packet this host forwards: the prerouting
hook of `insert_packetd_rules` runs against the dispatcher's dictionary, and a packet it queues
goes to `nfqueueCallback` with the mark the hook left on it. -/

namespace Packetd

/-- A forwarded packet: its headers as the rules read them, `t`, whose dictionary is the
dispatcher's, and as gopacket decodes them, `packet`. -/
def forwardPacket (plugins : Plugins) (devnet : Option Prefix4) (first last now : Nat)
    (family : UInt32) (packet : Packet) (packetLength : Nat) (t : Traversal) (sys : System) :
    Except String (Verdict × System) :=
  let hooked :=
    evalHook (insertPacketdRules devnet first last) .prerouting { t with dict := sys.dict }
  let sys := { sys with dict := hooked.2.dict }
  match hooked.1 with
  | .next => .ok (.next, sys)
  | .queued =>
      (nfqueueCallback plugins now t.ctID family packet packetLength hooked.2.mark sys).map
        fun result => (.queued, result.2)

def udpFlow : Packet := ⟨some ⟨17, 0x0a000005, 0x5db8d822⟩, none, none, some ⟨40000, 3478⟩⟩

/-- A packet of that flow before any reply, as the rules read it: conntrack still calls it new. -/
def udpFlowTraversal (ctPackets : Nat) : Traversal :=
  { ctState := .new, ctID := 9, ctPackets, ctMark := 0, mark := 0x00000002,
    saddr := .v4 0x0a000005, daddr := .v4 0x5db8d822, saddrType := .unicast,
    daddrType := .unicast, protocol := 17, dport := 3478, dict := Dict.empty }

/-- The first packet of the flow creates session 0 and geoip stores both countries under ct id
9; the second, again new to conntrack, has the entry flushed by the queue chain and is then
taken by the same session, whose geoip subscription is gone, so nothing writes the countries
again: the session holds them in its attachments, the dictionary has lost them. -/
theorem forwardPacket_second_new_packet_drops_countries :
    ∃ sys₁ sys₂,
      forwardPacket (geoipPlugins none) none 0 0 5 2 udpFlow 60 (udpFlowTraversal 1)
          System.empty = .ok (.queued, sys₁) ∧
        sys₁.sessionTable 9 = some 0 ∧
        sys₁.dict.sessions 9 "client_country" = some (.str "XL") ∧
        sys₁.dict.sessions 9 "server_country" = some (.str "XU") ∧
      forwardPacket (geoipPlugins none) none 0 0 6 2 udpFlow 60 (udpFlowTraversal 2) sys₁ =
          .ok (.queued, sys₂) ∧
        sys₂.sessionTable 9 = some 0 ∧
        (sys₂.sessions 0).map (·.attachments.lookup "client_country") = some (some "XL") ∧
        sys₂.dict.sessions 9 "client_country" = none ∧
        sys₂.dict.sessions 9 "server_country" = none :=
  ⟨_, _, rfl, by decide, by decide, by decide, rfl, by decide, by decide, by decide, by decide⟩

end Packetd
