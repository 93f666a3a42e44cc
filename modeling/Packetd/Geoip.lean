import Packetd.Nfqueue

/-! The geoip plugin: its nfqueue handler releases the session at once and, on a session's
first packet, stores the country of each address in the session's dictionary entry and in the
session's attachments. -/

namespace Packetd

/-- A network of `privateIPBlocks`, as `net.ParseCIDR` returns it: four bytes for an IPv4
block, sixteen for an IPv6 one. -/
inductive IPNet
  | v4 (address : UInt32) (length : Nat)
  | v6 (address : IPv6Address) (length : Nat)
  deriving DecidableEq, Repr

def IPv6Address.toNat (addr : IPv6Address) : Nat :=
  Nat.shiftLeft addr.high.toNat 64 + addr.low.toNat

/-- `net.IPNet.Contains`: an address `To4` can shorten is compared with IPv4 networks only,
any other with IPv6 networks only, on the network's first `length` bits. -/
def IPNet.contains : IPNet → IP → Bool
  | .v4 address length, ip =>
      match ip.to4 with
      | some addr =>
          Nat.shiftRight addr.toNat (32 - length) == Nat.shiftRight address.toNat (32 - length)
      | none => false
  | .v6 address length, ip =>
      match ip.to4, ip with
      | none, .v6 addr =>
          Nat.shiftRight addr.toNat (128 - length) == Nat.shiftRight address.toNat (128 - length)
      | _, _ => false

/-- The blocks `PluginStartup` parses. -/
def privateIPBlocks : List IPNet :=
  [.v4 0x7f000000 8,
   .v4 0x0a000000 8,
   .v4 0xac100000 12,
   .v4 0xc0a80000 16,
   .v6 ⟨0, 1⟩ 128,
   .v6 ⟨0xfe80000000000000, 0⟩ 10,
   .v6 ⟨0xfc00000000000000, 0⟩ 7]

def isPrivateIP (ip : IP) : Bool := privateIPBlocks.any (·.contains ip)

/-- `geoDatabase.City(ip)`: the record's `Country.IsoCode`, or `none` for an error. -/
abbrev GeoDatabase := IP → Option String

/-- The country code the handler stores for one address: `XL` for a private address, else the
database's code when it has a non-empty one, else `XU`. -/
def lookupCountry (geoDatabase : Option GeoDatabase) (addr : Option IP) : String :=
  let country := if addr.any isPrivateIP then "XL" else "XU"
  match geoDatabase, addr with
  | some database, some ip =>
      if country = "XU" then
        match database ip with
        | some isoCode => if isoCode.length ≠ 0 then isoCode else country
        | none => country
      else country
  | _, _ => country

/-- `PluginNfqueueHandler`: the source and destination come from the IPv4 layer when there is
one, else from the IPv6 layer. -/
def pluginNfqueueHandler (geoDatabase : Option GeoDatabase) : Handler := fun mess _ newSession =>
  if !newSession then ⟨[.releaseSession], false⟩
  else
    let srcAddr : Option IP :=
      match mess.ip4Layer, mess.ip6Layer with
      | some ip4, _ => some (.v4 ip4.srcIP)
      | none, some ip6 => some (.v6 ip6.srcIP)
      | none, none => none
    let dstAddr : Option IP :=
      match mess.ip4Layer, mess.ip6Layer with
      | some ip4, _ => some (.v4 ip4.dstIP)
      | none, some ip6 => some (.v6 ip6.dstIP)
      | none, none => none
    let clientCountry := lookupCountry geoDatabase srcAddr
    let serverCountry := lookupCountry geoDatabase dstAddr
    ⟨[.releaseSession,
      .addSessionEntry "client_country" (.str clientCountry),
      .addSessionEntry "server_country" (.str serverCountry),
      .putAttachment "client_country" clientCountry,
      .putAttachment "server_country" serverCountry], false⟩

/-- Modelled from the spec: `dispatch.GeoipPriority`, the first of the plugin priorities. -/
def geoipPriority : Int := 0

/-- The nfqueue subscriptions of this repository: geoip's, made by its `PluginStartup`. -/
def geoipPlugins (geoDatabase : Option GeoDatabase) : Plugins :=
  ⟨List.toAList [⟨"geoip", geoipPriority⟩], fun _ => pluginNfqueueHandler geoDatabase⟩

theorem geoipPlugins_inRange (geoDatabase : Option GeoDatabase) :
    CalledBelow (geoipPlugins geoDatabase).registry 100 :=
  show CalledBelow (List.toAList [⟨"geoip", geoipPriority⟩]) 100 by decide

theorem pluginNfqueueHandler_releases (geoDatabase : Option GeoDatabase) (mess : NfqueueMessage)
    (ctid : UInt32) (newSession : Bool) :
    (pluginNfqueueHandler geoDatabase mess ctid newSession).actions.head? = some .releaseSession ∧
      (pluginNfqueueHandler geoDatabase mess ctid newSession).sessionRelease = false ∧
      (newSession = false →
        (pluginNfqueueHandler geoDatabase mess ctid newSession).actions = [.releaseSession]) := by
  cases newSession <;> simp [pluginNfqueueHandler]

end Packetd
