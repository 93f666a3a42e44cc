import Packetd.Basic
import Packetd.Session
import Packetd.Walk
import Packetd.Dispatch
import Packetd.Nfqueue
import Packetd.Geoip
import Packetd.Ruleset
import Packetd.Flow
import Packetd.Script
import Packetd.Pipeline
import Packetd.Interleaving
import Packetd.Refinement
import Packetd.Solo
import Packetd.Daemon
import Packetd.Bypass
import Packetd.Logger
import Packetd.Restd
import Packetd.LevelStore
