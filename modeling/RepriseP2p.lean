import RepriseP2p.Shutdown
import RepriseP2p.Sockets
import RepriseP2p.Tcp.Addresses
import RepriseP2p.Tcp.Connector
import RepriseP2p.Tcp.DialTiming
import RepriseP2p.Tcp.Directory
import RepriseP2p.Tcp.GivenUp
import RepriseP2p.Tcp.RegistryHistory
import RepriseP2p.Tcp.Scan
import RepriseP2p.Tcp.Withdrawal
import RepriseP2p.Udp.BoundInterface
import RepriseP2p.Udp.ClientAttempts
import RepriseP2p.Udp.Consent
import RepriseP2p.Udp.DuplicateSuppression
import RepriseP2p.Udp.HolePunchPair
import RepriseP2p.Udp.HolePunchSuccess
import RepriseP2p.Udp.PeerHistory
import RepriseP2p.Udp.PollCourse
import RepriseP2p.Udp.QuicHandshake
import RepriseP2p.Udp.Rendezvous
import RepriseP2p.Udp.RequestList
import RepriseP2p.Udp.RequestTiming
import RepriseP2p.Udp.ServerDisclosure
import RepriseP2p.Udp.ServerGroups
import RepriseP2p.Udp.ServerMemory
import RepriseP2p.Udp.ServerRows
import RepriseP2p.Udp.ServerSessions
import RepriseP2p.Udp.ServerSlots
import RepriseP2p.Udp.ServerTables
