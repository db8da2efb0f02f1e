import Usmp.Server.Independence
import Usmp.Server.CookieBuckets
import Usmp.Server.KeepAlive
import Usmp.Session.Window
import Usmp.Session.Nonce
import Usmp.Session.Reassembly
import Usmp.Session.Turns
import Usmp.Tcp.Channel
import Usmp.Tcp.Farewell
import Usmp.Tcp.Teardown
import Usmp.Tcp.OneWay
import Usmp.Tcp.Timeouts
import Usmp.Udp.Acknowledged
import Usmp.Udp.Delivery
import Usmp.Udp.Filter
import Usmp.Udp.HandshakeFeed
import Usmp.Udp.Interference
import Usmp.Udp.RecvEnds
import Usmp.Udp.Timeouts
import Usmp.Udp.Timer
import Usmp.Server.Blame
import Usmp.Server.Disconnects
import Usmp.Server.Reconnect
import Usmp.Server.Displacement
import Usmp.Server.Routability
import Usmp.Server.Allocation
import Usmp.Handshake.Agreement
import Usmp.Handshake.Answers
import Usmp.Handshake.Channel
import Usmp.Handshake.Progress
import Usmp.Udp.Corruption
import Usmp.Udp.Framing
import Usmp.Session.Budget
import Usmp.Session.Tails
import Usmp.Client.Lifecycle
import Usmp.Server.Guesses
