import Nabud.Proto
import Nabud.Image
import Nabud.Conn.Object
import Nabud.Adaptor.Escape
import Nabud.Adaptor.Send
import Nabud.Adaptor.Packets
import Nabud.Adaptor.Segments
import Nabud.Adaptor.Messages
import Nabud.Adaptor.Session
import Nabud.Adaptor.Requests
import Nabud.Adaptor.Download
import Nabud.Adaptor.Machine
import Nabud.Adaptor.Robust
import Nabud.Conn.Registry
import Nabud.Conn.Safety
import Nabud.Conn.Progress
import Nabud.Conn.Lifecycle
import Nabud.Conn.Selection
import Nabud.Conn.Listener
import Nabud.Conn.BringUp
