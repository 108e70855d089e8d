import X11rbAsync.Basic
import X11rbAsync.MaxRequestBytes
import X11rbAsync.LengthField
import X11rbAsync.WriteBuffer
import X11rbAsync.Handshake
import X11rbAsync.Connection
import X11rbAsync.Corruption
import X11rbAsync.Ordering
import X11rbAsync.Incoming
import X11rbAsync.SequenceNumber
import X11rbAsync.Progress
import X11rbAsync.LargeRequest
import X11rbAsync.Fds
import X11rbAsync.Framing
