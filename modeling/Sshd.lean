import Sshd.Basic
import Sshd.Handler
import Sshd.Server
import Sshd.Invariant
import Sshd.Lifecycle
import Sshd.AcceptLoop
import Sshd.InFlight
import Sshd.Drain
import Sshd.Progress
import Sshd.Shutdown
import Sshd.Race
import Sshd.ConfigFile
import Sshd.Setup
import Sshd.TwoFactorVerify
