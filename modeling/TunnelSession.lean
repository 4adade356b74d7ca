import TunnelSession.Net.Carve
import TunnelSession.Tunnel.QuickFile
import TunnelSession.Wire.LineBuffer
import TunnelSession.Catalog.Reader
import TunnelSession.Quality.Score
import TunnelSession.Quality.Choice
import TunnelSession.Probe.Packet
import TunnelSession.Link.Backoff
import TunnelSession.Link.Supervisor
import TunnelSession.Console.Program
import TunnelSession.Toml.Reader
import TunnelSession.Toml.Writer
import TunnelSession.Health.Monitor
import TunnelSession.Sweep.Basic
import TunnelSession.Control.Inputs
import TunnelSession.Settings.Session
import TunnelSession.Settings.Daemon
import TunnelSession.Session.Loop
import TunnelSession.Daemon.Dummy
import TunnelSession.Daemon.Quick
import TunnelSession.Daemon.Host
import TunnelSession.Main
import TunnelSession.Proofs.Control.Waits
import TunnelSession.Proofs.Control.Stranded
import TunnelSession.Proofs.Control.Quitting
import TunnelSession.Proofs.Control.Attempts
import TunnelSession.Proofs.Control.Probes
import TunnelSession.Proofs.Tunnel.QuickFile
import TunnelSession.Proofs.Control.Switches
import TunnelSession.Proofs.Joint.Notices
import TunnelSession.Proofs.Daemon.Endings
import TunnelSession.Proofs.Net.Coverage
import TunnelSession.Proofs.Wire.Lines
import TunnelSession.Proofs.Wire.Pieces
import TunnelSession.Proofs.Json.RoundTrip
import TunnelSession.Proofs.Net.AddressText
import TunnelSession.Proofs.Wire.Delivery
import TunnelSession.Proofs.Daemon.Ownership
import TunnelSession.Proofs.Daemon.Strangers
import TunnelSession.Proofs.Joint.Hub
import TunnelSession.Proofs.Joint.Exclusion
import TunnelSession.Proofs.Net.Count
import TunnelSession.Proofs.Wire.Sizes
import TunnelSession.Proofs.Wire.Limits
import TunnelSession.Proofs.Tunnel.Interface
import TunnelSession.Proofs.Control.Retirement
import TunnelSession.Proofs.Control.Portal
import TunnelSession.Proofs.Control.Attendance
import TunnelSession.Proofs.Daemon.Rejections
import TunnelSession.Proofs.Daemon.Handshakes
import TunnelSession.Proofs.Control.Standstill
import TunnelSession.Proofs.Control.Rotation
import TunnelSession.Proofs.Control.Comeback
import TunnelSession.Proofs.Daemon.Tandem
import TunnelSession.Proofs.Link.Outages
import TunnelSession.Proofs.Wire.Garbage
import TunnelSession.Proofs.Joint.Hearing
import TunnelSession.Proofs.Health.Estimate
import TunnelSession.Proofs.Control.Leaving
import TunnelSession.Proofs.Session.Resolution
import TunnelSession.Proofs.Health.Stays
import TunnelSession.Proofs.Sweep.Effort
import TunnelSession.Proofs.Session.Passes
import TunnelSession.Proofs.Net.Canonical
import TunnelSession.Proofs.Quality.Draws
import TunnelSession.Proofs.Quality.Samples
import TunnelSession.Proofs.Key.Canonical
import TunnelSession.Proofs.Quality.Ranking
import TunnelSession.Proofs.Control.LogFetches
import TunnelSession.Proofs.Daemon.PeerLookup
import TunnelSession.Proofs.Wire.Bounds
import TunnelSession.Proofs.Daemon.LogLines
import TunnelSession.Proofs.Tunnel.Ranges
import TunnelSession.Proofs.Settings.Saving
