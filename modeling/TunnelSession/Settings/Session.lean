/-
  TunnelSession.Settings.Session

  The settings of a session. A file may leave out any of them; each has a
  default. Whole numbers are below two to the 63rd, as the file format has it.
-/
import TunnelSession.Session.Basic
import TunnelSession.Toml.Reader
import TunnelSession.Toml.Writer

namespace TunnelSession

/-- Where the daemon listens, unless settings say otherwise. -/
def defaultSocketPath : String := "/var/run/hopvpn/daemon.socket"

/-- This device's key and addresses. -/
structure DeviceSettings where
  privateKey : String := ""
  addressV4 : String := ""
  addressV6 : String := ""
  deriving DecidableEq, Repr

/-- How long to wait, in seconds. -/
structure TimeoutSettings where
  handshake : Nat := 15
  confirm : Nat := 10
  disconnect : Nat := 10
  serverCooldown : Nat := 300
  deriving DecidableEq, Repr

/-- How the health of the tunnel is watched. Times are in milliseconds. -/
structure HealthSettings where
  probeInterval : Nat := 1000
  checkupInterval : Nat := 1000
  staleAfter : Nat := 4000
  verySlow : Nat := 1000
  ewmaDivisor : Nat := 8
  lossPercent : Nat := 10
  switchOnUnstable : Bool := true
  deriving DecidableEq, Repr

/-- How servers are measured. The timeout is in milliseconds, the time between two
    sweeps in minutes. -/
structure SweepSettings where
  enabled : Bool := true
  maxParallel : Nat := 8
  timeout : Nat := 5000
  retries : Nat := 2
  refresh : Nat := 30
  deriving DecidableEq, Repr

/-- The settings of a session. -/
structure SessionSettings where
  socketPath : String := defaultSocketPath
  /-- The file with the catalog of servers. -/
  serversFile : Option String := none
  device : DeviceSettings := {}
  ipv6Enabled : Bool := true
  excludedRanges : List String := []
  dnsServer : Option String := none
  userCountry : Option String := none
  lastSelection : Option Selection := none
  timeouts : TimeoutSettings := {}
  health : HealthSettings := {}
  sweep : SweepSettings := {}
  deriving DecidableEq

/-- Why settings cannot be used. -/
inductive SettingsError
  | unreadable
  | missingPrivateKey
  | invalidKey (cause : Key.KeyError)
  | invalidRange (cause : ConfigError)
  | invalid (what : String)
  deriving DecidableEq

def SettingsError.message : SettingsError → String
  | .unreadable => "Parse error"
  | .missingPrivateKey => "No device private key configured"
  | .invalidKey cause => "Invalid device key: " ++ cause.message
  | .invalidRange cause => "Invalid range: " ++ cause.message
  | .invalid what => "Invalid settings: " ++ what

/-! ## Reading -/

/-- The largest number of 64 bits. -/
def most64 : Nat := 0xFFFFFFFFFFFFFFFF

/-- The largest number of 32 bits. -/
def most32 : Nat := 0xFFFFFFFF

def DeviceSettings.ofToml? (t : Toml) : Option DeviceSettings := do
  let [privateKey, addressV4, addressV6] ← t.fields? [
    "private_key", "ipv4_address", "ipv6_address"] | none
  some {
    privateKey := ← Toml.orDefault "" Toml.text? privateKey
    addressV4 := ← Toml.orDefault "" Toml.text? addressV4
    addressV6 := ← Toml.orDefault "" Toml.text? addressV6 }

/-- The selection in settings, as it is written there. -/
def Selection.ofToml? (t : Toml) : Option Selection := do
  let [countryCode, cityName] ← t.fields? ["country_code", "city_name"] | none
  some { countryCode := ← countryCode.bind Toml.text?, cityName := ← cityName.bind Toml.text? }

def TimeoutSettings.ofToml? (t : Toml) : Option TimeoutSettings := do
  let [handshake, confirm, disconnect, serverCooldown] ← t.fields? [
    "handshake_secs", "confirm_secs", "disconnect_secs", "server_cooldown_secs"] | none
  some {
    handshake := ← Toml.orDefault 15 (Toml.nat? most64) handshake
    confirm := ← Toml.orDefault 10 (Toml.nat? most64) confirm
    disconnect := ← Toml.orDefault 10 (Toml.nat? most64) disconnect
    serverCooldown := ← Toml.orDefault 300 (Toml.nat? most64) serverCooldown }

def HealthSettings.ofToml? (t : Toml) : Option HealthSettings := do
  let [probeInterval, checkupInterval, staleAfter, verySlow, ewmaDivisor, lossPercent,
    switchOnUnstable] ← t.fields? [
    "probe_interval_ms", "checkup_interval_ms", "stale_after_ms", "very_slow_ms",
    "ewma_divisor", "loss_unstable_percent", "switch_on_unstable"] | none
  some {
    probeInterval := ← Toml.orDefault 1000 (Toml.nat? most64) probeInterval
    checkupInterval := ← Toml.orDefault 1000 (Toml.nat? most64) checkupInterval
    staleAfter := ← Toml.orDefault 4000 (Toml.nat? most64) staleAfter
    verySlow := ← Toml.orDefault 1000 (Toml.nat? most64) verySlow
    ewmaDivisor := ← Toml.orDefault 8 (Toml.nat? most32) ewmaDivisor
    lossPercent := ← Toml.orDefault 10 (Toml.nat? most32) lossPercent
    switchOnUnstable := ← Toml.orDefault true Toml.bool? switchOnUnstable }

def SweepSettings.ofToml? (t : Toml) : Option SweepSettings := do
  let [enabled, maxParallel, timeout, retries, refresh] ← t.fields? [
    "enabled", "max_parallel", "timeout_ms", "retries", "refresh_mins"] | none
  some {
    enabled := ← Toml.orDefault true Toml.bool? enabled
    maxParallel := ← Toml.orDefault 8 (Toml.nat? most64) maxParallel
    timeout := ← Toml.orDefault 5000 (Toml.nat? most64) timeout
    retries := ← Toml.orDefault 2 (Toml.nat? most32) retries
    refresh := ← Toml.orDefault 30 (Toml.nat? most64) refresh }

namespace SessionSettings

def ofToml? (t : Toml) : Option SessionSettings := do
  let [socketPath, serversFile, device, ipv6Enabled, excludedRanges, dnsServer, userCountry,
    lastSelection, timeouts, health, sweep] ← t.fields? [
    "socket_path", "servers_file", "device", "ipv6_enabled", "excluded_ranges", "dns_server",
    "user_country", "last_selection", "timeouts", "health", "sweep"] | none
  some {
    socketPath := ← Toml.orDefault defaultSocketPath Toml.text? socketPath
    serversFile := ← Toml.orNone Toml.text? serversFile
    device := ← Toml.orDefault {} DeviceSettings.ofToml? device
    ipv6Enabled := ← Toml.orDefault true Toml.bool? ipv6Enabled
    excludedRanges := ←
      Toml.orDefault [] (fun v => v.list?.bind (·.mapM Toml.text?)) excludedRanges
    dnsServer := ← Toml.orNone Toml.text? dnsServer
    userCountry := ← Toml.orNone Toml.text? userCountry
    lastSelection := ← Toml.orNone Selection.ofToml? lastSelection
    timeouts := ← Toml.orDefault {} TimeoutSettings.ofToml? timeouts
    health := ← Toml.orDefault {} HealthSettings.ofToml? health
    sweep := ← Toml.orDefault {} SweepSettings.ofToml? sweep }

/-- Reads settings. -/
def read (s : String) : Except SettingsError SessionSettings :=
  match (Toml.read? s).bind ofToml? with
  | some settings => .ok settings
  | none => .error .unreadable

/-! ## Writing -/

/-- The entries of the file: all settings that have a value, single values
    first. -/
def entries (s : SessionSettings) : List (String × Toml) :=
  let section_ (name : String) (inner : List (String × Toml)) : List (String × Toml) :=
    [(name, .table .header inner)]
  let number (n : Nat) : Toml := .integer n
  let optional (name : String) (v : Option String) : List (String × Toml) :=
    (v.map (fun t => (name, Toml.text t))).toList
  [("socket_path", .text s.socketPath)] ++
  optional "servers_file" s.serversFile ++
  section_ "device" [
    ("private_key", .text s.device.privateKey),
    ("ipv4_address", .text s.device.addressV4),
    ("ipv6_address", .text s.device.addressV6)] ++
  [("ipv6_enabled", .bool s.ipv6Enabled),
   ("excluded_ranges", .list (s.excludedRanges.map .text))] ++
  optional "dns_server" s.dnsServer ++
  optional "user_country" s.userCountry ++
  (match s.lastSelection with
    | some l => section_ "last_selection" [
        ("country_code", .text l.countryCode), ("city_name", .text l.cityName)]
    | none => []) ++
  section_ "timeouts" [
    ("handshake_secs", number s.timeouts.handshake),
    ("confirm_secs", number s.timeouts.confirm),
    ("disconnect_secs", number s.timeouts.disconnect),
    ("server_cooldown_secs", number s.timeouts.serverCooldown)] ++
  section_ "health" [
    ("probe_interval_ms", number s.health.probeInterval),
    ("checkup_interval_ms", number s.health.checkupInterval),
    ("stale_after_ms", number s.health.staleAfter),
    ("very_slow_ms", number s.health.verySlow),
    ("ewma_divisor", number s.health.ewmaDivisor),
    ("loss_unstable_percent", number s.health.lossPercent),
    ("switch_on_unstable", .bool s.health.switchOnUnstable)] ++
  section_ "sweep" [
    ("enabled", .bool s.sweep.enabled),
    ("max_parallel", number s.sweep.maxParallel),
    ("timeout_ms", number s.sweep.timeout),
    ("retries", number s.sweep.retries),
    ("refresh_mins", number s.sweep.refresh)]

/-- The settings as a file, which is empty if they cannot be written. -/
def write (s : SessionSettings) : String :=
  (Toml.write? s.entries).getD ""

/-! ## Use -/

/-- This device's end of the tunnel. -/
def deviceOf (s : SessionSettings) : Except SettingsError Device :=
  if s.device.privateKey.isEmpty then .error .missingPrivateKey
  else if s.device.addressV4.isEmpty then .error (.invalid "device.ipv4_address is empty")
  else match Key.PrivateKey.read s.device.privateKey with
    | .ok k => .ok ⟨k, s.device.addressV4, s.device.addressV6⟩
    | .error e => .error (.invalidKey e)

/-- What counts as healthy. -/
def healthTuning (s : SessionSettings) : HealthTuning where
  probeInterval := s.health.probeInterval * 1000
  staleAfter := s.health.staleAfter * 1000
  verySlow := s.health.verySlow * 1000
  divisor := max s.health.ewmaDivisor 1
  lossLimit := (min s.health.lossPercent 100).toFloat / 100

/-- How the connection goes about it. The first range that cannot be read is the
    fault. -/
def controlTuning (s : SessionSettings) : Except SettingsError ControlTuning :=
  match s.excludedRanges.mapM Net.Cidr.read with
  | .error e => .error (.invalidRange (.ofCidr e))
  | .ok excluded => .ok {
      handshakeTimeout := s.timeouts.handshake * 1000000
      confirmTimeout := s.timeouts.confirm * 1000000
      disconnectTimeout := s.timeouts.disconnect * 1000000
      cooldown := s.timeouts.serverCooldown
      ipv6Enabled := s.ipv6Enabled
      excluded := excluded
      dnsServer := s.dnsServer
      switchOnUnstable := s.health.switchOnUnstable
      health := s.healthTuning }

/-- How servers are measured. -/
def sweepTuning (s : SessionSettings) : SweepTuning where
  maxParallel := max s.sweep.maxParallel 1
  probeTimeout := s.sweep.timeout * 1000
  maxRetries := s.sweep.retries
  refreshInterval := s.sweep.refresh * 60000000

end SessionSettings

/-- How often a session does its regular work, in microseconds. -/
structure TickPeriods where
  probe : Nat := 1000000
  checkup : Nat := 1000000
  status : Nat := 5000000
  sweep : Nat := 250000
  deriving DecidableEq, Repr

/-- The periods that the settings ask for. -/
def SessionSettings.tickPeriods (s : SessionSettings) : TickPeriods where
  probe := max s.health.probeInterval 1 * 1000
  checkup := max s.health.checkupInterval 1 * 1000

/-- The session that the settings describe, over a catalog. -/
def Session.ofSettings (s : SessionSettings) (catalog : Catalog) :
    Except SettingsError Session := do
  let tuning ← s.controlTuning
  let device ← s.deviceOf
  .ok {
    controller := .initial tuning device {}
    catalog := catalog
    sweep := { tuning := s.sweepTuning }
    sweepEnabled := s.sweep.enabled
    lastSelection := s.lastSelection
    userCountry := s.userCountry.map Text.lower }

end TunnelSession
