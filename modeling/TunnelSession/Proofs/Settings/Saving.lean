/-
  TunnelSession.Proofs.Settings.Saving

  What a file of settings says is what its reader was given to write. The settings are
  taken as a record of fields, some of which may have no value and are left out, and
  five of which are records themselves. Their whole numbers come from a file or are
  defaults, so each has a form in a file again, and each field is read back as it was.
-/
import TunnelSession.Proofs.Toml.Records
import TunnelSession.Settings.Session

namespace TunnelSession

open Toml (Fields IsFlat Fits Gives Sized BareKey present gives_none gives_some gives_bind
  gives_fields gives_number gives_orDefault fields?_of_perm nat?_ofNat simple_text simple_bool
  simple_number)

/-! ## Numbers within their bounds -/

/-- Each number is within the bound beside it, and has a form in a file. -/
def Bounded (numbers : List (Nat × Nat)) : Prop :=
  ∀ p ∈ numbers, Fits p.1 p.2

/-! ## Records of texts -/

namespace DeviceSettings

def fields (s : DeviceSettings) : Fields := [
  ("private_key", some (.text s.privateKey)),
  ("ipv4_address", some (.text s.addressV4)),
  ("ipv6_address", some (.text s.addressV6))]

theorem isFlat_fields (s : DeviceSettings) : IsFlat s.fields where
  distinct := by simp [fields]
  bare := by
    show ∀ name ∈ ["private_key", "ipv4_address", "ipv6_address"], BareKey name
    decide
  simple := by
    simp only [fields, List.forall_mem_cons]
    exact ⟨simple_text _, simple_text _, simple_text _, List.forall_mem_nil _⟩

theorem ofToml?_fields (s : DeviceSettings) :
    ofToml? (.table .header (present s.fields)) = some s := by
  have hfields := fields?_of_perm s.isFlat_fields.distinct (.refl _) .header
  simp only [fields, List.map_cons, List.map_nil] at hfields
  simp only [ofToml?, fields, hfields, Option.bind_eq_bind, Option.bind_some, Toml.orDefault,
    Toml.text?]

end DeviceSettings

namespace Selection

def fields (l : Selection) : Fields := [
  ("country_code", some (.text l.countryCode)),
  ("city_name", some (.text l.cityName))]

theorem isFlat_fields (l : Selection) : IsFlat l.fields where
  distinct := by simp [fields]
  bare := by
    show ∀ name ∈ ["country_code", "city_name"], BareKey name
    decide
  simple := by
    simp only [fields, List.forall_mem_cons]
    exact ⟨simple_text _, simple_text _, List.forall_mem_nil _⟩

theorem ofToml?_fields (l : Selection) :
    ofToml? (.table .header (present l.fields)) = some l := by
  have hfields := fields?_of_perm l.isFlat_fields.distinct (.refl _) .header
  simp only [fields, List.map_cons, List.map_nil] at hfields
  simp only [ofToml?, fields, hfields, Option.bind_eq_bind, Option.bind_some, Toml.text?]

end Selection

/-! ## Records of numbers -/

namespace TimeoutSettings

/-- The numbers, each after the greatest that its field can hold. -/
def numbers (s : TimeoutSettings) : List (Nat × Nat) :=
  [(most64, s.handshake), (most64, s.confirm), (most64, s.disconnect), (most64, s.serverCooldown)]

def fields (s : TimeoutSettings) : Fields := [
  ("handshake_secs", some (.integer s.handshake)),
  ("confirm_secs", some (.integer s.confirm)),
  ("disconnect_secs", some (.integer s.disconnect)),
  ("server_cooldown_secs", some (.integer s.serverCooldown))]

theorem gives_ofToml {t : Toml} (ht : Sized t) :
    Gives (fun s => Bounded (numbers s)) (ofToml? t) := by
  refine (gives_fields ht _).bind fun fields hfields => ?_
  split
  · simp only [List.forall_mem_cons] at hfields
    obtain ⟨hhandshake, hconfirm, hdisconnect, hcooldown, -⟩ := hfields
    refine (gives_number (by decide) hhandshake).bind fun handshake hhandshake => ?_
    refine (gives_number (by decide) hconfirm).bind fun confirm hconfirm => ?_
    refine (gives_number (by decide) hdisconnect).bind fun disconnect hdisconnect => ?_
    refine (gives_number (by decide) hcooldown).bind fun cooldown hcooldown => gives_some ?_
    simp only [Bounded, numbers, List.forall_mem_cons]
    exact ⟨hhandshake, hconfirm, hdisconnect, hcooldown, List.forall_mem_nil _⟩
  · exact gives_none

variable {s : TimeoutSettings}

theorem isFlat_fields (h : Bounded s.numbers) : IsFlat s.fields where
  distinct := by simp [fields]
  bare := by
    show ∀ name ∈ ["handshake_secs", "confirm_secs", "disconnect_secs", "server_cooldown_secs"],
      BareKey name
    decide
  simple := by
    simp only [Bounded, numbers, List.forall_mem_cons] at h
    simp only [fields, List.forall_mem_cons]
    obtain ⟨hhandshake, hconfirm, hdisconnect, hcooldown, -⟩ := h
    exact ⟨simple_number hhandshake, simple_number hconfirm, simple_number hdisconnect,
      simple_number hcooldown, List.forall_mem_nil _⟩

theorem ofToml?_fields (h : Bounded s.numbers) :
    ofToml? (.table .header (present s.fields)) = some s := by
  have hfields := fields?_of_perm (isFlat_fields h).distinct (.refl _) .header
  simp only [Bounded, numbers, List.forall_mem_cons] at h
  obtain ⟨hhandshake, hconfirm, hdisconnect, hcooldown, -⟩ := h
  simp only [fields, List.map_cons, List.map_nil] at hfields
  simp only [ofToml?, fields, hfields, Option.bind_eq_bind, Option.bind_some, Toml.orDefault,
    nat?_ofNat hhandshake, nat?_ofNat hconfirm, nat?_ofNat hdisconnect, nat?_ofNat hcooldown]

end TimeoutSettings

namespace HealthSettings

/-- The numbers, each after the greatest that its field can hold. -/
def numbers (s : HealthSettings) : List (Nat × Nat) :=
  [(most64, s.probeInterval), (most64, s.checkupInterval), (most64, s.staleAfter),
    (most64, s.verySlow), (most32, s.ewmaDivisor), (most32, s.lossPercent)]

def fields (s : HealthSettings) : Fields := [
  ("probe_interval_ms", some (.integer s.probeInterval)),
  ("checkup_interval_ms", some (.integer s.checkupInterval)),
  ("stale_after_ms", some (.integer s.staleAfter)),
  ("very_slow_ms", some (.integer s.verySlow)),
  ("ewma_divisor", some (.integer s.ewmaDivisor)),
  ("loss_unstable_percent", some (.integer s.lossPercent)),
  ("switch_on_unstable", some (.bool s.switchOnUnstable))]

theorem gives_ofToml {t : Toml} (ht : Sized t) :
    Gives (fun s => Bounded (numbers s)) (ofToml? t) := by
  refine (gives_fields ht _).bind fun fields hfields => ?_
  split
  · simp only [List.forall_mem_cons] at hfields
    obtain ⟨hprobe, hcheckup, hstale, hslow, hdivisor, hloss, -⟩ := hfields
    refine (gives_number (by decide) hprobe).bind fun probe hprobe => ?_
    refine (gives_number (by decide) hcheckup).bind fun checkup hcheckup => ?_
    refine (gives_number (by decide) hstale).bind fun stale hstale => ?_
    refine (gives_number (by decide) hslow).bind fun slow hslow => ?_
    refine (gives_number (by decide) hdivisor).bind fun divisor hdivisor => ?_
    refine (gives_number (by decide) hloss).bind fun loss hloss => ?_
    refine gives_bind fun switch => gives_some ?_
    simp only [Bounded, numbers, List.forall_mem_cons]
    exact ⟨hprobe, hcheckup, hstale, hslow, hdivisor, hloss, List.forall_mem_nil _⟩
  · exact gives_none

variable {s : HealthSettings}

theorem isFlat_fields (h : Bounded s.numbers) : IsFlat s.fields where
  distinct := by simp [fields]
  bare := by
    show ∀ name ∈ ["probe_interval_ms", "checkup_interval_ms", "stale_after_ms", "very_slow_ms",
      "ewma_divisor", "loss_unstable_percent", "switch_on_unstable"], BareKey name
    decide
  simple := by
    simp only [Bounded, numbers, List.forall_mem_cons] at h
    simp only [fields, List.forall_mem_cons]
    obtain ⟨hprobe, hcheckup, hstale, hslow, hdivisor, hloss, -⟩ := h
    exact ⟨simple_number hprobe, simple_number hcheckup, simple_number hstale, simple_number hslow,
      simple_number hdivisor, simple_number hloss, simple_bool _, List.forall_mem_nil _⟩

theorem ofToml?_fields (h : Bounded s.numbers) :
    ofToml? (.table .header (present s.fields)) = some s := by
  have hfields := fields?_of_perm (isFlat_fields h).distinct (.refl _) .header
  simp only [Bounded, numbers, List.forall_mem_cons] at h
  obtain ⟨hprobe, hcheckup, hstale, hslow, hdivisor, hloss, -⟩ := h
  simp only [fields, List.map_cons, List.map_nil] at hfields
  simp only [ofToml?, fields, hfields, Option.bind_eq_bind, Option.bind_some, Toml.orDefault,
    Toml.bool?, nat?_ofNat hprobe, nat?_ofNat hcheckup, nat?_ofNat hstale, nat?_ofNat hslow,
    nat?_ofNat hdivisor, nat?_ofNat hloss]

end HealthSettings

namespace SweepSettings

/-- The numbers, each after the greatest that its field can hold. -/
def numbers (s : SweepSettings) : List (Nat × Nat) :=
  [(most64, s.maxParallel), (most64, s.timeout), (most32, s.retries), (most64, s.refresh)]

def fields (s : SweepSettings) : Fields := [
  ("enabled", some (.bool s.enabled)),
  ("max_parallel", some (.integer s.maxParallel)),
  ("timeout_ms", some (.integer s.timeout)),
  ("retries", some (.integer s.retries)),
  ("refresh_mins", some (.integer s.refresh))]

theorem gives_ofToml {t : Toml} (ht : Sized t) :
    Gives (fun s => Bounded (numbers s)) (ofToml? t) := by
  refine (gives_fields ht _).bind fun fields hfields => ?_
  split
  · simp only [List.forall_mem_cons] at hfields
    obtain ⟨-, hparallel, htimeout, hretries, hrefresh, -⟩ := hfields
    refine gives_bind fun enabled => ?_
    refine (gives_number (by decide) hparallel).bind fun parallel hparallel => ?_
    refine (gives_number (by decide) htimeout).bind fun timeout htimeout => ?_
    refine (gives_number (by decide) hretries).bind fun retries hretries => ?_
    refine (gives_number (by decide) hrefresh).bind fun refresh hrefresh => gives_some ?_
    simp only [Bounded, numbers, List.forall_mem_cons]
    exact ⟨hparallel, htimeout, hretries, hrefresh, List.forall_mem_nil _⟩
  · exact gives_none

variable {s : SweepSettings}

theorem isFlat_fields (h : Bounded s.numbers) : IsFlat s.fields where
  distinct := by simp [fields]
  bare := by
    show ∀ name ∈ ["enabled", "max_parallel", "timeout_ms", "retries", "refresh_mins"],
      BareKey name
    decide
  simple := by
    simp only [Bounded, numbers, List.forall_mem_cons] at h
    simp only [fields, List.forall_mem_cons]
    obtain ⟨hparallel, htimeout, hretries, hrefresh, -⟩ := h
    exact ⟨simple_bool _, simple_number hparallel, simple_number htimeout, simple_number hretries,
      simple_number hrefresh, List.forall_mem_nil _⟩

theorem ofToml?_fields (h : Bounded s.numbers) :
    ofToml? (.table .header (present s.fields)) = some s := by
  have hfields := fields?_of_perm (isFlat_fields h).distinct (.refl _) .header
  simp only [Bounded, numbers, List.forall_mem_cons] at h
  obtain ⟨hparallel, htimeout, hretries, hrefresh, -⟩ := h
  simp only [fields, List.map_cons, List.map_nil] at hfields
  simp only [ofToml?, fields, hfields, Option.bind_eq_bind, Option.bind_some, Toml.orDefault,
    Toml.bool?, nat?_ofNat hparallel, nat?_ofNat htimeout, nat?_ofNat hretries, nat?_ofNat hrefresh]

end SweepSettings

/-! ## Settings -/

namespace SessionSettings

/-- Every number is within its bound, and has a form in a file. -/
structure Savable (s : SessionSettings) : Prop where
  timeouts : Bounded s.timeouts.numbers
  health : Bounded s.health.numbers
  sweep : Bounded s.sweep.numbers

theorem gives_ofToml {t : Toml} (ht : Sized t) : Gives Savable (ofToml? t) := by
  refine (gives_fields ht _).bind fun fields hfields => ?_
  split
  · simp only [List.forall_mem_cons] at hfields
    obtain ⟨-, -, -, -, -, -, -, -, htimeouts, hhealth, hsweep, -⟩ := hfields
    have hdefault : Bounded ({} : TimeoutSettings).numbers ∧ Bounded ({} : HealthSettings).numbers ∧
        Bounded ({} : SweepSettings).numbers := by
      unfold Bounded
      decide
    -- whatever the fields of text are, only the numbers have bounds
    refine gives_bind fun socketPath => gives_bind fun serversFile => gives_bind fun device => ?_
    refine gives_bind fun ipv6Enabled => gives_bind fun excluded => gives_bind fun dnsServer => ?_
    refine gives_bind fun userCountry => gives_bind fun lastSelection => ?_
    refine (gives_orDefault (p := fun s => Bounded (TimeoutSettings.numbers s)) hdefault.1
      (fun _ => TimeoutSettings.gives_ofToml) htimeouts).bind fun timeouts htimeouts => ?_
    refine (gives_orDefault (p := fun s => Bounded (HealthSettings.numbers s)) hdefault.2.1
      (fun _ => HealthSettings.gives_ofToml) hhealth).bind fun health hhealth => ?_
    refine (gives_orDefault (p := fun s => Bounded (SweepSettings.numbers s)) hdefault.2.2
      (fun _ => SweepSettings.gives_ofToml) hsweep).bind fun sweep hsweep => ?_
    exact gives_some ⟨htimeouts, hhealth, hsweep⟩
  · exact gives_none

/-- Settings that were read can be saved: a number beyond 63 bits is no number in a file. -/
theorem savable_of_read {text : String} {s : SessionSettings} (h : read text = .ok s) :
    s.Savable := by
  rw [read] at h
  split at h
  · next settings hsettings =>
    obtain ⟨t, ht, hsettings⟩ := Option.bind_eq_some_iff.mp hsettings
    obtain rfl := Except.ok.inj h
    exact gives_ofToml (Toml.sized_of_read? ht) _ hsettings
  · cases h

variable {s : SessionSettings}

def fields (s : SessionSettings) : Fields := [
  ("socket_path", some (.text s.socketPath)),
  ("servers_file", s.serversFile.map .text),
  ("device", some (.table .header (present s.device.fields))),
  ("ipv6_enabled", some (.bool s.ipv6Enabled)),
  ("excluded_ranges", some (.list (s.excludedRanges.map .text))),
  ("dns_server", s.dnsServer.map .text),
  ("user_country", s.userCountry.map .text),
  ("last_selection", s.lastSelection.map fun l => .table .header (present l.fields)),
  ("timeouts", some (.table .header (present s.timeouts.fields))),
  ("health", some (.table .header (present s.health.fields))),
  ("sweep", some (.table .header (present s.sweep.fields)))]

/-- What is written are the fields that have a value. -/
theorem entries_eq (s : SessionSettings) : s.entries = present s.fields := by
  -- the four settings that may have no value decide which entries there are
  obtain ⟨socketPath, serversFile, device, ipv6Enabled, excluded, dnsServer, userCountry,
    lastSelection, timeouts, health, sweep⟩ := s
  cases serversFile <;> cases dnsServer <;> cases userCountry <;> cases lastSelection <;> rfl

theorem isRecord_fields (h : s.Savable) : Toml.IsRecord s.fields where
  distinct := by simp [fields]
  bare := by
    show ∀ name ∈ ["socket_path", "servers_file", "device", "ipv6_enabled", "excluded_ranges",
      "dns_server", "user_country", "last_selection", "timeouts", "health", "sweep"], BareKey name
    decide
  canStand := by
    have htext : ∀ t : String, Toml.CanStand (some (.text t)) := fun t => (simple_text t).canStand
    simp only [fields, List.forall_mem_cons]
    exact ⟨htext _, Toml.canStand_map htext _, s.device.isFlat_fields.canStand,
      (simple_bool _).canStand, Toml.canStand_texts _, Toml.canStand_map htext _,
      Toml.canStand_map htext _, Toml.canStand_map (fun l => l.isFlat_fields.canStand) _,
      (TimeoutSettings.isFlat_fields h.timeouts).canStand,
      (HealthSettings.isFlat_fields h.health).canStand,
      (SweepSettings.isFlat_fields h.sweep).canStand, List.forall_mem_nil _⟩

/-- A field of text that may be missing is what it was written from. -/
theorem orNone_text (o : Option String) : Toml.orNone Toml.text? (o.map .text) = some o := by
  cases o <;> rfl

theorem mapM_text (texts : List String) : (texts.map Toml.text).mapM Toml.text? = some texts := by
  induction texts with
  | nil => rfl
  | cons t texts ih =>
      rw [List.map_cons, List.mapM_cons, ih]
      rfl

/-- A record that has the fields of settings is read as these settings. -/
theorem ofToml?_of_fields (h : s.Savable) {t : Toml}
    (hfields : t.fields? (s.fields.map (·.1)) = some (s.fields.map (·.2))) :
    ofToml? t = some s := by
  have hselection : Toml.orNone Selection.ofToml?
      (s.lastSelection.map fun l => .table .header (present l.fields)) = some s.lastSelection := by
    cases s.lastSelection with
    | none => rfl
    | some l => rw [Option.map_some, Toml.orNone, l.ofToml?_fields]; rfl
  simp only [fields, List.map_cons, List.map_nil] at hfields
  simp only [ofToml?, hfields, Option.bind_eq_bind, Option.bind_some, Toml.orDefault, Toml.text?,
    Toml.bool?, Toml.list?, orNone_text, mapM_text, hselection, DeviceSettings.ofToml?_fields,
    TimeoutSettings.ofToml?_fields h.timeouts, HealthSettings.ofToml?_fields h.health,
    SweepSettings.ofToml?_fields h.sweep]

/-- Settings whose numbers have a form are read back from their file. -/
theorem read_write (h : s.Savable) : read s.write = .ok s := by
  obtain ⟨text, t, hwrite, hread, hfields⟩ := (isRecord_fields h).read_written
  have hsettings : (Toml.read? text).bind ofToml? = some s := by
    rw [hread, Option.bind_some, ofToml?_of_fields h hfields]
  rw [write, entries_eq, hwrite, Option.getD_some, read, hsettings]

/-- **Saving loses no setting.** Whatever file the settings were read from, and whichever
    city is then remembered in them or none, the file that they are saved to is read as
    just these settings. -/
theorem saved_settings_are_read_back (text : String) (h : read text = .ok s)
    (selection : Option Selection) :
    read (write { s with lastSelection := selection }) =
      .ok { s with lastSelection := selection } := by
  have hs : s.Savable := savable_of_read h
  exact read_write ⟨hs.timeouts, hs.health, hs.sweep⟩

/-- A file that leaves most settings out, with quotes inside quotes, an escape and the
    greatest number of 32 bits. -/
def terseFile : String :=
  "user_country = '''it''s'''\n[device]\nprivate_key = \"\"\"\n\"k\"\n\\u00df\"\"\"\n" ++
  "[sweep]\nretries = 0xFFFF_FFFF\n"

def terseSettings : SessionSettings where
  userCountry := some "it''s"
  device := { privateKey := "\"k\"\nß" }
  sweep := { retries := 0xFFFFFFFF }

theorem saved_settings_are_read_back_terse :
    read terseFile = .ok terseSettings ∧
      read (write { terseSettings with lastSelection := some ⟨"SE", "Göteborg"⟩ }) =
        .ok { terseSettings with lastSelection := some ⟨"SE", "Göteborg"⟩ } := by
  have hok : read terseFile = .ok terseSettings := by decide +kernel
  exact ⟨hok, saved_settings_are_read_back terseFile hok (some ⟨"SE", "Göteborg"⟩)⟩

end SessionSettings

end TunnelSession
