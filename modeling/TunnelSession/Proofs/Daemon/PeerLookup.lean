/-
  TunnelSession.Proofs.Daemon.PeerLookup

  How the peer of a tunnel is found again in the dump of the interface. The dump is
  searched for the text of the server's key, where a config says with any text that is
  read as the key what server is meant. A key has one text, so the two agree on every
  config that gives the key without blanks around it. With blanks the config is just as
  valid, and its peer is never found.
-/
import TunnelSession.Daemon.Backend
import TunnelSession.Proofs.Key.Canonical
import TunnelSession.Proofs.Tunnel.Validity

namespace TunnelSession.Daemon

open Key (PublicKey)

/-! ## Lines of a dump -/

/-- The line of a peer: it has seven fields or more, and begins with the key. -/
def IsAbout (key line : String) : Prop :=
  7 ≤ (Text.splitAt '\t' line).length ∧ (Text.splitAt '\t' line).head? = some key

instance (key line : String) : Decidable (IsAbout key line) :=
  inferInstanceAs (Decidable (_ ∧ _))

/-- What the line of a peer tells. -/
def PeerStatus.onLine (line : String) : PeerStatus :=
  let field := fun i => (Text.splitAt '\t' line).getD i ""
  ⟨field 0, counterOf (field 4), counterOf (field 5), counterOf (field 6)⟩

variable {key line dump : String}

theorem ofLine?_of_isAbout (h : IsAbout key line) :
    PeerStatus.ofLine? key line = some (PeerStatus.onLine line) := by
  obtain ⟨hlength, hkey⟩ := h
  unfold PeerStatus.ofLine? PeerStatus.onLine
  generalize Text.splitAt '\t' line = fields at hlength hkey
  split
  · next first _ _ _ _ _ _ _ =>
    obtain rfl : first = key := Option.some.inj hkey
    rw [if_pos rfl]
    rfl
  · next hshort =>
    -- a list that is not of this shape has six members at most
    rcases fields with _ | ⟨a, _ | ⟨b, _ | ⟨c, _ | ⟨d, _ | ⟨e, _ | ⟨f, _ | ⟨g, rest⟩⟩⟩⟩⟩⟩⟩
    case cons.cons.cons.cons.cons.cons.cons => exact absurd rfl (hshort a b c d e f g rest)
    all_goals simp at hlength

theorem ofLine?_of_not_isAbout (h : ¬ IsAbout key line) : PeerStatus.ofLine? key line = none := by
  unfold PeerStatus.ofLine?
  unfold IsAbout at h
  generalize Text.splitAt '\t' line = fields at h
  split
  · next first _ _ _ _ _ _ _ =>
    apply if_neg
    rintro rfl
    exact h ⟨by simp, rfl⟩
  · rfl

/-! ## The search -/

/-- The first line of the peer is the one that counts. -/
theorem ofDump?_of_first {lead rest : List String}
    (hdump : (Text.lines dump).tail = lead ++ line :: rest) (hline : IsAbout key line)
    (hlead : ∀ l ∈ lead, ¬ IsAbout key l) :
    PeerStatus.ofDump? dump key = some (PeerStatus.onLine line) := by
  unfold PeerStatus.ofDump?
  rw [List.findSome?_eq_some_iff]
  refine ⟨lead, line, rest, hdump, ofLine?_of_isAbout hline, ?_⟩
  intro l hl
  exact ofLine?_of_not_isAbout (hlead l hl)

theorem ofDump?_of_none (h : ∀ line ∈ (Text.lines dump).tail, ¬ IsAbout key line) :
    PeerStatus.ofDump? dump key = none := by
  unfold PeerStatus.ofDump?
  rw [List.findSome?_eq_none_iff]
  intro line hline
  exact ofLine?_of_not_isAbout (h line hline)

/-- Every peer of the dump stands under the text of its key, as keys are written. -/
def KeysAreWritten (dump : String) : Prop :=
  ∀ line ∈ (Text.lines dump).tail, ∀ text, IsAbout text line → ∃ k : PublicKey, text = k.base64

/-- What is not the text of a key is in no such dump. -/
theorem ofDump?_of_not_written (hdump : KeysAreWritten dump)
    (hkey : ∀ k : PublicKey, key ≠ k.base64) : PeerStatus.ofDump? dump key = none := by
  apply ofDump?_of_none
  intro line hline habout
  obtain ⟨k, hk⟩ := hdump line hline key habout
  exact hkey k hk

/-! ## The peer of a config -/

/-- With blanks around it, the text of one key is that of no other. -/
theorem ne_base64_of_padded {text : String} {k : PublicKey}
    (hread : Text.trimmed text = k.base64) (hpadded : text ≠ k.base64) (k' : PublicKey) :
    text ≠ k'.base64 := by
  intro htext
  apply hpadded
  have htrimmed : Text.trimmed k'.base64 = k'.base64 := Key.trimmed_written k'.key.bytes
  calc
    text = k'.base64 := htext
    _ = Text.trimmed text := by rw [htext, htrimmed]
    _ = k.base64 := hread

/-- **A peer is found by its text.** A config that validates names a key, whose text it
    gives with or without blanks around it. Without, the first line of that peer in a dump
    is found, whatever else the dump holds. With blanks, no line is found in any dump
    whose peers stand under the texts of their keys, be the peer there or not. -/
theorem peer_is_found_by_its_text {c : TunnelConfig} (h : c.validate = .ok ()) :
    ∃ k : PublicKey, PublicKey.read c.serverKey = .ok k ∧
      (∃ before after, Text.AllBlank before ∧ Text.AllBlank after ∧
        c.serverKey.toList = before ++ (k.base64.toList ++ after)) ∧
      (c.serverKey = k.base64 → ∀ dump,
        (∀ lead line rest, (Text.lines dump).tail = lead ++ line :: rest →
          IsAbout k.base64 line → (∀ l ∈ lead, ¬ IsAbout k.base64 l) →
            PeerStatus.ofDump? dump c.serverKey = some (PeerStatus.onLine line)) ∧
        ((∀ line ∈ (Text.lines dump).tail, ¬ IsAbout k.base64 line) →
          PeerStatus.ofDump? dump c.serverKey = none)) ∧
      (c.serverKey ≠ k.base64 → ∀ dump, KeysAreWritten dump →
        PeerStatus.ofDump? dump c.serverKey = none) := by
  obtain ⟨-, bytes, hbytes⟩ := (TunnelConfig.validate_eq_ok.mp h).serverKey
  have htrimmed : Text.trimmed c.serverKey = bytes.base64 := Key.KeyBytes.read_eq_ok_iff.mp hbytes
  have hread : PublicKey.read c.serverKey = .ok ⟨bytes⟩ := by
    rw [PublicKey.read, hbytes]
    rfl
  refine ⟨⟨bytes⟩, hread, ?_, ?_, ?_⟩
  · have htext : Text.trim c.serverKey.toList = bytes.base64.toList := by
      rw [← htrimmed, Text.trimmed, String.toList_ofList]
    obtain ⟨before, after, hbefore, hafter, hsplit⟩ :=
      Text.exists_blanks_around c.serverKey.toList
    exact ⟨before, after, hbefore, hafter, by rw [hsplit, htext]; rfl⟩
  · intro hplain dump
    rw [hplain]
    exact ⟨fun lead line rest hdump hline hlead => ofDump?_of_first hdump hline hlead,
      ofDump?_of_none⟩
  · intro hpadded dump hdump
    exact ofDump?_of_not_written hdump (ne_base64_of_padded htrimmed hpadded)

/-- A tunnel to one server, which is said as the given text says it. -/
def tunnelTo (serverKey : String) : TunnelConfig where
  privateKey := "dwdtCnMYpX08FsFyUbJmRd9ML4frwJkqsXf7pR25LCo="
  deviceV4 := "10.64.12.7/32"
  serverKey := serverKey
  endpointV4 := "185.65.135.5"
  port := 51820
  ranges := [.host (.v4 0x0A400001)]

/-- The interface and its peer, which shook hands and sent something. -/
def onePeer : String :=
  "off\ngXQJloeiZiH04s3XzAOz2s7bP7liJVsar9Azyr6DFTA=\t(none)\t(none)\t(none)\t1700000000\t10\t20\n"

theorem peer_is_found_by_its_text_in_dump :
    let c := tunnelTo "gXQJloeiZiH04s3XzAOz2s7bP7liJVsar9Azyr6DFTA="
    c.validate = .ok () ∧
      PeerStatus.ofDump? onePeer c.serverKey = some ⟨c.serverKey, 1700000000, 10, 20⟩ := by
  intro c
  have hvalid : c.validate = .ok () := by decide +kernel
  have htext : (PublicKey.read c.serverKey).map PublicKey.base64 = .ok c.serverKey := by
    decide +kernel
  obtain ⟨k, hread, -, hfound, -⟩ := peer_is_found_by_its_text hvalid
  rw [hread] at htext
  have hplain : c.serverKey = k.base64 := (Except.ok.inj htext).symm
  obtain ⟨line, hlines, hline, htells⟩ : ∃ line, (Text.lines onePeer).tail = [] ++ line :: [] ∧
      IsAbout c.serverKey line ∧
      PeerStatus.onLine line = ⟨c.serverKey, 1700000000, 10, 20⟩ :=
    ⟨(Text.lines onePeer).getLastD "", by decide +kernel⟩
  rw [hplain] at hline
  have hpeer := (hfound hplain onePeer).1 [] line [] hlines hline nofun
  rw [htells] at hpeer
  exact ⟨hvalid, hpeer⟩

/-- A blank after the text of the key, and the peer is not found. -/
theorem padded_key_is_not_found :
    let c := tunnelTo "gXQJloeiZiH04s3XzAOz2s7bP7liJVsar9Azyr6DFTA= "
    let text := "gXQJloeiZiH04s3XzAOz2s7bP7liJVsar9Azyr6DFTA="
    c.validate = .ok () ∧ (PublicKey.read c.serverKey).map PublicKey.base64 = .ok text ∧
      (∃ line ∈ (Text.lines onePeer).tail, IsAbout text line) ∧
      PeerStatus.ofDump? onePeer c.serverKey = none := by
  decide +kernel

end TunnelSession.Daemon
