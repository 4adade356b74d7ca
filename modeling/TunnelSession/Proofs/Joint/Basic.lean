/-
  TunnelSession.Proofs.Joint.Basic

  One connection and one keeper, joined by a link that loses nothing and keeps
  the order of what is sent either way. The user of the connection is known to
  the keeper, and is its only client. In between, timers fire early or late, the
  keeper looks for handshakes, and the machinery does as it likes.
-/
import TunnelSession.Proofs.Control.Orders
import TunnelSession.Proofs.Daemon.Conduct

namespace TunnelSession

open Controller (Input)
open Daemon (Access Backend Keeper Log)

/-- A connection and a keeper with a link between them. The requests on the link
    are those that the connection has sent and the keeper has not taken yet. -/
structure Joint (β : Type) where
  controller : Controller
  keeper : Keeper β
  /-- How many of the requests the keeper has taken. -/
  taken : Nat := 0
  /-- The replies on the link, the oldest first. Each bears the number of requests
      that had been taken when it was said. -/
  replies : List (Nat × Reply) := []
  /-- How often a wait for the end of a tunnel ended with its timer. -/
  lapsed : Nat := 0
  /-- How often the end of a tunnel was told while it was not waited for. -/
  strays : Nat := 0

namespace Joint

variable {β : Type} (b : Backend β) (user : UInt32) (j : Joint β)

/-- Neither has done anything, but that the connection knows of the link. -/
def start (tuning : ControlTuning) (device : Device) (registry : Registry)
    (around : Surroundings) (machine : β) (access : Access) (log : Log) : Joint β where
  controller := (Controller.initial tuning device registry).onLink around .ready
  keeper := { machine, access, log }

/-- The requests on the link, the oldest first. -/
def requests : List Request := j.controller.sent.drop j.taken

/-- What is said in the replies on the link. -/
def said : List Reply := j.replies.map (·.2)

/-! ## What can happen -/

/-- Something that can happen to the two. -/
inductive Event
  /-- An input of the user, a probe, or a timer that was armed. -/
  | own (around : Surroundings) (i : Input)
  /-- Servers were measured. -/
  | measured (registry : Registry)
  /-- The next reply comes to the connection. -/
  | hear (around : Surroundings)
  /-- The next request comes to the keeper. -/
  | serve (clock : Nat)
  /-- The keeper looks for the handshake that it waits for. -/
  | poll (clock : Nat)

/-- Whether an input can come from elsewhere than the link: any but those of the
    link itself, and timers that were never armed. -/
def comes : Input → Bool
  | .link _ => false
  | .timer token => token ∈ j.controller.armed
  | _ => true

/-- The connection handles an input that does not come from the link. -/
def own (around : Surroundings) (i : Input) : Joint β :=
  if j.comes i then
    let c := j.controller.handle around i
    let ended := i.endsWait ∧ j.controller.awaited = .disconnection ∧ c.awaited ≠ .disconnection
    { j with controller := c, lapsed := if ended then j.lapsed + 1 else j.lapsed }
  else j

/-- The connection handles the next reply. -/
def hear (around : Surroundings) : Joint β :=
  match j.replies with
  | [] => j
  | (_, r) :: rest =>
    let stray := r = .disconnected ∧ j.controller.awaited ≠ .disconnection
    { j with
      controller := j.controller.handle around (.link (.message r))
      replies := rest
      strays := if stray then j.strays + 1 else j.strays }

/-- What the keeper says goes onto the link: the answer, then what it tells all. -/
def say (answer : List Reply) (k : Keeper β) : Joint β :=
  { j with
    keeper := { k with notices := [] }
    replies := j.replies ++ (answer ++ k.notices).map (fun r => (j.taken, r)) }

/-- The keeper handles the next request. -/
def serve (clock : Nat) : Joint β :=
  match j.controller.sent[j.taken]? with
  | none => j
  | some r =>
    let done := j.keeper.request b clock (some user) r
    { j with taken := j.taken + 1 }.say done.1.toList done.2

/-- The keeper looks for the handshake, if it waits for one. -/
def poll (clock : Nat) : Joint β :=
  if j.keeper.awaitsHandshake then j.say [] (j.keeper.checkHandshake b clock) else j

/-- What becomes of the two when something happens. -/
def act (j : Joint β) : Event → Joint β
  | .own around i => j.own around i
  | .measured registry => { j with controller := { j.controller with registry := registry } }
  | .hear around => j.hear around
  | .serve clock => j.serve b user clock
  | .poll clock => j.poll b clock

/-- What becomes of the two when things happen in turn. -/
def run (events : List Event) : Joint β :=
  events.foldl (act b user) j

variable {b user j}

/-- What each event keeps, a run keeps. -/
theorem run_keeps {P : Joint β → Prop} (h : ∀ j e, P j → P (j.act b user e)) (hj : P j)
    (events : List Event) : P (j.run b user events) := by
  induction events generalizing j with
  | nil => exact hj
  | cons e events ih => exact ih (h j e hj)

theorem isLink_of_comes {i : Input} (h : j.comes i = true) : i.isLink = false := by
  cases i with
  | link event => cases h
  | _ => rfl

/-! ## The messages on the link -/

theorem said_say (j : Joint β) (answer : List Reply) (k : Keeper β) :
    (j.say answer k).said = j.said ++ (answer ++ k.notices) := by
  simp [said, say, Function.comp_def]

theorem requests_cons {r : Request} (h : j.controller.sent[j.taken]? = some r) :
    j.requests = r :: j.controller.sent.drop (j.taken + 1) :=
  (List.getElem?_eq_some_iff.mp h).elim fun hlt heq => heq ▸ List.drop_eq_getElem_cons hlt

/-- With the next request, one more is taken. -/
theorem take_succ_sent {r : Request} (h : j.controller.sent[j.taken]? = some r) :
    j.controller.sent.take (j.taken + 1) = j.controller.sent.take j.taken ++ [r] := by
  rw [List.take_add_one, h]
  rfl

/-- New requests are none of those that were taken. -/
theorem take_sent {c c' : Controller} {n : Nat} (hle : n ≤ c.sent.length)
    (hp : c.sent <+: c'.sent) : c'.sent.take n = c.sent.take n := by
  obtain ⟨new, hnew⟩ := hp
  rw [← hnew, List.take_append_of_le_length hle]

/-! ## A tunnel without machinery -/

/-- A server whose key is all zeros. -/
def plainServer : Server where
  hostname := "srv1"
  publicKey := "AAAAAAAAAAAAAAAAAAAAAAAAAAAAAAAAAAAAAAAAAAA="
  endpointV4 := "185.65.135.1"
  gatewayV4 := "10.64.0.1"

/-- A city with this server only. -/
def plainDestination : Destination := ⟨"de", "Berlin", [plainServer], none⟩

def plainDevice : Device where
  privateKey := ⟨⟨List.replicate 32 0, rfl⟩⟩
  addressV4 := "10.64.12.7/32"

/-- From the first status to the first handshake: a tunnel is asked for, and the
    keeper sees that it has shaken hands, and tells so. -/
def firstHandshake : List Event :=
  [.serve 1, .hear {}, .own {} (.activate plainDestination), .serve 1, .poll 7]

/-- From there to a tunnel that is up: a status confirms it. -/
def firstTunnel : List Event :=
  firstHandshake ++ [.hear {}, .serve 8, .hear {}]

/-- From there to the end of the tunnel, as far as the keeper is concerned. -/
def firstTunnelEnded : List Event :=
  firstTunnel ++ [.own {} .deactivate, .serve 9]

end Joint

end TunnelSession
