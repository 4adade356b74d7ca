/-
  TunnelSession.Proofs.Joint.Hub

  One keeper and all its clients, a connection of each user. Every client has a link
  of its own, which keeps the order of what is sent either way; what the keeper tells
  all goes onto every link. A link may be lost with what is on it, and be made again.
  In between, the keeper does as others ask who are not among the clients, looks for
  handshakes, and the machinery does as it likes.
-/
import TunnelSession.Proofs.Control.Orders
import TunnelSession.Proofs.Daemon.Turns

namespace TunnelSession

open Controller (Input)
open Daemon (Backend Keeper Log)
open Daemon.Keeper (Turn)

/-! ## A client -/

/-- A connection, with its end of the link to the keeper. -/
structure Client where
  controller : Controller
  /-- Whether there is a link. -/
  linked : Bool := false
  /-- The requests on the link, the oldest first. -/
  requests : List Request := []
  /-- The replies on the link, the oldest first. -/
  replies : List Reply := []
  /-- What the link has reported and the connection has not handled yet, the oldest
      first. -/
  reports : List LinkEvent := []

namespace Client

variable (p : Client)

/-- Nothing is under way between the connection and the keeper. -/
def Quiet : Prop := p.requests = [] ∧ p.replies = [] ∧ p.reports = []

instance : Decidable p.Quiet :=
  inferInstanceAs (Decidable (p.requests = [] ∧ p.replies = [] ∧ p.reports = []))

/-- Something that can happen to a client without the keeper. -/
inductive Event
  /-- An input of the user, a timer or a probe. -/
  | own (around : Surroundings) (i : Input)
  /-- Servers were measured. -/
  | measured (registry : Registry)
  /-- A link is made. -/
  | join
  /-- The link is lost, or cannot be made. -/
  | part
  /-- The next reply comes off the link. -/
  | receive
  /-- The connection handles the next report. -/
  | hear (around : Surroundings)

/-- The world around the connection: without a link no request goes out. -/
def reach (around : Surroundings) : Surroundings :=
  if p.linked then around else { around with accepts := fun _ => .error .notConnected }

/-- The connection handles an input, and what it sends goes onto the link. -/
def handle (around : Surroundings) (i : Input) : Client :=
  let c := p.controller.handle (p.reach around) i
  { p with
    controller := c
    requests := p.requests ++ c.sent.drop p.controller.sent.length }

/-- What becomes of a client when something happens. -/
def act : Event → Client
  | .own around i => if i.isLink then p else p.handle around i
  | .measured registry => { p with controller := { p.controller with registry := registry } }
  | .join =>
    if p.linked then p else { p with linked := true, reports := p.reports ++ [.ready] }
  | .part =>
    { p with linked := false, requests := [], replies := [], reports := p.reports ++ [.lost] }
  | .receive =>
    match p.replies with
    | [] => p
    | r :: rest => { p with replies := rest, reports := p.reports ++ [.message r] }
  | .hear around =>
    match p.reports with
    | [] => p
    | e :: rest => { p with reports := rest }.handle around (.link e)

/-- Replies go onto the link, if there is one. -/
def tell (said : List Reply) : Client :=
  if p.linked then { p with replies := p.replies ++ said } else p

end Client

/-! ## All of them -/

/-- A keeper and its clients. -/
structure Hub (β : Type) where
  keeper : Keeper β
  /-- The client of each user. One that never makes a link is none. -/
  clients : UInt32 → Client

namespace Hub

variable {β : Type} (b : Backend β) (h : Hub β)

/-- No tunnel is up, and nobody has done anything. -/
def start (tuning : UInt32 → ControlTuning) (device : UInt32 → Device)
    (registry : UInt32 → Registry) (machine : β) (log : Log) : Hub β where
  keeper := .initial machine log
  clients user := { controller := .initial (tuning user) (device user) (registry user) }

/-- Something that can happen. -/
inductive Event
  | client (user : UInt32) (e : Client.Event)
  /-- The next request of a client comes to the keeper. -/
  | serve (user : UInt32) (clock : Nat)
  /-- The keeper looks for a handshake, or handles a command that comes from elsewhere,
      such as one of the superuser or one that was on a link when it was lost. -/
  | turn (t : Turn)

/-- Puts another client in the place of a user's. -/
def update (user : UInt32) (p : Client) : Hub β :=
  { h with clients := Function.update h.clients user p }

/-- What the keeper says goes onto the links: to each client its answers, and then what
    is told to all. -/
def say (answers : UInt32 → List Reply) (k : Keeper β) : Hub β where
  keeper := { k with notices := [] }
  clients user := (h.clients user).tell (answers user ++ k.notices)

/-- The keeper handles the next request of a client. -/
def serve (user : UInt32) (clock : Nat) : Hub β :=
  match (h.clients user).requests with
  | [] => h
  | r :: rest =>
    let done := h.keeper.request b clock (some user) r
    (h.update user { h.clients user with requests := rest }).say
      (fun u => if u = user then done.1.toList else []) done.2

/-- What becomes of them when something happens. -/
def act (h : Hub β) : Event → Hub β
  | .client user e => h.update user ((h.clients user).act e)
  | .serve user clock => h.serve b user clock
  | .turn t => h.say (fun _ => []) (h.keeper.turn b t)

/-- What becomes of them when things happen in turn. -/
def run (events : List Event) : Hub β :=
  events.foldl (act b) h

variable {b h}

/-- What each event keeps, a run keeps. -/
theorem run_keeps {P : Hub β → Prop} (hstep : ∀ h e, P h → P (h.act b e)) (hh : P h)
    (events : List Event) : P (h.run b events) := by
  induction events generalizing h with
  | nil => exact hh
  | cons e events ih => exact ih (hstep h e hh)

theorem clients_update_self (user : UInt32) (p : Client) : (h.update user p).clients user = p := by
  simp only [update, Function.update_self]

theorem clients_update_of_ne {user other : UInt32} (hne : other ≠ user) (p : Client) :
    (h.update user p).clients other = h.clients other := by
  simp only [update, Function.update_of_ne hne]

end Hub

end TunnelSession
