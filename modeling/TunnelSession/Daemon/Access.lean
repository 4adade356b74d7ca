/-
  TunnelSession.Daemon.Access

  Who may ask the daemon for what. All users are served, but one of them owns
  the tunnel while it is up. The superuser is always allowed.
-/
import TunnelSession.Daemon.Log

namespace TunnelSession.Daemon

/-- The number of the superuser. -/
def superuser : UInt32 := 0

/-- The owner of the tunnel, if it has one. -/
structure Access where
  owner : Option UInt32 := none
  deriving DecidableEq, Repr

namespace Access

/-- Decides whether a user may make a request of a kind; `active` tells whether a
    tunnel is up. A user who brings one up becomes its owner, and one who is not
    known may do nothing. -/
def authorize (a : Access) (user : Option UInt32) (kind : String) (active : Bool) :
    Bool × Access :=
  match user with
  | none => (false, a)
  | some uid =>
    if active then (uid == superuser || a.owner == some uid, a)
    else if kind == "activate" then (true, ⟨some uid⟩)
    else (kind == "status" || kind == "logs" || uid == superuser, a)

/-- A record about a decision. -/
def record (level : LogLevel) (message : String) : LogRecord :=
  ⟨level, "hop_daemon::access", message⟩

/-- What is logged about the decision. -/
def records (a : Access) (user : Option UInt32) (kind : String) (active : Bool) :
    List LogRecord :=
  match user with
  | none => [record .warn "Unable to determine the caller, assuming unauthorized"]
  | some uid =>
    if active then
      if uid == superuser || a.owner == some uid then []
      else [record .warn s!"Command {kind} issued by unexpected user {uid}"]
    else if kind == "activate" then [record .debug s!"New session started by user {uid}"]
    else if kind == "status" || kind == "logs" || uid == superuser then []
    else [record .debug s!"User {uid} is not authorized for {kind}, no ongoing session"]

/-- Forgets the owner. -/
def reset (_ : Access) : Access := {}

end Access

end TunnelSession.Daemon
