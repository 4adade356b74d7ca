/-
  TunnelSession.Probe.Packet

  A probe is the smallest DNS query, for the name servers of the root, with the
  probe's sequence number as its id. Servers and gateways answer it to anyone.
-/
import TunnelSession.Net.Address

namespace TunnelSession

/-- What a probe is for. -/
inductive ProbePurpose
  /-- The health of the tunnel that is up. -/
  | health
  /-- The latency of the servers of the catalog. -/
  | sweep
  deriving DecidableEq, Repr

/-- The answer to a probe. Times are in microseconds. -/
structure ProbeReply where
  purpose : ProbePurpose
  sequence : UInt16
  source : Net.Address
  receivedAt : Nat
  deriving DecidableEq

/-- The query with the given id: recursion desired, one question, for the
    name servers of the root in the Internet class. -/
def probePacket (sequence : UInt16) : List UInt8 :=
  [(sequence >>> 8).toUInt8, sequence.toUInt8, 0x01, 0x00, 0x00, 0x01, 0x00, 0x00, 0x00, 0x00,
    0x00, 0x00, 0x00, 0x00, 0x02, 0x00, 0x01]

/-- The id of a DNS response; anything that is too short to be one, or is a
    query, has none. -/
def responseId? : List UInt8 → Option UInt16
  | a :: b :: flags :: rest =>
    if flags &&& 0x80 = 0 ∨ rest.length < 9 then none
    else some (a.toUInt16 <<< 8 ||| b.toUInt16)
  | _ => none

end TunnelSession
