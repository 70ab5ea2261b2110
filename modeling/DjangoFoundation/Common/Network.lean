/-
`get_client_ip` (`common/utils/network.py`).

A request's address is that of its peer, or the first of `X-Forwarded-For` where the peer is a
proxy that is trusted.  What is returned is the address as `ipaddress` writes it, whatever way
it was spelled.
-/
import DjangoFoundation.Lib.IpAddress
import DjangoFoundation.Common.Text

namespace DjangoFoundation

/-- What `request.META` has of the peer. -/
structure Meta where
  remoteAddr : Option String := none
  forwardedFor : Option String := none
  deriving DecidableEq, Repr

structure NetworkSettings where
  trustProxyHeaders : Bool := false
  trustedProxyIps : List String := []

/-- This Python: its tables, and how it writes IPv4-mapped addresses. -/
structure Python where
  unicode : Unicode
  mixedIpv6 : Bool

variable (python : Python) (settings : NetworkSettings)

/-- The proxy's header is believed. -/
def Meta.trusted (request : Meta) : Bool :=
  settings.trustProxyHeaders && request.remoteAddr.any (· ∈ settings.trustedProxyIps)

/-- `forwarded.split(",")[0].strip()`. -/
def firstForwarded (forwarded : String) : String :=
  python.unicode.stripped (String.ofList ((forwarded.toList.splitOn ',').headD []))

def Meta.candidate (request : Meta) : Option String :=
  if request.trusted settings then
    let forwarded := request.forwardedFor.getD ""
    if forwarded = "" then request.remoteAddr else some (firstForwarded python forwarded)
  else request.remoteAddr

/-- The address a request comes from. -/
def Meta.client (request : Meta) : Option Ip.Address :=
  (request.candidate python settings).bind fun candidate => Ip.ipAddress candidate.toList

def addressText (address : Ip.Address) : String := String.ofList (address.text python.mixedIpv6)

/-- `get_client_ip(request)`. -/
def getClientIp (request : Meta) : Option String :=
  match request.candidate python settings with
  | none => none
  | some candidate =>
      if candidate = "" then none
      else (Ip.ipAddress candidate.toList).map (addressText python)

end DjangoFoundation
