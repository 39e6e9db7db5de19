import TicketCheckout.Gateway.IpAddress
import TicketCheckout.Text.Idna
import TicketCheckout.Text.LowerCase

/-!
# Host names

Which hosts the HTTP client accepts in an address:

* the empty host;
* a host that looks like an IPv4 address (`looksLikeIpv4`: four runs of ASCII digits with one
  character of any kind between each two), when it is one;
* a host in brackets, when it holds an IPv6 address;
* any other ASCII host, whose unsafe characters are escaped later;
* a host with other characters, when it has an ASCII form as a domain name once lowered
  (`Text.Idna.toAscii?`).
-/

namespace TicketCheckout.Gateway

/-- One character of the IPv4 shape: the states are the separators still to come and whether
the current run of digits has begun. -/
def ipv4ShapeStep (states : List (Nat × Bool)) (c : Char) : List (Nat × Bool) :=
  (states.flatMap fun (k, begun) =>
    (if c.isDigit then [(k, true)] else []) ++ (if begun && k > 0 then [(k - 1, false)] else [])
  ).eraseDups

/-- Whether a text has the shape of an IPv4 address; see the module comment. -/
def looksLikeIpv4 (cs : List Char) : Bool :=
  (cs.foldl ipv4ShapeStep [(3, false)]).contains (0, true)

/-- Whether the HTTP client accepts a host; see the module comment. -/
def hostAcceptable (host : List Char) : Bool :=
  if host.isEmpty then true
  else if looksLikeIpv4 host then isIpv4 host
  else if host.length ≥ 2 && host.head? == some '[' && host.getLast? == some ']' then
    isIpv6 ((host.drop 1).dropLast)
  else if host.all (·.toNat < 128) then true
  else (Text.Idna.toAscii? (Text.lowerCodePoints (host.map Char.toNat))).isSome

example : looksLikeIpv4 "123456".toList = false := by decide +kernel
example : hostAcceptable "1.2.3.999".toList = false := by decide +kernel
example : hostAcceptable "gw.test".toList = true := by decide +kernel
example : hostAcceptable [Char.ofNat 0xC4, Char.ofNat 0xD6, '.', 't'] = true := by decide +kernel

end TicketCheckout.Gateway
