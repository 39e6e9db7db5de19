import TicketCheckout.Text.DecimalDigit
import TicketCheckout.Text.Hex

/-!
# IP addresses

Which texts are IP addresses, read as strictly as the runtime's address library reads them.

* An IPv4 address is four decimal octets separated by points: each one to three ASCII digits,
  without a leading zero unless it is `0`, and at most 255.
* An IPv6 address (RFC 4291) is hextets of one to four hexadecimal digits separated by colons,
  eight of them, or fewer with one `::` standing for at least one zero hextet; the last two
  hextets may be written as an IPv4 address. A zone follows a `%` and is nonempty without a
  second `%`. A slash is never part of either address.
-/

namespace TicketCheckout.Gateway

/-- The parts of a text between the occurrences of a separator; there is one more than there
are separators. -/
def splitAt (sep : Char) : List Char → List (List Char)
  | [] => [[]]
  | c :: rest =>
    match c == sep, splitAt sep rest with
    | true, parts => [] :: parts
    | false, p :: ps => (c :: p) :: ps
    | false, [] => [[c]]

/-- Whether a text is a decimal octet of an IPv4 address. -/
def isOctet (cs : List Char) : Bool :=
  !cs.isEmpty && cs.length ≤ 3 && cs.all Char.isDigit &&
    (cs == ['0'] || cs.head? != some '0') && Text.asciiDigitsValue cs ≤ 255

/-- Whether a text is an IPv4 address; see the module comment. -/
def isIpv4 (cs : List Char) : Bool :=
  !cs.contains '/' &&
    (let parts := splitAt '.' cs
     parts.length == 4 && parts.all isOctet)

/-- Whether a text is a hextet of an IPv6 address. -/
def isHextet (cs : List Char) : Bool :=
  !cs.isEmpty && cs.length ≤ 4 && cs.all fun c => (Text.hexValue? c).isSome

/-- The parts of an IPv6 address with a final IPv4 part written as two hextets, or nothing when
that part is not an IPv4 address. -/
def expandIpv4Tail (parts : List (List Char)) : Option (List (List Char)) :=
  match parts.getLast? with
  | some last =>
    if last.contains '.' then
      if isIpv4 last then some (parts.dropLast ++ [['0'], ['0']]) else none
    else some parts
  | none => some parts

/-- The places of the empty parts of an IPv6 address, its first and last part apart. -/
def innerGaps (parts : List (List Char)) : List Nat :=
  ((List.range parts.length).zip parts).filterMap fun (i, p) =>
    if 0 < i && i + 1 < parts.length && p.isEmpty then some i else none

/-- Whether the parts of an IPv6 address (without a zone) form one; see the module comment. -/
def ipv6PartsValid (parts : List (List Char)) : Bool :=
  parts.length ≤ 9 &&
    match innerGaps parts with
    | [] => parts.length == 8 && parts.all isHextet
    | [i] =>
      let front := parts.take i
      let back := parts.drop (i + 1)
      let frontEmpty := front.head? == some []
      let backEmpty := back.getLast? == some []
      let frontOk := if frontEmpty then i == 1 else front.all isHextet
      let backOk := if backEmpty then back.length == 1 else back.all isHextet
      let written := (if frontEmpty then 0 else i) + (if backEmpty then 0 else back.length)
      frontOk && backOk && written < 8
    | _ => false

/-- Whether a text is an IPv6 address, maybe with a zone; see the module comment. -/
def isIpv6 (cs : List Char) : Bool :=
  let addr := cs.takeWhile (· != '%')
  let zoneOk := match cs.drop addr.length with
    | [] => true
    | _ :: zone => !zone.isEmpty && !zone.contains '%'
  !cs.contains '/' && zoneOk && !addr.isEmpty &&
    (let parts := splitAt ':' addr
     parts.length ≥ 3 && (expandIpv4Tail parts).any ipv6PartsValid)

example : isIpv4 "1.2.3.999".toList = false := by decide +kernel
example : isIpv4 "01.2.3.4".toList = false := by decide +kernel
example : isIpv6 "1:2:3:4:5:6:7::8".toList = false := by decide +kernel
example : isIpv6 "::ffff:1.2.3.4".toList = true := by decide +kernel

end TicketCheckout.Gateway
