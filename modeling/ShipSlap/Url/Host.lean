import ShipSlap.Idna.Domain
import ShipSlap.Text.Utf8
import ShipSlap.Url.Address
import ShipSlap.Url.Percent
/-!
The host of a web address. Between brackets it is an IPv6 address. Otherwise it is
percent-decoded (bytes that are not UTF-8 become U+FFFD), brought to its ASCII form, and read
as an IPv4 address if it ends in a number, or kept as a domain name.
-/
namespace ShipSlap.Url

/-- Why a web address cannot be read. -/
inductive UrlError where
  | emptyHost
  | invalidIpv4
  | invalidIpv6
  | invalidDomain
  | invalidPort
  deriving Repr, DecidableEq

/-- The wording of an address error. -/
def UrlError.message : UrlError → String
  | .emptyHost => "empty host"
  | .invalidIpv4 => "invalid IPv4 address"
  | .invalidIpv6 => "invalid IPv6 address"
  | .invalidDomain => "invalid international domain name"
  | .invalidPort => "invalid port number"

/-- The host of a web address. -/
inductive Host where
  | domain (name : String)
  | ipv4 (address : Ipv4)
  | ipv6 (address : Ipv6)
  deriving Repr, DecidableEq

/-- The text of a host as the address shows it. -/
def Host.text : Host → String
  | .domain name => name
  | .ipv4 a => a.text
  | .ipv6 a => "[" ++ a.text ++ "]"

/-- Reads a host of a web address whose scheme has hosts of its own (such as `https`). -/
def Host.parse (text : String) : Except UrlError Host :=
  match text.toList with
  | '[' :: inner =>
    if inner.getLast? ≠ some ']' then .error .invalidIpv6
    else match Ipv6.parse? inner.dropLast with
      | some a => .ok (.ipv6 a)
      | none => .error .invalidIpv6
  | _ =>
    let decoded := Text.decodeUtf8Lossy (percentDecode (Bytes.ofString text))
    match Idna.toAscii? decoded with
    | none => .error .invalidDomain
    | some "" => .error .emptyHost
    | some ascii =>
      if endsInNumber ascii.toList then
        match Ipv4.parse? ascii.toList with
        | some a => .ok (.ipv4 a)
        | none => .error .invalidIpv4
      else .ok (.domain ascii)

end ShipSlap.Url
