/-
  ObjectStream.Url.Host

  Hosts of URLs. In a special scheme a host is an address or a domain name; in
  any other scheme it is an IPv6 address in brackets or some opaque text.
-/
import ObjectStream.Url.DomainName
import ObjectStream.Url.Ipv6
import ObjectStream.Url.Percent

namespace ObjectStream.Url

/-- Who serves a URL. -/
inductive Host where
  /-- A domain name in its ASCII form, or the opaque host of a scheme that is not special. -/
  | domain (name : String)
  | ipv4 (addr : Ipv4)
  | ipv6 (addr : Ipv6)
deriving DecidableEq, Repr

namespace Host

/-- The host as text, without brackets. -/
def text : Host → String
  | domain name => name
  | ipv4 addr => addr.text
  | ipv6 addr => addr.text

/-- Reads a host that starts with a bracket. -/
def ofBracketed (text : List Char) : Except Error Host :=
  if text.getLast? = some ']' then
    match Ipv6.ofText? (text.drop 1).dropLast with
    | some addr => .ok (.ipv6 addr)
    | none => .error .invalidIpv6
  else .error .invalidIpv6

/-- Reads the host of a special scheme. -/
def ofSpecial (text : List Char) : Except Error Host :=
  if text.head? = some '[' then ofBracketed text
  else
    match (Utf8.decode? (Percent.decode (Utf8.encode (String.ofList text)))).bind fun name =>
      DomainName.toAscii? name.toList with
    | none => .error .invalidDomain
    | some [] => .error .emptyHost
    | some name =>
      if Ipv4.endsInNumber name then
        match Ipv4.ofHost? name with
        | some addr => .ok (.ipv4 addr)
        | none => .error .invalidIpv4
      else .ok (.domain (String.ofList name))

/-- The characters that no opaque host holds. -/
def isForbidden (c : Char) : Bool :=
  "\x00\t\n\r #/:<>?@[\\]^|".toList.contains c

/-- Reads the host of a scheme that is not special. -/
def ofOpaque (text : List Char) : Except Error Host :=
  if text.head? = some '[' then ofBracketed text
  else if text.any isForbidden then .error .invalidHostCharacter
  else .ok (.domain (String.ofList (Percent.encode Percent.isControl text)))

end Host

end ObjectStream.Url
