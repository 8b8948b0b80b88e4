import ResilientChannel.Url.Domain
import ResilientChannel.Url.Ipv4
import ResilientChannel.Url.Ipv6

/-!
Hosts of URLs.

A URL with a special scheme has a domain name or an address for its host (`Host.parse`); with any
other scheme the host is an address in brackets or taken as it is (`Host.parseOpen`).
-/

namespace ResilientChannel.Url

/-- A host. -/
inductive Host
  | empty
  | domain (name : String)
  | ipv4 (address : Ipv4)
  | ipv6 (address : Ipv6)
deriving DecidableEq, Repr

namespace Host

/-- The written form of a host. -/
def text : Host → String
  | empty => ""
  | domain name => name
  | ipv4 address => address.text
  | ipv6 address => "[" ++ address.text ++ "]"

/-- Reads an address in brackets, the opening one left out. -/
def bracketed (cs : List Char) : Except Fault Host :=
  match cs.getLast? with
  | some ']' => (Ipv6.parse cs.dropLast).map ipv6
  | _ => .error .invalidIpv6

/-- Reads the host of a URL with a special scheme. -/
def parse : List Char → Except Fault Host
  | '[' :: rest => bracketed rest
  | cs =>
    match (Percent.decode? cs).bind Domain.toAscii? with
    | none => .error .invalidDomainName
    | some [] => .error .emptyHost
    | some name =>
      if Ipv4.endsInNumber name then (Ipv4.parse name).map ipv4
      else .ok (domain (String.ofList name))

/-- The characters that no host may hold. -/
def isForbidden (c : Char) : Bool :=
  c ∈ ['\x00', '\t', '\n', '\x0d', ' ', '#', '/', ':', '<', '>', '?', '@', '[', '\\', ']', '^', '|']

/-- Reads the host of a URL with any other scheme. -/
def parseOpen : List Char → Except Fault Host
  | [] => .ok empty
  | '[' :: rest => bracketed rest
  | cs =>
    if cs.any isForbidden then .error .invalidDomainCharacter
    else .ok (domain (String.ofList (Percent.encode Percent.inControls cs)))

end Host

end ResilientChannel.Url
