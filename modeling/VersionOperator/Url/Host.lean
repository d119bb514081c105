import VersionOperator.Url.Domain.Basic
import VersionOperator.Url.Ipv4
import VersionOperator.Url.Ipv6
import VersionOperator.Url.Percent

namespace VersionOperator.Url

inductive Host where
  | named (name : List Char)
  | ipv4 (address : Ipv4)
  | ipv6 (address : Ipv6)
deriving DecidableEq

namespace Host

def written : Host → List Char
  | named name => name
  | ipv4 address => address.written
  | ipv6 address => '[' :: address.written ++ [']']

def bracketed? (cs : List Char) : Option Host :=
  if cs.getLast? = some ']' then (Ipv6.read? cs.dropLast).map ipv6 else none

/-- The host of a URL whose scheme asks for one: a domain name, with escapes undone, or an
address. -/
def ofDomain? : List Char → Option Host
  | '[' :: rest => bracketed? rest
  | cs =>
    match Domain.ofBytes? (unescape cs) with
    | none => none
    | some [] => none
    | some name => if Ipv4.isMeant name then (Ipv4.read? name).map ipv4 else some (named name)

def isForbidden (c : Char) : Bool :=
  c.toNat = 0 || ['\t', '\n', '\r', ' ', '#', '/', ':', '<', '>', '?', '@', '[', '\\', ']', '^',
    '|'].contains c

def ofPlain? : List Char → Option Host
  | '[' :: rest => bracketed? rest
  | cs => if cs.any isForbidden then none else some (named (escape (fun _ => false) cs))

end Host

end VersionOperator.Url
