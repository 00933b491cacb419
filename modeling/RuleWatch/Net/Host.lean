import RuleWatch.Net.Address
import RuleWatch.Net.Domain
import RuleWatch.Net.Percent

/-!
Hosts of URLs: names, and addresses in any of the forms that are read as such.
-/

namespace RuleWatch.Net

open Text

/-- Why a text is no URL. -/
inductive UrlError
  | relativeWithoutBase
  | baseWithoutPath
  | emptyHost
  | invalidPort
  | invalidIpv4
  | invalidIpv6
  | invalidDomainCharacter
  | invalidDomainName
  deriving DecidableEq, Repr

def UrlError.message : UrlError → String
  | relativeWithoutBase => "relative URL without a base"
  | baseWithoutPath => "relative URL with a cannot-be-a-base base"
  | emptyHost => "empty host"
  | invalidPort => "invalid port number"
  | invalidIpv4 => "invalid IPv4 address"
  | invalidIpv6 => "invalid IPv6 address"
  | invalidDomainCharacter => "invalid domain character"
  | invalidDomainName => "invalid international domain name"

inductive Host
  | name (text : String)
  | ipv4 (address : Ipv4)
  | ipv6 (address : Ipv6)
  deriving DecidableEq, Repr

namespace Host

def text : Host → String
  | name s => s
  | ipv4 a => a.text
  | ipv6 a => "[" ++ a.hexText ++ "]"

def isEmpty : Host → Bool
  | name s => s.isEmpty
  | _ => false

/-- Reads the digits of a number of four bytes in a base. Numbers that are too
large are there, but without a value. -/
def numberIn (base : Nat) (s : List Char) : Option (Option Nat) :=
  match s.mapM (digitIn? base) with
  | none => none
  | some ds =>
      let n := ds.foldl (fun v d => v * base + d) 0
      some (if n < UInt32.size then some n else none)

/-- Reads a part of an address: decimal, octal behind `0`, or hexadecimal behind
`0x`. -/
def partNumber : List Char → Option (Option Nat)
  | [] => none
  | '0' :: 'x' :: s | '0' :: 'X' :: s => numberIn 16 s
  | '0' :: c :: s => numberIn 8 (c :: s)
  | s => numberIn 10 s

def dottedParts (s : List Char) : List (List Char) :=
  match s with
  | [] => [[]]
  | c :: cs =>
      if c = '.' then [] :: dottedParts cs
      else match dottedParts cs with
        | [] => [[c]]
        | p :: ps => (c :: p) :: ps

def addressParts (s : List Char) : List (List Char) :=
  match (dottedParts s).reverse with
  | [] :: p :: ps => (p :: ps).reverse
  | ps => ps.reverse

/-- Whether a name has to be read as an address because its last part is a
number. -/
def endsInNumber (s : List Char) : Bool :=
  match (addressParts s).getLast? with
  | none => false
  | some p => (!p.isEmpty && p.all Char.isDigit) || (partNumber p).isSome

/-- The address of parts: the last one fills all the bytes that are left. -/
def ipv4OfParts (parts : List Nat) : Option Ipv4 :=
  match parts.reverse with
  | [] => none
  | last :: front =>
      let front := front.reverse
      if 4 < parts.length ∨ Nat.pow 256 (4 - front.length) ≤ last ∨
          front.any (255 < ·) then none
      else
        let rest := (List.range (4 - front.length)).reverse.map fun k =>
          last / Nat.pow 256 k % 256
        some ⟨front ++ rest⟩

def readDotted (s : List Char) : Except UrlError Ipv4 :=
  match (addressParts s).mapM (fun p => (partNumber p).join) with
  | none => .error .invalidIpv4
  | some parts =>
      match ipv4OfParts parts with
      | some a => .ok a
      | none => .error .invalidIpv4

/-- Reads an address in brackets. It is written as for a socket, but without a
zone. -/
def readBracketed (s : List Char) : Except UrlError Ipv6 :=
  match readIpv6 s with
  | some (a, []) => .ok a
  | _ => .error .invalidIpv6

def brackets? : List Char → Option (Except UrlError Ipv6)
  | '[' :: s =>
      match s.reverse with
      | ']' :: inside => some (readBracketed inside.reverse)
      | _ => some (.error .invalidIpv6)
  | _ => none

def read (s : List Char) : Except UrlError Host :=
  match brackets? s with
  | some r => r.map ipv6
  | none =>
      match decode? (Percent.decode (encode (.ofList s))) >>=
        Domain.toAscii? with
      | none => .error .invalidDomainName
      | some text =>
          if text.isEmpty then .error .emptyHost
          else if endsInNumber text.toList then
            (readDotted text.toList).map ipv4
          else .ok (name text)

def mayStandInName (c : Char) : Bool :=
  c ≠ '\x00' && !" #/:<>?@[\\]^|\t\n\x0d".toList.contains c

def readOpaque (s : List Char) : Except UrlError Host :=
  match brackets? s with
  | some r => r.map ipv6
  | none =>
      if s.all mayStandInName then
        .ok (.name (.ofList (Percent.encode Percent.isControl s)))
      else .error .invalidDomainCharacter

end Host

end RuleWatch.Net
