/-!
Internet addresses with a port, as they are written for a server to listen on.
-/

namespace RuleWatch.Net

structure Ipv4 where
  octets : List Nat
  deriving DecidableEq, Repr

/-- Eight words of sixteen bits. -/
structure Ipv6 where
  segments : List Nat
  deriving DecidableEq, Repr

inductive SocketAddress
  | v4 (address : Ipv4) (port : Nat)
  | v6 (address : Ipv6) (scope port : Nat)
  deriving DecidableEq, Repr

abbrev Reader (α : Type) := List Char → Option (α × List Char)

def digitIn? (base : Nat) (c : Char) : Option Nat :=
  let value? :=
    if c.isDigit then some (c.toNat - '0'.toNat)
    else if 'a' ≤ c ∧ c ≤ 'f' then some (c.toNat - 'a'.toNat + 10)
    else if 'A' ≤ c ∧ c ≤ 'F' then some (c.toNat - 'A'.toNat + 10)
    else none
  value?.filter (· < base)

/-- Reads as many digits as there are. They have to spell a number up to the
limit. -/
def readNumber (base limit : Nat) : Reader Nat := fun s =>
  let ds := s.takeWhile fun c => (digitIn? base c).isSome
  let value := (ds.filterMap (digitIn? base)).foldl (fun v d => v * base + d) 0
  if ds.isEmpty || limit < value then none
  else some (value, s.dropWhile fun c =>
    (digitIn? base c).isSome)

def digitCount (base : Nat) (s : List Char) : Nat :=
  (s.takeWhile fun c => (digitIn? base c).isSome).length

def readChar (c : Char) (s : List Char) : Option (List Char) :=
  match s with
  | d :: rest => if d = c then some rest else none
  | [] => none

/-- Reads a number up to 255 without leading zeros. -/
def readOctet : Reader Nat := fun s =>
  if 1 < digitCount 10 s ∧ s.head? = some '0' then none else readNumber 10 255 s

def readIpv4 : Reader Ipv4 := fun s => do
  let (a, s) ← readOctet s
  let (b, s) ← readOctet (← readChar '.' s)
  let (c, s) ← readOctet (← readChar '.' s)
  let (d, s) ← readOctet (← readChar '.' s)
  return (⟨[a, b, c, d]⟩, s)

def readSegment : Reader Nat := fun s =>
  if 4 < digitCount 16 s then none else readNumber 16 0xFFFF s

def Ipv4.toSegments (a : Ipv4) : List Nat :=
  match a.octets with
  | [a, b, c, d] => [a * 256 + b, c * 256 + d]
  | _ => []

/-- Reads what stands behind a colon, or at the start. -/
def separated {α : Type} (isFirst : Bool) (read : Reader α) :
    Reader α := fun s =>
  if isFirst then read s else readChar ':' s >>= read

/-- Segments read one after another, and whether the last two were written as
four octets. -/
structure Segments where
  values : List Nat
  dotted : Bool
  deriving DecidableEq, Repr

/-- Reads segments between colons, at most as many as there is room for. Four
octets end them. -/
def readSegments (isFirst : Bool) : Nat → List Char → Segments × List Char
  | 0, s => (⟨[], false⟩, s)
  | room + 1, s =>
      match if 0 < room then separated isFirst readIpv4 s else none with
      | some (a, rest) => (⟨a.toSegments, true⟩, rest)
      | none =>
          match separated isFirst readSegment s with
          | none => (⟨[], false⟩, s)
          | some (value, rest) =>
              let (others, rest) := readSegments false room rest
              (⟨value :: others.values, others.dotted⟩, rest)

/-- Reads eight segments; two colons stand for as many zeros as are missing, at
least one. -/
def readIpv6 : Reader Ipv6 := fun s =>
  let (front, rest) := readSegments true 8 s
  if front.values.length = 8 then some (⟨front.values⟩, rest)
  else if front.dotted then none
  else do
    let rest ← readChar ':' (← readChar ':' rest)
    let (back, rest) := readSegments true (7 - front.values.length) rest
    let zeros := 8 - front.values.length - back.values.length
    return (⟨front.values ++ List.replicate zeros 0 ++ back.values⟩, rest)

def readPort : Reader Nat := fun s => readChar ':' s >>= readNumber 10 0xFFFF

def readScope (s : List Char) : Option (Nat × List Char) :=
  match s with
  | '%' :: rest => readNumber 10 0xFFFFFFFF rest
  | _ => some (0, s)

def readSocketV4 : Reader SocketAddress := fun s => do
  let (a, s) ← readIpv4 s
  let (port, s) ← readPort s
  return (.v4 a port, s)

def readSocketV6 : Reader SocketAddress := fun s => do
  let (a, s) ← readIpv6 (← readChar '[' s)
  let (scope, s) ← readScope s
  let (port, s) ← readPort (← readChar ']' s)
  return (.v6 a scope port, s)

def dots (octets : List Nat) : String := ".".intercalate (octets.map toString)

def Ipv4.text (a : Ipv4) : String := dots a.octets

def hex (n : Nat) : String := .ofList (Nat.toDigits 16 n)

/-- The start and the length of the first longest run of zeros. -/
def longestZeros (segments : List Nat) : Nat × Nat :=
  go 0 (0, 0) segments
where
  go (i : Nat) (best : Nat × Nat) : List Nat → Nat × Nat
    | [] => best
    | x :: xs =>
        let run := ((x :: xs).takeWhile (· = 0)).length
        go (i + 1) (if best.2 < run then (i, run) else best) xs

def colons (segments : List Nat) : String := ":".intercalate (segments.map hex)

/-- Segments in hexadecimal, the first longest run of two or more zeros as two
colons. -/
def Ipv6.hexText (a : Ipv6) : String :=
  let (start, length) := longestZeros a.segments
  if length ≤ 1 then colons a.segments
  else colons (a.segments.take start) ++ "::" ++
    colons (a.segments.drop (start + length))

/-- Addresses that stand for addresses of four bytes show these. -/
def Ipv6.text (a : Ipv6) : String :=
  match a.segments with
  | [0, 0, 0, 0, 0, 0xFFFF, x, y] =>
      "::ffff:" ++ dots [x / 256, x % 256, y / 256, y % 256]
  | _ => a.hexText

namespace SocketAddress

def ofText? (s : String) : Option SocketAddress :=
  match readSocketV4 s.toList <|> readSocketV6 s.toList with
  | some (a, []) => some a
  | _ => none

def text : SocketAddress → String
  | v4 a port => a.text ++ ":" ++ toString port
  | v6 a scope port =>
      "[" ++ a.text ++ (if scope = 0 then "" else "%" ++ toString scope) ++
        "]:" ++ toString port

end SocketAddress

end RuleWatch.Net
