import Mathlib.Data.Nat.Notation

/-!
# Rust's textual IP addresses

`std::net::IpAddr` and its `FromStr`: dotted decimal IPv4 without leading zeros, and IPv6 with at
most one `::` and an optional IPv4 tail. The readers take characters from the front and return
what follows, as the parser of the standard library does.
-/

namespace RustNet

/-- `std::net::IpAddr`; a v6 address has eight segments. -/
inductive IpAddr where
  | v4 (a b c d : UInt8)
  | v6 (segments : List UInt16)
  deriving DecidableEq, Repr

/-- The value of a digit in a radix up to 16. -/
def digitValue (radix : ℕ) (c : Char) : Option ℕ :=
  let value :=
    if '0' ≤ c ∧ c ≤ '9' then some (c.toNat - '0'.toNat)
    else if 'a' ≤ c ∧ c ≤ 'f' then some (c.toNat - 'a'.toNat + 10)
    else if 'A' ≤ c ∧ c ≤ 'F' then some (c.toNat - 'A'.toNat + 10)
    else none
  value.filter (· < radix)

/-- The digits at the front, most significant first, and the rest. -/
def readDigits (radix : ℕ) : List Char → List ℕ × List Char
  | [] => ([], [])
  | c :: cs =>
    match digitValue radix c with
    | some d => let (ds, rest) := readDigits radix cs; (d :: ds, rest)
    | none => ([], c :: cs)

/-- `read_number`: one to `maxDigits` digits with a value up to `bound`, with leading zeros only
where they are allowed. -/
def readNumber (radix maxDigits bound : ℕ) (zeroPrefix : Bool) (cs : List Char) :
    Option (ℕ × List Char) :=
  let (digits, rest) := readDigits radix cs
  let value := digits.foldl (fun n d => n * radix + d) 0
  if digits.isEmpty || maxDigits < digits.length || bound < value then none
  else if !zeroPrefix && digits.head? == some 0 && 1 < digits.length then none
  else some (value, rest)

/-- `read_given_char`. -/
def readGivenChar (c : Char) : List Char → Option (List Char)
  | [] => none
  | d :: cs => if c = d then some cs else none

/-- `read_separator`: the separator is only expected from the second item on. -/
def readSeparator {α : Type} (sep : Char) (index : ℕ)
    (read : List Char → Option (α × List Char)) (cs : List Char) : Option (α × List Char) :=
  if index = 0 then read cs else (readGivenChar sep cs).bind read

/-- `read_ipv4_addr`: its four octets. -/
def readIpv4Octets : ℕ → ℕ → List Char → Option (List UInt8 × List Char)
  | 0, _, cs => some ([], cs)
  | n + 1, index, cs => do
    let (octet, rest) ← readSeparator '.' index (readNumber 10 3 255 false) cs
    let (octets, rest) ← readIpv4Octets n (index + 1) rest
    return (UInt8.ofNat octet :: octets, rest)

/-- `read_groups`: up to `n` segments, and whether they ended with an embedded IPv4 address. -/
def readGroups : ℕ → ℕ → List Char → List UInt16 × Bool × List Char
  | 0, _, cs => ([], false, cs)
  | n + 1, index, cs =>
    -- an embedded IPv4 address takes two segments, so it needs two free ones
    match if 0 < n then readSeparator ':' index (readIpv4Octets 4 0) cs else none with
    | some (octets, rest) =>
      let seg (i : ℕ) :=
        UInt16.ofNat ((octets.getD i 0).toNat * 256 + (octets.getD (i + 1) 0).toNat)
      ([seg 0, seg 2], true, rest)
    | none =>
      match readSeparator ':' index (readNumber 16 4 65535 true) cs with
      | none => ([], false, cs)
      | some (group, rest) =>
        let (groups, ipv4, rest) := readGroups n (index + 1) rest
        (UInt16.ofNat group :: groups, ipv4, rest)

/-- `read_ipv6_addr`: eight segments, or fewer around one `::`. -/
def readIpv6 (cs : List Char) : Option (List UInt16 × List Char) := do
  let (head, ipv4, rest) := readGroups 8 0 cs
  if head.length = 8 then some (head, rest)
  else if ipv4 then none
  else
    let rest ← readGivenChar ':' rest
    let rest ← readGivenChar ':' rest
    let (tail, _, rest) := readGroups (7 - head.length) 0 rest
    some (head ++ List.replicate (8 - head.length - tail.length) 0 ++ tail, rest)

/-- `IpAddr::from_str`: the whole text is an IPv4 or else an IPv6 address. -/
def IpAddr.parse (s : String) : Except String IpAddr :=
  match readIpv4Octets 4 0 s.toList with
  | some ([a, b, c, d], []) => .ok (.v4 a b c d)
  | _ =>
    match readIpv6 s.toList with
    | some (segments, []) => .ok (.v6 segments)
    | _ => .error "invalid IP address syntax"

end RustNet
