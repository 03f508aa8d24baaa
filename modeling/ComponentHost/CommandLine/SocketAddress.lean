/-
# Socket addresses

A server listens at an address of numbers: no names are looked up.

| Form | Groups |
|------|--------|
| `a.b.c.d:port` | four decimal numbers up to 255, without zeros in front |
| `[g:g:…]:port` | eight hexadecimal numbers of at most four digits; `::` once for a run of zeros; the last two may be written `a.b.c.d`; `%scope` may follow |

Readers take what they read off the front and hand the rest on.
-/

import ComponentHost.Bytes

namespace ComponentHost
namespace CommandLine

/-- Reads a decimal number of at most three digits below 256, without zeros in front. -/
def readOctet (cs : List Char) : Option (Nat × List Char) :=
  let digits := cs.takeWhile Char.isDigit
  let n := digits.foldl (fun n c => 10 * n + (c.toNat - '0'.toNat)) 0
  if digits = [] ∨ 3 < digits.length ∨ 255 < n ∨ (digits.head? = some '0' ∧ 1 < digits.length)
  then none
  else some (n, cs.dropWhile Char.isDigit)

/-- Takes a character off the front. -/
def readMark (mark : Char) : List Char → Option (List Char)
  | c :: rest => if c = mark then some rest else none
  | [] => none

/-- Reads four octets with dots between them. -/
def readDotted (cs : List Char) : Option (List Char) := do
  let (_, cs) ← readOctet cs
  let (_, cs) ← readOctet (← readMark '.' cs)
  let (_, cs) ← readOctet (← readMark '.' cs)
  let (_, cs) ← readOctet (← readMark '.' cs)
  return cs

/-- Reads a hexadecimal number of one to four digits. -/
def readGroup (cs : List Char) : Option (List Char) :=
  let digits := cs.takeWhile fun c => (Bytes.hexValue? c).isSome
  if digits = [] ∨ 4 < digits.length then none else some (cs.drop digits.length)

/-- Reads up to `room` groups with colons between them, `first` telling that none
came before.  Gives the number of groups, whether dotted octets were the last two
of them, and the rest. -/
def readGroups : Nat → Bool → List Char → Nat × Bool × List Char
  | 0, _, cs => (0, false, cs)
  | room + 1, first, cs =>
    let start := if first then some cs else readMark ':' cs
    match (if room = 0 then none else start.bind readDotted) with
    | some rest => (2, true, rest)
    | none =>
      match start.bind readGroup with
      | some rest =>
        let (count, dotted, rest) := readGroups room false rest
        (count + 1, dotted, rest)
      | none => (0, false, cs)

/-- Reads the groups of an address in brackets.  The run of zeros stands for at
least one group, and dotted octets do not stand before it. -/
def readLongAddress (cs : List Char) : Option (List Char) :=
  let (count, dotted, rest) := readGroups 8 true cs
  if count = 8 then some rest
  else if dotted then none
  else do
    let rest ← readMark ':' rest
    let rest ← readMark ':' rest
    return (readGroups (7 - count) true rest).2.2

/-- Reads the scope after an address in brackets, if there is one. -/
def readScope : List Char → Option (List Char)
  | '%' :: rest =>
    let digits := rest.takeWhile Char.isDigit
    let n := digits.foldl (fun n c => 10 * n + (c.toNat - '0'.toNat)) 0
    if digits = [] ∨ 0x100000000 ≤ n then none else some (rest.dropWhile Char.isDigit)
  | rest => some rest

/-- Reads a colon and a port, which have to be the last. -/
def readPortSuffix (cs : List Char) : Option Unit := do
  let digits ← readMark ':' cs
  let n := digits.foldl (fun n c => 10 * n + (c.toNat - '0'.toNat)) 0
  if digits.isEmpty ∨ ¬ digits.all Char.isDigit ∨ 65535 < n then none
  else return ()

/-- Whether a text is a socket address. -/
def isSocketAddress (text : String) : Bool :=
  let cs := text.toList
  let short := do readPortSuffix (← readDotted cs)
  let long := do
    let rest ← readMark '[' cs
    let rest ← readLongAddress rest
    let rest ← readScope rest
    readPortSuffix (← readMark ']' rest)
  short.isSome || long.isSome

example : isSocketAddress "127.0.0.1:0" && isSocketAddress "[::1]:80" &&
    isSocketAddress "[1:2::3:4.5.6.7]:80" := by decide +kernel
example : !isSocketAddress "::1:0" && !isSocketAddress "127.00.0.1:0" &&
    !isSocketAddress "[::1:0" := by decide +kernel

end CommandLine
end ComponentHost
