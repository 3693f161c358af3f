import PaymentConnector.Url.Ipv4

/-!
Addresses of eight 16-bit groups. Two colons stand for one or more groups of zeros,
and the last two groups may be written as an address of four bytes. An address is
written with its first longest run of two or more zeros left out.
-/

namespace PaymentConnector.Url.Ipv6

open Text

def group? (s : List Char) : Option Nat :=
  if s = [] ∨ 4 < s.length then none else (Ipv4.digitsIn? 16 s).map (Ipv4.valueIn 16)

/-- The groups of parts that colons separate; only the very last may be of four bytes. -/
def groupsOf? : List (List Char) → Option (List Nat)
  | [] => some []
  | [part] =>
    match group? part with
    | some n => some [n]
    | none => (Ipv4.readStrict? part).map fun n => [n / 65536, n % 65536]
  | part :: rest => do
    let n ← group? part
    let ns ← groupsOf? rest
    return n :: ns

def groups? (s : List Char) : Option (List Nat) :=
  if s = [] then some [] else groupsOf? (fields (· = ':') s)

/-- Groups before two colons, where no bytes may stand. -/
def plainGroups? (s : List Char) : Option (List Nat) :=
  if s = [] then some [] else (fields (· = ':') s).mapM group?

/-- The text before and after the first two colons in a row. -/
def cutAtDouble : List Char → Option (List Char × List Char)
  | ':' :: ':' :: rest => some ([], rest)
  | c :: rest => (cutAtDouble rest).map fun (before, after) => (c :: before, after)
  | [] => none

def read? (s : List Char) : Option (List Nat) :=
  match cutAtDouble s with
  | none => (groups? s).bind fun ns => if ns.length = 8 then some ns else none
  | some (before, after) => do
    let high ← plainGroups? before
    let low ← groups? after
    let given := high.length + low.length
    if given ≤ 7 then some (high ++ List.replicate (8 - given) 0 ++ low) else none

/-- Where the first longest run of zeros starts and how long it is; a lone zero is no run. -/
def zeroRun (groups : List Nat) : Option (Nat × Nat) :=
  let runs := (List.range groups.length).map fun i =>
    (i, ((groups.drop i).takeWhile (· = 0)).length)
  let longest := runs.foldl (fun best run => if best.2 < run.2 then run else best) (0, 0)
  if 2 ≤ longest.2 then some longest else none

def joinGroups : List Nat → List Char
  | [] => []
  | [n] => Nat.toDigits 16 n
  | n :: rest => Nat.toDigits 16 n ++ ':' :: joinGroups rest

def text (groups : List Nat) : List Char :=
  match zeroRun groups with
  | none => joinGroups groups
  | some (start, size) =>
    joinGroups (groups.take start) ++ ':' :: ':' :: joinGroups (groups.drop (start + size))

end PaymentConnector.Url.Ipv6
