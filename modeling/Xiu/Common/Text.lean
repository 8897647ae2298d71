import Mathlib.Algebra.Group.Int.Defs
import Mathlib.Algebra.Group.Nat.Defs
import Mathlib.Tactic.Common

/-! What the parsers use of Rust's `str`, on the characters of a text. -/

namespace Xiu.Common

/-- The entries of an `IndexMap` with texts as keys, in the order of insertion. -/
abbrev IndexMap (ν : Type) := List (String × ν)

/-- `IndexMap::insert`: a key that is there keeps its place. -/
def IndexMap.insert {ν : Type} (map : IndexMap ν) (key : String) (value : ν) : IndexMap ν :=
  if key ∈ map.map (·.1) then
    map.map fun p => if p.1 = key then (key, value) else p
  else
    map ++ [(key, value)]

/-- The position of the first occurrence of a pattern, in characters. -/
def find (pattern : List Char) : List Char → Option Nat
  | [] => if pattern.isEmpty then some 0 else none
  | c :: rest =>
    if pattern.isPrefixOf (c :: rest) then some 0 else (find pattern rest).map (· + 1)

/-- `splitn(2, sep)`. -/
def splitn2 (sep : Char) (text : List Char) : List Char × Option (List Char) :=
  match text.span (· ≠ sep) with
  | (first, []) => (first, none)
  | (first, _ :: rest) => (first, some rest)

/-- `char::is_whitespace`. -/
def isWhitespace (c : Char) : Bool :=
  let n := c.toNat
  (9 ≤ n && n ≤ 13) || n == 0x20 || n == 0x85 || n == 0xA0 || n == 0x1680 ||
    (0x2000 ≤ n && n ≤ 0x200A) || n == 0x2028 || n == 0x2029 || n == 0x202F || n == 0x205F ||
    n == 0x3000

/-- `str::trim`. -/
def trim (text : List Char) : List Char :=
  ((text.dropWhile isWhitespace).reverse.dropWhile isWhitespace).reverse

/-- `char::is_ascii_whitespace`. -/
def isAsciiWhitespace (c : Char) : Bool :=
  c == ' ' || c == '\t' || c == '\n' || c == '\x0c' || c == '\r'

/-- `str::split_ascii_whitespace`. -/
def splitAsciiWhitespace (text : List Char) : List (List Char) :=
  (text.splitOnP isAsciiWhitespace).filter (! ·.isEmpty)

/-- `str::lines`: the text after the last newline is a line unless it is empty. -/
def lines (text : List Char) : List (List Char) :=
  let pieces := text.splitOn '\n'
  let pieces := if pieces.getLast? = some [] then pieces.dropLast else pieces
  pieces.map fun line => if line.getLast? = some '\r' then line.dropLast else line

/-- `str::parse` of an unsigned integer of a given size: a plus sign may stand before the digits. -/
def parseUnsigned (size : Nat) (text : List Char) : Option Nat :=
  let digits := if text.head? = some '+' then text.tail else text
  if digits.isEmpty || !digits.all Char.isDigit then
    none
  else
    let n := digits.foldl (fun n c => 10 * n + (c.toNat - 48)) 0
    if n < size then some n else none

def parseU8 : List Char → Option Nat := parseUnsigned (2 ^ 8)

def parseU16 : List Char → Option Nat := parseUnsigned (2 ^ 16)

def parseU32 : List Char → Option Nat := parseUnsigned (2 ^ 32)

/-- `str::parse::<usize>`. -/
def parseUsize : List Char → Option Nat := parseUnsigned (2 ^ 64)

/-- `str::parse::<i64>`. -/
def parseI64 : List Char → Option Int
  | '-' :: digits =>
    if digits.head? = some '+' then none
    else (parseUnsigned (2 ^ 63 + 1) digits).map fun n => -(n : Int)
  | text => (parseUnsigned (2 ^ 63) text).map fun n => (n : Int)

/-- `str::to_lowercase`, on the letters of ASCII. -/
def toLowercase (text : List Char) : List Char := text.map Char.toLower

/-- `scanf!(text, sep, String, String)`: the pieces before and after the first separator. -/
def scanf (text : List Char) (sep : Char) : Option (List Char) × Option (List Char) :=
  let pieces := text.splitOn sep
  (pieces[0]?, pieces[1]?)

/-- The pairs of a query; of two with the same key the later one counts. -/
def queryPairs (query : String) : IndexMap String :=
  (query.toList.splitOn '&').foldl
    (fun pairs ele =>
      match scanf ele '=' with
      | (some k, some v) => IndexMap.insert pairs (String.ofList k) (String.ofList v)
      | _ => pairs) []

end Xiu.Common
