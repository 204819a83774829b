import Shop.Number.Integer
import Shop.Rule.Domain

/-!
# Mail addresses

The rule for mail addresses: a local part of at most 64 letters, digits and permitted signs, the
last `@`, and a domain of at most 255 characters, which is a list of labels or an address of the
network in brackets.  A domain with other characters counts by its ASCII form.
-/

namespace Shop
namespace Email

/-- Letters in the sense of a match that ignores case: two characters beyond ASCII have an ASCII
letter as their other case. -/
def isLetter (c : Char) : Bool :=
  c.isAlpha || c.toNat == 0x17F || c.toNat == 0x212A

def isWordChar (c : Char) : Bool :=
  isLetter c || c.isDigit

/-- The signs that a local part may hold besides letters and digits. -/
def localSigns : List Char := ".!#$%&'*+/=?^_`\x7b|\x7d~-".toList

def isLocalChar (c : Char) : Bool :=
  isWordChar c || localSigns.contains c

/-- A label: at most 63 letters, digits and hyphens, no hyphen at either end. -/
def isLabel (label : List Char) : Bool :=
  match label, label.getLast? with
  | first :: _, some last =>
    label.length ≤ 63 && isWordChar first && isWordChar last &&
      label.all fun c => isWordChar c || c == '-'
  | _, _ => false

/-- Four octets in decimal, without leading zeros. -/
def isIpv4 (cs : List Char) : Bool :=
  let parts := Domain.splitChars (· == '.') cs
  parts.length == 4 && parts.all fun part =>
    1 ≤ part.length && part.length ≤ 3 && part.all (·.isDigit) &&
      (part.length == 1 || part.head? != some '0') &&
      part.foldl (fun n c => 10 * n + (c.toNat - '0'.toNat)) 0 ≤ 255

/-- Whether a text is one to four hexadecimal digits. -/
def isGroup (part : List Char) : Bool :=
  1 ≤ part.length && part.length ≤ 4 && part.all fun c =>
    c.isDigit || ('a' ≤ c && c ≤ 'f') || ('A' ≤ c && c ≤ 'F')

/-- How many groups of 16 bits the parts stand for; four octets may stand last. -/
def countGroups (mayEndInOctets : Bool) : List (List Char) → Option Nat
  | [] => some 0
  | [part] =>
    if isGroup part then some 1
    else if mayEndInOctets && isIpv4 part then some 2 else none
  | part :: parts => if isGroup part then (countGroups mayEndInOctets parts).map (· + 1) else none

def splitDoubleColon : List Char → Option (List Char × List Char)
  | [] => none
  | ':' :: ':' :: cs => some ([], cs)
  | c :: cs => (splitDoubleColon cs).map fun (before, after) => (c :: before, after)

/-- The parts of a text between colons; an empty text has none. -/
def colonParts (cs : List Char) : List (List Char) :=
  if cs.isEmpty then [] else Domain.splitChars (· == ':') cs

/-- Eight groups, or fewer with one double colon for a run of zeros. -/
def isIpv6 (cs : List Char) : Bool :=
  match splitDoubleColon cs with
  | none => countGroups true (colonParts cs) == some 8
  | some (before, after) =>
    match countGroups false (colonParts before), countGroups true (colonParts after) with
    | some m, some n => m + n ≤ 7
    | _, _ => false

/-- The text between the last opening bracket and a closing bracket at the end. -/
def bracketed? (domain : List Char) : Option (List Char) :=
  match domain.reverse with
  | ']' :: rest =>
    if rest.contains '[' then some (rest.takeWhile (· != '[')).reverse else none
  | _ => none

/-- Whether a domain is a list of labels or an address of the network. -/
def isDomain (domain : List Char) : Bool :=
  (Domain.splitChars (· == '.') domain).all isLabel ||
    match bracketed? domain with
    | some address => isIpv4 address || isIpv6 address
    | none => false

def splitAtSign (cs : List Char) : Option (List Char × List Char) :=
  let domain := (cs.reverse.takeWhile (· != '@')).reverse
  if domain.length < cs.length then some (cs.take (cs.length - domain.length - 1), domain) else none

def isValid (address : String) : Bool :=
  match splitAtSign address.toList with
  | none => false
  | some (user, domain) =>
    user.length ≤ 64 && domain.length ≤ 255 && !user.isEmpty && user.all isLocalChar &&
      (isDomain domain ||
        match Domain.toAscii domain with
        | some ascii => isDomain ascii
        | none => false)

end Email
end Shop
