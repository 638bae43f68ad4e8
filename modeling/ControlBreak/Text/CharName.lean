import ControlBreak.Text.CharName.Aliases
import ControlBreak.Text.CharName.Alphabets
import ControlBreak.Text.CharName.EastAsian
import ControlBreak.Text.CharName.Historic
import ControlBreak.Text.CharName.Notations
import ControlBreak.Text.CharName.Pictographic
import ControlBreak.Text.CharName.Symbols
import ControlBreak.Text.Digit

/-!
# Names of characters

Characters have names, by which texts can refer to them. Most are kept in tables,
run by run. Some follow a rule: a syllable of Hangul is named by its letters, and an
ideograph by its number. Names are found in any case; those of syllables and of
unified ideographs have to be in capitals.
-/

namespace ControlBreak

namespace CharName

/-- A name as its words. -/
abbrev Words := List (List Char)

/-- Looks for a name among those of successive characters, the first of which has
    the code point `code`, given the name before them. -/
def findFrom (wanted : Words) (code : Nat) (before : Words) : List Char → Option Nat
  | [] => none
  | shared :: rest =>
    let name := before.take (shared.toNat - 'a'.toNat) ++
      (rest.takeWhile fun c => !c.isLower).splitOn ' '
    if name = wanted then some code
    else findFrom wanted (code + 1) name (rest.dropWhile fun c => !c.isLower)
  termination_by text => text.length
  decreasing_by
    have := (List.dropWhile_sublist (fun c : Char => !c.isLower) (l := rest)).length_le
    simp
    omega

/-- The code point of a name in a table. -/
def findIn (wanted : Words) (table : List (Nat × List String)) : Option Nat :=
  table.findSome? fun run => findFrom wanted run.1 [] (run.2.flatMap String.toList)

/-- The runs of characters that are named by a text and their number. -/
def numbered : List (String × Nat × Nat) := [
  ("CJK COMPATIBILITY IDEOGRAPH-", 0xf900, 0xfa6d),
  ("CJK COMPATIBILITY IDEOGRAPH-", 0xfa70, 0xfad9),
  ("CJK COMPATIBILITY IDEOGRAPH-", 0x2f800, 0x2fa1d),
  ("KHITAN SMALL SCRIPT CHARACTER-", 0x18b00, 0x18cd5),
  ("NUSHU CHARACTER-", 0x1b170, 0x1b2fb)]

/-- What follows a text in another one that starts with it. -/
def after? (start : String) (text : List Char) : Option (List Char) :=
  if start.toList.isPrefixOf text then some (text.drop start.length) else none

/-- The value of a hexadecimal digit that is no small letter. -/
def capitalHexValue? (c : Char) : Option Nat :=
  if c.isLower then none else hexValue? c

/-- The number that four or five hexadecimal digits in capitals spell. -/
def codeOf? (digits : List Char) : Option Nat :=
  let values := digits.filterMap capitalHexValue?
  if values.length = digits.length ∧ (digits.length = 4 ∨ digits.length = 5) then
    some (values.foldl (fun n d => 16 * n + d) 0)
  else none

/-- The code point of a name that ends in its number, which has no more digits than
    it needs. -/
def ofNumber? (name : List Char) : Option Nat :=
  numbered.findSome? fun (start, first, last) => do
    let digits ← after? start name
    let code ← codeOf? digits
    if first ≤ code ∧ code ≤ last ∧ (digits.length = 4 ∨ 0x10000 ≤ code) then some code else none

/-- The ranges of unified ideographs. -/
def ideographs : List (Nat × Nat) := [
  (0x3400, 0x4dbf), (0x4e00, 0x9fff), (0x20000, 0x2a6df), (0x2a700, 0x2b738), (0x2b740, 0x2b81d),
  (0x2b820, 0x2cea1), (0x2ceb0, 0x2ebe0), (0x30000, 0x3134a)]

/-- The code point of a unified ideograph with the given digits. -/
def ideograph? (digits : List Char) : Option Nat :=
  (codeOf? digits).filter fun code => ideographs.any fun r => r.1 ≤ code && code ≤ r.2

/-- The leading letters of syllables of Hangul. -/
def leading : List String := [
  "G", "GG", "N", "D", "DD", "R", "M", "B", "BB", "S", "SS", "", "J", "JJ", "C", "K", "T", "P", "H"]

/-- The vowels of syllables of Hangul. -/
def vowels : List String := [
  "A", "AE", "YA", "YAE", "EO", "E", "YEO", "YE", "O", "WA", "WAE", "OE", "YO", "U", "WEO", "WE",
  "WI", "YU", "EU", "YI", "I"]

/-- The trailing letters of syllables of Hangul. -/
def trailing : List String := [
  "", "G", "GG", "GS", "N", "NJ", "NH", "D", "L", "LG", "LM", "LB", "LS", "LT", "LP", "LH", "M",
  "B", "BS", "S", "SS", "NG", "J", "C", "K", "T", "P", "H"]

/-- The longest of the letters that a text starts with, by its place among them, and
    the rest of the text. -/
def letter? (letters : List String) (text : List Char) : Option (Nat × List Char) :=
  let found := letters.zipIdx.filterMap fun (letter, i) =>
    (after? letter text).map fun rest => (letter.length, i, rest)
  (found.foldl (fun best x => match best with
    | none => some x
    | some b => if b.1 < x.1 then some x else some b) none).map (·.2)

/-- The code point of a syllable of Hangul with the given letters. -/
def syllable? (letters : List Char) : Option Nat := do
  let (l, rest) ← letter? leading letters
  let (v, rest) ← letter? vowels rest
  let (t, rest) ← letter? trailing rest
  if rest.isEmpty then some (0xac00 + (l * vowels.length + v) * trailing.length + t) else none

/-- The code point of a name that is kept in a table, its letters being capitals. -/
def tabulated? (name : List Char) : Option Nat :=
  let words := name.splitOn ' '
  let found := (findIn words alphabets)
    <|> (findIn words symbols)
    <|> (findIn words eastAsian)
    <|> (findIn words historic)
    <|> (findIn words pictographic)
    <|> (findIn words notations)
  found.or ((aliases.find? fun a => a.2.toList == name).map (·.1))

end CharName

/-- The code point of the character with a given name. -/
def codeNamed? (name : List Char) : Option Nat :=
  match CharName.after? "HANGUL SYLLABLE " name with
  | some letters => CharName.syllable? letters
  | none =>
    match CharName.after? "CJK UNIFIED IDEOGRAPH-" name with
    | some digits => CharName.ideograph? digits
    | none =>
      let name := name.map Char.toUpper
      (CharName.ofNumber? name).or (CharName.tabulated? name)

end ControlBreak
