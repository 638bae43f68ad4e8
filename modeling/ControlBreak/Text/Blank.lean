import ControlBreak.Text.CharSet

/-!
# Blanks

The characters that count as blank around a text: spaces of all widths, line
and paragraph ends, and the separating controls.
-/

namespace ControlBreak

/-- The blank characters. -/
def blank : CharSet := ⟨[
  9, 0xe, 0x1c, 0x21, 0x85, 0x86, 0xa0, 0xa1, 0x1680, 0x1681, 0x2000, 0x200b, 0x2028, 0x202a,
  0x202f, 0x2030, 0x205f, 0x2060, 0x3000, 0x3001]⟩

/-- Whether a character is blank. -/
def isBlank (c : Char) : Bool :=
  blank.contains c

/-- Whether a character is one of the blanks of ASCII, the separating controls
    apart. -/
def isPlainBlank (c : Char) : Bool :=
  c == ' ' || (9 ≤ c.toNat && c.toNat ≤ 13)

/-- A text without characters of a class at both its ends. -/
def trim (drops : Char → Bool) (text : List Char) : List Char :=
  ((text.dropWhile drops).reverse.dropWhile drops).reverse

/-- A text without the blanks at both its ends. -/
def trimBlanks (s : String) : String :=
  String.ofList (trim isBlank s.toList)

/-- Whether a text holds nothing but blanks. -/
def allBlank (s : String) : Bool :=
  s.toList.all isBlank

end ControlBreak
