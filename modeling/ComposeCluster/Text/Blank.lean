/-!
# Blank characters

Which characters count as white space when text is trimmed or a command line is cut into words:
the twenty-five characters with the Unicode property `White_Space`, of which core's
`Char.isWhitespace` knows four.
-/

set_option autoImplicit false

namespace ComposeCluster.Text

/-- The code points with the property `White_Space`. -/
def blankCodes : List Nat :=
  [0x9, 0xA, 0xB, 0xC, 0xD, 0x20, 0x85, 0xA0, 0x1680,
   0x2000, 0x2001, 0x2002, 0x2003, 0x2004, 0x2005, 0x2006, 0x2007, 0x2008, 0x2009, 0x200A,
   0x2028, 0x2029, 0x202F, 0x205F, 0x3000]

/-- Whether a character is white space. -/
def isBlank (c : Char) : Bool :=
  blankCodes.contains c.toNat

/-- Characters without the white space before the first and after the last other one. -/
def trimChars (cs : List Char) : List Char :=
  ((cs.dropWhile isBlank).reverse.dropWhile isBlank).reverse

/-- Characters without white space stay as they are when trimmed. -/
theorem trimChars_eq_self {cs : List Char} (h : ∀ c ∈ cs, isBlank c = false) :
    trimChars cs = cs := by
  have hfront (part : List Char) (hpart : ∀ c ∈ part, isBlank c = false) :
      part.dropWhile isBlank = part := by
    cases part with
    | nil => rfl
    | cons c rest =>
      rw [List.dropWhile_cons, hpart c List.mem_cons_self]
      rfl
  rw [trimChars, hfront cs h, hfront cs.reverse fun c hc => h c (List.mem_reverse.1 hc),
    List.reverse_reverse]

/-- Text without the white space around it. -/
def trim (text : String) : String :=
  String.ofList (trimChars text.toList)

/-- Whether there is nothing but white space. -/
def isBlankText (text : String) : Bool :=
  (trim text).isEmpty

end ComposeCluster.Text
