namespace SignalControl.Text

/-! White space is trimmed from the ends of a line by its Unicode property, so
no-break and ideographic spaces count, while the zero-width space and the byte
order mark do not. -/

def isBlank (character : Char) : Bool :=
  let code := character.toNat
  (0x9 ≤ code && code ≤ 0xD) || code == 0x20 || code == 0x85 || code == 0xA0
    || code == 0x1680 || (0x2000 ≤ code && code ≤ 0x200A) || code == 0x2028
    || code == 0x2029 || code == 0x202F || code == 0x205F || code == 0x3000

def trimStart (text : List Char) : List Char :=
  text.dropWhile isBlank

def trimEnd (text : List Char) : List Char :=
  (text.reverse.dropWhile isBlank).reverse

def trim (text : List Char) : List Char :=
  trimEnd (trimStart text)

/-- The lines of a page that carry something: split at line feeds, trimmed, and
blank lines left out. A carriage return before a line feed is white space, so
trimming removes it as well. -/
def rows (text : List Char) : List (List Char) :=
  ((text.splitOn '\n').map trim).filter fun row => !row.isEmpty

theorem isBlank_of_isDigit {character : Char} (digit : character.isDigit = true) :
    isBlank character = false := by
  have bounds : 48 ≤ character.toNat ∧ character.toNat ≤ 57 := by
    simpa [Char.isDigit, UInt32.le_iff_toNat_le] using digit
  simp [isBlank]
  omega

end SignalControl.Text
