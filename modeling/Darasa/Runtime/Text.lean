import Mathlib.Data.List.Infix

/-!
Python text: the parts of `str` and `re` that look at characters one by one.

Which characters are white space, digits or letters, and how a character is
lowered, is fixed here for ASCII.  Past ASCII it is the Unicode database's
business, not the program's: `Unicode` carries that part as a parameter.
-/

namespace Darasa

/-- The Unicode character database past ASCII, as `str` and `re` consult it. -/
class Unicode where
  /-- `str.isspace` of one character. -/
  space : Char → Bool
  /-- The value of a decimal digit; `\d` matches where there is one. -/
  decimal? : Char → Option ℕ
  /-- `\w`. -/
  word : Char → Bool
  /-- `str.lower` of one character. -/
  lowered : Char → List Char
  /-- `re.IGNORECASE` takes the two for one letter. -/
  caseVariants : Char → Char → Bool
  /-- `str.isprintable` of one character. -/
  printable : Char → Bool

namespace Unicode

/-- A database that knows no letter past ASCII. -/
@[reducible] def ascii : Unicode where
  space _ := false
  decimal? _ := none
  word _ := false
  lowered c := [c]
  caseVariants c d := c == d
  printable _ := false

variable [Unicode]

def isAscii (c : Char) : Bool := decide (c.toNat < 128)

/-- `str.isspace` of one character. -/
def isSpace (c : Char) : Bool :=
  if isAscii c then c == ' ' || (9 ≤ c.toNat && c.toNat ≤ 13) || (28 ≤ c.toNat && c.toNat ≤ 31)
  else space c

/-- The value of a decimal digit. -/
def digit? (c : Char) : Option ℕ :=
  if isAscii c then (if c.isDigit then some (c.toNat - '0'.toNat) else none) else decimal? c

/-- `\w`. -/
def isWord (c : Char) : Bool := if isAscii c then c.isAlphanum || c == '_' else word c

/-- `str.lower` of one character. -/
def lower (c : Char) : List Char := if isAscii c then [c.toLower] else lowered c

/-- `str.isprintable` of one character. -/
def isPrintable (c : Char) : Bool :=
  if isAscii c then 32 ≤ c.toNat && c.toNat ≤ 126 else printable c

/-- One letter up to `re.IGNORECASE`. -/
def sameLetter (c d : Char) : Bool :=
  if isAscii c && isAscii d then c.toLower == d.toLower else caseVariants c d

end Unicode

namespace Text

variable [Unicode]

/-! The functions work on the characters of a text. -/

/-- `str.lstrip`. -/
def lstripChars (s : List Char) : List Char := s.dropWhile Unicode.isSpace

/-- `str.strip`. -/
def stripChars (s : List Char) : List Char := (lstripChars (lstripChars s).reverse).reverse

/-- `str.lower`, character by character: the final form of a sigma is not told apart. -/
def lowerChars (s : List Char) : List Char := s.flatMap Unicode.lower

/-- `fragment in s`. -/
def containsChars (fragment s : List Char) : Bool := s.tails.any fragment.isPrefixOf

/-- `str.strip`. -/
def strip (s : String) : String := .ofList (stripChars s.toList)

/-- `str.lower`. -/
def lower (s : String) : String := .ofList (lowerChars s.toList)

/-- `not s.strip()`. -/
def isBlank (s : String) : Bool := (stripChars s.toList).isEmpty

/-! ASCII characters are the same to every database. -/

variable {s : List Char}

theorem strip_subset : stripChars s ⊆ s := by
  intro c member
  have right := (List.dropWhile_suffix _).mem (List.mem_reverse.mp member)
  exact (List.dropWhile_suffix _).mem (List.mem_reverse.mp right)

theorem lstrip_ascii (ascii : ∀ c ∈ s, Unicode.isAscii c = true) :
    lstripChars s = @lstripChars .ascii s := by
  induction s with
  | nil => rfl
  | cons c s ih =>
    have space : Unicode.isSpace c = @Unicode.isSpace .ascii c := by
      unfold Unicode.isSpace
      rw [if_pos (ascii c (.head _)), if_pos (ascii c (.head _))]
    have later := ih fun d member => ascii d (.tail _ member)
    unfold lstripChars at later ⊢
    rw [List.dropWhile_cons, List.dropWhile_cons, space, later]

theorem strip_ascii (ascii : ∀ c ∈ s, Unicode.isAscii c = true) :
    stripChars s = @stripChars .ascii s := by
  have left : ∀ c ∈ (lstripChars s).reverse, Unicode.isAscii c = true := fun c member =>
    ascii c ((List.dropWhile_suffix _).mem (List.mem_reverse.mp member))
  unfold stripChars
  rw [lstrip_ascii left, lstrip_ascii ascii]

theorem lower_ascii (ascii : ∀ c ∈ s, Unicode.isAscii c = true) :
    lowerChars s = @lowerChars .ascii s := by
  unfold lowerChars
  refine List.flatMap_congr fun c member => ?_
  unfold Unicode.lower
  rw [if_pos (ascii c member), if_pos (ascii c member)]

end Text

end Darasa
