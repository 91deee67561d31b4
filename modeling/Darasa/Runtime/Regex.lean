import Darasa.Runtime.Text
import Mathlib.Data.List.Range

/-!
The part of Python's `re` that the code under verification uses: character
classes, bounded and unbounded repetition, groups, alternatives and `\b`.

A pattern denotes, from a place in a text, every place a match can end
(`ends`): all backtracking alternatives at once.  `search` asks for a match
anywhere, `fullmatch` for one that spans the text.
-/

namespace Darasa

/-- A regular expression. -/
inductive Regex where
  /-- One character of a class. -/
  | one (inClass : Char → Bool)
  | seq (first second : Regex)
  | alt (first second : Regex)
  /-- `r?`. -/
  | opt (r : Regex)
  /-- `r*`. -/
  | star (r : Regex)
  /-- A class between `low` and `high` times. -/
  | times (inClass : Char → Bool) (low high : ℕ)
  /-- `\b`. -/
  | boundary

namespace Regex

/-- A place in a text: the character before it, if any, and what follows. -/
structure Place where
  before : Option Char
  after : List Char
  deriving DecidableEq

/-- The places after each number of characters of a class, up to `high`. -/
def runs (inClass : Char → Bool) : ℕ → Place → List Place
  | 0, p => [p]
  | high + 1, p =>
    match p.after with
    | [] => [p]
    | c :: rest => if inClass c then p :: runs inClass high ⟨some c, rest⟩ else [p]

/-- Up to `fuel` rounds of a step, stopping after any of them. -/
def rounds (step : Place → List Place) : ℕ → Place → List Place
  | 0, p => [p]
  | fuel + 1, p => p :: (step p).flatMap (rounds step fuel)

theorem runs_suffix {inClass : Char → Bool} {high : ℕ} {p q : Place}
    (reached : q ∈ runs inClass high p) : q.after <:+ p.after := by
  induction high generalizing p with
  | zero => rw [List.mem_singleton.mp reached]
  | succ high ih =>
    unfold runs at reached
    split at reached
    · rw [List.mem_singleton.mp reached]
    next c rest text =>
      rw [text]
      split at reached
      · rcases List.mem_cons.mp reached with rfl | later
        · rw [text]
        · exact (ih later).trans (List.suffix_cons c rest)
      · rw [List.mem_singleton.mp reached, text]

theorem rounds_suffix {step : Place → List Place} {fuel : ℕ} {p q : Place}
    (shorter : ∀ p q, q ∈ step p → q.after <:+ p.after) (reached : q ∈ rounds step fuel p) :
    q.after <:+ p.after := by
  induction fuel generalizing p with
  | zero => rw [List.mem_singleton.mp reached]
  | succ fuel ih =>
    rcases List.mem_cons.mp reached with rfl | later
    · exact List.suffix_rfl
    · obtain ⟨middle, once, rest⟩ := List.mem_flatMap.mp later
      exact (ih rest).trans (shorter p middle once)

variable [Unicode]

/-- A word character on exactly one side. -/
def atBoundary (p : Place) : Bool :=
  p.before.any Unicode.isWord != p.after.head?.any Unicode.isWord

/-- Every place a match from `p` can end. -/
def ends : Regex → Place → List Place
  | one inClass, p =>
    match p.after with
    | c :: rest => if inClass c then [⟨some c, rest⟩] else []
    | [] => []
  | seq first second, p => (first.ends p).flatMap second.ends
  | alt first second, p => first.ends p ++ second.ends p
  | opt r, p => p :: r.ends p
  -- a round that consumes nothing adds no place, so the length bounds the rounds
  | star r, p => rounds r.ends p.after.length p
  | times inClass low high, p => (runs inClass high p).drop low
  | boundary, p => if atBoundary p then [p] else []

/-- The places of a text, in order. -/
def places : Option Char → List Char → List Place
  | before, [] => [⟨before, []⟩]
  | before, c :: rest => ⟨before, c :: rest⟩ :: places (some c) rest

/-- `pattern.search(s)` finds a match. -/
def search (r : Regex) (s : List Char) : Bool :=
  (places none s).any fun p => !(r.ends p).isEmpty

/-- `pattern.fullmatch(s)` finds a match. -/
def fullmatch (r : Regex) (s : List Char) : Bool :=
  (r.ends ⟨none, s⟩).any fun p => p.after.isEmpty

/-- A match ends at a suffix of what it was tried on. -/
theorem ends_suffix {r : Regex} {p q : Place} (reached : q ∈ r.ends p) : q.after <:+ p.after := by
  induction r generalizing p q with
  | one inClass =>
    unfold ends at reached
    split at reached
    next c rest text =>
      split at reached
      · rw [List.mem_singleton.mp reached, text]
        exact List.suffix_cons c rest
      · cases reached
    · cases reached
  | seq first second ihFirst ihSecond =>
    obtain ⟨middle, once, rest⟩ := List.mem_flatMap.mp reached
    exact (ihSecond rest).trans (ihFirst once)
  | alt first second ihFirst ihSecond =>
    rcases List.mem_append.mp reached with left | right
    · exact ihFirst left
    · exact ihSecond right
  | opt r ih =>
    rcases List.mem_cons.mp reached with rfl | inside
    · exact List.suffix_rfl
    · exact ih inside
  | star r ih => exact rounds_suffix (fun _ _ => ih) reached
  | times inClass low high => exact runs_suffix (List.mem_of_mem_drop reached)
  | boundary =>
    unfold ends at reached
    split at reached
    · rw [List.mem_singleton.mp reached]
    · cases reached

omit [Unicode] in
theorem places_suffix {before : Option Char} {s : List Char} {p : Place}
    (here : p ∈ places before s) : p.after <:+ s := by
  induction s generalizing before with
  | nil => rw [List.mem_singleton.mp here]
  | cons c rest ih =>
    rcases List.mem_cons.mp here with rfl | later
    · exact List.suffix_rfl
    · exact (ih later).trans (List.suffix_cons c rest)

/-! ### Patterns -/

/-- A literal character. -/
def lit (c : Char) : Regex := one (· == c)

/-- A pattern that needs a character finds nothing in a text without it. -/
theorem search_absent {start first rest : Regex} {c : Char} {s : List Char} (absent : c ∉ s) :
    (seq start (seq first (seq (lit c) rest))).search s = false := by
  rw [search, List.any_eq_false]
  intro p here
  simp only [Bool.not_eq_true', Bool.not_eq_false, List.isEmpty_iff, ends,
    List.flatMap_eq_nil_iff]
  intro q started r reached found literal
  have suffix := ((ends_suffix reached).trans (ends_suffix started)).trans (places_suffix here)
  unfold lit ends at literal
  split at literal
  next d text same =>
    split at literal
    next eq =>
      exact absurd (suffix.mem (by simp [same, beq_iff_eq.mp eq])) absent
    · cases literal
  · cases literal

/-- A literal text up to `re.IGNORECASE`. -/
def litIgnoringCase : List Char → Regex
  | [] => star (one fun _ => false)
  | [c] => one (Unicode.sameLetter c)
  | c :: rest => seq (one (Unicode.sameLetter c)) (litIgnoringCase rest)

/-- `[..]{low,}`. -/
def atLeast (low : ℕ) (inClass : Char → Bool) : Regex :=
  seq (times inClass low low) (star (one inClass))

/-- `r+`. -/
def plus (r : Regex) : Regex := seq r (star r)

/-- `[A-Z]`. -/
def upper (c : Char) : Bool := 'A' ≤ c && c ≤ 'Z'

/-- `[a-z]`. -/
def lowercase (c : Char) : Bool := 'a' ≤ c && c ≤ 'z'

/-- `[0-9]`. -/
def asciiDigit (c : Char) : Bool := '0' ≤ c && c ≤ '9'

/-- `\d`. -/
def digit (c : Char) : Bool := (Unicode.digit? c).isSome

end Regex

end Darasa
