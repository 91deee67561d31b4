import Darasa.Foundation.Separators
import Darasa.Runtime.IpAddress
import Darasa.Runtime.Json
import Mathlib.Data.List.TakeWhile

/-!
The part of Python's `urllib.parse` that takes a URL apart and puts one together.

A text is cut at delimiters only, so what is put together of parts that hold none of the
delimiters after them is taken apart into the same parts.
-/

namespace Darasa

/-- The normal form NFKC past ASCII, as `_checknetloc` looks at it. -/
class Nfkc where
  /-- The normal form of the character has one of `/?#@:`. -/
  delimits : Char → Bool

namespace Urls

open Separators (partition rpartition)

variable [Unicode]

/-! ## Taking a URL apart -/

/-- `SplitResult`. -/
structure SplitResult where
  scheme : List Char
  netloc : List Char
  path : List Char
  query : List Char
  fragment : List Char
  deriving DecidableEq, Repr

/-- A character of `_WHATWG_C0_CONTROL_OR_SPACE`. -/
def isControlOrSpace (c : Char) : Bool := c.toNat ≤ 32

/-- A character of `_UNSAFE_URL_BYTES_TO_REMOVE`. -/
def isRemoved (c : Char) : Bool := c == '\t' || c == '\r' || c == '\n'

/-- A letter of ASCII. -/
def isLetter (c : Char) : Bool := Regex.upper c || Regex.lowercase c

/-- A character of `scheme_chars`. -/
def isSchemeChar (c : Char) : Bool :=
  isLetter c || Regex.asciiDigit c || c == '+' || c == '-' || c == '.'

/-- A character `_splitnetloc` stops at. -/
def endsNetloc (c : Char) : Bool := c == '/' || c == '?' || c == '#'

/-- The scheme of a URL, if it has one, and the rest. -/
def splitScheme (url : List Char) : List Char × List Char :=
  match partition ':' url with
  | (scheme, some rest) =>
    if scheme.head?.any isLetter && scheme.all isSchemeChar then (Text.lowerChars scheme, rest)
    else ([], url)
  | (_, none) => ([], url)

/-- The authority of a URL, if it has one, and the rest. -/
def splitNetloc : List Char → List Char × List Char
  | '/' :: '/' :: url => (url.takeWhile (!endsNetloc ·), url.dropWhile (!endsNetloc ·))
  | url => ([], url)

/-- `\Av[a-fA-F0-9]+\..+\Z`. -/
def ipvFuturePattern : Regex :=
  .seq (.lit 'v') (.seq (.plus (.one fun c => (IpAddress.hexDigit? c).isSome))
    (.seq (.lit '.') (.plus (.one (· != '\n')))))

/-- `_check_bracketed_host`. -/
def checkBracketedHost (hostname : List Char) : Outcome Unit :=
  if hostname.head? == some 'v' then
    if ipvFuturePattern.fullmatch hostname then .ok ()
    else .error (.valueError "IPvFuture address is invalid")
  else
    match IpAddress.ipAddress hostname with
    | none => .error (.valueError (Json.stringRepr (.ofList hostname) ++
        " does not appear to be an IPv4 or IPv6 address"))
    | some (.v4 _) => .error (.valueError "An IPv4 address cannot be in brackets")
    | some (.v6 _ _) => .ok ()

/-- The check of the brackets of an authority. -/
def checkBrackets (netloc : List Char) : Outcome Unit :=
  if netloc.contains '[' != netloc.contains ']' then .error (.valueError "Invalid IPv6 URL")
  else if netloc.contains '[' then
    checkBracketedHost (partition ']' ((partition '[' netloc).2.getD [])).1
  else .ok ()

/-- The normal form of the character has a delimiter it has not itself. -/
def expands [Nfkc] (c : Char) : Bool := !Unicode.isAscii c && Nfkc.delimits c

/-- `_checknetloc`. -/
def checkNetloc [Nfkc] (netloc : List Char) : Outcome Unit :=
  if netloc.any expands then
    .error (.valueError ("netloc '" ++ .ofList netloc ++
      "' contains invalid characters under NFKC normalization"))
  else .ok ()

/-- `url.split(sep, 1)` where there is a `sep`; the url and nothing where there is none. -/
def cut (sep : Char) (url : List Char) : List Char × List Char :=
  ((partition sep url).1, (partition sep url).2.getD [])

/-- The five parts of a URL. -/
def components (url : List Char) : SplitResult where
  scheme := (splitScheme url).1
  netloc := (splitNetloc (splitScheme url).2).1
  path := (cut '?' (cut '#' (splitNetloc (splitScheme url).2).2).1).1
  query := (cut '?' (cut '#' (splitNetloc (splitScheme url).2).2).1).2
  fragment := (cut '#' (splitNetloc (splitScheme url).2).2).2

/-- `urlsplit`. -/
def urlsplit [Nfkc] (url : List Char) : Outcome SplitResult := do
  let parsed := components ((url.dropWhile isControlOrSpace).filter (!isRemoved ·))
  checkBrackets parsed.netloc
  checkNetloc parsed.netloc
  return parsed

namespace SplitResult

/-- `_userinfo`. -/
def userinfo (parsed : SplitResult) : Option (List Char) × Option (List Char) :=
  match (rpartition '@' parsed.netloc).1 with
  | some userinfo => (some (partition ':' userinfo).1, (partition ':' userinfo).2)
  | none => (none, none)

/-- `username`. -/
def username (parsed : SplitResult) : Option (List Char) := parsed.userinfo.1

/-- `password`. -/
def password (parsed : SplitResult) : Option (List Char) := parsed.userinfo.2

/-- The host and the text of the port, of what follows the user information. -/
def splitHostinfo (hostinfo : List Char) : List Char × Option (List Char) :=
  match (partition '[' hostinfo).2 with
  | some bracketed =>
    ((partition ']' bracketed).1, (partition ':' ((partition ']' bracketed).2.getD [])).2)
  | none => partition ':' hostinfo

/-- `_hostinfo`; an empty port is none. -/
def hostinfo (parsed : SplitResult) : List Char × Option (List Char) :=
  let (hostname, port) := splitHostinfo (rpartition '@' parsed.netloc).2
  (hostname, port.filter (!·.isEmpty))

/-- A host with its letters lowered, all but those of a zone. -/
def lowerHost (hostname : List Char) : List Char :=
  match partition '%' hostname with
  | (host, some zone) => Text.lowerChars host ++ '%' :: zone
  | (host, none) => Text.lowerChars host

/-- `hostname`. -/
def hostname (parsed : SplitResult) : Option (List Char) :=
  if parsed.hostinfo.1.isEmpty then none else some (lowerHost parsed.hostinfo.1)

/-- `port`. -/
def port (parsed : SplitResult) : Outcome (Option ℕ) :=
  match parsed.hostinfo.2 with
  | none => .ok none
  | some port =>
    if port.all Regex.asciiDigit then
      if Nat.ofDigitChars 10 port 0 ≤ 65535 then .ok (some (Nat.ofDigitChars 10 port 0))
      else .error (.valueError "Port out of range 0-65535")
    else
      .error (.valueError ("Port could not be cast to integer value as " ++
        Json.stringRepr (.ofList port)))

end SplitResult

/-! ## Putting a URL together -/

/-- `uses_netloc`. -/
def usesNetloc : List String :=
  ["", "ftp", "http", "gopher", "nntp", "telnet", "imap", "wais", "file", "mms", "https", "shttp",
    "snews", "prospero", "rtsp", "rtsps", "rtspu", "rsync", "svn", "svn+ssh", "sftp", "nfs", "git",
    "git+ssh", "ws", "wss"]

/-- `urlunsplit`. -/
def urlunsplit (parts : SplitResult) : List Char :=
  let url :=
    if !parts.netloc.isEmpty ||
        (!parts.scheme.isEmpty && usesNetloc.contains (.ofList parts.scheme)) ||
        ['/', '/'].isPrefixOf parts.path then
      let path :=
        if !parts.path.isEmpty && parts.path.head? != some '/' then '/' :: parts.path
        else parts.path
      '/' :: '/' :: (parts.netloc ++ path)
    else parts.path
  let url := if parts.scheme.isEmpty then url else parts.scheme ++ ':' :: url
  let url := if parts.query.isEmpty then url else url ++ '?' :: parts.query
  if parts.fragment.isEmpty then url else url ++ '#' :: parts.fragment

/-! ## The parts of a URL -/

section Parts

variable [Nfkc]

/-- What the parts of a URL that was taken apart hold, and how they are cut. -/
structure SplitResult.WellFormed (parsed : SplitResult) : Prop where
  netloc : ∀ c ∈ parsed.netloc, endsNetloc c = false ∧ isRemoved c = false
  brackets : checkBrackets parsed.netloc = .ok ()
  normal : ∀ c ∈ parsed.netloc, expands c = false
  path : ∀ c ∈ parsed.path, c ≠ '?' ∧ c ≠ '#' ∧ isRemoved c = false
  rooted : parsed.netloc ≠ [] → parsed.path = [] ∨ ∃ rest, parsed.path = '/' :: rest
  query : ∀ c ∈ parsed.query, c ≠ '#' ∧ isRemoved c = false

omit [Unicode] [Nfkc] in
theorem splitNetloc_subset (url : List Char) :
    (splitNetloc url).1 ⊆ url ∧ (splitNetloc url).2 ⊆ url := by
  unfold splitNetloc
  split
  next rest =>
    have inside : rest ⊆ '/' :: '/' :: rest := fun c member => by simp [member]
    exact ⟨List.Subset.trans (List.takeWhile_prefix _).subset inside,
      List.Subset.trans (List.dropWhile_suffix _).subset inside⟩
  · exact ⟨List.nil_subset url, List.Subset.refl url⟩

omit [Unicode] [Nfkc] in
/-- An authority stops at the first delimiter. -/
theorem splitNetloc_stops (url : List Char) :
    (∀ c ∈ (splitNetloc url).1, endsNetloc c = false) ∧
      ((splitNetloc url).1 ≠ [] →
        ∀ c ∈ (splitNetloc url).2.head?, endsNetloc c = true) := by
  unfold splitNetloc
  split
  next rest =>
    refine ⟨fun c member => ?_, fun _ c first => ?_⟩
    · simpa using List.mem_takeWhile_imp member
    · have stops := List.head?_dropWhile_not (fun c => !endsNetloc c) rest
      rw [Option.mem_def.mp first] at stops
      simpa using stops
  · exact ⟨fun c member => absurd member List.not_mem_nil, fun authority => absurd rfl authority⟩

omit [Unicode] in
theorem checkNetloc_ok {netloc : List Char} :
    checkNetloc netloc = .ok () ↔ ∀ c ∈ netloc, expands c = false := by
  unfold checkNetloc
  cases expanding : netloc.any expands with
  | true =>
    obtain ⟨c, member, expands⟩ := List.any_eq_true.mp expanding
    simp only [if_true, reduceCtorEq, false_iff, not_forall]
    exact ⟨c, member, by simp [expands]⟩
  | false =>
    simp only [Bool.false_eq_true, if_false, true_iff]
    exact fun c member => by simpa using List.any_eq_false.mp expanding c member

omit [Nfkc] in
theorem splitScheme_subset (url : List Char) : (splitScheme url).2 ⊆ url := by
  unfold splitScheme
  rcases Separators.partition_cases ':' url with ⟨-, taken⟩ | ⟨x, y, -, rfl, taken⟩
  · rw [taken]
    exact List.Subset.refl url
  · rw [taken]
    simp only
    split
    · exact fun c member => by simp [member]
    · exact List.Subset.refl _

omit [Unicode] [Nfkc] in
theorem not_mem_cut_fst (sep : Char) (url : List Char) : sep ∉ (cut sep url).1 :=
  Separators.partition_fst_free sep url

omit [Unicode] [Nfkc] in
theorem cut_subset (sep : Char) (url : List Char) : (cut sep url).1 ⊆ url ∧ (cut sep url).2 ⊆ url :=
  ⟨Separators.partition_fst_subset sep url, Separators.partition_snd_subset sep url⟩

omit [Unicode] [Nfkc] in
/-- A path that follows an authority starts with a slash, or there is none. -/
theorem rooted_of_starts {tail : List Char} (starts : ∀ c ∈ tail.head?, endsNetloc c = true) :
    (cut '?' (cut '#' tail).1).1 = [] ∨ ∃ rest, (cut '?' (cut '#' tail).1).1 = '/' :: rest := by
  cases tail with
  | nil => exact .inl rfl
  | cons d rest =>
    have first := starts d rfl
    simp only [endsNetloc, Bool.or_eq_true, beq_iff_eq] at first
    rcases first with (rfl | rfl) | rfl
    · exact .inr ⟨_, rfl⟩
    · exact .inl rfl
    · exact .inl rfl

/-- What is cut at the delimiters is well-formed. -/
theorem wellFormed_of_urlsplit {url : List Char} {parsed : SplitResult}
    (split : urlsplit url = .ok parsed) : parsed.WellFormed := by
  unfold urlsplit at split
  have clean : ∀ c ∈ (url.dropWhile isControlOrSpace).filter (!isRemoved ·),
      isRemoved c = false := fun c member => by simpa using (List.mem_filter.mp member).2
  generalize (url.dropWhile isControlOrSpace).filter (!isRemoved ·) = text at split clean
  obtain ⟨brackets, split⟩ := Outcome.check_ok.mp split
  obtain ⟨normal, split⟩ := Outcome.check_ok.mp split
  obtain rfl := Except.ok.inj split
  obtain ⟨authority, rest⟩ := splitNetloc_subset (splitScheme text).2
  obtain ⟨stops, starts⟩ := splitNetloc_stops (splitScheme text).2
  have tail : (cut '#' (splitNetloc (splitScheme text).2).2).1 ⊆ text := fun c member =>
    splitScheme_subset text (rest ((cut_subset '#' _).1 member))
  have unfragmented := not_mem_cut_fst '#' (splitNetloc (splitScheme text).2).2
  refine ⟨fun c member => ⟨stops c member, clean c (splitScheme_subset text (authority member))⟩,
    brackets, checkNetloc_ok.mp normal, fun c member => ?_, fun located => ?_,
    fun c member => ?_⟩
  · refine ⟨?_, ?_, clean c (tail ((cut_subset '?' _).1 member))⟩
    · rintro rfl
      exact not_mem_cut_fst '?' _ member
    · rintro rfl
      exact unfragmented ((cut_subset '?' _).1 member)
  · exact rooted_of_starts (starts located)
  · refine ⟨?_, clean c (tail ((cut_subset '?' _).2 member))⟩
    rintro rfl
    exact unfragmented ((cut_subset '?' _).2 member)

/-! ## Taking apart what was put together -/

/-- `https`. -/
def https : List Char := ['h', 't', 't', 'p', 's']

/-- A URL of an authority and of what follows it, with no fragment, is taken apart into them. -/
theorem urlsplit_https {netloc rest : List Char}
    (authority : ∀ c ∈ netloc, endsNetloc c = false ∧ isRemoved c = false)
    (tail : ∀ c ∈ rest, c ≠ '#' ∧ isRemoved c = false) :
    urlsplit (https ++ ':' :: '/' :: '/' :: (netloc ++ '/' :: rest)) = do
      checkBrackets netloc
      checkNetloc netloc
      return ⟨https, netloc, (cut '?' ('/' :: rest)).1, (cut '?' ('/' :: rest)).2, []⟩ := by
  have kept : ((https ++ ':' :: '/' :: '/' :: (netloc ++ '/' :: rest)).dropWhile
      isControlOrSpace).filter (!isRemoved ·) =
        https ++ ':' :: '/' :: '/' :: (netloc ++ '/' :: rest) := by
    have first : (https ++ ':' :: '/' :: '/' :: (netloc ++ '/' :: rest)).dropWhile
        isControlOrSpace = https ++ ':' :: '/' :: '/' :: (netloc ++ '/' :: rest) :=
      List.dropWhile_cons_of_neg (by decide)
    rw [first, List.filter_eq_self]
    have start : ∀ c ∈ https, isRemoved c = false := by simp [https, isRemoved]
    intro c member
    rw [Bool.not_eq_true']
    simp only [List.mem_append, List.mem_cons] at member
    rcases member with scheme | rfl | rfl | rfl | inside | rfl | later
    · exact start c scheme
    · rfl
    · rfl
    · rfl
    · exact (authority c inside).2
    · rfl
    · exact (tail c later).2
  have scheme : splitScheme (https ++ ':' :: '/' :: '/' :: (netloc ++ '/' :: rest)) =
      (https, '/' :: '/' :: (netloc ++ '/' :: rest)) := by
    unfold splitScheme
    rw [Separators.partition_append (by decide)]
    rfl
  have located : splitNetloc ('/' :: '/' :: (netloc ++ '/' :: rest)) = (netloc, '/' :: rest) := by
    have inside : ∀ c ∈ netloc, (!endsNetloc c) = true := fun c member => by
      rw [(authority c member).1]
      rfl
    simp only [splitNetloc, List.takeWhile_append_of_pos inside,
      List.dropWhile_append_of_pos inside]
    simp [endsNetloc]
  have unfragmented : cut '#' ('/' :: rest) = ('/' :: rest, []) := by
    have free : '#' ∉ '/' :: rest := by
      intro member
      rcases List.mem_cons.mp member with wrong | later
      · cases wrong
      · exact (tail '#' later).1 rfl
    simp only [cut, Separators.partition_of_not_mem free, Option.getD_none]
  unfold urlsplit components
  rw [kept, scheme, located, unfragmented]

/-! ## Hosts -/

omit [Unicode] [Nfkc] in
/-- No user information, and no bracket, before a host. -/
theorem plain_netloc {parsed : SplitResult} (unnamed : '@' ∉ parsed.netloc)
    (unbracketed : '[' ∉ parsed.netloc) :
    parsed.username = none ∧ parsed.password = none ∧
      parsed.hostinfo = ((partition ':' parsed.netloc).1,
        (partition ':' parsed.netloc).2.filter (!·.isEmpty)) := by
  have whole := Separators.rpartition_of_not_mem unnamed
  have open' := Separators.partition_of_not_mem unbracketed
  simp only [SplitResult.username, SplitResult.password, SplitResult.userinfo,
    SplitResult.hostinfo, SplitResult.splitHostinfo, whole, open', and_self]

omit [Nfkc] in
theorem checkBrackets_ok {netloc : List Char} (checked : checkBrackets netloc = .ok ()) :
    '[' ∈ netloc ↔ ']' ∈ netloc := by
  unfold checkBrackets at checked
  split at checked
  · cases checked
  next matched =>
    rw [← List.contains_iff_mem, ← List.contains_iff_mem, eq_iff_iff.symm]
    simpa using matched

/-- The host of a URL without user information holds neither an at sign nor a closing
bracket. -/
theorem SplitResult.WellFormed.host_chars {parsed : SplitResult} (formed : parsed.WellFormed)
    (username : parsed.username.getD [] = []) (password : parsed.password.getD [] = []) :
    ∀ c ∈ parsed.hostinfo.1, c ∈ parsed.netloc ∧ c ≠ '@' ∧ c ≠ ']' := by
  have matched := checkBrackets_ok formed.brackets
  -- what stands before the host is too short for a bracket
  obtain ⟨located, free, closed⟩ : (rpartition '@' parsed.netloc).2 ⊆ parsed.netloc ∧
      '@' ∉ (rpartition '@' parsed.netloc).2 ∧
      ('[' ∉ (rpartition '@' parsed.netloc).2 → ']' ∉ (rpartition '@' parsed.netloc).2) := by
    rcases Separators.rpartition_cases '@' parsed.netloc with
      ⟨free, taken⟩ | ⟨user, host, free, whole, taken⟩
    · rw [taken]
      exact ⟨List.Subset.refl _, free, fun unopened closing => unopened (matched.mpr closing)⟩
    · rw [taken]
      refine ⟨fun c member => by simp [whole, member], free, fun unopened closing => ?_⟩
      simp only [SplitResult.username, SplitResult.password, SplitResult.userinfo, taken,
        Option.getD_some] at username password
      have opening : '[' ∈ parsed.netloc := matched.mpr (by simp [whole, closing])
      rw [whole] at opening
      have early : '[' ∈ user := by
        rcases List.mem_append.mp opening with early | late
        · exact early
        · rcases List.mem_cons.mp late with wrong | late
          · cases wrong
          · exact absurd late unopened
      rcases Separators.partition_cases ':' user with ⟨-, parts⟩ | ⟨x, y, -, rfl, parts⟩
      · rw [parts] at username
        simp only at username
        simp [username] at early
      · rw [parts] at username password
        simp only [Option.getD_some] at username password
        simp [username, password] at early
  intro c member
  unfold SplitResult.hostinfo SplitResult.splitHostinfo at member
  generalize (rpartition '@' parsed.netloc).2 = hostinfo at *
  rcases Separators.partition_cases '[' hostinfo with
    ⟨unopened, taken⟩ | ⟨x, bracketed, -, whole, taken⟩
  · simp only [taken] at member
    have inside := Separators.partition_fst_subset ':' hostinfo member
    refine ⟨located inside, ?_, ?_⟩
    · rintro rfl
      exact free inside
    · rintro rfl
      exact closed unopened inside
  · simp only [taken] at member
    have inside : c ∈ hostinfo := by
      rw [whole]
      simp [Separators.partition_fst_subset ']' bracketed member]
    refine ⟨located inside, ?_, ?_⟩
    · rintro rfl
      exact free inside
    · rintro rfl
      exact Separators.partition_fst_free ']' bracketed member

omit [Nfkc] in
theorem mem_lowerHost {host : List Char} {c : Char} (member : c ∈ SplitResult.lowerHost host) :
    ∃ d ∈ host, c = d ∨ c ∈ Unicode.lower d := by
  unfold SplitResult.lowerHost at member
  rcases Separators.partition_cases '%' host with ⟨-, taken⟩ | ⟨x, zone, -, rfl, taken⟩
  · simp only [taken] at member
    obtain ⟨d, inside, lowered⟩ := List.mem_flatMap.mp member
    exact ⟨d, inside, .inr lowered⟩
  · simp only [taken] at member
    rcases List.mem_append.mp member with early | late
    · obtain ⟨d, inside, lowered⟩ := List.mem_flatMap.mp early
      exact ⟨d, List.mem_append_left _ inside, .inr lowered⟩
    · exact ⟨c, List.mem_append_right _ late, .inl rfl⟩

omit [Nfkc] in
/-- A text of characters that are their own lower case is lowered to itself. -/
theorem lowerChars_of_stable {s : List Char} (stable : ∀ c ∈ s, Unicode.lower c = [c]) :
    Text.lowerChars s = s := by
  unfold Text.lowerChars
  calc s.flatMap Unicode.lower = s.flatMap fun c => [c] := List.flatMap_congr stable
    _ = s := List.flatMap_singleton' s

omit [Nfkc] in
theorem lowerHost_of_stable {host : List Char} (stable : ∀ c ∈ host, Unicode.lower c = [c]) :
    SplitResult.lowerHost host = host := by
  unfold SplitResult.lowerHost
  rcases Separators.partition_cases '%' host with ⟨-, taken⟩ | ⟨x, zone, -, rfl, taken⟩
  · simp only [taken]
    exact lowerChars_of_stable stable
  · simp only [taken]
    rw [lowerChars_of_stable fun c member => stable c (List.mem_append_left _ member)]

/-! ## Lower case -/

/-- What the Unicode database says of lower case past ASCII: it is its own lower case, a
character of ASCII in it is a letter, and it brings in no delimiter. -/
structure CaseLaws : Prop where
  lowered : ∀ c d, Unicode.isAscii c = false → d ∈ Unicode.lowered c → Unicode.lower d = [d]
  letter : ∀ c d, Unicode.isAscii c = false → d ∈ Unicode.lowered c →
    Unicode.isAscii d = true → isLetter d = true
  expands : ∀ c d, Unicode.isAscii c = false → Nfkc.delimits c = false →
    d ∈ Unicode.lowered c → expands d = false

omit [Unicode] [Nfkc] in
/-- A decidable fact of the characters of ASCII. -/
theorem ascii_of_all {p : Char → Prop} (each : ∀ n : Fin 128, p (Char.ofNat n)) {c : Char}
    (ascii : Unicode.isAscii c = true) : p c := by
  have bounded : c.toNat < 128 := of_decide_eq_true ascii
  have here := each ⟨c.toNat, bounded⟩
  rwa [Char.ofNat_toNat] at here

omit [Nfkc] in
theorem lower_of_ascii {c : Char} (ascii : Unicode.isAscii c = true) :
    Unicode.lower c = [c.toLower] := by
  rw [Unicode.lower, if_pos ascii]

variable (laws : CaseLaws) {c d : Char}

include laws

/-- A lower-case character is its own lower case. -/
theorem CaseLaws.lower_lower (member : d ∈ Unicode.lower c) : Unicode.lower d = [d] := by
  cases ascii : Unicode.isAscii c with
  | true =>
    rw [lower_of_ascii ascii, List.mem_singleton] at member
    rw [member]
    have stays : Unicode.isAscii c.toLower = true ∧ c.toLower.toLower = c.toLower :=
      ascii_of_all (p := fun c => Unicode.isAscii c.toLower = true ∧
        c.toLower.toLower = c.toLower) (by decide) ascii
    rw [lower_of_ascii stays.1, stays.2]
  | false =>
    rw [Unicode.lower, ascii, if_neg Bool.false_ne_true] at member
    exact laws.lowered c d ascii member

/-- No lower case is a character of ASCII other than a letter, but that character itself. -/
theorem CaseLaws.eq_of_lower (member : d ∈ Unicode.lower c) (ascii' : Unicode.isAscii d = true)
    (sign : isLetter d = false) : c = d := by
  cases ascii : Unicode.isAscii c with
  | true =>
    rw [lower_of_ascii ascii, List.mem_singleton] at member
    subst member
    have same : isLetter c.toLower = false → c = c.toLower :=
      ascii_of_all (p := fun c => isLetter c.toLower = false → c = c.toLower) (by decide) ascii
    exact same sign
  | false =>
    rw [Unicode.lower, ascii, if_neg Bool.false_ne_true] at member
    rw [laws.letter c d ascii member ascii'] at sign
    cases sign

theorem CaseLaws.expands_lower (solid : Urls.expands c = false) (member : d ∈ Unicode.lower c) :
    Urls.expands d = false := by
  cases ascii : Unicode.isAscii c with
  | true =>
    rw [lower_of_ascii ascii, List.mem_singleton] at member
    have stays : Unicode.isAscii c.toLower = true :=
      ascii_of_all (p := fun c => Unicode.isAscii c.toLower = true) (by decide) ascii
    rw [member, Urls.expands, stays]
    rfl
  | false =>
    rw [Unicode.lower, ascii, if_neg Bool.false_ne_true] at member
    rw [Urls.expands, ascii, Bool.not_false, Bool.true_and] at solid
    exact laws.expands c d ascii solid member

end Parts

end Urls

end Darasa
