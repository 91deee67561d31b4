import Darasa.Runtime.Urls
import Mathlib.Data.List.DropRight

/-!
Source URLs: which of those that are accepted come back as one that is accepted again.

A URL is taken apart, its host is checked against the approved domains, and a URL is put
together again of the host as it was checked, the port, the path and the query.  The text
that is stored is the second, so what it is read as is what counts.
-/

namespace Darasa.Curriculum

open Darasa (IpAddress Nfkc Outcome Exn Unicode refuseIf requireSome)
open Darasa.Urls (SplitResult urlsplit urlunsplit https)
open Separators (partition)

section

variable [Unicode]

/-! ## Hosts -/

/-- `METADATA_HOSTS`. -/
def metadataHosts : List String := ["169.254.169.254"]

/-- `INTERNAL_HOSTS`. -/
def internalHosts : List String := ["localhost", "metadata", "metadata.google.internal"]

/-- `_normalize_host`. -/
def normalizeHost (host : List Char) : List Char :=
  (Text.lowerChars (Text.stripChars host)).rdropWhile (· == '.')

/-- `host.strip("[]")`. -/
def stripBrackets (host : List Char) : List Char :=
  (host.dropWhile fun c => c == '[' || c == ']').rdropWhile fun c => c == '[' || c == ']'

/-- `str(address) in METADATA_HOSTS`. -/
def isMetadata : IpAddress → Bool
  | .v4 ip => metadataHosts.contains (IpAddress.textV4 ip)
  -- an IPv6 address is written with colons, and no metadata host has one
  | .v6 _ _ => false

/-- An address of an internal network. -/
def isInternal (address : IpAddress) : Bool :=
  address.isLoopback || address.isPrivate || address.isLinkLocal || address.isMulticast ||
    address.isReserved || address.isUnspecified

/-- A name that is internal whatever is approved. -/
def isInternalName (host : List Char) : Bool :=
  internalHosts.contains (.ofList host) || ".local".toList.isSuffixOf host

/-- The approved domains, normalised. -/
def allowedHosts (allowedDomains : List (List Char)) : List (List Char) :=
  (allowedDomains.filter fun domain => !(Text.stripChars domain).isEmpty).map normalizeHost

/-- The checks `validate_host` makes of a host that is an address. -/
def refuseInternal : Option IpAddress → Outcome Unit
  | none => .ok ()
  | some address => do
    refuseIf (isMetadata address) "source_url" "Metadata endpoints are not allowed."
    refuseIf (isInternal address) "source_url" "Internal network addresses are not allowed."

/-- `validate_host`. -/
def validateHost (host : List Char) (allowedDomains : List (List Char)) :
    Outcome (List Char) := do
  let normalizedHost := normalizeHost host
  let allowed := allowedHosts allowedDomains
  refuseIf normalizedHost.isEmpty "source_url" "Source host is required."
  refuseIf (isInternalName normalizedHost) "source_url" "Internal hosts are not allowed."
  refuseIf allowed.isEmpty "allowed_domains" "Allowed domains are required."
  refuseInternal (IpAddress.ipAddress (stripBrackets normalizedHost))
  refuseIf (!allowed.contains normalizedHost) "source_url" "Source host is not approved."
  return normalizedHost

/-- A host the guard lets through: an approved domain that is neither an internal name nor an
internal address. -/
structure Approved (allowedDomains : List (List Char)) (host : List Char) : Prop where
  nonempty : host ≠ []
  named : isInternalName host = false
  listed : host ∈ allowedHosts allowedDomains
  outside : ∀ address, IpAddress.ipAddress (stripBrackets host) = some address →
    isMetadata address = false ∧ isInternal address = false

omit [Unicode] in
theorem refuseInternal_ok {found : Option IpAddress} : refuseInternal found = .ok () ↔
    ∀ address, found = some address → isMetadata address = false ∧ isInternal address = false := by
  cases found with
  | none => simp [refuseInternal]
  | some address =>
    simp only [refuseInternal, Outcome.check_ok, Darasa.refuseIf_ok, Option.some.injEq,
      forall_eq']

/-- The guard returns the normalised host, and only an approved one. -/
theorem validateHost_ok {host returned : List Char} {allowedDomains : List (List Char)} :
    validateHost host allowedDomains = .ok returned ↔
      Approved allowedDomains (normalizeHost host) ∧ returned = normalizeHost host := by
  unfold validateHost
  generalize normalizeHost host = host
  simp only [Outcome.check_ok, Darasa.refuseIf_ok, refuseInternal_ok]
  constructor
  · rintro ⟨nonempty, named, -, outside, listed, same⟩
    obtain rfl := Except.ok.inj same
    exact ⟨⟨by simpa using nonempty, named, by simpa using listed, outside⟩, rfl⟩
  · rintro ⟨approved, rfl⟩
    have some_domain := List.ne_nil_of_mem approved.listed
    exact ⟨by simpa using approved.nonempty, approved.named, by simpa using some_domain,
      approved.outside, by simpa using approved.listed, rfl⟩

/-! ## Source URLs -/

/-- `parsed.port`, a `ValueError` raised again as a validation error. -/
def portOf (parsed : SplitResult) : Outcome (Option ℕ) :=
  match parsed.port with
  | .ok port => .ok port
  | .error (.valueError _) => .error (.validationError "source_url" "Invalid source URL port.")
  | .error e => .error e

/-- `parsed.path or "/"`. -/
def keptPath (parsed : SplitResult) : List Char :=
  if parsed.path.isEmpty then ['/'] else parsed.path

/-- `host`, or `f"{host}:{port}"` if there is a port. -/
def withPort (host : List Char) (port : Option ℕ) : List Char :=
  if port.getD 0 = 0 then host else host ++ ':' :: (toString (port.getD 0)).toList

/-- `validate_source_url`. -/
def validateSourceUrl [Nfkc] (sourceUrl : List Char) (allowedDomains : List (List Char)) :
    Outcome (List Char) := do
  let value := Text.stripChars sourceUrl
  refuseIf value.isEmpty "source_url" "Source URL is required."
  let parsed ← urlsplit value
  refuseIf (Text.lowerChars parsed.scheme != https) "source_url" "HTTPS source URLs are required."
  let hostname ← requireSome (parsed.hostname.filter (!·.isEmpty)) "source_url"
    "Malformed source URL."
  refuseIf (!(parsed.username.getD []).isEmpty || !(parsed.password.getD []).isEmpty) "source_url"
    "Credentialed source URLs are not allowed."
  let host ← validateHost hostname allowedDomains
  let port ← portOf parsed
  refuseIf (port.any fun port => port != 0 && port != 443) "source_url"
    "Only the canonical HTTPS port is allowed."
  return urlunsplit ⟨Text.lowerChars parsed.scheme, withPort host port, keptPath parsed,
    parsed.query, []⟩

/-! ## What is accepted -/

section Accepted

/-- What is kept of the path and the query. -/
def kept (parsed : SplitResult) : List Char :=
  keptPath parsed ++ if parsed.query.isEmpty then [] else '?' :: parsed.query

/-- The authority of a host, with the port or without. -/
def authority (host : List Char) (written : Bool) : List Char :=
  host ++ if written then [':', '4', '4', '3'] else []

omit [Unicode] in
@[simp] theorem authority_false (host : List Char) : authority host false = host :=
  List.append_nil host

/-- A URL of an authority and of what follows it. -/
def urlText (netloc rest : List Char) : List Char := https ++ ':' :: '/' :: '/' :: (netloc ++ rest)

/-- The port is the canonical one and is written, or there is none to write. -/
def IsWritten (written : Bool) (port : Option ℕ) : Prop :=
  if written then port = some 443 else port = none ∨ port = some 0

/-- The parts a source URL is accepted for, and whether its port is written. -/
structure AcceptedUrl [Nfkc] (sourceUrl : List Char) (allowedDomains : List (List Char))
    (parsed : SplitResult) (hostname : List Char) (written : Bool) : Prop where
  split : urlsplit (Text.stripChars sourceUrl) = .ok parsed
  scheme : Text.lowerChars parsed.scheme = https
  named : parsed.hostname = some hostname
  username : parsed.username.getD [] = []
  password : parsed.password.getD [] = []
  approved : Approved allowedDomains (normalizeHost hostname)
  port : ∃ port, parsed.port = .ok port ∧ IsWritten written port

theorem portOf_ok {parsed : SplitResult} {port : Option ℕ} :
    portOf parsed = .ok port ↔ parsed.port = .ok port := by
  unfold portOf
  split
  next same => rw [same]
  next failed => simp [failed]
  next failed => simp [failed]

/-- A host of nothing is not approved. -/
theorem hostname_ne_nil {host : List Char} {allowedDomains : List (List Char)}
    (approved : Approved allowedDomains (normalizeHost host)) : host ≠ [] := by
  rintro rfl
  exact approved.nonempty rfl

omit [Unicode] in
theorem keptPath_slash {parsed : SplitResult}
    (rooted : parsed.path = [] ∨ ∃ rest, parsed.path = '/' :: rest) :
    ∃ rest, keptPath parsed = '/' :: rest ∧ ∀ c ∈ rest, c ∈ parsed.path := by
  rcases rooted with empty | ⟨rest, slash⟩
  · exact ⟨[], by simp [keptPath, empty], by simp⟩
  · exact ⟨rest, by simp [keptPath, slash], by simp +contextual [slash]⟩

omit [Unicode] in
/-- What is put together of an authority and the parts that are kept. -/
theorem urlunsplit_kept {parsed : SplitResult} {netloc : List Char} (located : netloc ≠ [])
    (rooted : parsed.path = [] ∨ ∃ rest, parsed.path = '/' :: rest) :
    urlunsplit ⟨https, netloc, keptPath parsed, parsed.query, []⟩ =
      urlText netloc (kept parsed) := by
  obtain ⟨rest, path, -⟩ := keptPath_slash rooted
  unfold kept urlunsplit urlText
  rw [path]
  cases parsed.query with
  | nil => simp [located, https]
  | cons c query => simp [located, https]

theorem netloc_ne_nil {parsed : SplitResult} {hostname : List Char}
    (named : parsed.hostname = some hostname) : parsed.netloc ≠ [] := by
  intro empty
  have nothing : parsed.hostinfo.1 = [] := by
    simp [SplitResult.hostinfo, SplitResult.splitHostinfo, Separators.rpartition,
      Separators.partition, empty]
  simp [SplitResult.hostname, nothing] at named

variable [Nfkc]

theorem AcceptedUrl.rooted {sourceUrl hostname : List Char} {allowedDomains : List (List Char)}
    {parsed : SplitResult} {written : Bool}
    (accepted : AcceptedUrl sourceUrl allowedDomains parsed hostname written) :
    parsed.path = [] ∨ ∃ rest, parsed.path = '/' :: rest :=
  (Urls.wellFormed_of_urlsplit accepted.split).rooted (netloc_ne_nil accepted.named)

omit [Unicode] [Nfkc] in
/-- The ports that are let through. -/
theorem canonical_port {port : Option ℕ} :
    port.any (fun port => port != 0 && port != 443) = false ↔ ∃ written, IsWritten written port := by
  cases port with
  | none => simp [IsWritten]
  | some port =>
    by_cases zero : port = 0
    · simp [zero, IsWritten]
    · simp [zero, IsWritten]

omit [Unicode] [Nfkc] in
theorem withPort_of_written {written : Bool} {port : Option ℕ} (host : List Char)
    (either : IsWritten written port) : withPort host port = authority host written := by
  cases written with
  | true =>
    obtain rfl : port = some 443 := either
    rfl
  | false =>
    rcases either with rfl | rfl
    · simp [withPort, authority]
    · simp [withPort, authority]

/-- A source URL is accepted for its parts, and what is returned is put together of them. -/
theorem validate_ok {sourceUrl returned : List Char} {allowedDomains : List (List Char)} :
    validateSourceUrl sourceUrl allowedDomains = .ok returned ↔
      ∃ parsed hostname written, AcceptedUrl sourceUrl allowedDomains parsed hostname written ∧
        returned = urlText (authority (normalizeHost hostname) written) (kept parsed) := by
  unfold validateSourceUrl
  constructor
  · intro checked
    obtain ⟨-, checked⟩ := Outcome.check_ok.mp checked
    obtain ⟨parsed, split, checked⟩ := Outcome.bind_ok.mp checked
    obtain ⟨scheme, checked⟩ := Outcome.check_ok.mp checked
    obtain ⟨hostname, named, checked⟩ := Outcome.bind_ok.mp checked
    obtain ⟨unnamed, checked⟩ := Outcome.check_ok.mp checked
    obtain ⟨host, guarded, checked⟩ := Outcome.bind_ok.mp checked
    obtain ⟨port, ported, checked⟩ := Outcome.bind_ok.mp checked
    obtain ⟨canonical, checked⟩ := Outcome.check_ok.mp checked
    obtain ⟨approved, rfl⟩ := validateHost_ok.mp guarded
    obtain ⟨written, either⟩ := canonical_port.mp (Darasa.refuseIf_ok.mp canonical)
    have scheme : Text.lowerChars parsed.scheme = https := by
      simpa using Darasa.refuseIf_ok.mp scheme
    have named := (Option.filter_eq_some_iff.mp (Darasa.requireSome_ok.mp named)).1
    have unnamed := Darasa.refuseIf_ok.mp unnamed
    simp only [Bool.or_eq_false_iff, Bool.not_eq_false', List.isEmpty_iff] at unnamed
    have accepted : AcceptedUrl sourceUrl allowedDomains parsed hostname written :=
      ⟨split, scheme, named, unnamed.1, unnamed.2, approved, port, portOf_ok.mp ported, either⟩
    refine ⟨parsed, hostname, written, accepted, ?_⟩
    rw [← Except.ok.inj checked, scheme, withPort_of_written _ either]
    exact urlunsplit_kept (by simp [authority, approved.nonempty]) accepted.rooted
  · rintro ⟨parsed, hostname, written, accepted, rfl⟩
    obtain ⟨port, ported, either⟩ := accepted.port
    have value : Text.stripChars sourceUrl ≠ [] := by
      intro empty
      have split := accepted.split
      rw [empty] at split
      obtain rfl := Except.ok.inj split
      cases accepted.scheme
    have named : parsed.hostname.filter (!·.isEmpty) = some hostname := by
      simp [accepted.named, hostname_ne_nil accepted.approved]
    refine Outcome.check_ok.mpr ⟨by simpa using value, Outcome.bind_ok.mpr ⟨parsed,
      accepted.split, Outcome.check_ok.mpr ⟨by simpa using accepted.scheme, Outcome.bind_ok.mpr
        ⟨hostname, Darasa.requireSome_ok.mpr named, Outcome.check_ok.mpr
          ⟨by simp [accepted.username, accepted.password], Outcome.bind_ok.mpr
            ⟨_, validateHost_ok.mpr ⟨accepted.approved, rfl⟩, Outcome.bind_ok.mpr ⟨port,
              portOf_ok.mpr ported, Outcome.check_ok.mpr
                ⟨Darasa.refuseIf_ok.mpr (canonical_port.mpr ⟨written, either⟩), ?_⟩⟩⟩⟩⟩⟩⟩⟩
    rw [accepted.scheme, withPort_of_written _ either]
    exact congrArg Except.ok (urlunsplit_kept
      (by simp [authority, accepted.approved.nonempty]) accepted.rooted)

/-! ## The authority that is written -/

omit [Nfkc] in
theorem mem_normalizeHost {host : List Char} {c : Char} (member : c ∈ normalizeHost host) :
    ∃ d ∈ host, c ∈ Unicode.lower d := by
  have lowered : c ∈ Text.lowerChars (Text.stripChars host) :=
    (List.rdropWhile_prefix _ _).subset member
  obtain ⟨d, inside, lower⟩ := List.mem_flatMap.mp lowered
  refine ⟨d, ?_, lower⟩
  have trimmed := (List.dropWhile_suffix _).subset (List.mem_reverse.mp inside)
  exact (List.dropWhile_suffix _).subset (List.mem_reverse.mp trimmed)

/-- The parts of a source URL that was accepted, and the laws of lower case. -/
structure LawfulUrl (sourceUrl : List Char) (allowedDomains : List (List Char))
    (parsed : SplitResult) (hostname : List Char) (written : Bool) : Prop extends
    AcceptedUrl sourceUrl allowedDomains parsed hostname written where
  laws : Urls.CaseLaws

section Lawful

variable {sourceUrl hostname : List Char} {allowedDomains : List (List Char)}
  {parsed : SplitResult} {written : Bool}
  (lawful : LawfulUrl sourceUrl allowedDomains parsed hostname written)

include lawful

/-- A character of the host is the lower case of one of the authority. -/
theorem LawfulUrl.host_char {c : Char} (member : c ∈ normalizeHost hostname) :
    ∃ d ∈ parsed.netloc, d ≠ '@' ∧ d ≠ ']' ∧ c ∈ Unicode.lower d := by
  have formed := Urls.wellFormed_of_urlsplit lawful.split
  have named := lawful.named
  simp only [SplitResult.hostname] at named
  split at named
  · cases named
  obtain rfl := Option.some.inj named
  obtain ⟨middle, inside, lower⟩ := mem_normalizeHost member
  obtain ⟨d, source, either⟩ := Urls.mem_lowerHost inside
  obtain ⟨located, unnamed, closed⟩ :=
    formed.host_chars lawful.username lawful.password d source
  refine ⟨d, located, unnamed, closed, ?_⟩
  rcases either with rfl | lowered
  · exact lower
  · rw [lawful.laws.lower_lower lowered, List.mem_singleton] at lower
    rwa [lower]

/-- A sign of ASCII in the host is in the authority. -/
theorem LawfulUrl.host_sign {c : Char} (member : c ∈ normalizeHost hostname)
    (ascii : Unicode.isAscii c = true) (sign : Urls.isLetter c = false) :
    c ∈ parsed.netloc ∧ c ≠ '@' ∧ c ≠ ']' := by
  obtain ⟨d, located, unnamed, closed, lower⟩ := lawful.host_char member
  obtain rfl := lawful.laws.eq_of_lower lower ascii sign
  exact ⟨located, unnamed, closed⟩

theorem LawfulUrl.host_stable {c : Char} (member : c ∈ normalizeHost hostname) :
    Unicode.lower c = [c] := by
  obtain ⟨d, -, -, -, lower⟩ := lawful.host_char member
  exact lawful.laws.lower_lower lower

/-- The authority that is written holds no delimiter, no character that is removed, and none
that expands to a delimiter. -/
theorem LawfulUrl.authority_chars {c : Char}
    (member : c ∈ authority (normalizeHost hostname) written) :
    (Urls.endsNetloc c = false ∧ Urls.isRemoved c = false) ∧ c ≠ '@' ∧ c ≠ ']' ∧
      Urls.expands c = false := by
  have formed := Urls.wellFormed_of_urlsplit lawful.split
  rcases List.mem_append.mp member with inside | port
  · refine ⟨⟨?_, ?_⟩, ?_, ?_, ?_⟩
    · cases ends : Urls.endsNetloc c with
      | false => rfl
      | true =>
        have sign : Unicode.isAscii c = true ∧ Urls.isLetter c = false := by
          simp only [Urls.endsNetloc, Bool.or_eq_true, beq_iff_eq] at ends
          rcases ends with (rfl | rfl) | rfl <;> exact ⟨rfl, rfl⟩
        rw [← ends]
        exact (formed.netloc c (lawful.host_sign inside sign.1 sign.2).1).1
    · cases removed : Urls.isRemoved c with
      | false => rfl
      | true =>
        have sign : Unicode.isAscii c = true ∧ Urls.isLetter c = false := by
          simp only [Urls.isRemoved, Bool.or_eq_true, beq_iff_eq] at removed
          rcases removed with (rfl | rfl) | rfl <;> exact ⟨rfl, rfl⟩
        rw [← removed]
        exact (formed.netloc c (lawful.host_sign inside sign.1 sign.2).1).2
    · rintro rfl
      exact (lawful.host_sign inside rfl rfl).2.1 rfl
    · rintro rfl
      exact (lawful.host_sign inside rfl rfl).2.2 rfl
    · obtain ⟨d, located, -, -, lower⟩ := lawful.host_char inside
      exact lawful.laws.expands_lower (formed.normal d located) lower
  · have some_port : c ∈ [':', '4', '4', '3'] := by
      cases written with
      | true => exact port
      | false => cases port
    simp only [List.mem_cons, List.not_mem_nil, or_false] at some_port
    rcases some_port with rfl | rfl | rfl | rfl <;>
      exact ⟨⟨rfl, rfl⟩, by decide, by decide, rfl⟩

/-! ## Reading the authority again -/

/-- An authority with an opening bracket is not read. -/
theorem LawfulUrl.reread_bracket {rest : List Char} (opening : '[' ∈ normalizeHost hostname)
    (tail : ∀ c ∈ rest, c ≠ '#' ∧ Urls.isRemoved c = false) (read : SplitResult) :
    urlsplit (urlText (authority (normalizeHost hostname) written) ('/' :: rest)) ≠ .ok read := by
  rw [urlText, Urls.urlsplit_https (fun c member => (lawful.authority_chars member).1) tail]
  intro split
  have matched := Urls.checkBrackets_ok (Outcome.check_ok.mp split).1
  exact (lawful.authority_chars (matched.mp (List.mem_append_left _ opening))).2.2.1 rfl

/-- Any other is read as it was written. -/
theorem LawfulUrl.reread {rest : List Char} (unopened : '[' ∉ normalizeHost hostname)
    (tail : ∀ c ∈ rest, c ≠ '#' ∧ Urls.isRemoved c = false) :
    urlsplit (urlText (authority (normalizeHost hostname) written) ('/' :: rest)) =
      .ok ⟨https, authority (normalizeHost hostname) written, (Urls.cut '?' ('/' :: rest)).1,
        (Urls.cut '?' ('/' :: rest)).2, []⟩ := by
  rw [urlText, Urls.urlsplit_https (fun c member => (lawful.authority_chars member).1) tail]
  refine Outcome.check_ok.mpr ⟨?_, Outcome.check_ok.mpr ⟨?_, rfl⟩⟩
  · have open' : '[' ∉ authority (normalizeHost hostname) written := by
      intro member
      rcases List.mem_append.mp member with inside | port
      · exact unopened inside
      · cases written with
        | true => exact absurd port (by decide)
        | false => cases port
    have closed : ']' ∉ authority (normalizeHost hostname) written := fun member =>
      (lawful.authority_chars member).2.2.1 rfl
    simp [Urls.checkBrackets, open', closed]
  · exact Urls.checkNetloc_ok.mpr fun c member => (lawful.authority_chars member).2.2.2

end Lawful

/-! ## Reading what follows it -/

/-- What is kept of the path and the query is cut into them again. -/
theorem cut_kept {parsed : SplitResult} (formed : parsed.WellFormed)
    (rooted : parsed.path = [] ∨ ∃ rest, parsed.path = '/' :: rest) :
    ∃ rest, kept parsed = '/' :: rest ∧ (∀ c ∈ rest, c ≠ '#' ∧ Urls.isRemoved c = false) ∧
      Urls.cut '?' ('/' :: rest) = (keptPath parsed, parsed.query) := by
  obtain ⟨path, slash, inside⟩ := keptPath_slash rooted
  have clean : ∀ c ∈ path, c ≠ '?' ∧ c ≠ '#' ∧ Urls.isRemoved c = false := fun c member =>
    formed.path c (inside c member)
  have free : '?' ∉ '/' :: path := by
    intro member
    rcases List.mem_cons.mp member with wrong | later
    · cases wrong
    · exact (clean '?' later).1 rfl
  unfold kept
  rw [slash]
  cases same : parsed.query with
  | nil =>
    refine ⟨path, by simp, fun c member => (clean c member).2, ?_⟩
    rw [Urls.cut, Separators.partition_of_not_mem free]
    rfl
  | cons c query =>
    refine ⟨path ++ '?' :: c :: query, by simp, ?_, ?_⟩
    · intro d member
      rcases List.mem_append.mp member with early | late
      · exact (clean d early).2
      · rcases List.mem_cons.mp late with rfl | late
        · exact ⟨by decide, rfl⟩
        · exact formed.query d (same ▸ late)
    · rw [Urls.cut, ← List.cons_append, Separators.partition_append free]
      rfl

omit [Unicode] [Nfkc] in
/-- What is kept of a path and a query that were cut is the text they were cut from, or less
by a question mark. -/
theorem kept_prefix {scheme netloc fragment rest : List Char} :
    kept ⟨scheme, netloc, (Urls.cut '?' ('/' :: rest)).1, (Urls.cut '?' ('/' :: rest)).2,
      fragment⟩ <+: '/' :: rest := by
  rcases Separators.partition_cases '?' ('/' :: rest) with ⟨-, taken⟩ | ⟨x, y, -, whole, taken⟩
  · simp [kept, keptPath, Urls.cut, taken]
  · simp only [kept, keptPath, Urls.cut, taken, Option.getD_some]
    rw [whole]
    cases x with
    | nil => cases whole
    | cons c x =>
      cases y with
      | nil => simp
      | cons d y => simp

omit [Nfkc] in
theorem trim_slash (rest : List Char) : ('/' :: rest).rdropWhile Unicode.isSpace =
    '/' :: rest.rdropWhile Unicode.isSpace := by
  have slash : Unicode.isSpace '/' = false := rfl
  unfold List.rdropWhile
  rw [List.reverse_cons, List.dropWhile_append]
  cases List.dropWhile Unicode.isSpace rest.reverse with
  | nil => simp [slash]
  | cons c s => simp

omit [Nfkc] in
/-- White space is trimmed off the end of what follows the authority. -/
theorem strip_urlText {netloc rest : List Char} :
    Text.stripChars (urlText netloc ('/' :: rest)) =
      urlText netloc (('/' :: rest).rdropWhile Unicode.isSpace) := by
  have letter : Unicode.isSpace 'h' = false := rfl
  have start : Text.lstripChars (urlText netloc ('/' :: rest)) = urlText netloc ('/' :: rest) :=
    List.dropWhile_cons_of_neg (by simp [letter])
  have regroup : ∀ s, urlText netloc s = (https ++ ':' :: '/' :: '/' :: netloc) ++ s := by
    simp [urlText]
  have solid : (('/' :: rest).reverse.dropWhile Unicode.isSpace).isEmpty = false := by
    have trimmed := congrArg List.reverse (trim_slash rest)
    rw [List.rdropWhile, List.reverse_reverse] at trimmed
    rw [trimmed]
    simp
  unfold Text.stripChars
  rw [start, regroup, regroup, List.reverse_append, Text.lstripChars, List.dropWhile_append,
    solid, if_neg Bool.false_ne_true, List.reverse_append, List.reverse_reverse]
  rfl

/-! ## Source URLs that come back -/

/-- A URL of the form the model of a source promises: HTTPS, an approved host, the canonical
port or none, no user information and no fragment. -/
structure IsSourceUrl (allowedDomains : List (List Char)) (parsed : SplitResult) : Prop where
  scheme : parsed.scheme = https
  host : ∃ host, parsed.hostname = some host ∧ Approved allowedDomains host
  username : parsed.username = none
  password : parsed.password = none
  port : parsed.port = .ok none ∨ parsed.port = .ok (some 443)
  fragment : parsed.fragment = []

/-- The host is the same when it is written without brackets and read again: it has no
colon and no bracket and no white space before its last dots.  One colon may stand in it
where what follows is taken for the canonical port, and what precedes is approved itself. -/
def HostKept (allowedDomains : List (List Char)) (parsed : SplitResult) (host : List Char) :
    Prop :=
  '[' ∉ host ∧ ((':' ∉ host ∧ normalizeHost host = host) ∨
    ∃ name, ':' ∉ name ∧ host = name ++ [':', '4', '4', '3'] ∧
      parsed.port ≠ .ok (some 443) ∧ validateHost name allowedDomains = .ok name)

/-- What is kept of the path and the query does not end in white space. -/
def TailKept (parsed : SplitResult) : Prop :=
  (kept parsed).rdropWhile Unicode.isSpace = kept parsed

/-- The source URL is one that what is returned for it can be read as again. -/
def ComesBack (sourceUrl : List Char) (allowedDomains : List (List Char)) : Prop :=
  ∃ parsed hostname, urlsplit (Text.stripChars sourceUrl) = .ok parsed ∧
    parsed.hostname = some hostname ∧ HostKept allowedDomains parsed (normalizeHost hostname) ∧
    TailKept parsed

omit [Unicode] [Nfkc] in
theorem authority_inj {name name' : List Char} {written written' : Bool} (free : ':' ∉ name)
    (free' : ':' ∉ name') (same : authority name written = authority name' written') :
    name = name' ∧ written = written' := by
  cases written with
  | true =>
    cases written' with
    | true => exact ⟨List.append_cancel_right same, rfl⟩
    | false =>
      rw [authority_false, authority] at same
      exact absurd (by simp [← same]) free'
  | false =>
    cases written' with
    | true =>
      rw [authority_false, authority] at same
      exact absurd (by simp [same]) free
    | false => exact ⟨List.append_cancel_right same, rfl⟩

section Lawful

variable {sourceUrl hostname : List Char} {allowedDomains : List (List Char)}
  {parsed : SplitResult} {written : Bool}
  (lawful : LawfulUrl sourceUrl allowedDomains parsed hostname written)

include lawful

/-- An authority that is a host without a colon, with the port or without, is accepted again
when that host is approved and stays as it is. -/
theorem LawfulUrl.accepted_again {name : List Char} {again : Bool} {read : SplitResult}
    (located : read.netloc = authority (normalizeHost hostname) written)
    (same : read.netloc = authority name again) (free : ':' ∉ name) (unopened : '[' ∉ name)
    (approved : Approved allowedDomains name) (fixed : normalizeHost name = name)
    (scheme : read.scheme = https) (fragment : read.fragment = []) {value : List Char}
    (split : urlsplit (Text.stripChars value) = .ok read) :
    AcceptedUrl value allowedDomains read name again ∧ IsSourceUrl allowedDomains read := by
  have unnamed : '@' ∉ read.netloc := by
    rw [located]
    exact fun member => (lawful.authority_chars member).2.1 rfl
  have unbracketed : '[' ∉ read.netloc := by
    rw [same]
    cases again with
    | true => simp [authority, unopened]
    | false => simpa [authority] using unopened
  obtain ⟨username, password, hostinfo⟩ := Urls.plain_netloc unnamed unbracketed
  have stable : ∀ c ∈ name, Unicode.lower c = [c] := by
    intro c member
    rw [← fixed] at member
    obtain ⟨d, -, lower⟩ := mem_normalizeHost member
    exact lawful.laws.lower_lower lower
  have parts : read.hostinfo = (name, if again then some ['4', '4', '3'] else none) := by
    rw [hostinfo, same]
    cases again with
    | true =>
      have taken : partition ':' (authority name true) = (name, some ['4', '4', '3']) :=
        Separators.partition_append free
      rw [taken]
      rfl
    | false =>
      have taken : partition ':' (authority name false) = (name, none) := by
        rw [authority_false]
        exact Separators.partition_of_not_mem free
      rw [taken]
      rfl
  have named : read.hostname = some name := by
    simp [SplitResult.hostname, parts, approved.nonempty, Urls.lowerHost_of_stable stable]
  have port : read.port = .ok (if again then some 443 else none) := by
    cases again with
    | true => simp only [SplitResult.port, parts]; rfl
    | false => simp only [SplitResult.port, parts]; rfl
  constructor
  · refine ⟨split, by rw [scheme]; rfl, named, by rw [username]; rfl, by rw [password]; rfl,
      by rwa [fixed], _, port, ?_⟩
    cases again with
    | true => rfl
    | false => exact .inl rfl
  · refine ⟨scheme, ⟨name, named, approved⟩, username, password, ?_, fragment⟩
    cases again with
    | true => exact .inr port
    | false => exact .inl port

/-- What is returned is read again as it was put together, white space at its end apart. -/
theorem LawfulUrl.read_returned {read : SplitResult}
    (split : urlsplit (Text.stripChars (urlText (authority (normalizeHost hostname) written)
      (kept parsed))) = .ok read) :
    '[' ∉ normalizeHost hostname ∧ read.scheme = https ∧ read.fragment = [] ∧
      read.netloc = authority (normalizeHost hostname) written ∧
      kept read <+: (kept parsed).rdropWhile Unicode.isSpace ∧
      (TailKept parsed → kept read = kept parsed) := by
  obtain ⟨rest, slash, clean, cuts⟩ := cut_kept (Urls.wellFormed_of_urlsplit lawful.split)
    lawful.rooted
  have trimmed : ∀ c ∈ rest.rdropWhile Unicode.isSpace, c ≠ '#' ∧ Urls.isRemoved c = false :=
    fun c member => clean c ((List.rdropWhile_prefix _ _).subset member)
  rw [slash, strip_urlText, trim_slash] at split
  by_cases opening : '[' ∈ normalizeHost hostname
  · exact absurd split (lawful.reread_bracket opening trimmed read)
  · rw [lawful.reread opening trimmed] at split
    obtain rfl := Except.ok.inj split
    refine ⟨opening, rfl, rfl, rfl, ?_, fun kept_tail => ?_⟩
    · rw [slash, trim_slash]
      exact kept_prefix
    · unfold TailKept at kept_tail
      rw [slash, trim_slash, List.cons.injEq] at kept_tail
      obtain ⟨path, starts, -⟩ := keptPath_slash lawful.rooted
      have path_again : keptPath ⟨https, authority (normalizeHost hostname) written,
          keptPath parsed, parsed.query, []⟩ = keptPath parsed := by
        change (if (keptPath parsed).isEmpty then ['/'] else keptPath parsed) = keptPath parsed
        rw [starts]
        rfl
      rw [kept_tail.2, cuts]
      exact congrArg (· ++ _) path_again

theorem LawfulUrl.authority_stable {c : Char}
    (member : c ∈ authority (normalizeHost hostname) written) : Unicode.lower c = [c] := by
  rcases List.mem_append.mp member with inside | port
  · exact lawful.host_stable inside
  · cases written with
    | true =>
      simp only [if_true, List.mem_cons, List.not_mem_nil, or_false] at port
      rcases port with rfl | rfl | rfl | rfl <;> rfl
    | false => cases port

/-- The host that is read again is what precedes the first colon of the authority, and has no
colon in its normal form. -/
theorem LawfulUrl.read_hostname {read : SplitResult} {again : List Char}
    (located : read.netloc = authority (normalizeHost hostname) written)
    (unopened : '[' ∉ normalizeHost hostname) (named : read.hostname = some again) :
    again = (partition ':' (authority (normalizeHost hostname) written)).1 ∧
      ':' ∉ normalizeHost again := by
  have unnamed : '@' ∉ read.netloc := by
    rw [located]
    exact fun member => (lawful.authority_chars member).2.1 rfl
  have unbracketed : '[' ∉ read.netloc := by
    rw [located]
    cases written with
    | true => simp [authority, unopened]
    | false => simpa [authority] using unopened
  obtain ⟨-, -, hostinfo⟩ := Urls.plain_netloc unnamed unbracketed
  have stable : ∀ c ∈ (partition ':' (authority (normalizeHost hostname) written)).1,
      Unicode.lower c = [c] := fun c member =>
    lawful.authority_stable (Separators.partition_fst_subset ':' _ member)
  simp only [SplitResult.hostname, hostinfo, located] at named
  split at named
  · cases named
  rw [Urls.lowerHost_of_stable stable] at named
  obtain rfl := Option.some.inj named
  refine ⟨rfl, fun colon => ?_⟩
  obtain ⟨d, member, lower⟩ := mem_normalizeHost colon
  rw [stable d member, List.mem_singleton] at lower
  subst lower
  exact Separators.partition_fst_free _ _ member

theorem LawfulUrl.slashless : '/' ∉ authority (normalizeHost hostname) written := by
  intro member
  have ends := (lawful.authority_chars member).1.1
  cases ends

/-- The host is kept when it is written in the authority of the host that is read. -/
theorem LawfulUrl.host_kept {again : List Char} {written' : Bool}
    (unopened : '[' ∉ normalizeHost hostname)
    (base : again = (partition ':' (authority (normalizeHost hostname) written)).1)
    (colonless : ':' ∉ normalizeHost again)
    (approved : Approved allowedDomains (normalizeHost again))
    (same : authority (normalizeHost hostname) written =
      authority (normalizeHost again) written') :
    HostKept allowedDomains parsed (normalizeHost hostname) := by
  refine ⟨unopened, ?_⟩
  rcases Separators.partition_cases ':' (normalizeHost hostname) with
    ⟨free, -⟩ | ⟨name, rest, free, whole, -⟩
  · have taken : (partition ':' (authority (normalizeHost hostname) written)).1 =
        normalizeHost hostname := by
      cases written with
      | true => exact congrArg Prod.fst (Separators.partition_append free)
      | false =>
        rw [authority_false, Separators.partition_of_not_mem free]
    have fixed := (authority_inj free colonless same).1
    rw [base, taken] at fixed
    exact .inl ⟨free, fixed.symm⟩
  · -- what precedes the colon is read as the host, what follows it as the port
    have regroup : authority (normalizeHost hostname) written =
        name ++ ':' :: authority rest written := by
      rw [authority, authority, whole, List.append_assoc, List.cons_append]
    rw [regroup, Separators.partition_append free] at base
    obtain rfl : again = name := base
    rw [regroup] at same
    cases written' with
    | false =>
      rw [authority_false] at same
      exact absurd (by simp [← same]) colonless
    | true =>
      obtain ⟨fixed, port⟩ := Separators.split_first free colonless same
      have lengths := congrArg List.length port
      cases written with
      | true => simp [authority] at lengths
      | false =>
        rw [authority_false] at port
        obtain ⟨some_port, ported, either⟩ := lawful.port
        refine .inr ⟨again, free, by rw [whole, port], fun canonical => ?_,
          validateHost_ok.mpr ⟨approved, fixed⟩⟩
        obtain rfl := Except.ok.inj (ported.symm.trans canonical)
        rcases either with wrong | wrong <;> cases wrong

/-- What is returned is returned again when its authority is an approved host, with the port
or without, and no white space is at its end. -/
theorem LawfulUrl.returned_again {name : List Char} {again : Bool}
    (unopened : '[' ∉ normalizeHost hostname)
    (same : authority (normalizeHost hostname) written = authority name again)
    (free : ':' ∉ name) (unopened' : '[' ∉ name) (approved : Approved allowedDomains name)
    (fixed : normalizeHost name = name) (tail : TailKept parsed) :
    (∃ read, urlsplit (urlText (authority (normalizeHost hostname) written) (kept parsed)) =
        .ok read ∧ IsSourceUrl allowedDomains read) ∧
      validateSourceUrl (urlText (authority (normalizeHost hostname) written) (kept parsed))
        allowedDomains = .ok (urlText (authority (normalizeHost hostname) written)
          (kept parsed)) := by
  obtain ⟨rest, slash, clean, -⟩ := cut_kept (Urls.wellFormed_of_urlsplit lawful.split)
    lawful.rooted
  have stripped : Text.stripChars (urlText (authority (normalizeHost hostname) written)
      (kept parsed)) = urlText (authority (normalizeHost hostname) written) (kept parsed) := by
    unfold TailKept at tail
    rw [slash] at tail ⊢
    rw [strip_urlText, tail]
  have split := lawful.reread unopened clean
  rw [← slash, ← stripped] at split
  obtain ⟨-, scheme, fragment, located, -, tails⟩ := lawful.read_returned split
  obtain ⟨accepted, source⟩ := lawful.accepted_again located (located.trans same) free unopened'
    approved fixed scheme fragment split
  rw [stripped] at split
  refine ⟨⟨_, split, source⟩, validate_ok.mpr ⟨_, name, again, accepted, ?_⟩⟩
  rw [fixed, ← same, tails tail]

end Lawful

/-- **Which source URLs come back.**  What is returned for a source URL is read as HTTPS on an
approved host with the canonical port or none, without user information or fragment, and is
returned again for itself, exactly when the host is written without brackets as it is and
what is kept of the path and the query does not end in white space. -/
theorem source_url_comes_back_iff {sourceUrl returned : List Char}
    {allowedDomains : List (List Char)} (laws : Urls.CaseLaws)
    (validated : validateSourceUrl sourceUrl allowedDomains = .ok returned) :
    ((∃ parsed, urlsplit returned = .ok parsed ∧ IsSourceUrl allowedDomains parsed) ∧
      validateSourceUrl returned allowedDomains = .ok returned) ↔
    ComesBack sourceUrl allowedDomains := by
  obtain ⟨parsed, hostname, written, accepted, rfl⟩ := validate_ok.mp validated
  have lawful : LawfulUrl sourceUrl allowedDomains parsed hostname written := ⟨accepted, laws⟩
  constructor
  · rintro ⟨-, again⟩
    obtain ⟨read, hostname', written', accepted', same⟩ := validate_ok.mp again
    have lawful' : LawfulUrl _ allowedDomains read hostname' written' := ⟨accepted', laws⟩
    obtain ⟨unopened, -, -, located, shorter, -⟩ := lawful.read_returned accepted'.split
    obtain ⟨base, colonless⟩ := lawful.read_hostname located unopened accepted'.named
    obtain ⟨rest, slash, -⟩ := cut_kept (Urls.wellFormed_of_urlsplit accepted.split)
      accepted.rooted
    obtain ⟨rest', slash', -⟩ := cut_kept (Urls.wellFormed_of_urlsplit accepted'.split)
      accepted'.rooted
    have joined : authority (normalizeHost hostname) written ++ '/' :: rest =
        authority (normalizeHost hostname') written' ++ '/' :: rest' := by
      rw [slash, slash'] at same
      simpa [urlText] using same
    -- neither authority has a slash, so each ends where the path begins
    obtain ⟨authorities, rests⟩ :=
      Separators.split_first lawful.slashless lawful'.slashless joined
    refine ⟨parsed, hostname, accepted.split, accepted.named,
      lawful.host_kept unopened base colonless accepted'.approved authorities, ?_⟩
    rw [slash', ← rests, ← slash] at shorter
    exact (List.rdropWhile_prefix _ _).eq_of_length_le shorter.length_le
  · rintro ⟨parsed', hostname', split, named, ⟨unopened, host⟩, tail⟩
    obtain rfl := Except.ok.inj (accepted.split.symm.trans split)
    obtain rfl := Option.some.inj (accepted.named.symm.trans named)
    rcases host with ⟨free, fixed⟩ | ⟨name, free, whole, unwritten, guarded⟩
    · exact lawful.returned_again unopened rfl free unopened accepted.approved fixed tail
    · obtain ⟨approved, fixed⟩ := validateHost_ok.mp guarded
      rw [← fixed] at approved
      obtain ⟨port, ported, either⟩ := accepted.port
      cases written with
      | true =>
        obtain rfl : port = some 443 := either
        exact absurd ported unwritten
      | false =>
        have same : authority (normalizeHost hostname) false = authority name true := by
          rw [authority_false, whole]
          rfl
        exact lawful.returned_again unopened same free
          (fun member => unopened (by simp [whole, member])) approved fixed.symm tail

end Accepted

end

section Sample

attribute [local instance] Unicode.ascii

/-- A database in which nothing past ASCII expands. -/
local instance plainNfkc : Nfkc := ⟨fun _ => false⟩

theorem plain_laws : Urls.CaseLaws where
  lowered c d wide member := by
    obtain rfl := List.mem_singleton.mp member
    rw [Unicode.lower, wide, if_neg Bool.false_ne_true]
    rfl
  letter c d wide member ascii := by
    obtain rfl := List.mem_singleton.mp member
    rw [wide] at ascii
    cases ascii
  expands c d _ _ _ := Bool.and_false _

/-- An address of version 6 is written without its brackets, and read again as another host. -/
theorem bracketed_address_is_lost :
    validateSourceUrl "https://[2606:4700:4700::1111]/cbc".toList ["2606:4700:4700::1111".toList] =
        .ok "https://2606:4700:4700::1111/cbc".toList ∧
      ((urlsplit "https://2606:4700:4700::1111/cbc".toList).toOption.bind SplitResult.hostname) =
        some "2606".toList ∧
      validateSourceUrl "https://2606:4700:4700::1111/cbc".toList ["2606:4700:4700::1111".toList] =
        .error (.validationError "source_url" "Source host is not approved.") := by
  exact ⟨by decide +kernel, by decide +kernel, by decide +kernel⟩

/-- The URL of the test comes back. -/
theorem kicd_url_comes_back :
    (∃ parsed, urlsplit "https://kicd.ac.ke/cbc-materials/?v=2026".toList = .ok parsed ∧
        IsSourceUrl ["kicd.ac.ke".toList] parsed) ∧
      validateSourceUrl "https://kicd.ac.ke/cbc-materials/?v=2026".toList
        ["kicd.ac.ke".toList] = .ok "https://kicd.ac.ke/cbc-materials/?v=2026".toList := by
  have validated : validateSourceUrl "HTTPS://KICD.AC.KE/cbc-materials/?v=2026".toList
      ["kicd.ac.ke".toList] = .ok "https://kicd.ac.ke/cbc-materials/?v=2026".toList := by
    decide +kernel
  refine (source_url_comes_back_iff plain_laws validated).mpr
    ⟨⟨https, "KICD.AC.KE".toList, "/cbc-materials/".toList, "v=2026".toList, []⟩,
      "kicd.ac.ke".toList, by decide +kernel, by decide +kernel, ⟨by decide +kernel, .inl ?_⟩, ?_⟩
  · exact ⟨by decide +kernel, by decide +kernel⟩
  · unfold TailKept
    decide +kernel

end Sample

end Darasa.Curriculum
