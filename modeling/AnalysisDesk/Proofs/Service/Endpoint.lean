import AnalysisDesk.Proofs.Settings.Priority
import AnalysisDesk.Proofs.Url.Parts
import AnalysisDesk.Service.Reach

/-! # Requests to an accepted endpoint
The check of an endpoint at the start looks no further than the first character behind the slashes.
It vouches for the scheme, and for nothing else: whether a request to the endpoint is sent depends
on the host and the number that the address names. With one of them missing or wrong, the endpoint
is accepted and every request to it is refused. All of this holds for any regular way to write names
in ASCII. -/

namespace AnalysisDesk.Service

open AnalysisDesk.Settings (isWebAddress isWebAddress_iff)
open AnalysisDesk.Url (authorityEnds DomainName Fits Host NameCoding Nameless Names NamesHost Parts
  Plain exists_parts fault_of_readWeb hostEnds_cutHost isMargin nameless_iff_of_plain plainCoding
  readWeb_eq_emptyHost_iff readWeb_writeFour regular_plainCoding tidy tidy_append writeFour)

variable {coding : NameCoding}

/-! ## Refusals -/

/-- **A request is refused** for its host, or else for its number, or not at all. -/
theorem refusal?_cases (regular : coding.Regular) {url : String} {host number : List Char}
    (parts : Parts (tidy url.toList) host number) :
    (∃ fault, Host.readWeb coding host = .error fault ∧
        refusal? coding url = some (.address fault)) ∨
      NamesHost coding host ∧
        (Fits number ∧ refusal? coding url = none ∨
          ¬ Fits number ∧ refusal? coding url = some (.address .number)) := by
  obtain ⟨name, usual, user, path, query, fragment, web, read⟩ := parts.read_eq regular
  unfold refusal?
  rw [read]
  cases reads : Host.readWeb coding host with
  | error fault => exact .inl ⟨fault, rfl, rfl⟩
  | ok host =>
    refine .inr ⟨⟨host, reads⟩, ?_⟩
    by_cases fits : Fits number
    · obtain ⟨value, number_eq⟩ := fits.readNumber (.web name usual)
      have sending : sendingSchemes.contains (String.ofList name) = true := by
        rcases web with rfl | rfl <;> decide
      rw [number_eq]
      exact .inl ⟨fits, if_pos sending⟩
    · rw [parts.readNumber_of_not_fits fits]
      exact .inr ⟨fits, rfl⟩

/-- An accepted endpoint names a host and a number, if only empty ones. -/
theorem exists_parts_of_accepted {url : String} (accepted : isWebAddress url = true) :
    ∃ host number, Parts (tidy url.toList) host number := by
  obtain ⟨start, c, rest, begins, whole, -⟩ := isWebAddress_iff.mp accepted
  obtain ⟨scheme, one, cut, solid⟩ : ∃ scheme,
      (scheme = "http:".toList ∨ scheme = "https:".toList) ∧
      url.toList = scheme ++ '/' :: '/' :: c :: rest ∧ scheme.any isMargin = false := by
    rcases begins with rfl | rfl
    · exact ⟨_, .inl rfl, whole, by decide⟩
    · exact ⟨_, .inr rfl, whole, by decide⟩
  have some : scheme ≠ [] := by rcases one with rfl | rfl <;> decide
  obtain ⟨tail, tidied⟩ := tidy_append some solid ('/' :: '/' :: c :: rest)
  rw [cut, tidied]
  exact exists_parts one tail

/-! ## What the check vouches for -/

/-- **Usable hosts**: domain names and addresses of four bytes. -/
inductive Usable : List Char → Prop
  | name {host : List Char} (named : DomainName host) : Usable host
  | four {value : Nat} (small : value < 4294967296) : Usable (writeFour value)

/-- A usable host is read. -/
theorem Usable.namesHost (regular : coding.Regular) {host : List Char} (usable : Usable host) :
    NamesHost coding host := by
  cases usable with
  | name named => exact ⟨_, named.readWeb_eq regular⟩
  | four small => exact ⟨_, readWeb_writeFour regular small⟩

/-- **What becomes of a request** to an endpoint that names a host and a number. -/
structure Verdict (coding : NameCoding) (host number : List Char) (refusal : Option Refusal) :
    Prop where
  /-- It is sent if and only if the host can be read and the number fits. -/
  sent : refusal = none ↔ NamesHost coding host ∧ Fits number
  /-- So it is for usable hosts and numbers that fit. -/
  usable : Usable host → Fits number → refusal = none
  /-- It is refused for its number just if the host can be read and the number does not fit. -/
  number : refusal = some (.address .number) ↔ NamesHost coding host ∧ ¬ Fits number
  /-- It is refused for want of a host just if the host is nameless. -/
  nameless : refusal = some (.address .emptyHost) ↔ Nameless coding host
  /-- In plain addresses that is just if there is none. -/
  missing : Plain host → (refusal = some (.address .emptyHost) ↔ host = [])
  /-- It is never refused for want of a scheme. -/
  absolute : refusal ≠ some (.address .relative)
  /-- Nor for the scheme it has. -/
  known : ∀ address, refusal ≠ some (.scheme address)

/-- A request is refused for want of a host just if the host that is named is nameless. -/
theorem refusal?_eq_emptyHost_iff (regular : coding.Regular) {url : String}
    {host number : List Char} (parts : Parts (tidy url.toList) host number) :
    refusal? coding url = some (.address .emptyHost) ↔ Nameless coding host := by
  rw [← readWeb_eq_emptyHost_iff]
  rcases refusal?_cases regular parts with ⟨fault, fails, refused⟩ |
    ⟨⟨read, reads⟩, ⟨-, sent⟩ | ⟨-, refused⟩⟩
  · rw [fails, refused, Option.some.injEq, Refusal.address.injEq, Except.error.injEq]
  · rw [reads, sent]
    exact ⟨nofun, nofun⟩
  · rw [reads, refused]
    exact ⟨nofun, nofun⟩

/-- A verdict follows from the host and the number alone. -/
theorem verdict_of_parts (regular : coding.Regular) {url : String} {host number : List Char}
    (parts : Parts (tidy url.toList) host number) :
    Verdict coding host number (refusal? coding url) := by
  have nameless := refusal?_eq_emptyHost_iff regular parts
  have missing (plain : Plain host) := nameless.trans (nameless_iff_of_plain regular plain)
  rcases refusal?_cases regular parts with ⟨fault, fails, refused⟩ | ⟨named, whole⟩
  · have unread : ¬ NamesHost coding host := by
      rintro ⟨read, reads⟩
      rw [fails] at reads
      cases reads
    obtain ⟨notRelative, notNumber⟩ := fault_of_readWeb fails
    rw [refused] at nameless missing ⊢
    refine ⟨⟨nofun, fun h => absurd h.1 unread⟩,
      fun usable => absurd (usable.namesHost regular) unread,
      ⟨fun same => ?_, fun h => absurd h.1 unread⟩, nameless, missing, fun same => ?_, nofun⟩
    · cases same
      exact absurd rfl notNumber
    · cases same
      exact notRelative rfl
  · rcases whole with ⟨fits, sent⟩ | ⟨unfit, refused⟩
    · rw [sent] at nameless missing ⊢
      exact ⟨⟨fun _ => ⟨named, fits⟩, fun _ => rfl⟩, fun _ _ => rfl,
        ⟨nofun, fun h => absurd fits h.2⟩, nameless, missing, nofun, nofun⟩
    · rw [refused] at nameless missing ⊢
      exact ⟨⟨nofun, fun h => absurd h.2 unfit⟩, fun _ fits => absurd fits unfit,
        ⟨fun _ => ⟨named, unfit⟩, fun _ => rfl⟩, nameless, missing, nofun, nofun⟩

/-- A number that is too large is not noticed at the start either. -/
example : isWebAddress "http://h:65536" = true ∧
    refusal? plainCoding "http://h:65536" = some (.address .number) := by
  decide

end AnalysisDesk.Service
