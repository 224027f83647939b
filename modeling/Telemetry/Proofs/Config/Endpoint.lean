import Mathlib.Data.List.TakeWhile
import Telemetry.Config.Endpoint
import Telemetry.Proofs.Decimal.Numeral
import Telemetry.Proofs.Reading
import Telemetry.Proofs.Text.Pieces

/-! What an endpoint is once it is parsed, and which endpoint its URL is parsed as. The blanks around
a text go before the slashes at the end of its path do, so a path can be left with blanks at its end,
which the URL then loses. Main results: `proper_parse`, `parse_url` and `parse_url_iff`. -/
namespace Telemetry.Endpoint
open Text

variable {l rest host path : List Char} {insecure : Bool} {text : String} {e : Endpoint}
  {port d : Nat}

theorem readAuthority_eq_ok {port : Option Nat} (read : readAuthority l = .ok (host, port)) :
    host <+: l ∧ ∀ n, port = some n → n < 0x10000 := by
  unfold readAuthority at read
  split at read
  · next before after found =>
    split at read
    · cases read
      exact ⟨List.prefix_rfl, fun n none => nomatch none⟩
    · split at read
      · next n number =>
        cases read
        rw [(cutLast_eq_some_iff.mp found).1]
        refine ⟨List.prefix_append _ _, fun n same => ?_⟩
        cases same
        exact Decimal.lt_of_readUnsigned number
      · cases read
  · cases read
    exact ⟨List.prefix_rfl, fun n none => nomatch none⟩

/-- An authority with a port is read as its parts, whatever the host. -/
theorem readAuthority_append (small : port < 0x10000) :
    readAuthority (host ++ ':' :: Decimal.numeral port) = .ok (host, some port) := by
  have free : ':' ∉ Decimal.numeral port := Decimal.notMem_numeral rfl port
  have noBracket : ']' ∉ Decimal.numeral port := Decimal.notMem_numeral rfl port
  simp [readAuthority, cutLast_append free, noBracket, Decimal.readUnsigned_numeral small]

theorem readParts_eq_ok_iff : readParts insecure l = .ok e ↔ ∃ rest host,
    readScheme insecure l = .ok (e.secure, rest) ∧
      readAuthority (rest.takeWhile (· != '/')) = .ok (host, e.port) ∧
      host ≠ [] ∧ (∀ c ∈ host, isHostChar c = true) ∧ e.host = String.ofList host ∧
      e.path = String.ofList (trimSlashes (rest.dropWhile (· != '/'))) := by
  simp only [readParts, Reading.bind_eq_ok_iff, Prod.exists]
  constructor
  · rintro ⟨secure, rest, scheme, host, port, authority, checked⟩
    split at checked
    · cases checked
    · next filled =>
      split at checked
      · cases checked
      · next fit =>
        cases checked
        exact ⟨rest, host, scheme, authority, by simpa using filled, by simpa using fit, rfl, rfl⟩
  · rintro ⟨rest, host, scheme, authority, filled, fit, sameHost, samePath⟩
    refine ⟨e.secure, rest, scheme, host, e.port, authority, ?_⟩
    have all : host.all isHostChar = true := List.all_eq_true.mpr fit
    simp [filled, all, ← sameHost, ← samePath]

/-- What holds of every endpoint that is parsed. -/
structure Proper (e : Endpoint) : Prop where
  named : e.host.toList ≠ []
  host : ∀ c ∈ e.host.toList, isBlank c = false ∧ c ∉ ['/', '@', '?', '#']
  port : ∀ n, e.port = some n → n < 0x10000
  path : e.path.toList = [] ∨ ∃ rest, e.path.toList = '/' :: rest
  last : e.path.toList.getLast? ≠ some '/'

theorem starts_trimSlashes (rest : List Char) :
    trimSlashes (rest.dropWhile (· != '/')) = [] ∨
      ∃ more, trimSlashes (rest.dropWhile (· != '/')) = '/' :: more := by
  have part : trimSlashes (rest.dropWhile (· != '/')) <+: rest.dropWhile (· != '/') :=
    List.rdropWhile_prefix _ _
  cases path : trimSlashes (rest.dropWhile (· != '/')) with
  | nil => exact .inl rfl
  | cons c more =>
    -- What is left of a path starts as the path does, and that is at a slash.
    rw [path] at part
    obtain ⟨last, whole⟩ := part
    have slash := List.head?_dropWhile_not (· != '/') rest
    rw [← whole] at slash
    have same : c = '/' := by simpa using slash
    exact .inr ⟨more, by rw [same]⟩

theorem getLast?_trimSlashes (l : List Char) : (trimSlashes l).getLast? ≠ some '/' := by
  intro ends
  have filled : trimSlashes l ≠ [] := by
    rintro none
    rw [none] at ends
    cases ends
  have last := List.rdropWhile_last_not (· == '/') l filled
  rw [List.getLast?_eq_some_getLast filled, Option.some_inj] at ends
  exact last (beq_iff_eq.mpr ends)

theorem proper_parse (parsed : parse text insecure = .ok e) : e.Proper := by
  rw [parse, Reading.mapError_eq_ok_iff, readParts_eq_ok_iff] at parsed
  obtain ⟨rest, host, _, authority, filled, fit, sameHost, samePath⟩ := parsed
  obtain ⟨inside, small⟩ := readAuthority_eq_ok authority
  refine ⟨?_, ?_, small, ?_, ?_⟩
  · rwa [sameHost, String.toList_ofList]
  · intro c member
    rw [sameHost, String.toList_ofList] at member
    have noSlash : c ≠ '/' := by simpa using List.mem_takeWhile_imp (inside.subset member)
    have good := fit c member
    simp only [isHostChar, Bool.and_eq_true, Bool.not_eq_true', bne_iff_ne] at good
    simp [good, noSlash]
  · rw [samePath, String.toList_ofList]
    exact starts_trimSlashes rest
  · rw [samePath, String.toList_ofList]
    exact getLast?_trimSlashes _

/-- A scheme in front decides on the transport, whatever is asked for without one. -/
theorem readScheme_append (e : Endpoint) (insecure : Bool) (rest : List Char) :
    readScheme insecure (e.scheme.toList ++ "://".toList ++ rest) = .ok (e.secure, rest) := by
  unfold scheme
  cases e.secure <;> simp [readScheme, after?]

theorem toList_url (e : Endpoint) (d : Nat) : (e.url d).toList =
    e.scheme.toList ++ "://".toList ++ e.host.toList ++ ':' :: Decimal.numeral (e.port.getD d) ++
      e.path.toList := by
  simp [url, Decimal.natText]

theorem isBlank_of_isDigit {c : Char} (digit : Decimal.isDigit c = true) : isBlank c = false := by
  rw [Decimal.isDigit, Bool.and_eq_true, decide_eq_true_iff, decide_eq_true_iff] at digit
  have low : 48 ≤ c.toNat := digit.1
  have high : c.toNat ≤ 57 := digit.2
  simp only [isBlank, Bool.or_eq_false_iff, Bool.and_eq_false_iff, decide_eq_false_iff_not,
    beq_eq_false_iff_ne]
  omega

/-- The URL is blank at its end where the path is. -/
theorem trim_url (e : Endpoint) (d : Nat) : trim (e.url d).toList =
    e.scheme.toList ++ "://".toList ++ e.host.toList ++ ':' :: Decimal.numeral (e.port.getD d) ++
      trimRight e.path.toList := by
  have front : trimLeft (e.url d).toList = (e.url d).toList := by
    refine dropWhile_of_first fun c starts => ?_
    rw [toList_url, scheme] at starts
    have first : 'h' = c := by split at starts <;> simpa using starts
    rw [← first]
    rfl
  rw [trim, front, toList_url]
  refine trimRight_append (fun c ends => ?_) _
  rw [List.getLast?_append_cons] at ends
  rcases List.mem_cons.mp (List.mem_of_getLast? ends) with rfl | member
  · rfl
  · exact isBlank_of_isDigit (Decimal.isDigit_of_mem_numeral member)

/-- However it is parsed, the URL of an endpoint gives the endpoint with the port that it shows,
and with what is left of the path once the blanks at its end and then the slashes are gone. -/
theorem parse_url (proper : e.Proper) (small : d < 0x10000) (insecure : Bool) :
    parse (e.url d) insecure = .ok { e with
      port := some (e.port.getD d)
      path := String.ofList (trimSlashes (trimRight e.path.toList)) } := by
  have port : e.port.getD d < 0x10000 := by
    cases own : e.port with
    | none => exact small
    | some n => exact proper.port n own
  have authority : ∀ c ∈ e.host.toList ++ ':' :: Decimal.numeral (e.port.getD d),
      (c != '/') = true := by
    intro c member
    rw [bne_iff_ne]
    rintro rfl
    rcases List.mem_append.mp member with inHost | behind
    · exact (proper.host _ inHost).2 List.mem_cons_self
    · rcases List.mem_cons.mp behind with same | digit
      · cases same
      · cases Decimal.isDigit_of_mem_numeral digit
  have path : trimRight e.path.toList = [] ∨ ∃ rest, trimRight e.path.toList = '/' :: rest := by
    rcases proper.path with none | ⟨rest, starts⟩
    · exact .inl (by rw [none]; rfl)
    · refine .inr ⟨trimRight rest, ?_⟩
      rw [starts]
      refine trimRight_append (l := ['/']) (fun c only => ?_) rest
      cases only
      rfl
  rw [parse, Reading.mapError_eq_ok_iff, readParts_eq_ok_iff, trim_url]
  refine ⟨(e.host.toList ++ ':' :: Decimal.numeral (e.port.getD d)) ++ trimRight e.path.toList,
    e.host.toList, ?_, ?_, proper.named, ?_, ?_, ?_⟩
  · simpa using readScheme_append e insecure _
  · have stops : (trimRight e.path.toList).takeWhile (· != '/') = [] := by
      rcases path with none | ⟨rest, starts⟩
      · rw [none, List.takeWhile_nil]
      · rw [starts, List.takeWhile_cons_of_neg (by simp)]
    rw [List.takeWhile_append_of_pos authority, stops, List.append_nil]
    exact readAuthority_append port
  · intro c member
    have good := proper.host c member
    simp only [List.mem_cons, List.not_mem_nil, or_false, not_or] at good
    simp [isHostChar, good]
  · rw [String.ofList_toList]
  · have stays : (trimRight e.path.toList).dropWhile (· != '/') = trimRight e.path.toList := by
      rcases path with none | ⟨rest, starts⟩
      · rw [none, List.dropWhile_nil]
      · rw [starts, List.dropWhile_cons_of_neg (by simp)]
    rw [List.dropWhile_append_of_pos authority, stays]

/-- A path without a slash at its end is left as it is where it does not end in a blank. -/
theorem trimSlashes_trimRight_eq_self_iff (last : path.getLast? ≠ some '/') :
    trimSlashes (trimRight path) = path ↔ ∀ c, path.getLast? = some c → isBlank c = false := by
  have kept : trimSlashes path = path :=
    rdropWhile_eq_self_iff.mpr fun c ends => by
      rw [beq_eq_false_iff_ne]
      rintro rfl
      exact last ends
  rw [← rdropWhile_eq_self_iff]
  constructor
  · intro same
    have shorter : (trimSlashes (trimRight path)).length ≤ (trimRight path).length :=
      (List.rdropWhile_prefix _ _).length_le
    rw [same] at shorter
    exact (List.rdropWhile_prefix _ _).eq_of_length_le shorter
  · intro left
    rw [trimRight, ← List.rdropWhile, left, kept]

/-- An endpoint that is parsed has a host and a path of the usual form, and its URL is parsed, with
the port that it shows, whatever is asked for without a scheme. It is parsed as the same endpoint
exactly when the path does not end in a blank, and else with what is left of the path once the blanks
at its end and then the slashes are gone. -/
theorem parse_url_iff (parsed : parse text insecure = .ok e) (small : d < 0x10000) (again : Bool) :
    e.Proper ∧
    parse (e.url d) again = .ok { e with
      port := some (e.port.getD d)
      path := String.ofList (trimSlashes (trimRight e.path.toList)) } ∧
    (parse (e.url d) again = .ok { e with port := some (e.port.getD d) } ↔
      ∀ c, e.path.toList.getLast? = some c → isBlank c = false) := by
  have proper := proper_parse parsed
  have reads := parse_url proper small again
  refine ⟨proper, reads, ?_⟩
  rw [reads, ← trimSlashes_trimRight_eq_self_iff proper.last, ← String.ofList_inj,
    String.ofList_toList]
  simp

/-- An address in brackets with colons of its own, and a path with blanks and colons inside. -/
theorem parse_url_iff_brackets :
    ∃ e, parse " [fe80::1%eth0]/a b:7//c// " false = .ok e ∧
      e.url 4317 = "https://[fe80::1%eth0]:4317/a b:7//c" ∧
      ∀ again, parse (e.url 4317) again = .ok { e with port := some 4317 } := by
  let e : Endpoint := ⟨true, "[fe80::1%eth0]", none, "/a b:7//c"⟩
  have parsed : parse " [fe80::1%eth0]/a b:7//c// " false = .ok e := by decide +kernel
  refine ⟨e, parsed, by decide +kernel, fun again => ?_⟩
  refine (parse_url_iff parsed (by decide) again).2.2.mpr fun c ends => ?_
  have last : e.path.toList.getLast? = some 'c' := by decide +kernel
  rw [last] at ends
  cases ends
  rfl

/-- The blank in front of the slash stays at the end of the path, and the URL loses it. -/
theorem blank_misses :
    ∃ e, parse "http://h/a /" true = .ok e ∧
      parse (e.url 80) true ≠ .ok { e with port := some (e.port.getD 80) } :=
  ⟨⟨false, "h", none, "/a "⟩, by decide +kernel, by decide +kernel⟩

end Telemetry.Endpoint
