import Mathlib.Data.List.Chain
import Mathlib.Data.List.Infix
import Ocservia.Privd.Execute

/-!
# Redaction of configuration candidates

`ocserv-adapter/src/lib.rs`: a candidate is checked line by line (`validate_config_candidate`),
shown with its secret references redacted (`redacted_candidate_diff`) and given to the parser of
ocserv without them (`parser_candidate`). Each of the three reads lines and placeholders on its own.

Texts are lists of characters. A check of every byte of a text that only lets ASCII pass is the
check of every character.
-/

namespace Ocservia.ConfigPlan

open Wire Checked List

/-- `str::lines`: a line ends with a line feed, which a carriage return may precede. -/
def lines (s : List Char) : List (List Char) :=
  let parts := s.splitOn '\n'
  parts.dropLast.map (fun line => if line.getLast? = some '\r' then line.dropLast else line) ++
    parts.getLast?.toList.filter (· ≠ [])

/-- `str::contains`. -/
def contains (s : List Char) (pattern : String) : Bool := decide (pattern.toList <:+: s)

/-- `split_once(" = ")`. -/
def splitAssignment : List Char → Option (List Char × List Char)
  | ' ' :: '=' :: ' ' :: value => some ([], value)
  | [] => none
  | c :: s => (splitAssignment s).map fun (name, value) => (c :: name, value)

def configDirectives : List (List Char) :=
  ["auth", "ca-cert", "cert-user-oid", "cookie-timeout", "dns", "ipv4-network", "max-clients",
    "max-same-clients", "route", "server-cert", "server-key", "socket-file", "tcp-port",
    "udp-port"].map String.toList

def header : List Char := "# generated by ocservia config-plan/v1".toList

def validLabelByte (c : Char) : Bool := c.isAlphanum || c == '.' || c == '_' || c == '-'

def validSecretKeyByte (c : Char) : Bool := validLabelByte c || c == '/'

/-- The provider of a secret reference. -/
def parseSecretPlaceholder (value : List Char) : Option (List Char) := do
  let body ← value.dropPrefix? "$\x7bsecret:".toList
  guard (body.getLast? = some '}')
  let (provider, key) ← splitOnce ':' body.dropLast
  guard (provider ≠ [] ∧ key ≠ [] ∧ !contains key ".." ∧ provider.all validLabelByte ∧
    key.all validSecretKeyByte)
  return provider

/-- One line of `validate_config_candidate` after the names in `seen`. -/
def validateLine (seen : List (List Char)) (line : List Char) :
    Except AdapterError (List (List Char)) := do
  let (name, value) ← get (splitAssignment line) .invalidRequest
  require (configDirectives.contains name && !seen.contains name && !value.isEmpty &&
    (String.ofList value).utf8ByteSize ≤ 4096) .invalidRequest
  require (!(contains value "\x7b\x7b" || contains value "\x7d\x7d" || contains value "../"))
    .invalidRequest
  let secret := parseSecretPlaceholder value
  require (!(contains value "$\x7b" && secret.isNone)) .invalidRequest
  let secretName := ["server-key", "server-cert", "ca-cert"].contains (String.ofList name)
  require (!(secret.isSome && !secretName)) .invalidRequest
  require (!(secretName && secret.isNone ||
      name == "socket-file".toList && value != "/run/ocserv.socket".toList ||
      name == "auth".toList && value != "plain[passwd=/etc/ocserv/ocpasswd]".toList))
    .invalidRequest
  return name :: seen

def validateConfigCandidate (candidate : List Char) : Except AdapterError Unit := do
  require (!(candidate.contains '\r' || candidate.contains '\x00' ||
    candidate.getLast? != some '\n')) .invalidRequest
  require ((lines candidate).head? == some header) .invalidRequest
  let seen ← (lines candidate).tail.foldlM validateLine []
  require (!seen.isEmpty) .invalidRequest

/-- One line of `redacted_candidate_diff`. -/
def redactLine (output line : List Char) : Except AdapterError (List Char) := do
  if line.head? = some '#' then return output
  let (name, value) ← get (splitAssignment line) .invalidRequest
  let safe := (parseSecretPlaceholder value).elim value fun provider =>
    "<secret-ref:".toList ++ provider ++ ['>']
  return output ++ "+ ".toList ++ name ++ " = ".toList ++ safe ++ ['\n']

def redactedCandidateDiff (candidate : List Char) : Except AdapterError (List Char) := do
  let output ← (lines candidate).foldlM redactLine
    "- <current configuration redacted>\n".toList
  require ((String.ofList output).utf8ByteSize ≤ 256 * 1024) .outputLimit
  return output

/-- One line of `parser_candidate`. -/
def parserLine (state : List Char × Bool) (line : List Char) :
    Except AdapterError (List Char × Bool) := do
  let (_, value) ← get (splitAssignment line) .invalidRequest
  if (parseSecretPlaceholder value).isSome then return (state.1, true)
  return (state.1 ++ line ++ ['\n'], state.2)

def parserCandidate (candidate : List Char) : Except AdapterError (List Char × Bool) :=
  (lines candidate).tail.foldlM parserLine (header ++ ['\n'], false)

/-! ## The diff -/

/-- The text of a secret reference. -/
def placeholder (provider key : List Char) : List Char :=
  "$\x7bsecret:".toList ++ provider ++ ':' :: key ++ ['}']

/-- Two lines that differ at most in the key of a secret reference. -/
inductive SameButKey : List Char → List Char → Prop where
  | same : SameButKey line line
  | key (hname : name ∈ configDirectives)
      (hsecret : parseSecretPlaceholder (placeholder provider key) = some provider)
      (hsecret' : parseSecretPlaceholder (placeholder provider key') = some provider) :
      SameButKey (name ++ " = ".toList ++ placeholder provider key)
        (name ++ " = ".toList ++ placeholder provider key')

/-- An assignment is split at its first separator. -/
theorem splitAssignment_append (h : ' ' ∉ name) :
    splitAssignment (name ++ " = ".toList ++ value) = some (name, value) := by
  induction name with
  | nil => rfl
  | cons c name ih =>
    simp only [mem_cons, not_or] at h
    rw [cons_append, cons_append, splitAssignment, ih h.2]
    · rfl
    · rintro _ ⟨⟩
      exact absurd rfl h.1

theorem eq_of_splitAssignment (h : splitAssignment line = some (name, value)) :
    line = name ++ " = ".toList ++ value := by
  fun_induction splitAssignment line generalizing name with
  | case1 value => cases h; rfl
  | case2 => cases h
  | case3 c s _ ih =>
    obtain ⟨⟨name, value⟩, hs, h⟩ := Option.map_eq_some_iff.1 h
    cases h
    rw [ih hs]
    rfl

theorem redactLine_eq (h : SameButKey line line') :
    redactLine output line = redactLine output line' := by
  cases h with
  | same => rfl
  | @key name provider key key' hname hsecret hsecret' =>
    have hplain : ∀ name ∈ configDirectives, ' ' ∉ name ∧ name.head?.any (· ≠ '#') = true := by
      decide
    obtain ⟨hspace, hhead⟩ := hplain name hname
    have hline : ∀ {key}, parseSecretPlaceholder (placeholder provider key) = some provider →
        redactLine output (name ++ " = ".toList ++ placeholder provider key) = .ok (output ++
          "+ ".toList ++ name ++ " = ".toList ++ ("<secret-ref:".toList ++ provider ++ ['>']) ++
          ['\n']) := by
      intro key hkey
      obtain ⟨c, hc, hne⟩ := (Option.any_eq_true _ _).1 hhead
      obtain ⟨name, rfl⟩ := head?_eq_some_iff.1 hc
      rw [redactLine, splitAssignment_append hspace, if_neg (by simpa using hne)]
      simp only [Checked.get, Except.ok_bind, hkey, Option.elim]
      rfl
    rw [hline hsecret, hline hsecret']

theorem foldlM_redactLine_eq {l l' : List (List Char)} (h : Forall₂ SameButKey l l') :
    l.foldlM redactLine output = l'.foldlM redactLine output := by
  induction h generalizing output with
  | nil => rfl
  | cons hline _ ih =>
    rw [foldlM_cons, foldlM_cons, redactLine_eq hline]
    exact congrArg _ (funext fun _ => ih)

/-! ## The text for the parser -/

/-- No reference starts at two neighbouring characters. -/
def Apart (a b : Char) : Prop := ¬(a = '$' ∧ b = '\x7b')

instance : DecidableRel Apart := fun a b => inferInstanceAs (Decidable ¬(a = '$' ∧ b = '\x7b'))

theorem isChain_of_contains (h : contains value "$\x7b" = false) : value.IsChain Apart := by
  rw [isChain_iff_forall_rel_of_append_cons_cons]
  rintro a b l₁ l₂ rfl ⟨rfl, rfl⟩
  exact of_decide_eq_false h ⟨l₁, l₂, by simp⟩

/-- Texts of which the first does not end with a dollar sign. -/
theorem isChain_append_of_ne {a b : List Char} (ha : a.IsChain Apart)
    (hlast : a.getLast? ≠ some '$') (hb : b.IsChain Apart) : (a ++ b).IsChain Apart :=
  isChain_append.2 ⟨ha, hb, fun _ hx _ _ h => hlast (h.1 ▸ hx)⟩

/-- A line that passes has a secret reference for its value, or nothing like one. -/
theorem validateLine_ok (h : validateLine seen line = .ok seen') :
    ∃ name value, splitAssignment line = some (name, value) ∧
      ((parseSecretPlaceholder value).isSome = false → line.IsChain Apart) := by
  obtain ⟨⟨name, value⟩, hsplit, h⟩ := get_bind.1 h
  obtain ⟨hname, h⟩ := require_bind.1 h
  obtain ⟨-, h⟩ := require_bind.1 h
  obtain ⟨hsecret, -⟩ := require_bind.1 h
  refine ⟨name, value, hsplit, fun hnone => ?_⟩
  have hvalue : contains value "$\x7b" = false := by
    rw [Option.isSome_eq_false_iff] at hnone
    simpa [hnone] using hsecret
  have hnames : ∀ name ∈ configDirectives, (name ++ " = ".toList).IsChain Apart := by decide
  rw [eq_of_splitAssignment hsplit]
  refine isChain_append_of_ne (hnames name ?_) (by simp) (isChain_of_contains hvalue)
  simp only [Bool.and_eq_true, contains_iff_mem] at hname
  exact hname.1.1.1

/-- The lines of an accepted candidate that are kept have nothing like a secret reference. -/
theorem parserLines_ok {rest : List (List Char)} {out : List Char} {u : Bool}
    (hv : rest.foldlM validateLine seen = .ok seen') (hout : out.IsChain Apart)
    (hlast : out.getLast? ≠ some '$') :
    ∃ out' u', rest.foldlM parserLine (out, u) = .ok (out', u') ∧ out'.IsChain Apart := by
  induction rest generalizing seen out u with
  | nil => exact ⟨out, u, rfl, hout⟩
  | cons line rest ih =>
    rw [foldlM_cons] at hv
    obtain ⟨seen₁, hline, hv⟩ := bind_eq_ok.1 hv
    obtain ⟨name, value, hsplit, hplain⟩ := validateLine_ok hline
    have hstep : parserLine (out, u) line = .ok (if (parseSecretPlaceholder value).isSome then
        (out, true) else (out ++ line ++ ['\n'], u)) := by
      simp only [parserLine, hsplit, Checked.get, Except.ok_bind]
      split <;> rfl
    rw [foldlM_cons, hstep]
    split
    · exact ih hv hout hlast
    rename_i hsecret
    have hend : (line ++ ['\n']).IsChain Apart :=
      isChain_append.2 ⟨hplain (by simpa using hsecret), by simp, fun _ _ _ hy h => by simp_all⟩
    refine ih hv ?_ (by simp)
    rw [append_assoc]
    exact isChain_append_of_ne hout hlast hend

/-- **Secret references do not leak.** Candidates that differ only in the keys of their secret
references have one diff, and the external parser is given no secret reference. -/
theorem secret_references_redacted :
    (∀ candidate candidate', Forall₂ SameButKey (lines candidate) (lines candidate') →
      redactedCandidateDiff candidate = redactedCandidateDiff candidate') ∧
    ∀ candidate, validateConfigCandidate candidate = .ok () →
      ∃ text unresolved, parserCandidate candidate = .ok (text, unresolved) ∧
        contains text "$\x7b" = false := by
  constructor
  · intro candidate candidate' h
    unfold redactedCandidateDiff
    rw [foldlM_redactLine_eq h]
  · intro candidate h
    iterate 2 obtain ⟨-, h⟩ := require_bind.1 h
    obtain ⟨seen, hlines, -⟩ := bind_eq_ok.1 h
    have hheader : (header ++ ['\n']).IsChain Apart := by decide
    obtain ⟨text, unresolved, htext, hchain⟩ := parserLines_ok (u := false) hlines hheader (by simp)
    refine ⟨text, unresolved, htext, decide_eq_false fun hsecret => ?_⟩
    obtain ⟨before, after, rfl⟩ := hsecret
    have hpair := (isChain_append.1 (isChain_append.1 hchain).1).2.1
    exact absurd hpair (by decide)

/-- A candidate with a secret reference. -/
def sampleCandidate (key : String) : List Char :=
  header ++ "\nserver-key = ".toList ++ placeholder "vault".toList key.toList ++ ['\n']

/-- The key of its reference is not seen. -/
theorem sampleCandidate_redacted :
    redactedCandidateDiff (sampleCandidate "a") = redactedCandidateDiff (sampleCandidate "b/c") ∧
      ∃ text unresolved, parserCandidate (sampleCandidate "a") = .ok (text, unresolved) ∧
        contains text "$\x7b" = false := by
  refine ⟨secret_references_redacted.1 _ _ ?_, secret_references_redacted.2 _ (by decide +kernel)⟩
  have hlines : ∀ key ∈ ["a", "b/c"], lines (sampleCandidate key) = [header,
      "server-key".toList ++ " = ".toList ++ placeholder "vault".toList key.toList] := by
    decide +kernel
  rw [hlines _ (by simp), hlines _ (by simp)]
  exact .cons .same (.cons (.key (by decide) (by decide) (by decide)) .nil)

end Ocservia.ConfigPlan
