import Ocservia.Contract.Text
import Ocservia.Lib.Format

/-!
# The transcript of a complete configuration

`contracts/src/config_profile.rs`: the loop of `canonical` appends one directive after the other.
`scanDirectives_ok` says what a run of the loop leaves behind, by induction over the directives: the
transcript so far, continued by the formats of the directives. So an accepted candidate is written
in `candidateFormat`, and its transcript determines it (`canonicalProfile_inj`).
-/

namespace Ocservia

open Wire Wire.Format List Bool Option

/-- A pinned TLS reference: its fixed-width digests, and texts behind their length. -/
def tlsReferenceFormat : Format NodeLocalTlsReference :=
  ((raw 16).pair <| text.pair <| (raw 32).pair <| (raw 32).pair bytes).comap
    (fun r => (r.secretRefId, r.version, r.certificateSha256, r.spkiSha256, r.caSha256))
    fun a b h => by
      cases a
      cases b
      simpa only [NodeLocalTlsReference.mk.injEq, Prod.mk.injEq] using h

/-- The two forms of a directive's value. -/
def DirectiveValue.toSum : DirectiveValue → String ⊕ NodeLocalTlsReference
  | .literal value => .inl value
  | .tls reference => .inr reference

/-- A directive's value behind its tag. -/
def directiveValueFormat : Format DirectiveValue :=
  (text.either tlsReferenceFormat).comap DirectiveValue.toSum fun a b h => by
    cases a <;> cases b <;> cases h <;> rfl

/-- A directive: its name, then its value. -/
def directiveFormat : Format CompleteConfigDirective :=
  (text.pair directiveValueFormat.present).comap (fun d => (d.name, d.value)) fun a b h => by
    cases a
    cases b
    simpa only [CompleteConfigDirective.mk.injEq, Prod.mk.injEq] using h

/-- A candidate behind its domain separator. -/
def candidateFormat : Format CompleteConfigCandidate :=
  ((raw 16).pair <| u64.pair directiveFormat.counted).comap
    (fun c => (c.nodeId, c.expectedRevision, c.directives)) fun a b h => by
      cases a
      cases b
      simpa only [CompleteConfigCandidate.mk.injEq, Prod.mk.injEq] using h

/-! ## The loop -/

/-- A number of the profile after a literal, which sets it in its own directive. -/
def scannedNumber (directive key value : String) (old : Nat) : Option Nat :=
  if directive == key then parseUnsigned 32 value else some old

theorem scanDirective_literal (scan : ProfileScan) (name value : String) :
    scanDirective scan ⟨name, some (.literal value)⟩ =
      if utf8 scan.previous < utf8 name then
        (lengthPrefixed (utf8 name)).bind fun name' =>
          if profileLiteral name value then
            (lengthPrefixed (utf8 value)).bind fun value' =>
              (scannedNumber name "max-clients" value scan.maxClients).bind fun maxClients =>
                (scannedNumber name "max-same-clients" value scan.maxSame).bind fun maxSame =>
                  some ⟨scan.out ++ name' ++ [0] ++ value', name, scan.serverRef,
                    maxClients, maxSame⟩
          else none
      else none := by
  unfold scanDirective scannedNumber
  by_cases h1 : utf8 scan.previous < utf8 name
  · simp only [h1, not_true_eq_false, if_true, if_false]
    cases lengthPrefixed (utf8 name) with
    | none => rfl
    | some name' =>
      simp only [bind_eq_bind, bind_some]
      cases profileLiteral name value with
      | false => rfl
      | true =>
        cases lengthPrefixed (utf8 value) with
        | none => rfl
        | some value' =>
          cases name == "max-clients" <;> cases name == "max-same-clients" <;> rfl
  · simp only [h1, not_false_eq_true, if_true, if_false]
    rfl

theorem scanDirective_tls (scan : ProfileScan) (name : String) (r : NodeLocalTlsReference) :
    scanDirective scan ⟨name, some (.tls r)⟩ =
      if utf8 scan.previous < utf8 name then
        (lengthPrefixed (utf8 name)).bind fun name' =>
          if validTlsReference name scan.serverRef r then
            (lengthPrefixed (utf8 r.version)).bind fun version =>
              (lengthPrefixed r.caSha256).bind fun ca =>
                some ⟨scan.out ++ name' ++ [1] ++ r.secretRefId ++ version ++ r.certificateSha256 ++
                  r.spkiSha256 ++ ca, name, some r, scan.maxClients, scan.maxSame⟩
          else none
      else none := by
  unfold scanDirective
  by_cases h1 : utf8 scan.previous < utf8 name
  · simp only [h1, not_true_eq_false, if_true, if_false]
    cases lengthPrefixed (utf8 name) with
    | none => rfl
    | some name' =>
      simp only [bind_eq_bind, bind_some]
      cases validTlsReference name scan.serverRef r <;> rfl
  · simp only [h1, not_false_eq_true, if_true, if_false]
    rfl

theorem scanDirective_none (scan : ProfileScan) (name : String) :
    scanDirective scan ⟨name, none⟩ = none := by
  unfold scanDirective
  by_cases h1 : utf8 scan.previous < utf8 name
  · simp only [h1, not_true_eq_false, if_false]
    cases lengthPrefixed (utf8 name) <;> rfl
  · simp only [h1, not_false_eq_true, if_true]
    rfl

theorem scanDirective_ok (h : scanDirective scan d = some scan') :
    directiveFormat.Fits d ∧ scan'.out = scan.out ++ directiveFormat.encode d := by
  obtain ⟨name, value⟩ := d
  cases value with
  | none => simp [scanDirective_none] at h
  | some value =>
    cases value with
    | literal value =>
      simp only [scanDirective_literal, ite_none_right_eq_some, bind_eq_some_iff,
        lengthPrefixed_eq_some] at h
      obtain ⟨-, _, ⟨hname, rfl⟩, -, _, ⟨hvalue, rfl⟩, _, -, _, -, h⟩ := h
      cases h
      refine ⟨⟨hname, _, rfl, hvalue⟩, ?_⟩
      simp [directiveFormat, directiveValueFormat, DirectiveValue.toSum, comap, pair, present,
        either, text]
    | tls r =>
      simp only [scanDirective_tls, ite_none_right_eq_some, bind_eq_some_iff,
        lengthPrefixed_eq_some] at h
      obtain ⟨-, _, ⟨hname, rfl⟩, hvalid, _, ⟨hversion, rfl⟩, _, ⟨hca, rfl⟩, h⟩ := h
      cases h
      simp only [validTlsReference, and_eq_true, beq_iff_eq] at hvalid
      refine ⟨⟨hname, _, rfl, ?_⟩, ?_⟩
      · exact ⟨hvalid.1.1.1.1.1.1.1.2, hversion, hvalid.1.1.1.1.2, hvalid.1.1.1.2, hca⟩
      · simp [directiveFormat, directiveValueFormat, DirectiveValue.toSum,
          tlsReferenceFormat, comap,
          pair, present, either, text, raw]

/-- What a run of the loop leaves behind. -/
theorem scanDirectives_ok {scan scan' : ProfileScan} {ds : List CompleteConfigDirective}
    (h : ds.foldlM scanDirective scan = some scan') :
    (∀ d ∈ ds, directiveFormat.Fits d) ∧ scan'.out = scan.out ++
      ds.flatMap directiveFormat.encode := by
  induction ds generalizing scan with
  | nil =>
    cases h
    simp
  | cons d ds ih =>
    rw [foldlM_cons] at h
    obtain ⟨next, hnext, h⟩ := bind_eq_some_iff.1 h
    obtain ⟨hfits, hout⟩ := scanDirective_ok hnext
    obtain ⟨hrest, hout'⟩ := ih h
    refine ⟨forall_mem_cons.2 ⟨hfits, hrest⟩, ?_⟩
    rw [hout', hout, flatMap_cons, append_assoc]

section
variable (c : CompleteConfigCandidate)

/-- The head of a candidate's transcript. -/
def profileHead : Bytes :=
  utf8 "ocservia.complete-config.v1\x00" ++ c.nodeId ++ be 8 c.expectedRevision.toNat ++
    be 4 c.directives.length

/-- What `canonical` refuses before its loop. -/
def profileHeadInvalid : Bool :=
  c.nodeId.length != 16 || c.nodeId.all (· == 0) || 2 ^ 63 ≤ c.expectedRevision.toNat ||
    !(requiredDirectives.length ≤ c.directives.length &&
      c.directives.length ≤ requiredDirectives.length + 2)

theorem canonicalProfile_eq : canonicalProfile c = if profileHeadInvalid c then none
      else (c.directives.foldlM scanDirective ⟨profileHead c, "", none, 0, 0⟩).bind fun scan =>
        if scan.maxClients < scan.maxSame ||
            !(requiredDirectives.all fun name => c.directives.any (·.name == name)) then none
        else some scan.out := by
  unfold canonicalProfile
  by_cases hhead : profileHeadInvalid c = true
  · rw [if_pos hhead]
    unfold profileHeadInvalid at hhead
    simp only [hhead, if_true]
    rfl
  rw [if_neg hhead]
  unfold profileHeadInvalid at hhead
  simp only [hhead, false_eq_true, if_false, Option.bind_eq_bind]
  refine congrArg (Option.bind _) (funext fun scan => ?_)
  split <;> rfl

end

theorem canonicalProfile_ok {c : CompleteConfigCandidate} {b : Bytes}
    (h : canonicalProfile c = some b) : candidateFormat.Fits c ∧
      b = utf8 "ocservia.complete-config.v1\x00" ++ candidateFormat.encode c := by
  rw [canonicalProfile_eq, ite_none_left_eq_some] at h
  obtain ⟨hhead, h⟩ := h
  obtain ⟨scan, hscan, h⟩ := bind_eq_some_iff.1 h
  obtain ⟨-, h⟩ := ite_none_left_eq_some.1 h
  cases h
  obtain ⟨hfits, hout⟩ := scanDirectives_ok hscan
  simp only [profileHeadInvalid, not_eq_true, or_eq_false_iff, bne_eq_false_iff_eq,
    not_eq_false', and_eq_true, decide_eq_true_eq] at hhead
  obtain ⟨⟨⟨hnode, -⟩, -⟩, -, hcount⟩ := hhead
  refine ⟨⟨hnode, u64_fits _, ?_, hfits⟩, ?_⟩
  · have hrequired : requiredDirectives.length = 12 := rfl
    show c.directives.length < 2 ^ 32
    omega
  · rw [hout]
    simp [profileHead, candidateFormat, comap, pair, raw, u64, nat, counted]

/-- **The transcript of a candidate determines it**: its node, its revision and every directive. -/
theorem canonicalProfile_inj (h : canonicalProfile c = some b) (h' : canonicalProfile c' = some b) :
    c = c' := by
  obtain ⟨hfits, rfl⟩ := canonicalProfile_ok h
  obtain ⟨hfits', hb⟩ := canonicalProfile_ok h'
  exact candidateFormat.encode_inj hfits hfits' (append_cancel_left hb)

end Ocservia
