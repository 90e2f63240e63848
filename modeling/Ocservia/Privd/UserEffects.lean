import Ocservia.Privd.EffectStore

/-!
# Replacements of the user file

`commit_desired_staging` of the adapter: a task that mutates the user file records in the store what
it is about to do (`prepare`), renames its staging file over the user file, and marks the record as
applied. It holds `user_file_lock` until it returns and does not yield after `prepare`, so at most
one task is between those steps (`Publisher`); `desired_effect_observe` takes the same lock. The
operations on the configuration use the same table under another lock and interleave freely. A crash
ends the task that holds the lock, and may lose a rename that is not synced yet.

Codes of files are `mac` of the bytes, and `mac` is assumed to be free of collisions. A row is about
bytes with which its command was prepared (`RowInv`), and at most one user row is prepared, since
`prepare` settles all others first. `userFile_single_transition` follows.
-/

namespace Ocservia

open Wire List Option EffectTable

/-! ## Histories -/

/-- The task that has prepared an effect and not yet ended. -/
structure Publisher where
  /-- Tells apart the executions that share a command. -/
  run : Nat
  request : EffectRequest
  (before after : Bytes)
  /-- The staging file has been renamed. -/
  published : Bool

/-- The user file, the store, and the task between `prepare` and its end. -/
structure UserFileWorld (μ : Type) where
  file : Bytes
  effects : EffectTable μ
  publisher : Option Publisher

/-- The arguments of one call of `prepare`, with the time it reads and the run that makes it. -/
structure Preparation where
  run : Nat
  request : EffectRequest
  now : Int
  (before after : Bytes)

/-- What happens to the user file and the store. -/
inductive UserFileEvent where
  | prepare (p : Preparation) (reply : Except AdapterError PrepareEffect)
  /-- `publish_user_staging` fails before the rename. -/
  | refuse (run : Nat) (e : AdapterError)
  /-- `publish_user_staging` renames, and may fail afterwards. -/
  | publish (run : Nat) (command : EffectCommand) (after : Bytes) (failure : Option AdapterError)
  | mark (run : Nat) (reply : Except AdapterError Unit)
  | observe (request : EffectRequest) (reply : Except AdapterError DesiredEffectObservation)
  /-- A call of an operation on the configuration. -/
  | config
  | crash (lost : Bool)

namespace UserFile

variable {μ : Type} (mac : Bytes → μ)

section
variable [DecidableEq μ]

/-- One event. A call may fail without an effect at any time. Once the file is renamed, the checks
on privd's own file pass, and the host can still fail. -/
inductive Step : UserFileWorld μ → UserFileEvent → UserFileWorld μ → Prop where
  | proceed {file : Bytes} {effects effects' : EffectTable μ} {run : Nat} {request : EffectRequest}
      {now : Int} {after : Bytes} :
      request.kind ≠ .configApply → 0 ≤ now →
      effects.prepare now request (mac file) (mac after) = .ok (.proceed, effects') →
      Step ⟨file, effects, none⟩ (.prepare ⟨run, request, now, file, after⟩ (.ok .proceed))
        ⟨file, effects', some ⟨run, request, file, after, false⟩⟩
  | alreadyApplied {file : Bytes} {effects effects' : EffectTable μ} {run : Nat}
      {request : EffectRequest} {now : Int} {after : Bytes} :
      request.kind ≠ .configApply → 0 ≤ now →
      effects.prepare now request (mac file) (mac after) = .ok (.alreadyApplied, effects') →
      Step ⟨file, effects, none⟩ (.prepare ⟨run, request, now, file, after⟩ (.ok .alreadyApplied))
        ⟨file, effects', none⟩
  | prepareFailed {file : Bytes} {effects : EffectTable μ} {p : Preparation} {e : AdapterError} :
      Step ⟨file, effects, none⟩ (.prepare p (.error e)) ⟨file, effects, none⟩
  | refuse {file : Bytes} {effects : EffectTable μ} {h : Publisher} {e : AdapterError} :
      h.published = false →
      Step ⟨file, effects, some h⟩ (.refuse h.run e) ⟨file, effects, none⟩
  | publish {file : Bytes} {effects : EffectTable μ} {h : Publisher} :
      h.published = false →
      Step ⟨file, effects, some h⟩ (.publish h.run h.request.command h.after none)
        ⟨h.after, effects, some { h with published := true }⟩
  | publishFailed {file : Bytes} {effects : EffectTable μ} {h : Publisher} {e : AdapterError} :
      h.published = false → e.kind = .unavailable →
      Step ⟨file, effects, some h⟩ (.publish h.run h.request.command h.after (some e))
        ⟨h.after, effects, none⟩
  | mark {file : Bytes} {effects effects' : EffectTable μ} {h : Publisher} :
      h.published = true → effects.mark h.request .applied = .ok effects' →
      Step ⟨file, effects, some h⟩ (.mark h.run (.ok ())) ⟨file, effects', none⟩
  | markFailed {file : Bytes} {effects : EffectTable μ} {h : Publisher} {e : AdapterError} :
      h.published = true →
      (e.kind = .unavailable ∨ effects.mark h.request .applied = .error e) →
      Step ⟨file, effects, some h⟩ (.mark h.run (.error e)) ⟨file, effects, none⟩
  | observe {file : Bytes} {effects effects' : EffectTable μ} {request : EffectRequest}
      {o : DesiredEffectObservation} :
      request.kind ≠ .configApply → effects.observe request (mac file) = .ok (o, effects') →
      Step ⟨file, effects, none⟩ (.observe request (.ok o)) ⟨file, effects', none⟩
  | observeFailed {file : Bytes} {effects : EffectTable μ} {request : EffectRequest}
      {e : AdapterError} :
      Step ⟨file, effects, none⟩ (.observe request (.error e)) ⟨file, effects, none⟩
  | config {file : Bytes} {effects effects' : EffectTable μ} {holder : Option Publisher} :
      effects.ConfigCall effects' →
      Step ⟨file, effects, holder⟩ .config ⟨file, effects', holder⟩
  | crash {file : Bytes} {effects : EffectTable μ} {holder : Option Publisher} :
      Step ⟨file, effects, holder⟩ (.crash false) ⟨file, effects, none⟩
  /-- The rename of the task is lost with the crash. -/
  | lost {file : Bytes} {effects : EffectTable μ} {h : Publisher} :
      h.published = true →
      Step ⟨file, effects, some h⟩ (.crash true) ⟨h.before, effects, none⟩

/-- The user file and its store, from any file and an empty store. -/
def system : LTS (UserFileWorld μ) UserFileEvent where
  init w := w.effects = ∅ ∧ w.publisher = none
  step := Step mac

end

/-! ## What a history says of a command -/

/-- The command was prepared to replace `before` by `after`. -/
def Prepared (t : List UserFileEvent) (c : EffectCommand) (before after : Bytes) : Prop :=
  ∃ p : Preparation, .prepare p (.ok .proceed) ∈ t ∧ p.request.command = c ∧ p.before = before ∧
    p.after = after

/-- The bytes of the command reached the user file: renamed there, or there when it was prepared. -/
def Landed (t : List UserFileEvent) (c : EffectCommand) (after : Bytes) : Prop :=
  (∃ run failure, .publish run c after failure ∈ t) ∨ Prepared t c after after

section
variable {t : List UserFileEvent} {ev : UserFileEvent} {c : EffectCommand} {before after : Bytes}

theorem Prepared.snoc (h : Prepared t c before after) : Prepared (t ++ [ev]) c before after := by
  obtain ⟨p, hp, h⟩ := h
  exact ⟨p, mem_append_left _ hp, h⟩

theorem Landed.snoc (h : Landed t c after) : Landed (t ++ [ev]) c after := by
  rcases h with ⟨run, failure, h⟩ | h
  · exact .inl ⟨run, failure, mem_append_left _ h⟩
  · exact .inr h.snoc

/-- The event does not prepare an effect. -/
def Silent : UserFileEvent → Prop
  | .prepare _ (.ok .proceed) => False
  | _ => True

theorem Prepared.of_snoc (hev : Silent ev) (h : Prepared (t ++ [ev]) c before after) :
    Prepared t c before after := by
  obtain ⟨p, hp, h⟩ := h
  rcases mem_append.1 hp with hp | hp
  · exact ⟨p, hp, h⟩
  · rw [← mem_singleton.1 hp] at hev
    exact hev.elim

end

/-! ## The invariant of the rows -/

/-- `r` is a row of `e` that is about the user file. -/
def UserRow (e : EffectTable μ) (r : EffectRecord μ) : Prop :=
  e.get? r.request.slot = some r ∧ r.request.kind ≠ .configApply

/-- Of a row: its bytes have reached the file, or the file is as the command found it, with none of
the bytes it was ever prepared with. -/
def RowInv (t : List UserFileEvent) (file : Bytes) (r : EffectRecord μ) : Prop :=
  ∃ before after, Prepared t r.request.command before after ∧ r.beforeHmac = mac before ∧
    r.afterHmac = mac after ∧
    match r.state with
    | .applied => Landed t r.request.command after
    | .prepared => file = after ∧ Landed t r.request.command after ∨
        file = before ∧ ∀ b a, Prepared t r.request.command b a → a ≠ file
    | .absent => False

/-- The invariant of the store. -/
structure RowsInv (t : List UserFileEvent) (file : Bytes) (e : EffectTable μ) : Prop where
  row : ∀ r, UserRow e r → RowInv mac t file r
  /-- At most one user row is prepared. -/
  single : ∀ r r', UserRow e r → UserRow e r' → r.state = .prepared → r'.state = .prepared → r = r'
  /-- The row of a command is its own, or one of a newer revision. -/
  latest : ∀ c before after, Prepared t c before after → c.kind ≠ .configApply ∧
    ∃ r, e.get? c.slot = some r ∧ (c.revision < r.request.revision ∨ r.request.command = c)

variable {mac}

section
variable {t : List UserFileEvent} {ev : UserFileEvent} {file : Bytes} {e e' : EffectTable μ}

variable {k : EffectSlot} {r : EffectRecord μ} {b a : Bytes}

theorem UserRow.of_get? (hk : k.1 ≠ .configApply) (h : e.get? k = some r) : UserRow e r := by
  obtain rfl := slot_of_get? h
  exact ⟨h, hk⟩

theorem RowInv.snoc (hev : Silent ev) (h : RowInv mac t file r) :
    RowInv mac (t ++ [ev]) file r := by
  obtain ⟨before, after, hp, hb, ha, hs⟩ := h
  refine ⟨before, after, hp.snoc, hb, ha, ?_⟩
  split at hs
  · exact hs.snoc
  · exact hs.imp (fun h => ⟨h.1, h.2.snoc⟩) fun h => ⟨h.1, fun b a hp => h.2 b a (hp.of_snoc hev)⟩
  · exact hs

/-- A row whose bytes are in the file has a command whose bytes reached the file. -/
theorem RowInv.promote (hmac : Function.Injective mac) (h : RowInv mac t file r)
    (hs : r.state ≠ .applied) (ha : r.afterHmac = mac file) :
    RowInv mac t file { r with state := .applied } := by
  obtain ⟨before, after, hp, hb, ha', h⟩ := h
  have hafter : after = file := hmac (ha'.symm.trans ha)
  refine ⟨before, after, hp, hb, ha', ?_⟩
  split at h
  · exact absurd (by assumption) hs
  · rcases h with ⟨-, hl⟩ | ⟨-, hne⟩
    · exact hl
    · exact absurd hafter (hne before after hp)
  · exact h.elim

theorem RowsInv.snoc (hI : RowsInv mac t file e) (hev : Silent ev) :
    RowsInv mac (t ++ [ev]) file e where
  row r hr := (hI.row r hr).snoc hev
  single := hI.single
  latest c before after hp := hI.latest c before after (hp.of_snoc hev)

/-- A prepared row was not promoted. -/
theorem UserRow.of_promotes (h : EffectTable.Promotes current e e') (hr : UserRow e' r)
    (hs : r.state = .prepared) : UserRow e r := by
  rcases h r.request.slot hr.2 with he | ⟨r₀, -, -, -, he⟩
  · exact ⟨he ▸ hr.1, hr.2⟩
  · cases he.symm.trans hr.1
    cases hs

theorem RowsInv.promotes (hmac : Function.Injective mac) (hI : RowsInv mac t file e)
    (h : EffectTable.Promotes (mac file) e e') : RowsInv mac t file e' where
  row r hr := by
    rcases h r.request.slot hr.2 with he | ⟨r₀, hr₀, hs, ha, he⟩
    · exact hI.row r ⟨he ▸ hr.1, hr.2⟩
    · cases he.symm.trans hr.1
      exact (hI.row r₀ ⟨hr₀, hr.2⟩).promote hmac hs ha
  single r r' hr hr' hs hs' :=
    hI.single r r' (hr.of_promotes h hs) (hr'.of_promotes h hs') hs hs'
  latest c before after hp := by
    obtain ⟨hk, r, hr, hrev⟩ := hI.latest c before after hp
    refine ⟨hk, ?_⟩
    rcases h c.slot hk with he | ⟨r₀, hr₀, -, -, he⟩
    · exact ⟨r, he.trans hr, hrev⟩
    · cases hr₀.symm.trans hr
      exact ⟨_, he, hrev⟩

section
variable (hI : RowsInv mac t file e)
include hI

/-- When the file changes, only the prepared row has to be looked at again. -/
theorem RowsInv.replace {file' : Bytes} (hr : UserRow e r)
    (hs : r.state = .prepared) (hr' : RowInv mac t file' r) :
    RowsInv mac t file' e where
  row x hx := by
    by_cases hxs : x.state = .prepared
    · obtain rfl := hI.single x r hx hr hxs hs
      exact hr'
    obtain ⟨before, after, hp, hb, ha, h⟩ := hI.row x hx
    refine ⟨before, after, hp, hb, ha, ?_⟩
    split at h
    · exact h
    · exact absurd (by assumption) hxs
    · exact h
  single := hI.single
  latest := hI.latest

/-- The command of an applied row has reached the file. -/
theorem RowsInv.applied (hk : k.1 ≠ .configApply)
    (hr : e.get? k = some r) (hs : r.state = .applied) :
    ∃ before after, Prepared t r.request.command before after ∧
      Landed t r.request.command after := by
  obtain ⟨before, after, hp, -, -, h⟩ := hI.row r (.of_get? hk hr)
  rw [hs] at h
  exact ⟨before, after, hp, h⟩

/-- A prepared row whose bytes are not in the file starts from the file. -/
theorem RowsInv.outstanding (hr : UserRow e r)
    (hs : r.state = .prepared) (ha : r.afterHmac ≠ mac file) :
    ∃ before after, Prepared t r.request.command before after ∧ r.beforeHmac = mac before ∧
      r.afterHmac = mac after ∧ after ≠ file ∧ file = before := by
  obtain ⟨before, after, hp, hb, ha', h⟩ := hI.row r hr
  rw [hs] at h
  have hne : after ≠ file := by
    rintro rfl
    exact ha ha'
  rcases h with ⟨rfl, -⟩ | ⟨hf, -⟩
  · exact absurd rfl hne
  · exact ⟨before, after, hp, hb, ha', hne, hf⟩

/-- The command of a row neither applied nor settled by the file has none of its bytes there. -/
theorem RowsInv.absent (hk : k.1 ≠ .configApply)
    (hr : e.get? k = some r) (hs : r.state ≠ .applied)
    (ha : r.state = .prepared → r.afterHmac ≠ mac file) (hp : Prepared t r.request.command b a) :
    a ≠ file := by
  obtain ⟨before, after, -, -, ha', h⟩ := hI.row r (.of_get? hk hr)
  split at h
  · exact absurd (by assumption) hs
  · rename_i hprep
    rcases h with ⟨rfl, -⟩ | ⟨-, h⟩
    · exact absurd ha' (ha hprep)
    · exact h b a hp
  · exact h.elim

/-- What a request that proceeds was prepared with before is not in the file. -/
theorem RowsInv.earlier_absent {request : EffectRequest}
    (hfresh : ∀ r, e.get? request.slot = some r → r.request.revision < request.revision ∨
      r.request.command = request.command ∧ r.state ≠ .applied ∧ r.afterHmac ≠ mac file)
    (hp : Prepared t request.command b a) : a ≠ file := by
  obtain ⟨hk, r, hr, hrev⟩ := hI.latest _ b a hp
  rcases hfresh r hr with hlt | ⟨hc, hs, hne⟩
  · rcases hrev with hgt | hc
    · exact absurd hgt (UInt64.lt_asymm hlt)
    · have : r.request.revision = request.revision := congrArg EffectCommand.revision hc
      exact absurd hlt (this ▸ UInt64.lt_irrefl _)
  · exact hI.absent hk hr hs (fun _ => hne) (hc ▸ hp)

end

theorem Prepared.snoc_proceed (h : Prepared (t ++ [.prepare p (.ok .proceed)]) c b a) :
    Prepared t c b a ∨ p.request.command = c ∧ p.after = a := by
  obtain ⟨q, hq, hc, hb, ha⟩ := h
  rcases mem_append.1 hq with hq | hq
  · exact .inl ⟨q, hq, hc, hb, ha⟩
  · cases mem_singleton.1 hq
    exact .inr ⟨hc, ha⟩

section Proceed
variable {p : Preparation} {e₁ : EffectTable μ}

/-- The row that `prepare` puts in place. -/
theorem RowInv.prepared (hb : p.before = file)
    (hfresh : ∀ b a, Prepared t p.request.command b a → a ≠ file) :
    RowInv mac (t ++ [.prepare p (.ok .proceed)]) file
      ⟨p.request, .prepared, mac file, mac p.after⟩ := by
  have hp : Prepared (t ++ [.prepare p (.ok .proceed)]) p.request.command file p.after :=
    ⟨p, by simp, rfl, hb, rfl⟩
  refine ⟨file, p.after, hp, rfl, rfl, ?_⟩
  by_cases ha : p.after = file
  · exact .inl ⟨ha.symm, .inr (ha ▸ hp)⟩
  refine .inr ⟨rfl, fun b a hq => ?_⟩
  rcases hq.snoc_proceed with hq | ⟨-, rfl⟩
  · exact hfresh b a hq
  · exact ha

/-- After the review no user row but that of the request is prepared. -/
theorem not_prepared_of_settled (hP : EffectTable.Promotes current e e₁)
    (hsettled : ∀ r, e.get? r.request.slot = some r → r.request.kind ≠ .configApply →
      r.state = .prepared → e₁.get? r.request.slot = some { r with state := .applied } ∨
        r.request.command = p.request.command) (hr : UserRow e₁ r)
    (hne : r.request.slot ≠ p.request.slot) : r.state ≠ .prepared := by
  intro hs
  have hold := hr.of_promotes hP hs
  rcases hsettled r hold.1 hold.2 hs with he | hc
  · rw [some.inj (hr.1.symm.trans he)] at hs
    cases hs
  · exact hne (EffectRequest.slot_eq hc)

theorem RowsInv.proceed (hmac : Function.Injective mac) (hI : RowsInv mac t file e)
    (hk : p.request.kind ≠ .configApply) (hb : p.before = file)
    (h : EffectTable.UserPrepared e e' p.request (mac file) (mac p.after) .proceed) :
    RowsInv mac (t ++ [.prepare p (.ok .proceed)]) file e' ∧
      UserRow e' ⟨p.request, .prepared, mac file, mac p.after⟩ := by
  cases h with
  | proceed e₁ hP hsettled hfresh he =>
  have hI₁ := hI.promotes hmac hP
  have hget : ∀ k, e'.get? k = if k = p.request.slot then
      some ⟨p.request, .prepared, mac file, mac p.after⟩ else e₁.get? k := by
    intro k
    rw [he]
    exact KeyedTable.get?_upsert ..
  -- the row of another resource is as the review left it, and is applied
  have hother : ∀ r, UserRow e' r → r.request.slot ≠ p.request.slot →
      UserRow e₁ r ∧ r.state ≠ .prepared := by
    intro r hr hne
    have hr₁ : UserRow e₁ r := ⟨by rw [← hr.1, hget, if_neg hne], hr.2⟩
    exact ⟨hr₁, not_prepared_of_settled hP hsettled hr₁ hne⟩
  have hown : ∀ r, UserRow e' r → r.request.slot = p.request.slot →
      r = ⟨p.request, .prepared, mac file, mac p.after⟩ := by
    intro r hr hslot
    have := hr.1
    rw [hget, if_pos hslot] at this
    exact (some.inj this).symm
  refine ⟨⟨fun r hr => ?_, fun r r' hr hr' hs hs' => ?_, fun c b a hp => ?_⟩,
    by rw [hget, if_pos rfl], hk⟩
  · by_cases hslot : r.request.slot = p.request.slot
    · rw [hown r hr hslot]
      exact .prepared hb fun b a hp => hI₁.earlier_absent hfresh hp
    · obtain ⟨hr₁, hs⟩ := hother r hr hslot
      obtain ⟨before, after, hp, hbef, haft, h⟩ := hI₁.row r hr₁
      refine ⟨before, after, hp.snoc, hbef, haft, ?_⟩
      split at h
      · exact h.snoc
      · exact absurd (by assumption) hs
      · exact h
  · have hslot : ∀ r, UserRow e' r → r.state = .prepared → r.request.slot = p.request.slot :=
      fun r hr hs => not_not.1 fun hne => (hother r hr hne).2 hs
    rw [hown r hr (hslot r hr hs), hown r' hr' (hslot r' hr' hs')]
  · rcases hp.snoc_proceed with hp | ⟨rfl, -⟩
    · obtain ⟨hck, r, hr, hrev⟩ := hI₁.latest c b a hp
      refine ⟨hck, ?_⟩
      by_cases hslot : c.slot = p.request.slot
      · refine ⟨_, by rw [hget, if_pos hslot], ?_⟩
        rcases hfresh r (hslot ▸ hr) with hlt | ⟨hc, -, -⟩
        · rcases hrev with hgt | rfl
          · exact .inl (UInt64.lt_trans hgt hlt)
          · exact .inl hlt
        rcases hrev with hgt | rfl
        · have : r.request.revision = p.request.revision := congrArg EffectCommand.revision hc
          exact .inl (this ▸ hgt)
        · exact .inr hc.symm
      · exact ⟨r, by rw [hget, if_neg hslot, hr], hrev⟩
    · exact ⟨hk, _, by rw [hget]; exact if_pos rfl, .inr rfl⟩

end Proceed

end

/-! ## The task that publishes -/

/-- What the world knows of the task that holds the lock: `r` is its row. -/
structure PublisherInv (mac : Bytes → μ) (t : List UserFileEvent) (w : UserFileWorld μ)
    (h : Publisher) (r : EffectRecord μ) : Prop where
  row : UserRow w.effects r
  prepared : r.state = .prepared
  request : r.request = h.request
  before : r.beforeHmac = mac h.before
  after : r.afterHmac = mac h.after
  history : Prepared t h.request.command h.before h.after
  /-- The bytes it replaces are those it writes, or none that its command was prepared with. -/
  replaces : h.after = h.before ∨ ∀ b a, Prepared t h.request.command b a → a ≠ h.before
  file : w.file = if h.published then h.after else h.before
  landed : h.published → Landed t h.request.command h.after

/-- The invariant of the user file and its store. -/
structure Inv (mac : Bytes → μ) (t : List UserFileEvent) (w : UserFileWorld μ) : Prop where
  rows : RowsInv mac t w.file w.effects
  publisher : ∀ h, w.publisher = some h → ∃ r, PublisherInv mac t w h r

section
variable {t : List UserFileEvent} {ev : UserFileEvent} {file : Bytes} {e e' : EffectTable μ}
  {h : Publisher} {r : EffectRecord μ}

theorem Inv.released (hI : RowsInv mac t file e) : Inv mac t ⟨file, e, none⟩ :=
  ⟨hI, nofun⟩

theorem UserRow.sameUsers (hs : EffectTable.SameUsers e e') (hr : UserRow e r) : UserRow e' r :=
  ⟨(hs r.request.slot hr.2).trans hr.1, hr.2⟩

theorem PublisherInv.sameUsers (hev : Silent ev) (hs : EffectTable.SameUsers e e')
    (hp : PublisherInv mac t ⟨file, e, some h⟩ h r) :
    PublisherInv mac (t ++ [ev]) ⟨file, e', some h⟩ h r where
  row := hp.row.sameUsers hs
  prepared := hp.prepared
  request := hp.request
  before := hp.before
  after := hp.after
  history := hp.history.snoc
  replaces := hp.replaces.imp id fun hne b a hq => hne b a (hq.of_snoc hev)
  file := hp.file
  landed hpub := (hp.landed hpub).snoc

/-- The row of the task after its rename. -/
theorem PublisherInv.rowInv_published {failure : Option AdapterError}
    (hp : PublisherInv mac t ⟨file, e, some h⟩ h r) :
    RowInv mac (t ++ [.publish h.run h.request.command h.after failure]) h.after r := by
  have hq : Prepared (t ++ [.publish h.run h.request.command h.after failure]) r.request.command
      h.before h.after := by
    rw [hp.request]
    exact hp.history.snoc
  refine ⟨h.before, h.after, hq, hp.before, hp.after, ?_⟩
  rw [hp.prepared, hp.request]
  exact .inl ⟨rfl, .inl ⟨h.run, failure, by simp⟩⟩

/-- The row of the task when its rename is lost. -/
theorem PublisherInv.rowInv_lost (hp : PublisherInv mac t ⟨file, e, some h⟩ h r)
    (hpub : h.published = true) : RowInv mac t h.before r := by
  refine ⟨h.before, h.after, hp.request ▸ hp.history, hp.before, hp.after, ?_⟩
  rw [hp.prepared, hp.request]
  rcases hp.replaces with heq | hne
  · exact .inl ⟨heq.symm, hp.landed hpub⟩
  · exact .inr ⟨rfl, hne⟩

theorem Inv.proceed {p : Preparation} (hmac : Function.Injective mac)
    (hI : RowsInv mac t file e) (hk : p.request.kind ≠ .configApply) (hb : p.before = file)
    (h : EffectTable.UserPrepared e e' p.request (mac file) (mac p.after) .proceed) :
    Inv mac (t ++ [.prepare p (.ok .proceed)])
      ⟨file, e', some ⟨p.run, p.request, file, p.after, false⟩⟩ := by
  obtain ⟨hrows, hrow⟩ := hI.proceed hmac hk hb h
  refine ⟨hrows, fun x hx => ?_⟩
  cases hx
  have hp : Prepared (t ++ [.prepare p (.ok .proceed)]) p.request.command file p.after :=
    ⟨p, by simp, rfl, hb, rfl⟩
  refine ⟨_, hrow, rfl, rfl, rfl, rfl, hp, ?_, rfl, nofun⟩
  -- the new row says which of the two holds
  obtain ⟨before, after, -, hbef, haft, hs⟩ := hrows.row _ hrow
  obtain rfl := hmac haft
  obtain rfl := hmac hbef
  exact hs.imp (fun hs => hs.1.symm) And.right

theorem Inv.publish {failure : Option AdapterError} (hI : Inv mac t ⟨file, e, some h⟩) :
    Inv mac (t ++ [.publish h.run h.request.command h.after failure])
      ⟨h.after, e, some { h with published := true }⟩ := by
  obtain ⟨r, hp⟩ := hI.publisher h rfl
  have hev : Silent (.publish h.run h.request.command h.after failure) := trivial
  refine ⟨(hI.rows.snoc hev).replace hp.row hp.prepared hp.rowInv_published, fun x hx => ?_⟩
  cases hx
  refine ⟨r, hp.row, hp.prepared, hp.request, hp.before, hp.after, hp.history.snoc, ?_, rfl, ?_⟩
  · exact hp.replaces.imp id fun hne b a hq => hne b a (hq.of_snoc hev)
  · exact fun _ => .inl ⟨h.run, failure, by simp⟩

/-- Marking promotes the row of the task. -/
theorem PublisherInv.mark_promotes [DecidableEq μ] (hp : PublisherInv mac t ⟨file, e, some h⟩ h r)
    (hpub : h.published = true) (hm : e.mark h.request .applied = .ok e') :
    EffectTable.Promotes (mac file) e e' := by
  obtain ⟨r', hr', rfl⟩ := mark_ok hm
  have hrow := hp.row.1
  rw [hp.request] at hrow
  cases hrow.symm.trans hr'
  have hfile : file = h.after := by simpa [hpub] using hp.file
  exact .setState hp.row.1 (by simp [hp.prepared]) (hfile ▸ hp.after)

end

section
variable [DecidableEq μ]
variable (hmac : Function.Injective mac)
include hmac

/-- **Every event keeps the invariant.** -/
theorem Inv.step {t : List UserFileEvent} {w w' : UserFileWorld μ}
    {ev : UserFileEvent} (hI : Inv mac t w) (hs : Step mac w ev w') : Inv mac (t ++ [ev]) w' := by
  cases hs with
  | proceed hk _ h => exact .proceed hmac hI.rows hk rfl (prepare_user hk h)
  | alreadyApplied hk _ h =>
    cases prepare_user hk h with
    | alreadyApplied _ hP => exact .released ((hI.rows.promotes hmac hP).snoc trivial)
  | prepareFailed | refuse | markFailed | observeFailed | crash =>
    exact .released (hI.rows.snoc trivial)
  | publish _ => exact hI.publish
  | publishFailed _ _ => exact .released hI.publish.rows
  | mark hpub hm =>
    obtain ⟨r, hp⟩ := hI.publisher _ rfl
    exact .released ((hI.rows.promotes hmac (hp.mark_promotes hpub hm)).snoc trivial)
  | observe hk h =>
    have hP := (observe_user hk h).promotes
    exact .released ((hI.rows.promotes hmac hP).snoc trivial)
  | config h =>
    have hsame := h.sameUsers
    refine ⟨(hI.rows.promotes hmac fun k hk => .inl (hsame k hk)).snoc trivial, fun x hx => ?_⟩
    obtain rfl : _ = some x := hx
    obtain ⟨r, hp⟩ := hI.publisher x rfl
    exact ⟨r, hp.sameUsers trivial hsame⟩
  | lost hpub =>
    obtain ⟨r, hp⟩ := hI.publisher _ rfl
    exact .released ((hI.rows.replace hp.row hp.prepared (hp.rowInv_lost hpub)).snoc trivial)

theorem inv_of_run (h : (system mac).Run t w) : Inv mac t w := by
  refine h.invariant (Inv mac) ?_ fun t w ev w' _ hI hs => hI.step hmac hs
  rintro ⟨file, e, holder⟩ ⟨rfl, rfl⟩
  refine .released ⟨fun r hr => ?_, fun r r' hr => ?_, fun c b a hp => ?_⟩
  iterate 2
    have := hr.1
    simp at this
  · obtain ⟨p, hp, -⟩ := hp
    cases hp

/-- A user row that is prepared and whose bytes are not those of the file. -/
structure Outstanding (mac : Bytes → μ) (w : UserFileWorld μ) (r : EffectRecord μ) : Prop where
  row : UserRow w.effects r
  prepared : r.state = .prepared
  pending : r.afterHmac ≠ mac w.file

/-- **The user file has a single outstanding transition.** With crashes anywhere, at most one user
row waits for the file to change, and the file is the one that this row starts from. An effect is
reported as applied only when bytes that its command was prepared with have reached the file, and as
absent only when none of them is in the file. -/
theorem userFile_single_transition {t : List UserFileEvent}
    {w : UserFileWorld μ} (hrun : (system mac).Run t w) :
    (∀ r r', Outstanding mac w r → Outstanding mac w r' → r = r') ∧
    (∀ r, Outstanding mac w r → ∃ before after, Prepared t r.request.command before after ∧
      r.beforeHmac = mac before ∧ r.afterHmac = mac after ∧ after ≠ w.file ∧ w.file = before) ∧
    ∀ ev w', Step mac w ev w' →
      (∀ p, ev = .prepare p (.ok .alreadyApplied) →
        ∃ before after, Prepared t p.request.command before after ∧
          Landed t p.request.command after) ∧
      (∀ request revision, ev = .observe request (.ok ⟨.appliedExact, revision⟩) →
        ∃ before after, Prepared t request.command before after ∧ Landed t request.command after) ∧
      (∀ request revision, ev = .observe request (.ok ⟨.absent, revision⟩) →
        ∀ before after, Prepared t request.command before after → after ≠ w.file) := by
  have hI := inv_of_run hmac hrun
  refine ⟨fun r r' hr hr' => hI.rows.single r r' hr.row hr'.row hr.prepared hr'.prepared,
    fun r hr => hI.rows.outstanding hr.row hr.prepared hr.pending, fun ev w' hs => ?_⟩
  cases hs with
  | alreadyApplied hk _ h =>
    refine ⟨?_, nofun, nofun⟩
    rintro _ ⟨⟩
    cases prepare_user hk h with
    | alreadyApplied r hP hr hc hs => exact hc ▸ (hI.rows.promotes hmac hP).applied hk hr hs
  | observe hk h =>
    have hO := observe_user hk h
    refine ⟨nofun, ?_, ?_⟩
    · rintro _ _ ⟨⟩
      obtain ⟨r, hr, hc, hs⟩ := hO.applied rfl
      exact hc ▸ (hI.rows.promotes hmac hO.promotes).applied hk hr hs
    · rintro _ _ ⟨⟩
      obtain ⟨r, hr, hc, hs, ha⟩ := hO.absent rfl
      exact fun before after hp => hI.rows.absent hk hr hs ha (hc ▸ hp)
  | _ => exact ⟨nofun, nofun, nofun⟩

end

def sampleCreation : EffectRequest where
  kind := .userCreate
  key := "alice"
  revision := 1
  identity := ⟨sampleUuid 1, sampleUuid 2, .fill 0, 1000⟩

/-- The store that has recorded the creation; every file is its own code. -/
def sampleStore : EffectTable Bytes :=
  ⟨[⟨sampleCreation, .prepared, [], [97]⟩], List.nodup_singleton _⟩

/-- The creation is published, and privd crashes before it marks the record. -/
def unmarkedCreation : List UserFileEvent :=
  [.prepare ⟨0, sampleCreation, 500, [], [97]⟩ (.ok .proceed),
    .publish 0 sampleCreation.command [97] none, .crash false]

theorem unmarkedCreation_run : (system id).Run unmarkedCreation ⟨[97], sampleStore, none⟩ := by
  have hprepare : Step id ⟨[], ∅, none⟩
      (.prepare ⟨0, sampleCreation, 500, [], [97]⟩ (.ok .proceed))
      ⟨[], sampleStore, some ⟨0, sampleCreation, [], [97], false⟩⟩ :=
    .proceed (by decide) (by decide) (by decide +kernel)
  have hpublish : Step id ⟨[], sampleStore, some ⟨0, sampleCreation, [], [97], false⟩⟩
      (.publish 0 sampleCreation.command [97] none)
      ⟨[97], sampleStore, some ⟨0, sampleCreation, [], [97], true⟩⟩ := .publish rfl
  have hstart : (system id).init ⟨[], ∅, none⟩ := ⟨rfl, rfl⟩
  exact .snoc (.snoc (.snoc (.start hstart) hprepare) hpublish) Step.crash

/-- The next observation reports the creation as applied, and its bytes are in the file. -/
theorem unmarkedCreation_observed :
    (∃ w',
      Step id ⟨[97], sampleStore, none⟩ (.observe sampleCreation (.ok ⟨.appliedExact, 1⟩)) w') ∧
      ∃ before after, Prepared unmarkedCreation sampleCreation.command before after ∧
        Landed unmarkedCreation sampleCreation.command after := by
  have hobserve : Step id ⟨[97], sampleStore, none⟩
      (.observe sampleCreation (.ok ⟨.appliedExact, 1⟩))
      ⟨[97], sampleStore.setState ⟨sampleCreation, .prepared, [], [97]⟩ .applied, none⟩ :=
    .observe (by decide) (by decide +kernel)
  have h := userFile_single_transition Function.injective_id unmarkedCreation_run
  exact ⟨⟨_, hobserve⟩, (h.2.2 _ _ hobserve).2.1 _ _ rfl⟩

end UserFile

end Ocservia
