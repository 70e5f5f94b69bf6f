import PocketStream.Frontend.ZoomSender

/-! # Requested zooms reach their camera

The loop and its slot are sound in every run. A request whose turn has come was sent
or repeats the last success, as long as no turn comes to a request that reads like
an attempt that failed or went to another camera.
-/

namespace PocketStream

open Foundation

namespace ZoomSender

/-- The turn of the request has come. -/
def Turned (r : ZoomRequest) (log : List Event) : Prop :=
  (∃ x, .sent x ∈ log ∧ x.request = r) ∨ .unsent r ∈ log ∨ .suppressed r ∈ log

/-- A later request came before its turn. -/
def Superseded (r : ZoomRequest) (log : List Event) : Prop :=
  ∃ newer r' older, log = newer ++ .requested r' :: older ∧ .requested r ∈ older ∧ ¬Turned r older

/-- Its turn came when the last success was the same. -/
def Repeated (r : ZoomRequest) (log : List Event) : Prop :=
  ∃ newer older r', log = newer ++ .suppressed r :: older ∧
    lastSucceeded older = some r' ∧ r'.SameAs r

variable {s s' : ZoomSender} {r : ZoomRequest} {e : Event} {log : List Event}

theorem turned_cons : Turned r (e :: log) ↔
    (∃ x, e = .sent x ∧ x.request = r) ∨ e = .unsent r ∨ e = .suppressed r ∨ Turned r log := by
  simp only [Turned, List.mem_cons, @eq_comm _ _ e, or_and_right, exists_or, or_assoc]
  constructor
  · rintro (h | h | h | h | h | h)
    · exact .inl h
    · exact .inr (.inr (.inr (.inl h)))
    · exact .inr (.inl h)
    · exact .inr (.inr (.inr (.inr (.inl h))))
    · exact .inr (.inr (.inl h))
    · exact .inr (.inr (.inr (.inr (.inr h))))
  · rintro (h | h | h | h | h | h)
    · exact .inl h
    · exact .inr (.inr (.inl h))
    · exact .inr (.inr (.inr (.inr (.inl h))))
    · exact .inr (.inl h)
    · exact .inr (.inr (.inr (.inl h)))
    · exact .inr (.inr (.inr (.inr (.inr h))))

theorem Superseded.cons (h : Superseded r log) : Superseded r (e :: log) := by
  obtain ⟨newer, r', older, rfl, hrest⟩ := h
  exact ⟨e :: newer, r', older, rfl, hrest⟩

theorem Repeated.cons (h : Repeated r log) : Repeated r (e :: log) := by
  obtain ⟨newer, older, r', rfl, hrest⟩ := h
  exact ⟨e :: newer, older, r', rfl, hrest⟩

theorem lastSucceeded_of_attempt (h : lastAttempt log = some (r, true)) :
    lastSucceeded log = some r := by
  induction log with
  | nil => cases h
  | cons e log ih =>
    cases e with
    | reply r' ok =>
      obtain ⟨rfl, rfl⟩ := Prod.mk.inj (Option.some.inj h)
      rfl
    | unsent r' =>
      obtain ⟨-, hfalse⟩ := Prod.mk.inj (Option.some.inj h)
      cases hfalse
    | _ => exact ih h

/-- What the slot and the log say of each other, in every run. -/
structure Booked (s : ZoomSender) : Prop where
  drawn : ∀ r, .requested r ∈ s.log → r.ticket < s.next
  waiting : ∀ r, s.queued = some r → .requested r ∈ s.log ∧ ¬Turned r s.log
  turned : ∀ r, Turned r s.log → .requested r ∈ s.log
  captured : ∀ x, .sent x ∈ s.log → .requested x.request ∈ s.log ∧
    x.request.target = some x.target ∧ x.request.ip = some x.ip ∧
    x.position = zoomPosition x.request.percent

/-- The loop is suspended at one place, or it is over and nothing is queued. -/
def Looped (s : ZoomSender) : Prop :=
  s.inFlight = true ∧ (∃ wait, s.waits = [wait]) ∨
    s.inFlight = false ∧ s.waits = [] ∧ s.queued = none

/-- Every request waits, was overtaken, was sent, had nowhere to go or repeats the last success. -/
def Served (s : ZoomSender) : Prop := ∀ r, .requested r ∈ s.log →
  s.queued = some r ∨ Superseded r s.log ∨ (∃ x, .sent x ∈ s.log ∧ x.request = r) ∨
    r.address = none ∨ Repeated r s.log

theorem Served.cons (h : s.Served) (hreq : ∀ r, e ≠ .requested r) (hlog : s'.log = e :: s.log)
    (hqueued : s'.queued = s.queued) : s'.Served := by
  intro r hr
  rw [hlog] at hr ⊢
  rw [hqueued]
  rcases h r ((List.mem_cons.mp hr).resolve_left fun h => hreq r h.symm) with
    hq | hs | ⟨x, hx, hxr⟩ | ha | hp
  · exact .inl hq
  · exact .inr (.inl hs.cons)
  · exact .inr (.inr (.inl ⟨x, List.mem_cons_of_mem _ hx, hxr⟩))
  · exact .inr (.inr (.inr (.inl ha)))
  · exact .inr (.inr (.inr (.inr hp.cons)))

theorem Booked.congr (h : s.Booked) (hnext : s'.next = s.next) (hqueued : s'.queued = s.queued)
    (hlog : s'.log = s.log) : s'.Booked where
  drawn := hlog ▸ hnext ▸ h.drawn
  waiting := hlog ▸ hqueued ▸ h.waiting
  turned := hlog ▸ h.turned
  captured := hlog ▸ h.captured

theorem Served.congr (h : s.Served) (hqueued : s'.queued = s.queued) (hlog : s'.log = s.log) :
    s'.Served := by
  unfold Served at h ⊢
  rwa [hqueued, hlog]

theorem address_eq_some {target : DeviceTarget} {ip : String} (h : r.address = some (target, ip)) :
    r.target = some target ∧ r.ip = some ip := by
  unfold ZoomRequest.address at h
  split at h
  next ip' target' hip htarget =>
    obtain ⟨rfl, rfl⟩ := Prod.mk.inj (Option.some.inj h)
    exact ⟨htarget, (Option.filter_eq_some_iff.mp hip).1⟩
  · cases h

/-! ### The loop -/

theorem Booked.reply (h : s.Booked) (r : ZoomRequest) (error : Option String) :
    (s.reply r error).Booked := by
  have hlogged (ok : Bool) : { s with log := .reply r ok :: s.log }.Booked := by
    constructor
    · exact fun r' hr => h.drawn r' ((List.mem_cons.mp hr).resolve_left nofun)
    · intro r' hr
      obtain ⟨hreq, hturn⟩ := h.waiting r' hr
      exact ⟨List.mem_cons_of_mem _ hreq, fun ht => hturn (by simpa [turned_cons] using ht)⟩
    · exact fun r' ht => List.mem_cons_of_mem _ (h.turned r' (by simpa [turned_cons] using ht))
    · intro x hx
      obtain ⟨hreq, hx⟩ := h.captured x ((List.mem_cons.mp hx).resolve_left nofun)
      exact ⟨List.mem_cons_of_mem _ hreq, hx⟩
  unfold ZoomSender.reply
  split
  · exact (hlogged true).congr rfl rfl rfl
  · unfold toastError
    split
    · exact (hlogged false).congr rfl rfl rfl
    · exact hlogged false

/-- The turn of the queued request is recorded. -/
theorem Booked.turn (h : s.Booked) (hq : s.queued = some r)
    (hturn : ∀ r', Turned r' (e :: s.log) ↔ r' = r ∨ Turned r' s.log)
    (hreq : ∀ r', e ≠ .requested r')
    (hsent : ∀ x, e = .sent x → x.request = r ∧ x.request.target = some x.target ∧
      x.request.ip = some x.ip ∧ x.position = zoomPosition x.request.percent)
    (hnext : s'.next = s.next) (hqueued : s'.queued = none) (hlog : s'.log = e :: s.log) :
    s'.Booked where
  drawn r' hr := by
    rw [hlog] at hr
    rw [hnext]
    exact h.drawn r' ((List.mem_cons.mp hr).resolve_left fun he => hreq r' he.symm)
  waiting r' hr := by
    rw [hqueued] at hr
    cases hr
  turned r' ht := by
    rw [hlog] at ht ⊢
    rcases (hturn r').mp ht with rfl | ht
    · exact List.mem_cons_of_mem _ (h.waiting _ hq).1
    · exact List.mem_cons_of_mem _ (h.turned r' ht)
  captured x hx := by
    rw [hlog] at hx ⊢
    rcases List.mem_cons.mp hx with he | hx
    · obtain ⟨rfl, hrest⟩ := hsent x he.symm
      exact ⟨List.mem_cons_of_mem _ (h.waiting _ hq).1, hrest⟩
    · obtain ⟨hreq, hrest⟩ := h.captured x hx
      exact ⟨List.mem_cons_of_mem _ hreq, hrest⟩

/-- A request whose turn has come is served if it went out, could not, or repeats a success. -/
theorem Served.turn (h : s.Served) (hq : s.queued = some r) (hreq : ∀ r', e ≠ .requested r')
    (hlog : s'.log = e :: s.log)
    (hdone : (∃ x, .sent x ∈ s'.log ∧ x.request = r) ∨ r.address = none ∨ Repeated r s'.log) :
    s'.Served := by
  intro r' hr
  have hold : .requested r' ∈ s.log := by
    rw [hlog] at hr
    exact (List.mem_cons.mp hr).resolve_left fun he => hreq r' he.symm
  rcases h r' hold with hq' | hs | ⟨x, hx, hxr⟩ | ha | hp
  · obtain rfl := Option.some.inj (hq.symm.trans hq')
    exact .inr (.inr hdone)
  · exact .inr (.inl (hlog ▸ hs.cons))
  · exact .inr (.inr (.inl ⟨x, hlog ▸ List.mem_cons_of_mem _ hx, hxr⟩))
  · exact .inr (.inr (.inr (.inl ha)))
  · exact .inr (.inr (.inr (.inr (hlog ▸ hp.cons))))

/-- The loop is sound, and what it serves is served. -/
structure Drained (s s' : ZoomSender) : Prop where
  booked : s'.Booked
  looped : s'.Looped
  next : s'.next = s.next
  taken : s'.queued = none
  served : (∀ r, s.queued = some r → s.Repeats r) → s.Served → s'.Served

theorem Booked.drain (h : s.Booked) (hidle : s.waits = []) (hon : s.inFlight = true) :
    Drained s s.drain := by
  unfold ZoomSender.drain
  split
  next hq =>
    exact ⟨h.congr rfl rfl rfl, .inr ⟨rfl, hidle, hq⟩, rfl, hq, fun _ hs => hs.congr rfl rfl⟩
  next r hq =>
  split
  next hrepeat =>
    refine ⟨h.turn hq (e := .suppressed r) (fun r' => ?_) nofun (by simp) rfl rfl rfl,
      .inr ⟨rfl, hidle, rfl⟩, rfl, rfl, fun hr hs => hs.turn hq (e := .suppressed r) nofun rfl ?_⟩
    · simp [turned_cons, eq_comm]
    · by_cases haddr : r.address = none
      · exact .inr (.inl haddr)
      · obtain ⟨⟨r', _⟩, hlast, rfl, hsame⟩ := hr r hq hrepeat haddr
        exact .inr (.inr ⟨[], s.log, r', rfl, lastSucceeded_of_attempt hlast, hsame⟩)
  next hnew =>
  unfold sendZoomPosition
  split
  next haddr =>
    have hturn (r' : ZoomRequest) :
        Turned r' (.unsent r :: s.log) ↔ r' = r ∨ Turned r' s.log := by
      simp [turned_cons, eq_comm]
    unfold toastError
    dsimp only
    split
    · exact ⟨h.turn hq hturn nofun (by simp) rfl rfl rfl, .inl ⟨hon, .unsent, congrArg _ hidle⟩, rfl,
        rfl, fun _ hs => hs.turn hq (e := .unsent r) nofun rfl (.inr (.inl haddr))⟩
    · exact ⟨h.turn hq hturn nofun (by simp) rfl rfl rfl, .inl ⟨hon, .unsent, congrArg _ hidle⟩, rfl,
        rfl, fun _ hs => hs.turn hq (e := .unsent r) nofun rfl (.inr (.inl haddr))⟩
  next target ip haddr =>
    obtain ⟨htarget, hip⟩ := address_eq_some haddr
    refine ⟨h.turn hq (e := .sent ⟨r, target, ip, zoomPosition r.percent⟩) (fun r' => ?_) nofun
      (fun x hx => ?_) rfl rfl rfl, .inl ⟨hon, .sending r, congrArg _ hidle⟩, rfl, rfl,
      fun _ hs => hs.turn hq (e := .sent ⟨r, target, ip, zoomPosition r.percent⟩) nofun rfl
        (.inl ⟨_, List.mem_cons_self, rfl⟩)⟩
    · simp [turned_cons, eq_comm]
    · obtain rfl := Event.sent.inj hx
      exact ⟨rfl, htarget, hip, rfl⟩

/-! ### The calls -/

/-- How many waits of the loop are left before the slot is emptied. -/
def remaining : List Wait → ℕ
  | [] => 0
  | .gap :: _ => 1
  | _ :: _ => 2

def Call.isSettle : Call → Bool
  | .settle .. => true
  | _ => false

/-- What a step leaves. The slot keeps its request, as many waits nearer to its turn as have
ended, or holds none but a new one. -/
structure Advances (s : ZoomSender) (ended : ℕ) (given : Prop) (s' : ZoomSender) : Prop where
  booked : s'.Booked
  looped : s'.Looped
  next : s.next ≤ s'.next
  slot : s'.queued = s.queued ∧ remaining s'.waits + ended ≤ remaining s.waits ∨
    ∀ r, s'.queued = some r → s.next ≤ r.ticket
  served : given → s.Served → s'.Served

theorem Booked.request (h : s.Booked) (percent : ℤ) (quiet : Bool) :
    { s with
      next := s.next + 1
      queued := some (s.newRequest percent quiet)
      log := .requested (s.newRequest percent quiet) :: s.log }.Booked where
  drawn r hr := by
    rcases List.mem_cons.mp hr with he | hr
    · obtain rfl := Event.requested.inj he
      exact Nat.lt_succ_self _
    · exact Nat.lt_succ_of_lt (h.drawn r hr)
  waiting r hr := by
    obtain rfl := Option.some.inj hr
    refine ⟨List.mem_cons_self, fun ht => ?_⟩
    have hold := h.drawn _ (h.turned _ (by simpa [turned_cons] using ht))
    exact Nat.lt_irrefl _ hold
  turned r ht := List.mem_cons_of_mem _ (h.turned r (by simpa [turned_cons] using ht))
  captured x hx := by
    obtain ⟨hreq, hx⟩ := h.captured x ((List.mem_cons.mp hx).resolve_left nofun)
    exact ⟨List.mem_cons_of_mem _ hreq, hx⟩

/-- A new request overtakes the one in the slot. -/
theorem Served.request (h : s.Served) (hb : s.Booked) (percent : ℤ) (quiet : Bool) :
    { s with
      next := s.next + 1
      queued := some (s.newRequest percent quiet)
      log := .requested (s.newRequest percent quiet) :: s.log }.Served := by
  intro r hr
  rcases List.mem_cons.mp hr with he | hr
  · exact .inl (congrArg _ (Event.requested.inj he).symm)
  rcases h r hr with hq | hs | ⟨x, hx, hxr⟩ | ha | hp
  · obtain ⟨hreq, hturn⟩ := hb.waiting r hq
    exact .inr (.inl ⟨[], _, s.log, rfl, hreq, hturn⟩)
  · exact .inr (.inl hs.cons)
  · exact .inr (.inr (.inl ⟨x, List.mem_cons_of_mem _ hx, hxr⟩))
  · exact .inr (.inr (.inr (.inl ha)))
  · exact .inr (.inr (.inr (.inr hp.cons)))

theorem Looped.stopped (h : s.Looped) (hoff : ¬s.inFlight = true) :
    s.waits = [] ∧ s.queued = none := by
  rcases h with ⟨hon, -⟩ | ⟨-, hidle⟩
  · exact absurd hon hoff
  · exact hidle

theorem Booked.requests (h : s.Booked) (hl : s.Looped) (percent : ℤ) (quiet : Bool) :
    Advances s 0 (s.inFlight = false → s.Repeats (s.newRequest percent quiet))
      (s.request percent quiet) := by
  unfold ZoomSender.request
  dsimp only
  split
  next hon =>
    refine ⟨h.request percent quiet, .inl ⟨hon, ?_⟩, Nat.le_succ _, .inr fun r hr => ?_,
      fun _ hs => hs.request h percent quiet⟩
    · rcases hl with ⟨-, hwait⟩ | ⟨hoff, -⟩
      · exact hwait
      · rw [hoff] at hon
        cases hon
    · obtain rfl := Option.some.inj hr
      exact Nat.le_refl _
  next hoff =>
    have hrest := Booked.drain (s := { s with
      next := s.next + 1
      queued := some (s.newRequest percent quiet)
      log := .requested (s.newRequest percent quiet) :: s.log
      inFlight := true }) ((h.request percent quiet).congr rfl rfl rfl) (hl.stopped hoff).1 rfl
    refine ⟨hrest.booked, hrest.looped, (Nat.le_succ _).trans (Nat.le_of_eq hrest.next.symm),
      .inr fun r hr => ?_, fun hgiven hs => hrest.served (fun r hr => ?_) ?_⟩
    · rw [hrest.taken] at hr
      cases hr
    · obtain rfl := Option.some.inj hr
      exact hgiven (Bool.not_eq_true _ ▸ hoff)
    · exact (hs.request h percent quiet).congr rfl rfl

/-- Nothing the loop reads has changed. -/
theorem Booked.stays (h : s.Booked) (hl : s.Looped) {given : Prop}
    (hin : s'.inFlight = s.inFlight) (hq : s'.queued = s.queued) (hw : s'.waits = s.waits)
    (hn : s'.next = s.next) (hlog : s'.log = s.log) : Advances s 0 given s' where
  booked := h.congr hn hq hlog
  looped := by
    unfold Looped at hl ⊢
    rwa [hin, hq, hw]
  next := Nat.le_of_eq hn.symm
  slot := .inl ⟨hq, Nat.le_of_eq (by rw [hw, Nat.add_zero])⟩
  served _ hs := hs.congr hq hlog

theorem Booked.restores (h : s.Booked) (hl : s.Looped) :
    Advances s 0 (s.inFlight = false → ∀ percent, s.scene.restored = some percent →
      s.Repeats (s.newRequest percent true)) s.applySavedZoom := by
  unfold ZoomSender.applySavedZoom
  split
  · exact h.stays hl rfl rfl rfl rfl rfl
  next saved hsaved =>
  split
  next hlive =>
    have hrest := Booked.requests (s := { s with slider := saved, pendingRestoreKey := none })
      (h.congr rfl rfl rfl) hl saved true
    have hrestored : s.scene.restored = some saved := by
      rw [ZoomScene.restored, if_pos hlive, hsaved]
    exact ⟨hrest.booked, hrest.looped, hrest.next, hrest.slot,
      fun hgiven => hrest.served fun hoff => hgiven hoff saved hrestored⟩
  · exact h.stays hl rfl rfl rfl rfl rfl

/-- A wait of the loop has ended. -/
theorem Booked.resumes (h : s.Booked) (hl : s.Looped) {wait : Wait} (hwait : wait ∈ s.waits) :
    Advances s 1 (wait = .gap → ∀ r, s.queued = some r → s.Repeats r) (s.resume wait) := by
  rcases hl with ⟨hon, wait', hwaits⟩ | ⟨-, hnone, -⟩
  swap
  · rw [hnone] at hwait
    cases hwait
  rw [hwaits] at hwait
  obtain rfl := List.mem_singleton.mp hwait
  have hidle : s.waits.erase wait = [] := by rw [hwaits, List.erase_cons_head]
  unfold ZoomSender.resume
  dsimp only
  split
  next hmore =>
    refine ⟨h.congr rfl rfl rfl, .inl ⟨hon, .gap, congrArg _ hidle⟩, Nat.le_refl _,
      .inl ⟨rfl, ?_⟩, fun _ hs => hs.congr rfl rfl⟩
    rw [hwaits]
    cases wait with
    | gap => exact absurd rfl hmore.1
    | _ => exact Nat.le_refl _
  next hturn =>
    have hrest := Booked.drain (s := { s with waits := s.waits.erase wait })
      (h.congr rfl rfl rfl) hidle hon
    refine ⟨hrest.booked, hrest.looped, Nat.le_of_eq hrest.next.symm, .inr fun r hr => ?_,
      fun hgiven hs => hrest.served (fun r hr => ?_) (hs.congr rfl rfl)⟩
    · rw [hrest.taken] at hr
      cases hr
    · by_cases hgap : wait = .gap
      · exact hgiven hgap r hr
      · exact absurd ⟨hgap, Option.isSome_iff_exists.mpr ⟨r, hr⟩⟩ hturn

theorem Served.reply (h : s.Served) (r : ZoomRequest) (error : Option String) :
    (s.reply r error).Served := by
  unfold ZoomSender.reply
  split
  · exact h.cons (e := .reply r true) nofun rfl rfl
  · have hlogged : { s with log := .reply r false :: s.log }.Served :=
      h.cons (e := .reply r false) nofun rfl rfl
    unfold toastError
    split
    · exact hlogged.congr rfl rfl
    · exact hlogged

/-- A reply changes nothing that the loop reads, apart from the log. -/
theorem reply_frame (s : ZoomSender) (r : ZoomRequest) (error : Option String) :
    (s.reply r error).inFlight = s.inFlight ∧ (s.reply r error).queued = s.queued ∧
      (s.reply r error).waits = s.waits ∧ (s.reply r error).next = s.next := by
  unfold ZoomSender.reply toastError
  split
  · exact ⟨rfl, rfl, rfl, rfl⟩
  · split <;> exact ⟨rfl, rfl, rfl, rfl⟩

theorem Booked.settles (h : s.Booked) (hl : s.Looped) {wait : Wait} (hwait : wait ∈ s.waits)
    (error : Option String) :
    Advances s 1 (s.Faithful (.settle wait error)) (s.settle wait error) := by
  cases wait with
  | sending r =>
    obtain ⟨hin, hq, hw, hn⟩ := reply_frame s r error
    have hl' : (s.reply r error).Looped := by
      unfold Looped at hl ⊢
      rwa [hin, hq, hw]
    have hwait' : .sending r ∈ (s.reply r error).waits := hw ▸ hwait
    have hrest := (h.reply r error).resumes hl' hwait'
    exact ⟨hrest.booked, hrest.looped, hn ▸ hrest.next, hn ▸ hq ▸ hw ▸ hrest.slot,
      fun _ hs => hrest.served nofun (hs.reply r error)⟩
  | unsent =>
    have hrest := h.resumes hl hwait
    exact ⟨hrest.booked, hrest.looped, hrest.next, hrest.slot, fun _ => hrest.served nofun⟩
  | gap =>
    have hrest := h.resumes hl hwait
    exact ⟨hrest.booked, hrest.looped, hrest.next, hrest.slot,
      fun hf => hrest.served fun _ r hr => hf r hr⟩

theorem Booked.step (h : s.Booked) (hl : s.Looped) {call : Call} (hs : s.step call = some s') :
    Advances s call.isSettle.toNat (s.Faithful call) s' := by
  cases call with
  | request percent =>
    obtain rfl := Option.some.inj hs
    have hrest := Booked.requests (s := { s with slider := percent }) (h.congr rfl rfl rfl) hl
      percent false
    refine ⟨hrest.booked, hrest.looped, hrest.next, hrest.slot, fun hf => hrest.served ?_⟩
    intro (hoff : s.inFlight = false)
    exact hf _ (by simp [ZoomSender.turn, hoff, newRequest])
  | applySavedZoom =>
    obtain rfl := Option.some.inj hs
    have hrest := h.restores hl
    exact ⟨hrest.booked, hrest.looped, hrest.next, hrest.slot,
      fun hf => hrest.served fun hoff percent hp => hf _ (by simp [ZoomSender.turn, hoff, hp])⟩
  | scene scene =>
    obtain rfl := Option.some.inj hs
    exact h.stays hl rfl rfl rfl rfl rfl
  | onDevices =>
    obtain rfl := Option.some.inj hs
    unfold ZoomSender.onDevices
    split
    · exact h.stays hl rfl rfl rfl rfl rfl
    next hawaited =>
    split
    · exact h.stays hl rfl rfl rfl rfl rfl
    next hselected =>
      have hrest := h.restores hl
      exact ⟨hrest.booked, hrest.looped, hrest.next, hrest.slot, fun hf =>
        hrest.served fun hoff percent hp => hf _ (by simp [ZoomSender.turn, hoff, hp, hawaited, hselected])⟩
  | settle wait error =>
    obtain ⟨hwait, hs⟩ := Option.ite_none_right_eq_some.mp hs
    obtain rfl := Option.some.inj hs
    exact h.settles hl hwait error

theorem not_turned_nil : ¬Turned r [] := by simp [Turned]

theorem sound_of_reachable (h : machine.Reachable s) : s.Booked ∧ s.Looped := by
  have hinit : ZoomSender.initial.Booked :=
    ⟨nofun, nofun, fun _ ht => absurd ht not_turned_nil, nofun⟩
  refine h.invariant (P := fun s => s.Booked ∧ s.Looped) ⟨hinit, .inr ⟨rfl, rfl, rfl⟩⟩ ?_
  rintro s call s' ⟨hb, hl⟩ hs
  have hnext := hb.step hl hs
  exact ⟨hnext.booked, hnext.looped⟩

theorem served_of_faithful (h : machine.Reaches ZoomSender.Faithful s) : s.Served := by
  refine h.invariant (fun _ => sound_of_reachable) nofun ?_
  rintro s call s' ⟨hb, hl⟩ hserved hfaithful hs
  exact (hb.step hl hs).served hfaithful hserved

/-- What is in the slot after a run was there before, as many waits further from its turn. -/
theorem slot_of_run {calls : List Call} (hb : s.Booked) (hl : s.Looped)
    (hr : machine.run s calls = some s') (hold : r.ticket < s.next) (hq : s'.queued = some r) :
    s.queued = some r ∧ remaining s'.waits + calls.countP Call.isSettle ≤ remaining s.waits := by
  induction calls generalizing s with
  | nil =>
    obtain rfl := Option.some.inj hr
    exact ⟨hq, Nat.le_refl _⟩
  | cons call calls ih =>
    obtain ⟨s₁, hs, hr⟩ := Option.bind_eq_some_iff.mp hr
    have hfirst := hb.step hl hs
    obtain ⟨hq₁, hle⟩ := ih hfirst.booked hfirst.looped hr (hold.trans_le hfirst.next)
    rcases hfirst.slot with ⟨hsame, hnear⟩ | hnew
    · refine ⟨hsame ▸ hq₁, ?_⟩
      rw [List.countP_cons]
      cases hsettle : call.isSettle <;> simp [hsettle] at hnear ⊢ <;> omega
    · exact absurd (hnew r hq₁) (Nat.not_le_of_lt hold)

/-- As long as no turn comes to a request that reads like an attempt that failed or went to
another camera, every request is served, by at most one send at a time and to its own camera. In
every run two waits bring the request in the slot to its turn. -/
theorem zoom_reaches_camera (h : machine.Reaches ZoomSender.Faithful s) :
    s.Served ∧ s.waits.length ≤ 1 ∧
      (∀ x, .sent x ∈ s.log → .requested x.request ∈ s.log ∧ x.request.target = some x.target ∧
        x.request.ip = some x.ip ∧ x.position = zoomPosition x.request.percent) ∧
      ∀ r, s.queued = some r → ∀ calls s', machine.run s calls = some s' →
        2 ≤ calls.countP Call.isSettle → s'.queued ≠ some r := by
  obtain ⟨hb, hl⟩ := sound_of_reachable h.reachable
  refine ⟨served_of_faithful h, ?_, hb.captured, fun r hq calls s' hr htwo hq' => ?_⟩
  · rcases hl with ⟨-, wait, hwaits⟩ | ⟨-, hnone, -⟩
    · exact Nat.le_of_eq (congrArg List.length hwaits)
    · exact hnone ▸ Nat.zero_le _
  · obtain ⟨-, hnear⟩ := slot_of_run hb hl hr (hb.drawn r (hb.waiting r hq).1) hq'
    have hsound' := sound_of_reachable (h.reachable.run hr)
    have hleft : 1 ≤ remaining s'.waits := by
      rcases hsound'.2 with ⟨-, wait, hwaits⟩ | ⟨-, -, hnone⟩
      · rw [hwaits]
        cases wait <;> simp [remaining]
      · rw [hnone] at hq'
        cases hq'
    have htop : remaining s.waits ≤ 2 := by
      unfold remaining
      split <;> omega
    omega

/-- The camera is selected under a key, with the MAC expected there. -/
def selected (key : String) (expectedMac : Option String) : ZoomScene where
  activeCamTarget := some ⟨key, expectedMac⟩
  resolveTarget _ := some ⟨none, none, key, "10.0.0.84", "10.0.0.0/24", [], "CAM", .live, "", ""⟩
  deviceByKey _ := none
  zoomPositions _ := none

/-- The request of the given number for the selected camera. -/
def asked (ticket : ℕ) (percent : ℤ) : ZoomRequest :=
  ⟨ticket, percent, false, some ⟨"02:00:00:00:00:04", some "02:00:00:00:00:04"⟩, some "10.0.0.84"⟩

/-- Two requests for the same zoom, the first of them with the given outcome. -/
def askedTwice (error : Option String) : List Call :=
  [.scene (selected "02:00:00:00:00:04" (some "02:00:00:00:00:04")), .request 50,
    .settle (.sending (asked 0 50)) error, .request 50]

def after (calls : List Call) : ZoomSender := (machine.run .initial calls).getD .initial

/-- One send, its outcome and a repeat that is not sent. -/
def oneSend (ok : Bool) : List Event :=
  [.suppressed (asked 1 50), .requested (asked 1 50), .reply (asked 0 50) ok,
    .sent ⟨asked 0 50, ⟨"02:00:00:00:00:04", some "02:00:00:00:00:04"⟩, "10.0.0.84", 15712⟩,
    .requested (asked 0 50)]

theorem zoom_reaches_camera_repeated :
    (after (askedTwice none)).Served ∧ (after (askedTwice none)).log = oneSend true := by
  have hrun : machine.run .initial (askedTwice none) = some (after (askedTwice none)) := by rfl
  have hadmits : machine.Admits ZoomSender.Faithful .initial (askedTwice none) := by
    decide +kernel
  exact ⟨(zoom_reaches_camera (Machine.Reaches.run .initial hadmits hrun)).1, by decide +kernel⟩

/-- The camera did not take the first request, and its repeat is not sent. -/
theorem zoom_retry_swallowed : (after (askedTwice (some "timeout"))).log = oneSend false ∧
    ¬(after (askedTwice (some "timeout"))).Served := by
  have hlog : (after (askedTwice (some "timeout"))).log = oneSend false := by decide +kernel
  refine ⟨hlog, fun hserved => ?_⟩
  unfold oneSend at hlog
  have hother : asked 1 50 ≠ asked 0 50 := by decide
  rcases hserved (asked 1 50) (hlog ▸ by simp) with hq | hs | ⟨x, hx, hxr⟩ | ha | hp
  · exact absurd hq (by decide +kernel)
  · obtain ⟨newer, r', older, hsplit, hreq, -⟩ := hs
    rw [hlog] at hsplit
    simp only [List.cons_eq_append_iff, List.nil_eq, List.append_eq_nil_iff, List.cons.injEq,
      reduceCtorEq, and_false, false_and, false_or, or_false, exists_false] at hsplit
    rcases hsplit with ⟨_, -, ⟨-, -, rfl⟩ | ⟨_, -, _, -, _, -, -, -, rfl⟩⟩
    · simp [hother] at hreq
    · cases hreq
  · rw [hlog] at hx
    obtain rfl : x = _ := by simpa using hx
    exact hother hxr.symm
  · exact absurd ha (by decide +kernel)
  · obtain ⟨newer, older, r', hsplit, hlast, -⟩ := hp
    rw [hlog] at hsplit
    simp only [List.cons_eq_append_iff, List.nil_eq, List.append_eq_nil_iff, List.cons.injEq,
      reduceCtorEq, and_false, false_and, or_false, exists_false] at hsplit
    obtain ⟨-, -, rfl⟩ := hsplit
    cases hlast

end ZoomSender

end PocketStream
