import PocketStream.Frontend.DeviceList

/-! # Convergence of the device mirror

Once registered, the event listener misses no change: the last event under way,
or else what the mirror has been shown, is the newest snapshot whenever no
emission is due. The startup fetch gives way to an event that has landed. The
reply to an alias write does not, and a reply that an event has overtaken puts
an older snapshot in the mirror.
-/

namespace PocketStream

open Foundation

namespace DeviceFeed

variable {s s' : DeviceFeed} {snapshot : DeviceSnapshot} {records : List DeviceRecord}

/-- An earlier snapshot, or the newest one. -/
def Known (newest snapshot : DeviceSnapshot) : Prop :=
  snapshot.version < newest.version ∨ snapshot = newest

/-- The version the mirror is shown last if nothing else is emitted. -/
def due (s : DeviceFeed) : ℕ :=
  match s.events.getLast? with
  | some event => event.version
  | none =>
    if s.list.eventLanded then s.shown
    else match s.list.stage with
      | .fetched reply => reply.version
      | .done => s.shown
      | _ => s.newest.version

/-- No event or reply is outstanding. -/
structure Quiet (s : DeviceFeed) : Prop where
  started : s.list.stage = .done
  emitted : s.dirty = false
  delivered : s.events = []
  replied : s.list.flight = none

/-- The step delivers an alias reply older than what an event or the fetch has shown. -/
def Overtaken (s : DeviceFeed) : FeedStep → Prop
  | .deliverAlias => ∃ write snapshot, s.list.flight = some (.answered write snapshot) ∧
      snapshot.version < s.shown
  | _ => False

structure Inv (s : DeviceFeed) : Prop where
  value : Known s.newest s.list.value
  events : ∀ event ∈ s.events, Known s.newest event
  fetched : ∀ reply, s.list.stage = .fetched reply → Known s.newest reply
  answered : ∀ write reply, s.list.flight = some (.answered write reply) → Known s.newest reply
  deaf : StartStage.listens s.list.stage = false → s.events = [] ∧ s.list.eventLanded = false
  current : StartStage.listens s.list.stage = true → s.dirty = false → s.due = s.newest.version

theorem known_newest : Known s.newest s.newest := .inr rfl

theorem changed_cases (s : DeviceFeed) (records : List DeviceRecord) :
    s.changed records = s ∨
      s.changed records = { s with newest := ⟨s.newest.version + 1, records⟩, dirty := true } := by
  unfold changed
  split
  · exact .inl rfl
  · exact .inr rfl

theorem Inv.changed (h : s.Inv) (records : List DeviceRecord) : (s.changed records).Inv := by
  rcases changed_cases s records with he | he
  · rw [he]
    exact h
  · have hold : ∀ {snapshot}, Known s.newest snapshot → Known (s.changed records).newest snapshot := by
      rintro snapshot (hlt | rfl)
      · exact .inl (by rw [he]; exact Nat.lt_succ_of_lt hlt)
      · exact .inl (by rw [he]; exact Nat.lt_succ_self _)
    rw [he] at hold ⊢
    exact ⟨hold h.value, fun e hm => hold (h.events e hm), fun r hr => hold (h.fetched r hr),
      fun w r hr => hold (h.answered w r hr), h.deaf, nofun⟩

theorem inv_initial (records : List DeviceRecord) : (initial records).Inv where
  value := .inl Nat.zero_lt_one
  events _ h := absurd h List.not_mem_nil
  fetched _ h := by cases h
  answered _ _ h := by cases h
  deaf _ := ⟨rfl, rfl⟩
  current h := by cases h

theorem Inv.emit (h : s.Inv) (hs : s.step .emit = some s') : s'.Inv := by
  simp only [step] at hs
  split at hs
  · cases hs
    cases hl : StartStage.listens s.list.stage with
    | false =>
      refine ⟨h.value, by simpa [hl] using h.events, h.fetched, h.answered, fun _ => ?_, ?_⟩
      · simpa [hl] using h.deaf hl
      · simp [hl]
    | true =>
      refine ⟨h.value, ?_, h.fetched, h.answered, by simp [hl], fun _ _ => ?_⟩
      · intro event hm
        have hm : event ∈ s.events ∨ event = s.newest := by simpa [hl] using hm
        rcases hm with hm | rfl
        · exact h.events event hm
        · exact known_newest
      · simp [due]
  · cases hs

theorem Inv.deliverEvent (h : s.Inv) (hs : s.step .deliverEvent = some s') : s'.Inv := by
  simp only [step] at hs
  cases he : s.events with
  | nil => simp [he] at hs
  | cons event events =>
    simp only [he] at hs
    cases hs
    have hknown : ∀ e ∈ event :: events, Known s.newest e := he ▸ h.events
    refine ⟨hknown event List.mem_cons_self, fun e hm => hknown e (List.mem_cons_of_mem _ hm),
      h.fetched, h.answered, fun hl => ?_, fun hl hd => ?_⟩
    · have := (h.deaf hl).1
      simp [he] at this
    · have hdue := h.current hl hd
      cases events with
      | nil => simpa [due, he, DeviceList.onEvent, DeviceList.setSnapshot] using hdue
      | cons next events =>
        have hlast := List.getLast?_eq_some_getLast (List.cons_ne_nil next events)
        simpa [due, he, List.getLast?_cons_cons, hlast] using hdue

theorem Inv.deliverFetch (h : s.Inv) (hs : s.step .deliverFetch = some s') : s'.Inv := by
  simp only [step] at hs
  split at hs
  · next reply hstage =>
    cases hs
    have hlistens : StartStage.listens s.list.stage = true := by simp [hstage, StartStage.listens]
    have hdue := h.current hlistens
    cases hl : s.list.eventLanded with
    | true =>
      refine ⟨by simpa [DeviceList.hydrate, hl] using h.value, h.events, nofun,
        by simpa [DeviceList.hydrate, hl] using h.answered, nofun, fun _ hd => ?_⟩
      simpa [due, DeviceList.hydrate, hl] using hdue hd
    | false =>
      refine ⟨by simpa [DeviceList.hydrate, DeviceList.setSnapshot, hl] using h.fetched reply hstage,
        h.events, nofun, by simpa [DeviceList.hydrate, DeviceList.setSnapshot, hl] using h.answered,
        nofun, fun _ hd => ?_⟩
      simpa [due, DeviceList.hydrate, DeviceList.setSnapshot, hl, hstage] using hdue hd
  · cases hs

theorem Inv.handleAlias (h : s.Inv) (hs : s.step (.handleAlias records) = some s') : s'.Inv := by
  simp only [step] at hs
  split at hs
  · next write hflight =>
    cases hs
    have hc := h.changed records
    have hlist : (s.changed records).list = s.list := by
      rcases changed_cases s records with he | he <;> rw [he]
    exact ⟨hlist ▸ hc.value, hc.events, hlist ▸ hc.fetched, fun w r hr => by cases hr; exact .inr rfl,
      hlist ▸ hc.deaf, by simpa [due, hlist] using hc.current⟩
  · cases hs

theorem Inv.step (h : s.Inv) {action : FeedStep} (hs : s.step action = some s') : s'.Inv := by
  cases action with
  | change records => exact Option.some.inj hs ▸ h.changed records
  | emit => exact h.emit hs
  | deliverEvent => exact h.deliverEvent hs
  | start =>
    simp only [DeviceFeed.step] at hs
    split at hs
    · next hstage =>
      cases hs
      have hdeaf := h.deaf (by rw [hstage]; rfl)
      exact ⟨h.value, h.events, nofun, h.answered, fun _ => hdeaf, nofun⟩
    · cases hs
  | registered =>
    simp only [DeviceFeed.step] at hs
    split at hs
    · next hstage =>
      cases hs
      obtain ⟨hevents, hlanded⟩ := h.deaf (by rw [hstage]; rfl)
      refine ⟨h.value, h.events, nofun, h.answered, nofun, fun _ _ => ?_⟩
      simp [due, hevents, hlanded]
    · cases hs
  | handleFetch =>
    simp only [DeviceFeed.step] at hs
    split at hs
    · next hstage =>
      cases hs
      have hdue := h.current (by rw [hstage]; rfl)
      refine ⟨h.value, h.events, ?_, h.answered, nofun, fun _ hd => ?_⟩
      · rintro reply ⟨⟩
        exact known_newest
      · simpa [due, hstage] using hdue hd
    · cases hs
  | deliverFetch => exact h.deliverFetch hs
  | setAlias write =>
    cases hs
    exact ⟨h.value, h.events, h.fetched, h.answered, h.deaf, h.current⟩
  | sendAlias =>
    simp only [DeviceFeed.step] at hs
    split at hs
    · cases hs
      exact ⟨h.value, h.events, h.fetched, nofun, h.deaf, h.current⟩
    · cases hs
  | handleAlias records => exact h.handleAlias hs
  | deliverAlias =>
    simp only [DeviceFeed.step] at hs
    split at hs
    · next write reply hflight =>
      cases hs
      exact ⟨h.answered write reply hflight, h.events, h.fetched, nofun, h.deaf, h.current⟩
    · cases hs

theorem inv_of_reachable (h : (machine records).Reachable s) : s.Inv :=
  h.invariant (inv_initial records) fun _ _ _ hi hs => hi.step hs

/-- The mirror holds what was shown last, or a newer snapshot. -/
def Ahead (s : DeviceFeed) : Prop := s.shown ≤ s.list.value.version

theorem Ahead.step (h : s.Ahead) {action : FeedStep} (ha : ¬ Overtaken s action)
    (hs : s.step action = some s') : s'.Ahead := by
  unfold Ahead at h ⊢
  cases action with
  | change records =>
    cases hs
    rcases changed_cases s records with he | he <;> simpa only [he] using h
  | deliverEvent =>
    simp only [DeviceFeed.step] at hs
    split at hs
    · cases hs
    · cases hs
      exact Nat.le_refl _
  | deliverFetch =>
    simp only [DeviceFeed.step] at hs
    split at hs
    · cases hs
      cases hl : s.list.eventLanded <;> simp [DeviceList.hydrate, DeviceList.setSnapshot, hl, h]
    · cases hs
  | handleAlias records =>
    simp only [DeviceFeed.step] at hs
    split at hs
    · cases hs
      rcases changed_cases s records with he | he <;> simpa only [he] using h
    · cases hs
  | deliverAlias =>
    simp only [DeviceFeed.step] at hs
    split at hs
    · next write reply hflight =>
      cases hs
      exact Nat.le_of_not_lt fun hlt => ha ⟨write, reply, hflight, hlt⟩
    · cases hs
  | setAlias write => exact Option.some.inj hs ▸ h
  | _ =>
    simp only [DeviceFeed.step] at hs
    split at hs
    · cases hs
      exact h
    · cases hs

theorem Inv.converged (h : s.Inv) (ha : s.Ahead) (hq : s.Quiet) : s.list.value = s.newest := by
  have hdue := h.current (by rw [hq.started]; rfl) hq.emitted
  have hshown : s.shown = s.newest.version := by simpa [due, hq.delivered, hq.started] using hdue
  rcases h.value with hlt | he
  · unfold Ahead at ha
    omega
  · exact he

/-- A run in which no alias reply is delivered after something newer has been shown never shows
something older again, and its mirror is the newest snapshot once nothing is outstanding; a reply
that is delivered so late puts an older snapshot over the one shown last. -/
theorem mirror_converges (records : List DeviceRecord) :
    (∀ s, (machine records).Reaches (fun s action => ¬ Overtaken s action) s →
      s.Ahead ∧ (s.Quiet → s.list.value = s.newest)) ∧
    ∀ s action s', (machine records).Reachable s → Overtaken s action → s.step action = some s' →
      ¬ s'.Ahead := by
  refine ⟨fun s h => ?_, fun s action s' _ ho hs => ?_⟩
  · have hahead : s.Ahead := h.invariant (Q := fun _ => True) (fun _ _ => trivial)
      (Nat.zero_le _) fun _ _ _ _ hp ha hs => hp.step ha hs
    exact ⟨hahead, (inv_of_reachable h.reachable).converged hahead⟩
  · cases action with
    | deliverAlias =>
      obtain ⟨write, reply, hflight, hlt⟩ := ho
      simp only [DeviceFeed.step, hflight] at hs
      cases hs
      exact Nat.not_le.mpr hlt
    | _ => exact ho.elim

/-- An alias write is handled, then a device is found, and the event of it arrives before the
reply: the reply hides the device, and nothing is outstanding that would show it again. -/
theorem late_alias_reply_hides_device :
    ∃ s, (machine []).Reachable s ∧ s.Quiet ∧ s.newest.records ≠ [] ∧ s.list.value.records = [] := by
  let camera : DeviceRecord := .cached "aa:bb:cc:dd:ee:02"
    ⟨none, none, "aa:bb:cc:dd:ee:02", "192.168.1.204", "192.168.1.0/24", [], "CAM", ""⟩
  let write : AliasWrite := ⟨"aa:bb:cc:dd:ee:04", "PTU"⟩
  let calls : List FeedStep := [.start, .registered, .handleFetch, .deliverFetch, .setAlias write,
    .sendAlias, .handleAlias [], .change [camera], .emit, .deliverEvent, .deliverAlias]
  let list : DeviceList := { DeviceList.initial with eventLanded := true, stage := .done }
  let final : DeviceFeed := ⟨⟨2, [camera]⟩, false, [], list.aliasReply write ⟨1, []⟩, 2⟩
  have hrun : (machine []).run (initial []) calls = some final := rfl
  have hreach : (machine []).Reachable (initial []) := .initial
  exact ⟨final, hreach.run hrun, ⟨rfl, rfl, rfl, rfl⟩, List.cons_ne_nil _ _, rfl⟩

end DeviceFeed

end PocketStream
