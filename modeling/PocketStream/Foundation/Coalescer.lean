import Mathlib.Data.List.Basic

/-! # Coalesced fetches

Requests of one piece of data share a fetch. A request that comes while a fetch runs,
or while fetches are held back, leaves a trailing one. A burst is collected before it
becomes a request. No request is lost: whatever is asked for is fetched anew once
what ran at that time is over.
-/

namespace Foundation

structure Coalescer where
  running : Bool
  trailing : Bool
  /-- A burst is being collected. -/
  queued : Bool
  held : Bool
  deriving DecidableEq

namespace Coalescer

inductive Act where
  | ask
  /-- A request that is part of a burst. -/
  | hear
  /-- The burst is over. -/
  | wake
  | finish
  | hold
  | release
  | pass
  deriving DecidableEq

def Act.asks : Act → Bool
  | .ask | .hear => true
  | _ => false

variable (c : Coalescer)

def request : Coalescer :=
  if c.held || c.running then { c with trailing := true }
  else { c with running := true, trailing := false }

def next : Act → Coalescer
  | .ask => c.request
  | .hear => if c.held then { c with trailing := true } else { c with queued := true }
  | .wake => { c with queued := false }.request
  | .finish =>
    let c := { c with running := false }
    if c.trailing && !c.held then c.request else c
  | .hold => { c with held := true }
  | .release =>
    let c := { c with held := false }
    if c.trailing && !c.running then c.request else c
  | .pass => c

/-- A fetch begins. -/
def begins : Act → Bool
  | .ask | .wake => !c.held && !c.running
  | .finish => c.trailing && !c.held
  | .release => c.trailing && !c.running
  | _ => false

/-- A request will be served: the burst is collected, or a trailing fetch has been left. -/
def Pending : Prop := c.queued ∨ c.trailing ∧ (c.running ∨ c.held)

/-- A request is still to be served where only the burst and the fetch of an earlier time may still
be under way. -/
structure Waits (burst fetch : Prop) : Prop where
  fetch : c.running → fetch
  pending : burst ∧ c.queued ∨ c.trailing ∧ (c.running ∨ c.held)

variable {c} {a : Act} {burst fetch : Prop}

theorem Pending.waits (h : c.Pending) : c.Waits c.queued c.running where
  fetch := id
  pending := h.imp (fun hq => ⟨hq, hq⟩) id

/-- A request that comes too late for its own fetch leaves a trailing one. -/
theorem request_late (h : c.held || c.running) : c.request = { c with trailing := true } :=
  if_pos h

theorem late_of_not_begins (h : (!c.held && !c.running) = false) : c.held || c.running := by
  cases hh : c.held
  · simpa [hh] using h
  · rfl

theorem pending_late (h : c.held || c.running) : { c with trailing := true }.Pending :=
  .inr ⟨rfl, (Bool.or_eq_true _ _ ▸ h).symm⟩

/-- A request is pending right after it was made, unless it began a fetch. -/
theorem pending_of_asks (ha : a.asks) (hb : c.begins a = false) : (c.next a).Pending := by
  cases a with
  | ask =>
    have hlate := late_of_not_begins hb
    have hnext : c.next .ask = { c with trailing := true } := request_late hlate
    rw [hnext]
    exact pending_late hlate
  | hear =>
    unfold next
    dsimp only
    split
    next hheld => exact .inr ⟨rfl, .inr hheld⟩
    next => exact .inl rfl
  | wake | finish | hold | release | pass => cases ha

/-- Whoever waits goes on waiting until a fetch begins. -/
theorem Waits.next (h : c.Waits burst fetch) (hb : c.begins a = false) :
    (c.next a).Waits (burst ∧ a ≠ .wake) (fetch ∧ a ≠ .finish) := by
  cases a with
  | ask =>
    have hlate := late_of_not_begins hb
    have hnext : c.next .ask = { c with trailing := true } := request_late hlate
    rw [hnext]
    exact ⟨fun hr => ⟨h.fetch hr, nofun⟩, .inr ⟨rfl, (Bool.or_eq_true _ _ ▸ hlate).symm⟩⟩
  | hear =>
    unfold Coalescer.next
    dsimp only
    split
    next hheld => exact ⟨fun hr => ⟨h.fetch hr, nofun⟩, .inr ⟨rfl, .inr hheld⟩⟩
    next =>
      refine ⟨fun hr => ⟨h.fetch hr, nofun⟩, ?_⟩
      rcases h.pending with ⟨hburst, -⟩ | htrailing
      · exact .inl ⟨⟨hburst, nofun⟩, rfl⟩
      · exact .inr htrailing
  | wake =>
    have hlate : { c with queued := false }.held || { c with queued := false }.running :=
      late_of_not_begins hb
    have hnext : c.next .wake = { c with queued := false, trailing := true } := request_late hlate
    rw [hnext]
    exact ⟨fun hr => ⟨h.fetch hr, nofun⟩, .inr ⟨rfl, (Bool.or_eq_true _ _ ▸ hlate).symm⟩⟩
  | finish =>
    have hnext : c.next .finish = { c with running := false } := if_neg (ne_true_of_eq_false hb)
    rw [hnext]
    refine ⟨nofun, ?_⟩
    rcases h.pending with ⟨hburst, hqueued⟩ | ⟨htrailing, -⟩
    · exact .inl ⟨⟨hburst, nofun⟩, hqueued⟩
    -- a trailing fetch that does not begin is held back
    · have hheld : c.held = true := by simpa [begins, htrailing] using hb
      exact .inr ⟨htrailing, .inr hheld⟩
  | hold =>
    refine ⟨fun hr => ⟨h.fetch hr, nofun⟩, ?_⟩
    rcases h.pending with ⟨hburst, hqueued⟩ | ⟨htrailing, -⟩
    · exact .inl ⟨⟨hburst, nofun⟩, hqueued⟩
    · exact .inr ⟨htrailing, .inr rfl⟩
  | release =>
    have hnext : c.next .release = { c with held := false } := if_neg (ne_true_of_eq_false hb)
    rw [hnext]
    refine ⟨fun hr => ⟨h.fetch hr, nofun⟩, ?_⟩
    rcases h.pending with ⟨hburst, hqueued⟩ | ⟨htrailing, -⟩
    · exact .inl ⟨⟨hburst, nofun⟩, hqueued⟩
    -- a trailing fetch that does not begin waits for the one that runs
    · have hrunning : c.running = true := by simpa [begins, htrailing] using hb
      exact .inr ⟨htrailing, .inl hrunning⟩
  | pass =>
    refine ⟨fun hr => ⟨h.fetch hr, nofun⟩, ?_⟩
    rcases h.pending with ⟨hburst, hqueued⟩ | htrailing
    · exact .inl ⟨⟨hburst, nofun⟩, hqueued⟩
    · exact .inr htrailing

theorem Waits.mono {burst' fetch' : Prop} (h : c.Waits burst fetch) (hb : burst → burst')
    (hf : fetch → fetch') : c.Waits burst' fetch' where
  fetch := hf ∘ h.fetch
  pending := h.pending.imp (And.imp_left hb) id

theorem Waits.pend (h : c.Waits burst fetch) : c.Pending := h.pending.imp And.right id

theorem Pending.next (h : c.Pending) (hb : c.begins a = false) : (c.next a).Pending :=
  (h.waits.next hb).pend

/-- Once the burst is collected and the earlier fetch is over, only what holds fetches back keeps
a request waiting. -/
theorem Waits.held (h : c.Waits burst fetch) (hburst : ¬burst) (hfetch : ¬fetch) : c.held := by
  rcases h.pending with ⟨hb, -⟩ | ⟨-, hrunning | hheld⟩
  · exact absurd hb hburst
  · exact absurd (h.fetch hrunning) hfetch
  · exact hheld

end Coalescer

end Foundation
