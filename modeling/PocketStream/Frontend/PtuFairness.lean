import PocketStream.Frontend.PtuFifo

/-! # The queue of the unit is fair

The books of the queue are kept by each of its small steps: a command is taken in,
passed over, sent or answered. What the loop does between two requests is a run of
these, and so is every call.
-/

namespace PocketStream

open Foundation

namespace PtuFifo

/-- The tickets of the commands sent, newest first. -/
def sents (log : List Event) : List ℕ :=
  log.filterMap fun
    | .sent x => some x.ticket
    | _ => none

def settleds (log : List Event) : List ℕ :=
  log.filterMap fun
    | .settled ticket _ => some ticket
    | _ => none

/-- A release was recorded after the press. -/
def Released (ticket seq : ℕ) (log : List Event) : Prop :=
  ∃ newer older, log = newer ++ .press ticket seq :: older ∧ .release ∈ newer

/-- A motion went out under the stamp, and no stop sent later under it is acknowledged. -/
def Unconfirmed (stamp : TargetStamp) (log : List Event) : Prop :=
  ∃ newer x older, log = newer ++ .sent x :: older ∧ x.stamp = stamp ∧ x.effect = some .motion ∧
    ∀ y, .sent y ∈ newer → y.stamp = stamp → y.effect = some .stop → .reply y.ticket true ∉ log

section Log

variable {e : Event} {log : List Event} {x : Sent} {ticket seq : ℕ} {stamp : TargetStamp}

theorem mem_sents : ticket ∈ sents log ↔ ∃ x, .sent x ∈ log ∧ x.ticket = ticket := by
  simp only [sents, List.mem_filterMap]
  constructor
  · rintro ⟨e, he, h⟩
    cases e with
    | sent x => exact ⟨x, he, Option.some.inj h⟩
    | _ => cases h
  · rintro ⟨x, hx, rfl⟩
    exact ⟨_, hx, rfl⟩

theorem mem_settleds : ticket ∈ settleds log ↔ ∃ outcome, .settled ticket outcome ∈ log := by
  simp only [settleds, List.mem_filterMap]
  constructor
  · rintro ⟨e, he, h⟩
    cases e with
    | settled t outcome => exact ⟨outcome, Option.some.inj h ▸ he⟩
    | _ => cases h
  · rintro ⟨outcome, h⟩
    exact ⟨_, h, rfl⟩

theorem released_cons : Released ticket seq (e :: log) ↔
    Released ticket seq log ∨ e = .release ∧ .press ticket seq ∈ log := by
  constructor
  · rintro ⟨newer, older, hlog, hmem⟩
    rcases List.cons_eq_append_iff.mp hlog with ⟨rfl, -⟩ | ⟨newer, rfl, rfl⟩
    · cases hmem
    · rcases List.mem_cons.mp hmem with rfl | hmem
      · exact .inr ⟨rfl, by simp⟩
      · exact .inl ⟨newer, older, rfl, hmem⟩
  · rintro (⟨newer, older, rfl, hmem⟩ | ⟨rfl, hmem⟩)
    · exact ⟨e :: newer, older, rfl, List.mem_cons_of_mem _ hmem⟩
    · obtain ⟨newer, older, rfl⟩ := List.append_of_mem hmem
      exact ⟨.release :: newer, older, rfl, List.mem_cons_self⟩

theorem Released.press (h : Released ticket seq log) : .press ticket seq ∈ log := by
  obtain ⟨newer, older, rfl, -⟩ := h
  simp

theorem forall_sent_cons {P : Sent → List Event → Prop} :
    (∀ newer x older, e :: log = newer ++ .sent x :: older → P x older) ↔
      (∀ x, e = .sent x → P x log) ∧
        ∀ newer x older, log = newer ++ .sent x :: older → P x older := by
  constructor
  · exact fun h => ⟨fun x hx => h [] x log (by rw [hx, List.nil_append]),
      fun newer x older hlog => h (e :: newer) x older (by rw [hlog, List.cons_append])⟩
  · rintro ⟨hnew, hold⟩ newer x older hlog
    rcases List.cons_eq_append_iff.mp hlog with ⟨rfl, h⟩ | ⟨newer, rfl, h⟩
    · obtain ⟨rfl, rfl⟩ := List.cons.inj h
      exact hnew x rfl
    · exact hold newer x older h

/-- An event that neither sends nor acknowledges leaves the risk as it is. -/
theorem unconfirmed_cons (hsent : ∀ x, e ≠ .sent x) (hreply : ∀ t, e ≠ .reply t true) :
    Unconfirmed stamp (e :: log) ↔ Unconfirmed stamp log := by
  constructor
  · rintro ⟨newer, x, older, hlog, hstamp, heffect, hnone⟩
    rcases List.cons_eq_append_iff.mp hlog with ⟨-, h⟩ | ⟨newer, rfl, rfl⟩
    · exact absurd (List.cons.inj h).1.symm (hsent x)
    · exact ⟨newer, x, older, rfl, hstamp, heffect, fun y hy hs he hr =>
        hnone y (List.mem_cons_of_mem _ hy) hs he (List.mem_cons_of_mem _ hr)⟩
  · rintro ⟨newer, x, older, rfl, hstamp, heffect, hnone⟩
    refine ⟨e :: newer, x, older, rfl, hstamp, heffect, fun y hy hs he hr => ?_⟩
    have hy' := (List.mem_cons.mp hy).resolve_left fun h => hsent y h.symm
    exact hnone y hy' hs he ((List.mem_cons.mp hr).resolve_left fun h => hreply _ h.symm)

theorem unconfirmed_sent (hfresh : .reply x.ticket true ∉ log) :
    Unconfirmed stamp (.sent x :: log) ↔
      x.stamp = stamp ∧ x.effect = some .motion ∨ Unconfirmed stamp log := by
  constructor
  · rintro ⟨newer, y, older, hlog, hstamp, heffect, hnone⟩
    rcases List.cons_eq_append_iff.mp hlog with ⟨-, h⟩ | ⟨newer, rfl, rfl⟩
    · obtain ⟨hy, -⟩ := List.cons.inj h
      cases hy
      exact .inl ⟨hstamp, heffect⟩
    · exact .inr ⟨newer, y, older, rfl, hstamp, heffect, fun z hz hs he hr =>
        hnone z (List.mem_cons_of_mem _ hz) hs he (List.mem_cons_of_mem _ hr)⟩
  · rintro (⟨hstamp, heffect⟩ | ⟨newer, y, older, rfl, hstamp, heffect, hnone⟩)
    · exact ⟨[], x, log, rfl, hstamp, heffect, nofun⟩
    · refine ⟨.sent x :: newer, y, older, rfl, hstamp, heffect, fun z hz hs he hr => ?_⟩
      have hr := (List.mem_cons.mp hr).resolve_left nofun
      rcases List.mem_cons.mp hz with h | hz
      · cases h
        exact hfresh hr
      · exact hnone z hz hs he hr

/-- The newest command sent, acknowledged. A stop clears its stamp. -/
theorem unconfirmed_ack {newer older : List Event} (hnewer : sents newer = [])
    (honce : (sents (newer ++ .sent x :: older)).Pairwise (· > ·)) :
    Unconfirmed stamp (.reply x.ticket true :: (newer ++ .sent x :: older)) ↔
      Unconfirmed stamp (newer ++ .sent x :: older) ∧
        ¬(x.stamp = stamp ∧ x.effect = some .stop) := by
  have hnone (y : Sent) : .sent y ∉ newer := fun hy =>
    List.not_mem_nil (hnewer ▸ mem_sents.mpr ⟨y, hy, rfl⟩)
  have hunique (y : Sent) (hy : .sent y ∈ newer ++ .sent x :: older)
      (ht : y.ticket = x.ticket) : y = x := by
    rcases List.mem_append.mp hy with hy | hy
    · exact absurd hy (hnone y)
    rcases List.mem_cons.mp hy with hy | hy
    · exact Event.sent.inj hy
    · have hsplit : sents (newer ++ .sent x :: older) = x.ticket :: sents older := by
        rw [sents, List.filterMap_append]
        exact congrArg (· ++ _) hnewer
      have hlt := (List.pairwise_cons.mp (hsplit ▸ honce)).1 _ (mem_sents.mpr ⟨y, hy, rfl⟩)
      omega
  constructor
  · rintro ⟨newer', y, older', hlog, hstamp, heffect, hacked⟩
    obtain ⟨newer', rfl, hrest⟩ := (List.cons_eq_append_iff.mp hlog).resolve_left
      fun h => nomatch (List.cons.inj h.2).1
    refine ⟨⟨newer', y, older', hrest, hstamp, heffect, fun z hz hs he hr =>
      hacked z (List.mem_cons_of_mem _ hz) hs he (List.mem_cons_of_mem _ hr)⟩, ?_⟩
    rintro ⟨hs, he⟩
    -- the stop is newer than the motion, which is not among what follows it
    have hmem : .sent x ∈ newer' := by
      rcases List.append_eq_append_iff.mp hrest with ⟨mid, rfl, h⟩ | ⟨mid, rfl, h⟩
      · rcases List.cons_eq_append_iff.mp h with ⟨-, h⟩ | ⟨mid, rfl, -⟩
        · have hyx : y = x := Event.sent.inj (List.cons.inj h).1
          rw [hyx, he] at heffect
          cases heffect
        · simp
      · cases mid with
        | nil =>
          have hyx : y = x := Event.sent.inj (List.cons.inj h).1
          rw [hyx, he] at heffect
          cases heffect
        | cons a mid =>
          obtain ⟨rfl, -⟩ := List.cons.inj h
          exact absurd (by simp) (hnone y)
    exact hacked x (List.mem_cons_of_mem _ hmem) hs he List.mem_cons_self
  · rintro ⟨⟨newer', y, older', hlog, hstamp, heffect, hacked⟩, hnot⟩
    refine ⟨.reply x.ticket true :: newer', y, older', by rw [hlog, List.cons_append], hstamp,
      heffect, fun z hz hs he hr => ?_⟩
    have hz := (List.mem_cons.mp hz).resolve_left nofun
    rcases List.mem_cons.mp hr with h | hr
    · have hzx := hunique z (hlog ▸ List.mem_append_left _ hz) (Event.reply.inj h).1
      exact hnot (hzx ▸ ⟨hs, he⟩)
    · exact hacked z hz hs he hr

end Log

variable {ω : Type} {s s' : PtuFifo ω} {queue : List (Item ω)} {item : Item ω}

/-- The commands that wait, the one under way first. -/
def tickets (s : PtuFifo ω) (queue : List (Item ω)) : Tickets :=
  ⟨s.next, (s.inFlight ++ queue).map (·.ticket), settleds s.log⟩

/-- The books of a queue: what waits and what the log says agree. -/
structure Booked (s : PtuFifo ω) (queue : List (Item ω)) : Prop where
  sound : (s.tickets queue).Sound
  newestFirst : (sents s.log).Pairwise (· > ·)
  sentDrawn : ∀ t ∈ sents s.log, t < s.next
  sentBefore : ∀ t ∈ sents s.log, ∀ item ∈ queue, t < item.ticket
  flying : ∀ item ∈ s.inFlight, ∃ newer x older, s.log = newer ++ .sent x :: older ∧
    sents newer = [] ∧ x.ticket = item.ticket ∧
    x.stamp = targetStamp item.target item.targetIp ∧ x.effect = item.motionEffect
  replied : ∀ t ok, .reply t ok ∈ s.log → t ∈ settleds s.log
  passed : ∀ t, .passedOver t ∈ s.log → .settled t .null ∈ s.log ∧ t ∉ sents s.log
  pressed : ∀ t seq, .press t seq ∈ s.log → t < s.next ∧ seq ≤ s.scene.ptuPressSeq
  reached : ∀ t seq, Released t seq s.log → seq ≤ s.scene.ptuReleasedThrough
  guarded : ∀ item ∈ queue, ∀ seq, .press item.ticket seq ∈ s.log → ∃ wanted,
    item.stillWanted = some wanted ∧ ∀ c, wanted c = true → c.ptuReleasedThrough < seq
  unreleased : ∀ newer x older, s.log = newer ++ .sent x :: older →
    ∀ seq, ¬Released x.ticket seq older
  risk : ∀ stamp, stamp ∈ s.ptuUnconfirmedMotion ↔ Unconfirmed stamp s.log

theorem Booked.congr (h : s.Booked queue) (hnext : s'.next = s.next)
    (hflight : s'.inFlight = s.inFlight) (hlog : s'.log = s.log)
    (hrisk : s'.ptuUnconfirmedMotion = s.ptuUnconfirmedMotion)
    (hpress : s'.scene.ptuPressSeq = s.scene.ptuPressSeq)
    (hrelease : s'.scene.ptuReleasedThrough = s.scene.ptuReleasedThrough) : s'.Booked queue := by
  have htickets : s'.tickets queue = s.tickets queue := by
    rw [tickets, tickets, hnext, hflight, hlog]
  constructor
  · exact htickets ▸ h.sound
  · exact hlog ▸ h.newestFirst
  · exact hlog ▸ hnext ▸ h.sentDrawn
  · exact hlog ▸ h.sentBefore
  · exact hlog ▸ hflight ▸ h.flying
  · exact hlog ▸ h.replied
  · exact hlog ▸ h.passed
  · rw [hlog, hnext, hpress]
    exact h.pressed
  · rw [hlog, hrelease]
    exact h.reached
  · exact hlog ▸ h.guarded
  · exact hlog ▸ h.unreleased
  · rw [hlog, hrisk]
    exact h.risk

theorem head_waiting (s : PtuFifo ω) (item : Item ω) (queue : List (Item ω)) :
    item.ticket ∈ (s.tickets (item :: queue)).waiting :=
  List.mem_map_of_mem (List.mem_append_right _ List.mem_cons_self)

/-- The first command of the queue leaves it unsent. -/
theorem Booked.passOver (h : s.Booked (item :: queue)) : (s.passOver item).Booked queue where
  sound := by
    have hnot : item.ticket ∉ s.inFlight.map (·.ticket) := by
      intro hmem
      have horder := h.sound.inOrder
      rw [tickets, List.map_append] at horder
      have hlt := (List.pairwise_append.mp horder).2.2 _ hmem _ List.mem_cons_self
      exact Nat.lt_irrefl _ hlt
    have hcall : (s.passOver item).tickets queue =
        (s.tickets (item :: queue)).call item.ticket := by
      rw [tickets, tickets, Tickets.call, List.map_append, List.map_append,
        List.erase_append_right _ hnot, List.map_cons, List.erase_cons_head]
      rfl
    exact hcall ▸ h.sound.call (head_waiting ..)
  newestFirst := h.newestFirst
  sentDrawn := h.sentDrawn
  sentBefore t ht i hi := h.sentBefore t ht i (List.mem_cons_of_mem _ hi)
  flying i hi := by
    obtain ⟨newer, x, older, hlog, hnone, hx⟩ := h.flying i hi
    exact ⟨.settled item.ticket .null :: .passedOver item.ticket :: newer, x, older,
      congrArg _ (congrArg _ hlog), hnone, hx⟩
  replied t ok hmem := by
    have hold : .reply t ok ∈ s.log := by simpa [PtuFifo.passOver] using hmem
    exact List.mem_cons_of_mem _ (h.replied t ok hold)
  passed t hmem := by
    rcases List.mem_cons.mp hmem with hnew | hmem
    · cases hnew
    rcases List.mem_cons.mp hmem with hnew | hmem
    · obtain rfl := Event.passedOver.inj hnew
      exact ⟨List.mem_cons_self,
        fun hsent => Nat.lt_irrefl _ (h.sentBefore _ hsent _ List.mem_cons_self)⟩
    · obtain ⟨hnull, hunsent⟩ := h.passed t hmem
      exact ⟨List.mem_cons_of_mem _ (List.mem_cons_of_mem _ hnull), hunsent⟩
  pressed t seq hmem := h.pressed t seq (by simpa [PtuFifo.passOver] using hmem)
  reached t seq hmem := h.reached t seq (by simpa [PtuFifo.passOver, released_cons] using hmem)
  guarded i hi seq hmem :=
    h.guarded i (List.mem_cons_of_mem _ hi) seq (by simpa [PtuFifo.passOver] using hmem)
  unreleased := by
    rw [PtuFifo.passOver, forall_sent_cons, forall_sent_cons]
    exact ⟨by simp, by simp, h.unreleased⟩
  risk stamp := by
    rw [PtuFifo.passOver, unconfirmed_cons (by simp) (by simp), unconfirmed_cons (by simp) (by simp)]
    exact h.risk stamp

/-- The first command of the queue goes out. -/
theorem Booked.send (h : s.Booked (item :: queue)) (hidle : s.inFlight = [])
    (hwanted : item.stillWanted.any (fun wanted => !wanted s.scene) = false)
    {ip : String} {target : DeviceTarget} (hip : item.targetIp = some ip)
    (htarget : item.target = some target) : (s.send item ip target).Booked queue where
  sound := by
    have hsame : (s.send item ip target).tickets queue = s.tickets (item :: queue) := by
      rw [tickets, tickets, PtuFifo.send, hidle]
      rfl
    exact hsame ▸ h.sound
  newestFirst := List.pairwise_cons.mpr
    ⟨fun t ht => h.sentBefore t ht _ List.mem_cons_self, h.newestFirst⟩
  sentDrawn t ht := by
    rcases List.mem_cons.mp ht with rfl | ht
    · exact h.sound.lt_of_waiting (head_waiting ..)
    · exact h.sentDrawn t ht
  sentBefore t ht i hi := by
    rcases List.mem_cons.mp ht with rfl | ht
    · have horder := h.sound.inOrder
      rw [tickets, hidle, List.nil_append, List.map_cons] at horder
      exact (List.pairwise_cons.mp horder).1 _ (List.mem_map_of_mem hi)
    · exact h.sentBefore t ht i (List.mem_cons_of_mem _ hi)
  flying i hi := by
    rw [PtuFifo.send, hidle] at hi
    obtain rfl := List.mem_singleton.mp hi
    exact ⟨[], _, s.log, rfl, rfl, rfl, by rw [hip, htarget], rfl⟩
  replied t ok hmem := h.replied t ok ((List.mem_cons.mp hmem).resolve_left nofun)
  passed t hmem := by
    obtain ⟨hnull, hunsent⟩ := h.passed t ((List.mem_cons.mp hmem).resolve_left nofun)
    refine ⟨List.mem_cons_of_mem _ hnull, fun hsent => ?_⟩
    rcases List.mem_cons.mp hsent with rfl | hsent
    · exact h.sound.not_called (head_waiting ..) (mem_settleds.mpr ⟨_, hnull⟩)
    · exact hunsent hsent
  pressed t seq hmem := h.pressed t seq ((List.mem_cons.mp hmem).resolve_left nofun)
  reached t seq hmem := h.reached t seq ((released_cons.mp hmem).resolve_right nofun)
  guarded i hi seq hmem :=
    h.guarded i (List.mem_cons_of_mem _ hi) seq ((List.mem_cons.mp hmem).resolve_left nofun)
  unreleased := by
    refine forall_sent_cons.mpr ⟨fun x hx seq hreleased => ?_, h.unreleased⟩
    obtain rfl := Event.sent.inj hx
    obtain ⟨wanted, hcond, hafter⟩ :=
      h.guarded item List.mem_cons_self seq hreleased.press
    have hyes : wanted s.scene = true := by simpa [hcond] using hwanted
    exact absurd (hafter _ hyes) (Nat.not_lt_of_le (h.reached _ seq hreleased))
  risk stamp := by
    have hfresh : .reply item.ticket true ∉ s.log := fun hmem =>
      h.sound.not_called (head_waiting ..) (h.replied _ _ hmem)
    rw [PtuFifo.send, unconfirmed_sent (by exact hfresh), ← h.risk]
    dsimp only
    by_cases heffect : item.motionEffect = some .motion
    · rw [if_pos heffect, Finset.mem_insert, and_iff_left heffect, eq_comm]
    · rw [if_neg heffect, or_iff_right fun hc => heffect hc.2]

/-- The only request under way ends. -/
theorem Booked.answer (h : s.Booked queue) (hflight : s.inFlight = [item]) (ok : Bool) :
    (s.answer item ok).Booked queue where
  sound := by
    have hcall : (s.answer item ok).tickets queue = (s.tickets queue).call item.ticket := by
      simp [tickets, Tickets.call, PtuFifo.answer, hflight, settleds]
    exact hcall ▸ h.sound.call (by simp [tickets, hflight])
  newestFirst := h.newestFirst
  sentDrawn := h.sentDrawn
  sentBefore := h.sentBefore
  flying i hi := by simp [PtuFifo.answer, hflight] at hi
  replied t ok' hmem := by
    rcases List.mem_cons.mp ((List.mem_cons.mp hmem).resolve_left (by simp)) with hnew | hold
    · exact mem_settleds.mpr ⟨_, List.mem_cons.mpr (.inl (by rw [(Event.reply.inj hnew).1]))⟩
    · exact List.mem_cons_of_mem _ (h.replied t ok' hold)
  passed t hmem := by
    have hold : .passedOver t ∈ s.log := by simpa [PtuFifo.answer] using hmem
    obtain ⟨hnull, hunsent⟩ := h.passed t hold
    exact ⟨List.mem_cons_of_mem _ (List.mem_cons_of_mem _ hnull), hunsent⟩
  pressed t seq hmem := h.pressed t seq (by simpa [PtuFifo.answer] using hmem)
  reached t seq hmem := h.reached t seq (by simpa [PtuFifo.answer, released_cons] using hmem)
  guarded i hi seq hmem := h.guarded i hi seq (by simpa [PtuFifo.answer] using hmem)
  unreleased := by
    rw [PtuFifo.answer, forall_sent_cons, forall_sent_cons]
    exact ⟨by simp, by simp, h.unreleased⟩
  risk stamp := by
    rw [PtuFifo.answer, unconfirmed_cons (by simp) (by simp)]
    cases ok with
    | false =>
      rw [unconfirmed_cons (by simp) (by simp), ← h.risk]
      simp
    | true =>
      obtain ⟨newer, x, older, hlog, hnone, hticket, hstamp, heffect⟩ :=
        h.flying item (hflight ▸ List.mem_cons_self)
      rw [hlog, ← hticket, unconfirmed_ack hnone (hlog ▸ h.newestFirst), ← hlog, ← h.risk,
        hstamp, heffect]
      by_cases hstop : item.motionEffect = some .stop
      · simp [hstop, and_comm, eq_comm]
      · simp [hstop]

theorem tickets_enqueue (queue : List (Item ω)) (hticket : item.ticket = s.next) :
    tickets { s with next := s.next + 1 } (queue ++ [item]) = (s.tickets queue).draw := by
  simp [tickets, Tickets.draw, hticket]

/-- A command is taken in behind the others. -/
theorem Booked.enqueue (h : s.Booked queue) (item : Item ω) (hticket : item.ticket = s.next) :
    { s with next := s.next + 1 }.Booked (queue ++ [item]) where
  sound := tickets_enqueue queue hticket ▸ h.sound.draw
  newestFirst := h.newestFirst
  sentDrawn t ht := Nat.lt_succ_of_lt (h.sentDrawn t ht)
  sentBefore t ht i hi := by
    rcases List.mem_append.mp hi with hi | hi
    · exact h.sentBefore t ht i hi
    · rw [List.mem_singleton.mp hi, hticket]
      exact h.sentDrawn t ht
  flying := h.flying
  replied := h.replied
  passed := h.passed
  pressed t seq hmem := ⟨Nat.lt_succ_of_lt (h.pressed t seq hmem).1, (h.pressed t seq hmem).2⟩
  reached := h.reached
  guarded i hi seq hmem := by
    rcases List.mem_append.mp hi with hi | hi
    · exact h.guarded i hi seq hmem
    · rw [List.mem_singleton.mp hi, hticket] at hmem
      exact absurd (h.pressed _ _ hmem).1 (Nat.lt_irrefl _)
  unreleased := h.unreleased
  risk := h.risk

/-- A press is recorded for a move that has just been taken in. -/
theorem Booked.press (h : s.Booked queue) (ticket : ℕ) {seq : ℕ} (hticket : ticket < s.next)
    (hseq : s.scene.ptuPressSeq ≤ seq)
    (hguard : ∀ item ∈ queue, item.ticket = ticket → ∃ wanted, item.stillWanted = some wanted ∧
      ∀ c, wanted c = true → c.ptuReleasedThrough < seq) :
    { s with
      scene := { s.scene with ptuPressSeq := seq }
      log := .press ticket seq :: s.log }.Booked queue where
  sound := h.sound
  newestFirst := h.newestFirst
  sentDrawn := h.sentDrawn
  sentBefore := h.sentBefore
  flying i hi := by
    obtain ⟨newer, x, older, hlog, hnone, hx⟩ := h.flying i hi
    exact ⟨.press ticket seq :: newer, x, older, congrArg _ hlog, hnone, hx⟩
  replied t ok hmem := h.replied t ok ((List.mem_cons.mp hmem).resolve_left nofun)
  passed t hmem := by
    obtain ⟨hnull, hunsent⟩ := h.passed t ((List.mem_cons.mp hmem).resolve_left nofun)
    exact ⟨List.mem_cons_of_mem _ hnull, hunsent⟩
  pressed t seq' hmem := by
    rcases List.mem_cons.mp hmem with hnew | hold
    · cases hnew
      exact ⟨hticket, Nat.le_refl _⟩
    · exact ⟨(h.pressed t seq' hold).1, (h.pressed t seq' hold).2.trans hseq⟩
  reached t seq' hmem := h.reached t seq' ((released_cons.mp hmem).resolve_right nofun)
  guarded i hi seq' hmem := by
    rcases List.mem_cons.mp hmem with hnew | hold
    · obtain ⟨ht, rfl⟩ := Event.press.inj hnew
      exact hguard i hi ht
    · exact h.guarded i hi seq' hold
  unreleased := forall_sent_cons.mpr ⟨fun _ => nofun, h.unreleased⟩
  risk stamp := by
    rw [unconfirmed_cons (by simp) (by simp)]
    exact h.risk stamp

/-- A release covers every press so far. -/
theorem Booked.release (h : s.Booked queue) :
    { s with
      scene := { s.scene with ptuReleasedThrough := s.scene.ptuPressSeq }
      log := .release :: s.log }.Booked queue where
  sound := h.sound
  newestFirst := h.newestFirst
  sentDrawn := h.sentDrawn
  sentBefore := h.sentBefore
  flying i hi := by
    obtain ⟨newer, x, older, hlog, hnone, hx⟩ := h.flying i hi
    exact ⟨.release :: newer, x, older, congrArg _ hlog, hnone, hx⟩
  replied t ok hmem := h.replied t ok ((List.mem_cons.mp hmem).resolve_left nofun)
  passed t hmem := by
    obtain ⟨hnull, hunsent⟩ := h.passed t ((List.mem_cons.mp hmem).resolve_left nofun)
    exact ⟨List.mem_cons_of_mem _ hnull, hunsent⟩
  pressed t seq hmem := h.pressed t seq ((List.mem_cons.mp hmem).resolve_left nofun)
  reached t seq hmem := by
    rcases released_cons.mp hmem with hold | ⟨-, hold⟩
    · exact (h.pressed t seq hold.press).2
    · exact (h.pressed t seq hold).2
  guarded i hi seq hmem := h.guarded i hi seq ((List.mem_cons.mp hmem).resolve_left nofun)
  unreleased := forall_sent_cons.mpr ⟨fun _ => nofun, h.unreleased⟩
  risk stamp := by
    rw [unconfirmed_cons (by simp) (by simp)]
    exact h.risk stamp

/-- The loop waits for one request, or it is stopped and nothing waits. -/
def Driven (s : PtuFifo ω) : Prop :=
  s.ptuDraining = true ∧ (∃ item, s.inFlight = [item]) ∨
    s.ptuDraining = false ∧ s.inFlight = [] ∧ s.ptuQueue = []

/-- What a step leaves, and how near it has brought every ticket to its turn. -/
structure Follows (s : PtuFifo ω) (queue : List (Item ω)) (s' : PtuFifo ω) : Prop where
  booked : s'.Booked s'.ptuQueue
  driven : s'.Driven
  next : s.next ≤ s'.next
  ahead : ∀ n < s.next, (s'.tickets s'.ptuQueue).ahead n ≤ (s.tickets queue).ahead n

theorem ahead_passOver (s : PtuFifo ω) (item : Item ω) (queue : List (Item ω)) (n : ℕ) :
    ((s.passOver item).tickets queue).ahead n ≤ (s.tickets (item :: queue)).ahead n := by
  simp only [tickets, Tickets.ahead, PtuFifo.passOver, List.map_append, List.countP_append,
    List.map_cons, List.countP_cons]
  omega

theorem Booked.drain (h : s.Booked queue) (hidle : s.inFlight = []) (hon : s.ptuDraining = true) :
    Follows s queue (s.drainPtuQueue queue) := by
  induction queue generalizing s with
  | nil => exact ⟨h.congr rfl rfl rfl rfl rfl rfl, .inr ⟨rfl, hidle, rfl⟩, le_rfl, fun _ _ => le_rfl⟩
  | cons item queue ih =>
    have hpast := ih (s := s.passOver item) h.passOver hidle hon
    have hnext : Follows s (item :: queue) ((s.passOver item).drainPtuQueue queue) :=
      ⟨hpast.booked, hpast.driven, hpast.next,
        fun n hn => (hpast.ahead n hn).trans (ahead_passOver s item queue n)⟩
    unfold drainPtuQueue
    split
    · exact hnext
    next hwanted =>
      split
      next ip target hip htarget =>
        have hip' := (Option.filter_eq_some_iff.mp hip).1
        have hsent := Booked.send (s := { s with ptuQueue := queue })
          (h.congr rfl rfl rfl rfl rfl rfl) hidle (Bool.not_eq_true _ ▸ hwanted) hip' htarget
        refine ⟨hsent, .inl ⟨hon, item, congrArg _ hidle⟩, le_rfl, fun n _ => ?_⟩
        exact Nat.le_of_eq (by simp only [tickets, PtuFifo.send, hidle]; rfl)
      · exact hnext

/-! ### The calls -/

/-- The books are kept, and the loop runs as long as anything waits. -/
structure Kept (s : PtuFifo ω) : Prop where
  booked : s.Booked s.ptuQueue
  driven : s.Driven

theorem Follows.kept (h : Follows s queue s') : s'.Kept := ⟨h.booked, h.driven⟩

theorem Kept.refl (h : s.Kept) : Follows s s.ptuQueue s :=
  ⟨h.booked, h.driven, le_rfl, fun _ _ => le_rfl⟩

theorem Follows.trans {s₁ : PtuFifo ω} (h : Follows s queue s₁)
    (h' : Follows s₁ s₁.ptuQueue s') : Follows s queue s' where
  booked := h'.booked
  driven := h'.driven
  next := h.next.trans h'.next
  ahead n hn := (h'.ahead n (hn.trans_le h.next)).trans (h.ahead n hn)

theorem follows_taken (cmd : PtuScene ω → String) (opts : Opts ω) (hd : s.Driven)
    (h : { s with next := s.next + 1 }.Booked (s.ptuQueue ++ [s.item cmd opts])) :
    Follows { s with next := s.next + 1 } (s.ptuQueue ++ [s.item cmd opts])
      (s.enqueuePtuCmd cmd opts) := by
  unfold enqueuePtuCmd
  dsimp only
  split
  next hon =>
    refine ⟨h.congr rfl rfl rfl rfl rfl rfl, .inl ⟨hon, ?_⟩, le_rfl, fun _ _ => le_rfl⟩
    rcases hd with ⟨-, hflight⟩ | ⟨hoff, -⟩
    · exact hflight
    · rw [hoff] at hon
      cases hon
  next hoff =>
    rcases hd with ⟨hon, -⟩ | ⟨-, hidle, -⟩
    · exact absurd hon hoff
    · have hrest := Booked.drain (s := { s with
          next := s.next + 1
          ptuQueue := s.ptuQueue ++ [s.item cmd opts]
          ptuDraining := true }) (h.congr rfl rfl rfl rfl rfl rfl) hidle rfl
      exact ⟨hrest.booked, hrest.driven, hrest.next, hrest.ahead⟩

theorem Kept.enqueue (h : s.Kept) (cmd : PtuScene ω → String) (opts : Opts ω) :
    Follows s s.ptuQueue (s.enqueuePtuCmd cmd opts) := by
  have htaken := follows_taken cmd opts h.driven (h.booked.enqueue (s.item cmd opts) rfl)
  refine ⟨htaken.booked, htaken.driven, (Nat.le_succ _).trans htaken.next, fun n hn => ?_⟩
  refine (htaken.ahead n (Nat.lt_succ_of_lt hn)).trans (Nat.le_of_eq ?_)
  rw [tickets_enqueue _ rfl, Tickets.ahead_draw hn]

theorem foldl_passOver (s : PtuFifo ω) (queue : List (Item ω)) :
    ∃ log, queue.foldl PtuFifo.passOver s = { s with log := log } := by
  induction queue generalizing s with
  | nil => exact ⟨s.log, rfl⟩
  | cons item queue ih => exact ih (s.passOver item)

theorem Booked.passAll (h : s.Booked queue) : (queue.foldl PtuFifo.passOver s).Booked [] ∧
    ∀ n, ((queue.foldl PtuFifo.passOver s).tickets []).ahead n ≤ (s.tickets queue).ahead n := by
  induction queue generalizing s with
  | nil => exact ⟨h, fun _ => le_rfl⟩
  | cons item queue ih =>
    obtain ⟨hbooked, hahead⟩ := ih h.passOver
    exact ⟨hbooked, fun n => (hahead n).trans (ahead_passOver s item queue n)⟩

theorem Kept.purge (h : s.Kept) : Follows s s.ptuQueue s.purgePtuQueue := by
  have hempty : { s with ptuQueue := [] }.Booked s.ptuQueue :=
    h.booked.congr rfl rfl rfl rfl rfl rfl
  obtain ⟨hbooked, hahead⟩ := hempty.passAll
  obtain ⟨log, hlog⟩ := foldl_passOver { s with ptuQueue := [] } s.ptuQueue
  unfold purgePtuQueue
  rw [hlog] at hbooked hahead ⊢
  exact ⟨hbooked, h.driven.imp id fun hoff => ⟨hoff.1, hoff.2.1, rfl⟩, le_rfl, fun n _ => hahead n⟩

/-- What the books do not hold may change. -/
theorem Kept.congr (h : s.Kept) (scene : PtuScene ω) (halts : List Halt) (toasts : List String)
    (hpress : scene.ptuPressSeq = s.scene.ptuPressSeq)
    (hrelease : scene.ptuReleasedThrough = s.scene.ptuReleasedThrough) :
    Follows s s.ptuQueue { s with
      scene := scene, halts := halts, toasts := toasts } :=
  ⟨h.booked.congr rfl rfl rfl rfl hpress hrelease, h.driven, le_rfl, fun _ _ => le_rfl⟩

theorem Kept.tryHalt (h : s.Kept) (ip : String) (target : DeviceTarget) (attempt : ℕ) :
    Follows s s.ptuQueue (s.tryHalt ip target attempt) := by
  have hnoted := h.congr s.scene (⟨s.next, ip, target, attempt⟩ :: s.halts) s.toasts rfl rfl
  exact hnoted.trans (hnoted.kept.enqueue _ _)

theorem Kept.haltSettled (h : s.Kept) (halt : Halt) (outcome : Outcome) :
    Follows s s.ptuQueue (s.haltSettled halt outcome) := by
  have hdone := h.congr s.scene (s.halts.erase halt) s.toasts rfl rfl
  unfold PtuFifo.haltSettled
  dsimp only
  split
  · exact hdone
  split
  · exact hdone.trans (hdone.kept.tryHalt _ _ _)
  split
  · exact h.congr _ _ _ rfl rfl
  · exact hdone

theorem Kept.startMove (h : s.Kept) (action : SpeedAction) :
    Follows s s.ptuQueue (s.startMove action) := by
  unfold PtuFifo.startMove
  split
  · exact h.refl
  split
  · exact h.refl
  next operation _ =>
    let s₁ : PtuFifo ω := { s with
      pressOperation := Function.update s.pressOperation action (some operation)
      scene := { s.scene with ptuPressSeq := s.scene.ptuPressSeq + 1 }
      log := .press s.next (s.scene.ptuPressSeq + 1) :: s.log }
    let cmd : PtuScene ω → String := fun c => "C=V&" ++ c.speedCmd action
    let opts : Opts ω := ⟨some fun c => c.ptuReleasedThrough < s.scene.ptuPressSeq + 1 &&
      c.ptuOperationCurrent operation, some operation.targetIp, some operation.target,
      some .motion⟩
    have hpressed := (h.booked.enqueue (s₁.item cmd opts) rfl).press s.next (Nat.lt_succ_self _)
      (Nat.le_succ _) (by
        intro i hi hticket
        rcases List.mem_append.mp hi with hi | hi
        · have hlt := h.booked.sound.lt_of_waiting
            (List.mem_map_of_mem (List.mem_append_right s.inFlight hi))
          exact absurd hticket (Nat.ne_of_lt hlt)
        · obtain rfl := List.mem_singleton.mp hi
          exact ⟨_, rfl, fun c hc => of_decide_eq_true (Bool.and_eq_true_iff.mp hc).1⟩)
    have hrest : Follows { s₁ with next := s.next + 1 } _ (s₁.enqueuePtuCmd cmd opts) :=
      follows_taken cmd opts h.driven (hpressed.congr rfl rfl rfl rfl rfl rfl)
    refine ⟨hrest.booked, hrest.driven, (Nat.le_succ _).trans hrest.next, fun n hn => ?_⟩
    refine (hrest.ahead n (Nat.lt_succ_of_lt hn)).trans (Nat.le_of_eq ?_)
    exact (congrArg (Tickets.ahead · n) (tickets_enqueue s.ptuQueue rfl)).trans
      (Tickets.ahead_draw hn)

theorem Kept.ptuCmd (h : s.Kept) (cmd : String) (operation : PtuOperation)
    (motionEffect : Option PtuMotionEffect) :
    Follows s s.ptuQueue (s.ptuCmd cmd operation motionEffect) := by
  unfold PtuFifo.ptuCmd
  split
  · exact h.enqueue _ _
  · exact h.refl

theorem Kept.stopMove (h : s.Kept) (action : SpeedAction) :
    Follows s s.ptuQueue (s.stopMove action) := by
  have hreleased : Follows s s.ptuQueue { s with
      scene := { s.scene with ptuReleasedThrough := s.scene.ptuPressSeq }
      pressOperation := Function.update s.pressOperation action none
      log := .release :: s.log } :=
    ⟨h.booked.release.congr rfl rfl rfl rfl rfl rfl, h.driven, le_rfl, fun _ _ => le_rfl⟩
  unfold PtuFifo.stopMove
  dsimp only
  split
  · exact hreleased
  · exact hreleased.trans (hreleased.kept.ptuCmd _ _ _)

/-- A reply brings everything that waits one nearer. -/
theorem Kept.reply (h : s.Kept) {ticket : ℕ}
    (hitem : s.inFlight.find? (·.ticket = ticket) = some item) (ok : Bool) :
    Follows s s.ptuQueue (s.reply item ok) ∧
      ∀ n < s.next, ((s.reply item ok).tickets (s.reply item ok).ptuQueue).ahead n ≤
        (s.tickets s.ptuQueue).ahead n - 1 := by
  have hmem := List.mem_of_find?_eq_some hitem
  rcases h.driven with ⟨hon, item', hflight⟩ | ⟨-, hidle, -⟩
  · rw [hflight] at hmem
    obtain rfl := List.mem_singleton.mp hmem
    have hrest := (h.booked.answer hflight ok).drain (by simp [PtuFifo.answer, hflight]) hon
    have hnear (n : ℕ) : ((s.answer item ok).tickets s.ptuQueue).ahead n ≤
        (s.tickets s.ptuQueue).ahead n - 1 := by
      have hcall : (s.answer item ok).tickets s.ptuQueue =
          (s.tickets s.ptuQueue).call item.ticket := by
        simp [tickets, Tickets.call, PtuFifo.answer, hflight, settleds]
      rw [hcall]
      exact h.booked.sound.ahead_call (by rw [tickets, hflight]; rfl)
    have hahead n (hn : n < s.next) := (hrest.ahead n hn).trans (hnear n)
    exact ⟨⟨hrest.booked, hrest.driven, hrest.next,
      fun n hn => (hahead n hn).trans (Nat.sub_le _ _)⟩, hahead⟩
  · rw [hidle] at hmem
    cases hmem

theorem Kept.step (h : s.Kept) {call : Call ω} (hs : s.step call = some s') :
    Follows s s.ptuQueue s' := by
  cases call with
  | enqueuePtuCmd cmd opts =>
    obtain rfl := Option.some.inj hs
    exact h.enqueue cmd opts
  | purgePtuQueue =>
    obtain rfl := Option.some.inj hs
    exact h.purge
  | haltPtuUnit ip target =>
    obtain rfl := Option.some.inj hs
    have hretired := h.congr { s.scene with
      ptuOperationGeneration := s.scene.ptuOperationGeneration + 1 } s.halts s.toasts rfl rfl
    have hpurged := hretired.trans hretired.kept.purge
    exact hpurged.trans (hpurged.kept.tryHalt ip target 0)
  | haltSettled halt outcome =>
    obtain ⟨-, hs⟩ := Option.ite_none_right_eq_some.mp hs
    obtain rfl := Option.some.inj hs
    exact h.haltSettled halt outcome
  | startMove action =>
    obtain rfl := Option.some.inj hs
    exact h.startMove action
  | stopMove action =>
    obtain rfl := Option.some.inj hs
    exact h.stopMove action
  | scene ptuSpeedBig activePtuTarget endpointFor rest =>
    obtain rfl := Option.some.inj hs
    exact h.congr _ s.halts s.toasts rfl rfl
  | retire =>
    obtain rfl := Option.some.inj hs
    exact h.congr _ s.halts s.toasts rfl rfl
  | reply ticket ok =>
    obtain ⟨item, hitem, rfl⟩ := Option.map_eq_some_iff.mp hs
    exact (h.reply hitem ok).1

theorem kept_initial (rest : ω) : (initial rest).Kept where
  booked := {
    sound := ⟨.nil, .refl _⟩
    newestFirst := .nil
    sentDrawn := nofun
    sentBefore := nofun
    flying := nofun
    replied := nofun
    passed := nofun
    pressed := nofun
    reached := fun _ _ h => nomatch h.press
    guarded := nofun
    unreleased := fun newer x older hlog => by simp [initial] at hlog
    risk := fun stamp => by simp [initial, Unconfirmed] }
  driven := .inr ⟨rfl, rfl, rfl⟩

theorem kept_of_reachable {rest : ω} (h : (machine rest).Reachable s) : s.Kept :=
  h.invariant (kept_initial rest) fun _ _ _ hkept hs => (hkept.step hs).kept

def Call.isReply : Call ω → Bool
  | .reply .. => true
  | _ => false

/-- Every reply of a run brings what waited at its start one nearer. -/
theorem Kept.run {rest : ω} {calls : List (Call ω)} (h : s.Kept)
    (hr : (machine rest).run s calls = some s') : Follows s s.ptuQueue s' ∧
      ∀ n < s.next, (s'.tickets s'.ptuQueue).ahead n ≤
        (s.tickets s.ptuQueue).ahead n - calls.countP Call.isReply := by
  induction calls generalizing s with
  | nil =>
    obtain rfl := Option.some.inj hr
    exact ⟨h.refl, fun _ _ => le_rfl⟩
  | cons call calls ih =>
    obtain ⟨s₁, hs, hr⟩ := Option.bind_eq_some_iff.mp hr
    have hfirst := h.step hs
    obtain ⟨hrest, hnear⟩ := ih hfirst.kept hr
    refine ⟨hfirst.trans hrest, fun n hn => (hnear n (hn.trans_le hfirst.next)).trans ?_⟩
    rw [List.countP_cons]
    have hle := hfirst.ahead n hn
    cases call with
    | reply ticket ok =>
      obtain ⟨item, hitem, rfl⟩ := Option.map_eq_some_iff.mp hs
      have hone := (h.reply hitem ok).2 n hn
      rw [if_pos (show (Call.reply ticket ok : Call ω).isReply = true from rfl)]
      omega
    | _ => exact Nat.sub_le_sub_right hle _

/-- The queue is a fair one, and the risk on record is the true one. -/
structure Fair (s : PtuFifo ω) : Prop where
  oneRequest : s.inFlight.length ≤ 1
  inOrder : (sents s.log).reverse.Pairwise (· < ·)
  settledOnce : ∀ t < s.next,
    (settleds s.log).count t + ((s.inFlight ++ s.ptuQueue).map (·.ticket)).count t = 1
  noneWaits : s.ptuDraining = false → s.inFlight = [] ∧ s.ptuQueue = []
  unreleased : ∀ newer x older, s.log = newer ++ .sent x :: older →
    ∀ seq, ¬Released x.ticket seq older
  passedOver : ∀ t, .passedOver t ∈ s.log → .settled t .null ∈ s.log ∧ t ∉ sents s.log
  risk : ∀ stamp, stamp ∈ s.ptuUnconfirmedMotion ↔ Unconfirmed stamp s.log

theorem Kept.fair (h : s.Kept) : s.Fair where
  oneRequest := by
    rcases h.driven with ⟨-, item, hflight⟩ | ⟨-, hidle, -⟩
    · exact Nat.le_of_eq (congrArg List.length hflight)
    · exact hidle ▸ Nat.zero_le _
  inOrder := List.pairwise_reverse.mpr h.booked.newestFirst
  settledOnce t ht := by
    have hcount := h.booked.sound.once.count_eq t
    rw [List.count_append, List.nodup_range.count] at hcount
    exact hcount.trans (if_pos (List.mem_range.mpr ht))
  noneWaits hoff := by
    rcases h.driven with ⟨hon, -⟩ | ⟨-, hidle⟩
    · rw [hoff] at hon
      cases hon
    · exact hidle
  unreleased := h.booked.unreleased
  passedOver := h.booked.passed
  risk := h.booked.risk

/-- Two presses and a release between them; the reply to the first move is lost. -/
def tapping : List (Call Unit) :=
  let unit : DeviceTarget := ⟨"02:00:00:00:00:05", some "02:00:00:00:00:05"⟩
  [.scene 100 (some unit) (fun _ => some "10.0.0.85") (), .startMove .left, .stopMove .left,
    .startMove .up, .reply 0 false, .reply 1 true]

def tapped : PtuFifo Unit := ((machine ()).run (initial ()) tapping).getD (initial ())

end PtuFifo

end PocketStream
