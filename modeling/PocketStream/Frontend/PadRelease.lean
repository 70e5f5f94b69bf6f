import PocketStream.Frontend.PtuQueue

/-! # A released pad stops the unit

A motion that went out is covered as long as a halt of its endpoint is queued, a
stop of its operation is queued, or its button is held under an operation that is
still current. A step that retires the operation of a moving unit loses the stop.
-/

namespace PocketStream

open Foundation

namespace Ptz

/-- The motions sent that no full stop to their endpoint follows. -/
def unstopped : List PtuSend → List PtuSend
  | [] => []
  | x :: sent =>
    match x.item with
    | .move .. => x :: unstopped sent
    | _ => if x.fullStop then (unstopped sent).filter (·.ip ≠ x.ip) else unstopped sent

theorem mem_unstopped {x : PtuSend} {newer older : List PtuSend} {action : SpeedAction} {seq : ℕ}
    {operation : PtuOperation} (hx : x.item = .move action seq operation)
    (hnone : ∀ y ∈ newer, y.fullStop = true → y.ip ≠ x.ip) :
    x ∈ unstopped (newer ++ x :: older) := by
  induction newer with
  | nil => simp [unstopped, hx]
  | cons y newer ih =>
    have ih := ih fun z hz => hnone z (List.mem_cons_of_mem y hz)
    rw [List.cons_append]
    unfold unstopped
    split
    · exact List.mem_cons_of_mem y ih
    · split
      · next hstop =>
        simpa [ih] using (hnone y List.mem_cons_self hstop).symm
      · exact ih

variable {s s' : Ptz} {queue : List QueuedPtuCmd}

/-- Nothing that operations, presses and releases depend on has changed. -/
structure SameUnit (s s' : Ptz) : Prop where
  devices : s'.devices = s.devices
  manualNodes : s'.manualNodes = s.manualNodes
  generation : s'.ptuOperationGeneration = s.ptuOperationGeneration
  pressSeq : s'.ptuPressSeq = s.ptuPressSeq
  releasedThrough : s'.ptuReleasedThrough = s.ptuReleasedThrough
  pressOperation : s'.pressOperation = s.pressOperation
  held : s'.held = s.held

theorem SameUnit.refl (s : Ptz) : SameUnit s s := ⟨rfl, rfl, rfl, rfl, rfl, rfl, rfl⟩

theorem SameUnit.trans {s₁ s₂ s₃ : Ptz} (h : SameUnit s₁ s₂) (h' : SameUnit s₂ s₃) :
    SameUnit s₁ s₃ where
  devices := h'.devices.trans h.devices
  manualNodes := h'.manualNodes.trans h.manualNodes
  generation := h'.generation.trans h.generation
  pressSeq := h'.pressSeq.trans h.pressSeq
  releasedThrough := h'.releasedThrough.trans h.releasedThrough
  pressOperation := h'.pressOperation.trans h.pressOperation
  held := h'.held.trans h.held

theorem sameUnit_queryDone (s : Ptz) (id : ℕ) :
    SameUnit s (s.queryDone id) ∧ (s.queryDone id).sent = s.sent ∧
      (s.queryDone id).ptuQueue = s.ptuQueue ∧ (s.queryDone id).inFlight = s.inFlight := by
  unfold queryDone
  split
  · exact ⟨⟨rfl, rfl, rfl, rfl, rfl, rfl, rfl⟩, rfl, rfl, rfl⟩
  · exact ⟨.refl s, rfl, rfl, rfl⟩

theorem sameUnit_resolveNull (s : Ptz) (item : QueuedPtuCmd) :
    SameUnit s (s.resolveNull item) ∧ (s.resolveNull item).sent = s.sent ∧
      (s.resolveNull item).ptuQueue = s.ptuQueue ∧ (s.resolveNull item).inFlight = s.inFlight := by
  cases item with
  | speedLimits query | velocityMode query => exact sameUnit_queryDone s query
  | _ => exact ⟨.refl s, rfl, rfl, rfl⟩

theorem foldl_resolveNull (s : Ptz) (queue : List QueuedPtuCmd) :
    (queue.foldl resolveNull s).ptuQueue = s.ptuQueue ∧ (queue.foldl resolveNull s).sent = s.sent ∧
      (queue.foldl resolveNull s).inFlight = s.inFlight := by
  induction queue generalizing s with
  | nil => exact ⟨rfl, rfl, rfl⟩
  | cons item queue ih =>
    obtain ⟨hqueue, hsent, hflight⟩ := ih (s.resolveNull item)
    obtain ⟨-, hsent', hqueue', hflight'⟩ := sameUnit_resolveNull s item
    exact ⟨hqueue.trans hqueue', hsent.trans hsent', hflight.trans hflight'⟩

/-- The motions queued that could still go out are those of buttons held. -/
structure MoveInv (s : Ptz) (queue : List QueuedPtuCmd) : Prop where
  numbered : ∀ action seq operation, .move action seq operation ∈ queue → seq ≤ s.ptuPressSeq
  captured : ∀ action seq operation, .move action seq operation ∈ queue →
    operation.generation ≤ s.ptuOperationGeneration
  awaited : ∀ action seq operation, .move action seq operation ∈ queue →
    s.ptuReleasedThrough < seq → operation.generation = s.ptuOperationGeneration →
    s.pressOperation action = some operation ∧ (action, seq) ∈ s.held

theorem MoveInv.mono {queue' : List QueuedPtuCmd} (h : s.MoveInv queue)
    (hsub : ∀ item ∈ queue', item ∈ queue) : s.MoveInv queue' where
  numbered action seq operation hmem := h.numbered action seq operation (hsub _ hmem)
  captured action seq operation hmem := h.captured action seq operation (hsub _ hmem)
  awaited action seq operation hmem := h.awaited action seq operation (hsub _ hmem)

/-- A command that is no motion needs nothing of the pad. -/
theorem MoveInv.append {item : QueuedPtuCmd} (h : s.MoveInv queue)
    (hitem : item.motionEffect ≠ some .motion) : s.MoveInv (queue ++ [item]) := by
  have hmove : ∀ action seq operation, .move action seq operation ∈ queue ++ [item] →
      .move action seq operation ∈ queue := by
    intro action seq operation hmem
    rcases List.mem_append.mp hmem with hmem | hmem
    · exact hmem
    · obtain rfl := List.mem_singleton.mp hmem
      exact absurd rfl hitem
  constructor <;> intro action seq operation hmem
  · exact h.numbered _ _ _ (hmove _ _ _ hmem)
  · exact h.captured _ _ _ (hmove _ _ _ hmem)
  · exact h.awaited _ _ _ (hmove _ _ _ hmem)

theorem MoveInv.congr (h : s.MoveInv queue) (hsame : SameUnit s s') : s'.MoveInv queue where
  numbered := hsame.pressSeq ▸ h.numbered
  captured := hsame.generation ▸ h.captured
  awaited := by
    rw [hsame.releasedThrough, hsame.generation, hsame.pressOperation, hsame.held]
    exact h.awaited

/-- A unit moves, and no halt of it is queued. -/
def Adrift (s : Ptz) : Prop :=
  ∃ x ∈ unstopped s.sent, ∀ target attempt, .halt x.ip target attempt ∉ s.ptuQueue

theorem not_adrift (h : ¬ s.Adrift) : ∀ x ∈ unstopped s.sent,
    ∃ target attempt, .halt x.ip target attempt ∈ s.ptuQueue := by
  intro x hx
  by_contra hnone
  exact h ⟨x, hx, fun target attempt hmem => hnone ⟨target, attempt, hmem⟩⟩

section Release

variable [Lowercase] {operation : PtuOperation}

theorem ptuOperationCurrent_iff : s.ptuOperationCurrent operation = true ↔
    operation.generation = s.ptuOperationGeneration ∧
      s.activePtuTarget = some operation.target ∧
      s.endpointFor operation.target = some operation.targetIp := by
  unfold ptuOperationCurrent
  cases hactive : s.activePtuTarget with
  | none => simp
  | some current =>
    obtain ⟨⟨key, mac⟩, ip, generation⟩ := operation
    obtain ⟨key', mac'⟩ := current
    simp only [Bool.and_eq_true, beq_iff_eq, Option.some.injEq, DeviceTarget.mk.injEq]
    constructor
    · rintro ⟨hg, ⟨rfl, rfl⟩, he⟩
      exact ⟨hg, ⟨rfl, rfl⟩, he⟩
    · rintro ⟨hg, ⟨rfl, rfl⟩, he⟩
      exact ⟨hg, ⟨rfl, rfl⟩, he⟩

theorem current_unique {operation' : PtuOperation} (h : s.ptuOperationCurrent operation = true)
    (h' : s.ptuOperationCurrent operation' = true) : operation = operation' := by
  obtain ⟨hg, ht, he⟩ := ptuOperationCurrent_iff.mp h
  obtain ⟨hg', ht', he'⟩ := ptuOperationCurrent_iff.mp h'
  obtain ⟨target, ip, generation⟩ := operation
  obtain ⟨target', ip', generation'⟩ := operation'
  obtain rfl := Option.some.inj (ht.symm.trans ht')
  obtain rfl := Option.some.inj (he.symm.trans he')
  exact congrArg _ (hg.trans hg'.symm)

theorem current_of_capture (h : s.capturePtuOperation = some operation) :
    s.ptuOperationCurrent operation = true ∧ operation.targetIp ≠ "" := by
  unfold capturePtuOperation at h
  split at h
  · cases h
  next target htarget =>
  split at h
  · cases h
  next ip hip =>
  split at h
  · cases h
  next hne =>
    obtain rfl := Option.some.inj h
    exact ⟨ptuOperationCurrent_iff.mpr ⟨rfl, htarget, hip⟩, hne⟩

/-- An operation stays current as long as the stamp of the unit and the generation do. -/
theorem current_of_stamp (hg : s'.ptuOperationGeneration = s.ptuOperationGeneration)
    (hstamp : s'.activePtuStamp = s.activePtuStamp)
    (h : s.ptuOperationCurrent operation = true) : s'.ptuOperationCurrent operation = true := by
  obtain ⟨hgeneration, htarget, hendpoint⟩ := ptuOperationCurrent_iff.mp h
  cases hactive : s'.activePtuTarget with
  | none => simp [activePtuStamp, targetStamp, htarget, hactive] at hstamp
  | some target =>
    simp only [activePtuStamp, targetStamp, htarget, hactive, Option.map_some, Option.bind_some,
      TargetStamp.mk.injEq, Option.some.injEq, hendpoint] at hstamp
    obtain ⟨hkey, hmac, hip⟩ := hstamp
    obtain rfl : target = operation.target := DeviceTarget.ext hkey hmac
    exact ptuOperationCurrent_iff.mpr ⟨hgeneration.trans hg.symm, hactive, hip⟩

theorem SameUnit.stamp (h : SameUnit s s') : s'.activePtuStamp = s.activePtuStamp := by
  cases s
  cases s'
  cases h.devices
  cases h.manualNodes
  rfl

theorem SameUnit.current (h : SameUnit s s') (operation : PtuOperation) :
    s'.ptuOperationCurrent operation = s.ptuOperationCurrent operation :=
  Bool.eq_iff_iff.mpr ⟨current_of_stamp h.generation.symm h.stamp.symm,
    current_of_stamp h.generation h.stamp⟩

/-- Whether a command goes out when its turn comes. -/
def Goes (s : Ptz) (item : QueuedPtuCmd) : Prop :=
  s.stillWanted item = true ∧ item.targetIp ≠ ""

theorem SameUnit.goes (h : SameUnit s s') (item : QueuedPtuCmd) : s'.Goes item ↔ s.Goes item := by
  cases item <;> simp [Goes, stillWanted, h.current, h.releasedThrough]

/-- The queue goes out up to the first command that is wanted. -/
theorem drain_cases (s : Ptz) (queue : List QueuedPtuCmd) :
    SameUnit s (s.drainPtuQueue queue) ∧
    (((∀ item ∈ queue, ¬ s.Goes item) ∧ (s.drainPtuQueue queue).ptuQueue = [] ∧
        (s.drainPtuQueue queue).sent = s.sent ∧ (s.drainPtuQueue queue).inFlight = none) ∨
      ∃ dropped item rest, queue = dropped ++ item :: rest ∧ (∀ item ∈ dropped, ¬ s.Goes item) ∧
        s.Goes item ∧ (s.drainPtuQueue queue).ptuQueue = rest ∧
        (∃ s' : Ptz, (s.drainPtuQueue queue).sent = ⟨item, s'.cmd item⟩ :: s.sent) ∧
        (s.drainPtuQueue queue).inFlight = some item) := by
  induction queue generalizing s with
  | nil => exact ⟨⟨rfl, rfl, rfl, rfl, rfl, rfl, rfl⟩, .inl ⟨by simp, rfl, rfl, rfl⟩⟩
  | cons item queue ih =>
    rw [drainPtuQueue]
    split
    · next hgoes =>
      refine ⟨⟨rfl, rfl, rfl, rfl, rfl, rfl, rfl⟩, .inr ⟨[], item, queue, rfl, by simp, ?_, rfl,
        ⟨{ s with ptuQueue := queue }, rfl⟩, rfl⟩⟩
      simpa [Goes] using hgoes
    · next hnot =>
      have hnot : ¬ s.Goes item := by simpa [Goes] using hnot
      obtain ⟨hsame, hsent, -, -⟩ := sameUnit_resolveNull s item
      obtain ⟨hunit, hcases⟩ := ih (s.resolveNull item)
      refine ⟨hsame.trans hunit, ?_⟩
      simp only [hsame.goes, hsent] at hcases
      rcases hcases with ⟨hall, hrest⟩ | ⟨dropped, x, rest, rfl, hdropped, hrest⟩
      · left
        exact ⟨List.forall_mem_cons.mpr ⟨hnot, hall⟩, hrest⟩
      · right
        exact ⟨item :: dropped, x, rest, rfl, List.forall_mem_cons.mpr ⟨hnot, hdropped⟩, hrest⟩

/-- A full stop to the endpoint of the motion is queued, or the button that sent it is held. -/
def Covered (s : Ptz) (queue : List QueuedPtuCmd) (x : PtuSend) : Prop :=
  (∃ target attempt, .halt x.ip target attempt ∈ queue) ∨
  (∃ operation, .stop operation ∈ queue ∧ s.ptuOperationCurrent operation = true ∧
    operation.targetIp = x.ip) ∨
  ∃ action seq operation, x.item = .move action seq operation ∧
    s.pressOperation action = some operation ∧ s.ptuOperationCurrent operation = true ∧
    (action, seq) ∈ s.held

structure PadInv (s : Ptz) (queue : List QueuedPtuCmd) : Prop where
  moves : s.MoveInv queue
  addressed : ∀ x ∈ unstopped s.sent, x.ip ≠ ""
  covered : ∀ x ∈ unstopped s.sent, s.Covered queue x

def Inv (s : Ptz) : Prop := s.PadInv s.ptuQueue

theorem Covered.mono {queue' : List QueuedPtuCmd} {x : PtuSend} (h : s.Covered queue x)
    (hsub : ∀ item ∈ queue, item ∈ queue') : s.Covered queue' x := by
  rcases h with ⟨target, attempt, hmem⟩ | ⟨operation, hmem, h⟩ | h
  · exact .inl ⟨target, attempt, hsub _ hmem⟩
  · exact .inr (.inl ⟨operation, hsub _ hmem, h⟩)
  · exact .inr (.inr h)

theorem Covered.congr {x : PtuSend} (h : s.Covered queue x) (hsame : SameUnit s s') :
    s'.Covered queue x := by
  unfold Covered at h ⊢
  simpa only [hsame.current, hsame.pressOperation, hsame.held] using h

theorem PadInv.congr (h : s.PadInv queue) (hsame : SameUnit s s') (hsent : s'.sent = s.sent) :
    s'.PadInv queue where
  moves := h.moves.congr hsame
  addressed := hsent ▸ h.addressed
  covered x hx := (h.covered x (hsent ▸ hx)).congr hsame

/-- A command that is dropped covered nothing. -/
theorem Covered.of_dropped {dropped rest : List QueuedPtuCmd} {x : PtuSend}
    (h : s.Covered (dropped ++ rest) x) (hx : x.ip ≠ "") (hdropped : ∀ item ∈ dropped, ¬ s.Goes item) :
    s.Covered rest x := by
  rcases h with ⟨target, attempt, hmem⟩ | ⟨operation, hmem, hcurrent, hip⟩ | h
  · rcases List.mem_append.mp hmem with hmem | hmem
    · exact absurd ⟨rfl, hx⟩ (hdropped _ hmem)
    · exact .inl ⟨target, attempt, hmem⟩
  · rcases List.mem_append.mp hmem with hmem | hmem
    · exact absurd ⟨hcurrent, fun he => hx (hip.symm.trans he)⟩ (hdropped _ hmem)
    · exact .inr (.inl ⟨operation, hmem, hcurrent, hip⟩)
  · exact .inr (.inr h)

theorem Covered.of_head {item : QueuedPtuCmd} {rest : List QueuedPtuCmd} {x : PtuSend}
    (h : s.Covered (item :: rest) x) (hhalt : ∀ target attempt, item ≠ .halt x.ip target attempt)
    (hstop : ∀ operation, item = .stop operation → operation.targetIp ≠ x.ip) :
    s.Covered rest x := by
  rcases h with ⟨target, attempt, hmem⟩ | ⟨operation, hmem, hcurrent, hip⟩ | h
  · rcases List.mem_cons.mp hmem with he | hmem
    · exact absurd he.symm (hhalt target attempt)
    · exact .inl ⟨target, attempt, hmem⟩
  · rcases List.mem_cons.mp hmem with he | hmem
    · exact absurd hip (hstop operation he.symm)
    · exact .inr (.inl ⟨operation, hmem, hcurrent, hip⟩)
  · exact .inr (.inr h)

/-- A motion that goes out is covered by its button, and a stop covers its endpoint no more. -/
theorem PadInv.covered_send {item : QueuedPtuCmd} {rest : List QueuedPtuCmd}
    (h : s.PadInv (item :: rest)) (hgoes : s.Goes item) (s₁ : Ptz) :
    ∀ x ∈ unstopped (⟨item, s₁.cmd item⟩ :: s.sent), x.ip ≠ "" ∧ s.Covered rest x := by
  intro x hx
  cases item with
  | move action seq operation =>
    rcases List.mem_cons.mp hx with rfl | hx
    · simp only [Goes, stillWanted, Bool.and_eq_true, decide_eq_true_eq] at hgoes
      obtain ⟨⟨hseq, hcurrent⟩, hip⟩ := hgoes
      obtain ⟨hpress, hheld⟩ := h.moves.awaited action seq operation List.mem_cons_self hseq
        (ptuOperationCurrent_iff.mp hcurrent).1
      exact ⟨hip, .inr (.inr ⟨action, seq, operation, rfl, hpress, hcurrent, hheld⟩)⟩
    · exact ⟨h.addressed x hx, (h.covered x hx).of_head (by simp) (by simp)⟩
  | stop operation =>
    obtain ⟨hx, hip⟩ := List.mem_filter.mp hx
    refine ⟨h.addressed x hx, (h.covered x hx).of_head (by simp) ?_⟩
    rintro _ ⟨⟩ he
    exact of_decide_eq_true hip he.symm
  | halt ip target attempt =>
    obtain ⟨hx, hip⟩ := List.mem_filter.mp hx
    refine ⟨h.addressed x hx, (h.covered x hx).of_head ?_ (by simp)⟩
    rintro _ _ ⟨⟩
    simp [PtuSend.ip, QueuedPtuCmd.targetIp] at hip
  | speedLimits | velocityMode =>
    exact ⟨h.addressed x hx, (h.covered x hx).of_head (by simp) (by simp)⟩

theorem PadInv.drain (h : s.PadInv queue) : (s.drainPtuQueue queue).Inv := by
  unfold Inv
  obtain ⟨hunit, ⟨hnone, hqueue, hsent, -⟩ | ⟨dropped, item, rest, rfl, hdropped, hgoes, hqueue,
    ⟨s₁, hsent⟩, -⟩⟩ := drain_cases s queue
  · have hempty : s.PadInv [] :=
      { moves := h.moves.mono (by simp)
        addressed := h.addressed
        covered x hx := by
          have hcovered : s.Covered (queue ++ []) x := by simpa using h.covered x hx
          exact hcovered.of_dropped (h.addressed x hx) hnone }
    rw [hqueue]
    exact hempty.congr hunit hsent
  · have hrest : s.PadInv (item :: rest) :=
      { moves := h.moves.mono (by simp +contextual)
        addressed := h.addressed
        covered x hx := (h.covered x hx).of_dropped (h.addressed x hx) hdropped }
    have hsend := hrest.covered_send hgoes s₁
    rw [hqueue]
    exact
      { moves := (hrest.moves.mono (by simp +contextual)).congr hunit
        addressed x hx := (hsend x (hsent ▸ hx)).1
        covered x hx := (hsend x (hsent ▸ hx)).2.congr hunit }

theorem Inv.congr (h : s.Inv) (hsame : SameUnit s s') (hsent : s'.sent = s.sent)
    (hqueue : s'.ptuQueue = s.ptuQueue) : s'.Inv := by
  unfold Inv
  rw [hqueue]
  exact PadInv.congr h hsame hsent

theorem PadInv.enqueue {item : QueuedPtuCmd} (h : s.PadInv (s.ptuQueue ++ [item])) :
    (s.enqueuePtuCmd item).Inv := by
  unfold enqueuePtuCmd
  split
  · exact h.congr ⟨rfl, rfl, rfl, rfl, rfl, rfl, rfl⟩ rfl
  · exact h.drain

theorem sameUnit_enqueue (s : Ptz) (item : QueuedPtuCmd) : SameUnit s (s.enqueuePtuCmd item) := by
  unfold enqueuePtuCmd
  split
  · exact ⟨rfl, rfl, rfl, rfl, rfl, rfl, rfl⟩
  · exact (drain_cases s _).1

theorem sameUnit_ptuCmd (s : Ptz) (item : QueuedPtuCmd) (operation : PtuOperation) :
    SameUnit s (s.ptuCmd item operation) := by
  unfold ptuCmd
  split
  · exact sameUnit_enqueue s item
  · exact (sameUnit_resolveNull s item).1

theorem Inv.append {item : QueuedPtuCmd} (h : s.Inv) (hitem : item.motionEffect ≠ some .motion) :
    s.PadInv (s.ptuQueue ++ [item]) where
  moves := h.moves.append hitem
  addressed := h.addressed
  covered x hx := (h.covered x hx).mono fun _ => List.mem_append_left [item]

theorem Inv.ptuCmd {item : QueuedPtuCmd} (h : s.Inv) (hitem : item.motionEffect ≠ some .motion)
    (operation : PtuOperation) : (s.ptuCmd item operation).Inv := by
  unfold Ptz.ptuCmd
  split
  · exact (h.append hitem).enqueue
  · obtain ⟨hunit, hsent, hqueue, -⟩ := sameUnit_resolveNull s item
    exact h.congr hunit hsent hqueue

theorem Inv.queryDone (h : s.Inv) (id : ℕ) : (s.queryDone id).Inv := by
  obtain ⟨hunit, hsent, hqueue, -⟩ := sameUnit_queryDone s id
  exact h.congr hunit hsent hqueue

theorem Inv.queryPtuSpeed (h : s.Inv) : s.queryPtuSpeed.Inv := by
  unfold Ptz.queryPtuSpeed
  split
  · exact h
  · dsimp only
    split
    · exact h
    · apply Inv.ptuCmd
      · exact h.congr ⟨rfl, rfl, rfl, rfl, rfl, rfl, rfl⟩ rfl rfl
      · nofun

theorem sameUnit_queryPtuSpeed (s : Ptz) : SameUnit s s.queryPtuSpeed := by
  unfold Ptz.queryPtuSpeed
  split
  · exact .refl s
  · dsimp only
    split
    · exact .refl s
    · refine SameUnit.trans ?_ (sameUnit_ptuCmd _ _ _)
      exact ⟨rfl, rfl, rfl, rfl, rfl, rfl, rfl⟩

theorem Inv.resume (h : s.Inv) (item : QueuedPtuCmd) (reply : PtuReply) :
    (s.resume item reply).Inv := by
  unfold Ptz.resume
  split
  · split
    · apply Inv.ptuCmd
      · exact h.congr ⟨rfl, rfl, rfl, rfl, rfl, rfl, rfl⟩ rfl rfl
      · nofun
    · exact h.queryDone _
  · exact h.queryDone _
  · exact h.queryDone _
  · split
    · apply PadInv.enqueue
      exact h.append nofun
    · dsimp only
      split
      · exact h.congr ⟨rfl, rfl, rfl, rfl, rfl, rfl, rfl⟩ rfl rfl
      · exact h
  · exact h

theorem Inv.settle (h : s.Inv) (item : QueuedPtuCmd) (reply : PtuReply) :
    (s.settle item reply).Inv := by
  unfold Ptz.settle
  apply Inv.resume
  apply PadInv.drain
  exact PadInv.congr h ⟨rfl, rfl, rfl, rfl, rfl, rfl, rfl⟩ rfl

/-- The units that the halts of a role change reach: each drops those queued before it. -/
def reached (s : Ptz) (outgoing : List DeviceRecord) : List String :=
  let first := if s.inFlight = none then outgoing.head? else none
  (first.toList ++ outgoing.getLast?.toList).map (·.ip)

/-- The steps that lose the stop of a unit. -/
def Strands (s : Ptz) : PtzStep → Prop
  | .press action => s.activePtuIp ≠ none ∧ ∃ seq operation,
      .move action seq operation ∈ s.ptuQueue ∧ s.ptuReleasedThrough < seq ∧
      operation.generation = s.ptuOperationGeneration ∧ s.ptuOperationCurrent operation = false
  | .release _ => False
  | .devices records =>
    let stamp := { s with devices := records }.activePtuStamp
    (s.lastPtu ≠ some stamp ∨ stamp ≠ s.activePtuStamp) ∧ s.Adrift
  | .config nodes => { s with manualNodes := nodes }.activePtuStamp ≠ s.activePtuStamp ∧ s.Adrift
  | .selectRole key action => s.lostPtus key action ≠ [] ∧
      ∃ x ∈ unstopped s.sent, x.ip ∉ s.reached (s.lostPtus key action)
  | .reply _ => False

theorem Inv.startMove (h : s.Inv) {action : SpeedAction} (hcalm : ¬ s.Strands (.press action)) :
    (s.startMove action).Inv := by
  unfold Ptz.startMove
  split
  · exact h
  next hactive =>
  split
  · exact h
  next operation hoperation =>
  obtain ⟨hcurrent, -⟩ := current_of_capture hoperation
  have hpress : ∀ action' operation', s.pressOperation action' = some operation' →
      (action' = action → s.ptuOperationCurrent operation' = true) →
      Function.update s.pressOperation action (some operation) action' = some operation' := by
    intro action' operation' hpress hcurrent'
    by_cases ha : action' = action
    · subst ha
      rw [Function.update_self, current_unique (hcurrent' rfl) hcurrent]
    · rw [Function.update_of_ne ha, hpress]
  dsimp only
  set s₁ : Ptz := { s with
    pressOperation := Function.update s.pressOperation action (some operation) } with hs₁
  have h₁ : s₁.Inv :=
    { moves :=
        { numbered := h.moves.numbered
          captured := h.moves.captured
          awaited action' seq operation' hmem hseq hgeneration := by
            obtain ⟨hpressed, hheld⟩ := h.moves.awaited action' seq operation' hmem hseq hgeneration
            refine ⟨hpress action' operation' hpressed fun ha => ?_, hheld⟩
            subst ha
            by_contra hnot
            exact hcalm ⟨hactive, seq, operation', hmem, hseq, hgeneration, by simpa using hnot⟩ }
      addressed := h.addressed
      covered x hx := by
        rcases h.covered x hx with hhalt | hstop | ⟨action', seq, operation', hx, hp, hc, hheld⟩
        · exact .inl hhalt
        · exact .inr (.inl hstop)
        · exact .inr (.inr ⟨action', seq, operation', hx, hpress _ _ hp fun _ => hc, hc, hheld⟩) }
  set s₂ : Ptz := if s₁.ptuSpeedQueried then s₁ else s₁.queryPtuSpeed with hs₂
  have hunit : SameUnit s₁ s₂ := by
    rw [hs₂]
    split
    · exact .refl s₁
    · exact sameUnit_queryPtuSpeed s₁
  have h₂ : s₂.Inv := by
    rw [hs₂]
    split
    · exact h₁
    · exact h₁.queryPtuSpeed
  have hcurrent₂ : s₂.ptuOperationCurrent operation = true := (hunit.current operation).trans hcurrent
  have hpress₂ : s₂.pressOperation action = some operation := by
    rw [hunit.pressOperation]
    exact Function.update_self ..
  apply PadInv.enqueue
  constructor
  · constructor <;> intro action' seq operation' hmem <;>
      rcases List.mem_append.mp hmem with hmem | hmem
    · exact Nat.le_succ_of_le (h₂.moves.numbered _ _ _ hmem)
    · cases List.mem_singleton.mp hmem
      exact le_rfl
    · exact h₂.moves.captured _ _ _ hmem
    · cases List.mem_singleton.mp hmem
      exact (ptuOperationCurrent_iff.mp hcurrent₂).1.le
    · intro hseq hgeneration
      obtain ⟨hp, hheld⟩ := h₂.moves.awaited _ _ _ hmem hseq hgeneration
      exact ⟨hp, List.mem_cons_of_mem _ hheld⟩
    · cases List.mem_singleton.mp hmem
      exact fun _ _ => ⟨hpress₂, List.mem_cons_self⟩
  · exact h₂.addressed
  · intro x hx
    rcases h₂.covered x hx with ⟨target, attempt, hmem⟩ | ⟨operation', hmem, hc⟩ |
      ⟨action', seq, operation', hx, hp, hc, hheld⟩
    · exact .inl ⟨target, attempt, List.mem_append_left _ hmem⟩
    · exact .inr (.inl ⟨operation', List.mem_append_left _ hmem, hc⟩)
    · exact .inr (.inr ⟨action', seq, operation', hx, hp, hc, List.mem_cons_of_mem _ hheld⟩)

theorem Inv.stopMove (h : s.Inv) (action : SpeedAction) : (s.stopMove action).Inv := by
  unfold Ptz.stopMove
  dsimp only
  set s₁ : Ptz := { s with
    ptuReleasedThrough := s.ptuPressSeq
    pressOperation := Function.update s.pressOperation action none
    held := s.held.filter (·.1 ≠ action) } with hs₁
  have hmoves : s₁.MoveInv s.ptuQueue :=
    { numbered := h.moves.numbered
      captured := h.moves.captured
      awaited action' seq operation' hmem hseq :=
        absurd (h.moves.numbered _ _ _ hmem) (Nat.not_le.mpr hseq) }
  -- Only the button's own motion loses its cover.
  have hcovered : ∀ x ∈ unstopped s.sent, s₁.Covered s.ptuQueue x ∨
      ∃ operation, s.pressOperation action = some operation ∧
        s.ptuOperationCurrent operation = true ∧ operation.targetIp = x.ip := by
    intro x hx
    rcases h.covered x hx with hhalt | hstop | ⟨action', seq, operation, hx, hp, hc, hheld⟩
    · exact .inl (.inl hhalt)
    · exact .inl (.inr (.inl hstop))
    · by_cases ha : action' = action
      · subst ha
        exact .inr ⟨operation, hp, hc, by simp [PtuSend.ip, hx, QueuedPtuCmd.targetIp]⟩
      · left
        refine .inr (.inr ⟨action', seq, operation, hx, ?_, hc, ?_⟩)
        · exact (Function.update_of_ne ha _ _).trans hp
        · exact List.mem_filter.mpr ⟨hheld, by simpa using ha⟩
  have hnone : (∀ operation, s.pressOperation action = some operation →
      s.ptuOperationCurrent operation = false) → s₁.Inv := fun hstale =>
    { moves := hmoves
      addressed := h.addressed
      covered x hx := (hcovered x hx).resolve_right fun ⟨operation, hp, hc, _⟩ =>
        Bool.false_ne_true ((hstale operation hp).symm.trans hc) }
  cases hoperation : s.pressOperation action with
  | none => exact hnone (by simp [hoperation])
  | some operation =>
    change (s₁.ptuCmd (.stop operation) operation).Inv
    unfold Ptz.ptuCmd
    split
    · next hcurrent =>
      apply PadInv.enqueue
      constructor
      · exact hmoves.append nofun
      · exact h.addressed
      · intro x hx
        rcases hcovered x hx with hx | ⟨operation', hp, hc, hip⟩
        · exact hx.mono fun _ => List.mem_append_left _
        · obtain rfl := Option.some.inj (hoperation.symm.trans hp)
          exact .inr (.inl ⟨operation, by simp, hcurrent, hip⟩)
    · next hstale =>
      refine hnone fun operation' hp => ?_
      obtain rfl := Option.some.inj (hoperation.symm.trans hp)
      exact Bool.eq_false_of_not_eq_true hstale

/-- Without motions queued, halts of what moves cover everything. -/
theorem inv_of_halts (hmoves : ∀ action seq operation, .move action seq operation ∉ s.ptuQueue)
    (haddressed : ∀ x ∈ unstopped s.sent, x.ip ≠ "")
    (hhalts : ∀ x ∈ unstopped s.sent, ∃ target attempt, .halt x.ip target attempt ∈ s.ptuQueue) :
    s.Inv where
  moves := by
    constructor <;> intro action seq operation hmem <;> exact absurd hmem (hmoves _ _ _)
  addressed := haddressed
  covered x hx := .inl (hhalts x hx)

/-- A change of the unit leaves the pad alone when nothing moves, or a halt is on its way. -/
theorem Inv.change (h : s.Inv) (hseq : s'.ptuPressSeq = s.ptuPressSeq)
    (hreleased : s'.ptuReleasedThrough = s.ptuReleasedThrough)
    (hpress : s'.pressOperation = s.pressOperation) (hheld : s'.held = s.held)
    (hsent : s'.sent = s.sent) (hqueue : s'.ptuQueue = s.ptuQueue)
    (hgeneration : s.ptuOperationGeneration ≤ s'.ptuOperationGeneration)
    (hunit : (s'.ptuOperationGeneration = s.ptuOperationGeneration ∧
      s'.activePtuStamp = s.activePtuStamp) ∨ ¬ s.Adrift) : s'.Inv := by
  unfold Inv
  rw [hqueue]
  constructor
  · constructor
    · exact hseq ▸ h.moves.numbered
    · exact fun _ _ _ hmem => (h.moves.captured _ _ _ hmem).trans hgeneration
    · intro action seq operation hmem hlt hgen
      rw [hpress, hheld]
      have hle := h.moves.captured action seq operation hmem
      exact h.moves.awaited action seq operation hmem (hreleased ▸ hlt) (by omega)
  · exact hsent ▸ h.addressed
  · intro x hx
    rw [hsent] at hx
    rcases hunit with ⟨hgen, hstamp⟩ | hnone
    · rcases h.covered x hx with hhalt | ⟨operation, hmem, hc, hip⟩ |
        ⟨action, seq, operation, hx, hp, hc, hmem⟩
      · exact .inl hhalt
      · exact .inr (.inl ⟨operation, hmem, current_of_stamp hgen hstamp hc, hip⟩)
      · exact .inr (.inr ⟨action, seq, operation, hx, hpress ▸ hp, current_of_stamp hgen hstamp hc,
          hheld ▸ hmem⟩)
    · exact .inl (not_adrift hnone x hx)

theorem Inv.onDevices (h : s.Inv) {records : List DeviceRecord}
    (hcalm : ¬ s.Strands (.devices records)) : { s with devices := records }.onDevices.Inv := by
  unfold Ptz.onDevices
  dsimp only
  set s₁ : Ptz := { s with devices := records } with hs₁
  set s₂ : Ptz := if s₁.lastPtu ≠ some s₁.activePtuStamp then { s₁ with
      lastPtu := some s₁.activePtuStamp
      ptuOperationGeneration := s₁.ptuOperationGeneration + 1
      ptuSpeedQueried := false } else s₁ with hs₂
  have h₂ : s₂.Inv := by
    rw [hs₂]
    split
    · next hchanged =>
      exact h.change rfl rfl rfl rfl rfl rfl (Nat.le_succ _)
        (.inr fun hadrift => hcalm ⟨.inl hchanged, hadrift⟩)
    · next hsame =>
      refine h.change rfl rfl rfl rfl rfl rfl le_rfl ?_
      by_cases hstamp : s₁.activePtuStamp = s.activePtuStamp
      · exact .inl ⟨rfl, hstamp⟩
      · exact .inr fun hadrift => hcalm ⟨.inr hstamp, hadrift⟩
  split
  · exact h₂.queryPtuSpeed
  · exact h₂

theorem Inv.config (h : s.Inv) {nodes : List ManualNode} (hcalm : ¬ s.Strands (.config nodes)) :
    { s with manualNodes := nodes }.Inv := by
  refine h.change rfl rfl rfl rfl rfl rfl le_rfl ?_
  by_cases hstamp : { s with manualNodes := nodes }.activePtuStamp = s.activePtuStamp
  · exact .inl ⟨rfl, hstamp⟩
  · exact .inr fun hadrift => hcalm ⟨hstamp, hadrift⟩

/-- A halt waits behind a request under way, or goes out; without an address it is dropped. -/
theorem haltPtuUnit_cases (s : Ptz) (ip : String) (target : DeviceTarget) :
    ((s.haltPtuUnit ip target).ptuQueue = [.halt ip target 0] ∧ s.inFlight ≠ none ∧
      (s.haltPtuUnit ip target).sent = s.sent ∧ (s.haltPtuUnit ip target).inFlight ≠ none) ∨
    (s.haltPtuUnit ip target).ptuQueue = [] ∧ s.inFlight = none ∧
      (ip = "" ∧ (s.haltPtuUnit ip target).sent = s.sent ∧
          (s.haltPtuUnit ip target).inFlight = none ∨
        ip ≠ "" ∧ unstopped (s.haltPtuUnit ip target).sent =
            (unstopped s.sent).filter (·.ip ≠ ip) ∧
          (s.haltPtuUnit ip target).inFlight ≠ none) := by
  unfold haltPtuUnit purgePtuQueue
  dsimp only
  obtain ⟨hqueue, hsent, hflight⟩ := foldl_resolveNull { s with
    ptuOperationGeneration := s.ptuOperationGeneration + 1, ptuQueue := [] } s.ptuQueue
  generalize s.ptuQueue.foldl resolveNull { s with
    ptuOperationGeneration := s.ptuOperationGeneration + 1, ptuQueue := [] } = purged
    at hqueue hsent hflight
  unfold enqueuePtuCmd
  dsimp only at hflight hsent hqueue ⊢
  rw [hqueue]
  split
  · next hbusy =>
    rw [Option.isSome_iff_ne_none] at hbusy
    exact .inl ⟨rfl, hflight ▸ hbusy, hsent, hbusy⟩
  · next hidle =>
    have hidle : s.inFlight = none := by simpa [hflight] using hidle
    right
    by_cases hip : ip = ""
    · simp [drainPtuQueue, stillWanted, QueuedPtuCmd.targetIp, hip, resolveNull, hidle, hsent]
    · have hdrain : purged.drainPtuQueue [.halt ip target 0] =
          { purged with ptuQueue := [] }.send (.halt ip target 0) := by
        simp [drainPtuQueue, stillWanted, QueuedPtuCmd.targetIp, hip]
      rw [List.nil_append, hdrain, ← hsent]
      exact ⟨rfl, hidle, .inr ⟨hip, rfl, Option.some_ne_none _⟩⟩

/-- Halts send nothing that moves a unit. -/
theorem unstopped_halts (s : Ptz) (outgoing : List DeviceRecord) :
    ∀ x ∈ unstopped (outgoing.foldl (fun s r => s.haltPtuUnit r.ip (targetFor r)) s).sent,
      x ∈ unstopped s.sent := by
  induction outgoing generalizing s with
  | nil => exact fun _ => id
  | cons r outgoing ih =>
    intro x hx
    have hx := ih _ x hx
    rcases s.haltPtuUnit_cases r.ip (targetFor r) with
      ⟨-, -, hsent, -⟩ | ⟨-, -, ⟨-, hsent, -⟩ | ⟨-, hsent, -⟩⟩
    · exact hsent ▸ hx
    · exact hsent ▸ hx
    · rw [hsent] at hx
      exact List.mem_of_mem_filter hx

/-- With nothing under way the first halt goes out at once. -/
theorem unstopped_first_halt (first : DeviceRecord) (outgoing : List DeviceRecord)
    (hidle : s.inFlight = none) (hip : first.ip ≠ "") :
    ∀ x ∈ unstopped
      ((first :: outgoing).foldl (fun s r => s.haltPtuUnit r.ip (targetFor r)) s).sent,
      x.ip ≠ first.ip := by
  intro x hx
  have hx := unstopped_halts _ outgoing x hx
  rcases s.haltPtuUnit_cases first.ip (targetFor first) with
    ⟨-, hbusy, -⟩ | ⟨-, -, ⟨hempty, -⟩ | ⟨-, hsent, -⟩⟩
  · exact absurd hidle hbusy
  · exact absurd hempty hip
  · rw [hsent] at hx
    exact of_decide_eq_true (List.mem_filter.mp hx).2

theorem Inv.handleRoleSelection (h : s.Inv) {key : String} {action : RoleAction}
    (hcalm : ¬ s.Strands (.selectRole key action)) : (s.handleRoleSelection key action).Inv := by
  unfold Ptz.handleRoleSelection
  simp only [Strands] at hcalm
  generalize s.lostPtus key action = outgoing at hcalm
  rcases List.eq_nil_or_concat' outgoing with rfl | ⟨before, last, rfl⟩
  · exact h
  have hreached : ∀ x ∈ unstopped s.sent, x.ip ∈ s.reached (before ++ [last]) := by
    intro x hx
    by_contra hnot
    exact hcalm ⟨by simp, x, hx, hnot⟩
  rw [List.foldl_append, List.foldl_cons, List.foldl_nil]
  have hbefore := unstopped_halts s before
  have hfirst := fun first rest (hcons : before = first :: rest) hidle hip =>
    hcons ▸ unstopped_first_halt (s := s) first rest hidle hip
  set r : Ptz := before.foldl (fun s r => s.haltPtuUnit r.ip (targetFor r)) s with hr
  -- What still moves is the last unit: the halt of the first has gone out.
  have hlast : ∀ x ∈ unstopped r.sent, x.ip = last.ip := by
    intro x hx
    have hmem := hreached x (hbefore x hx)
    simp only [reached, List.getLast?_append, List.getLast?_singleton, Option.some_or,
      Option.toList_some, List.map_append, List.map_cons, List.map_nil, List.mem_append,
      List.mem_singleton] at hmem
    rcases hmem with hmem | hmem
    · split at hmem
      · next hidle =>
        cases before with
        | nil => simpa using hmem
        | cons first rest =>
          have hip : x.ip = first.ip := by simpa using hmem
          exact absurd hip (hfirst first rest rfl hidle (hip ▸ h.addressed x (hbefore x hx)) x hx)
      · simp at hmem
    · exact hmem
  have haddressed := fun x hx => h.addressed x (hbefore x hx)
  rcases r.haltPtuUnit_cases last.ip (targetFor last) with
    ⟨hqueue, -, hsent, -⟩ | ⟨hqueue, -, ⟨hempty, hsent, -⟩ | ⟨-, hsent, -⟩⟩
  · apply inv_of_halts
    · simp [hqueue]
    · exact hsent ▸ haddressed
    · rw [hsent, hqueue]
      intro x hx
      exact ⟨targetFor last, 0, by simp [hlast x hx]⟩
  · have hnone : ∀ x, x ∉ unstopped r.sent := fun x hx =>
      haddressed x hx ((hlast x hx).trans hempty)
    apply inv_of_halts
    · simp [hqueue]
    · rw [hsent]
      exact fun x hx => absurd hx (hnone x)
    · rw [hsent]
      exact fun x hx => absurd hx (hnone x)
  · have hnone : ∀ x, x ∉ (unstopped r.sent).filter (·.ip ≠ last.ip) := by
      intro x hx
      obtain ⟨hx, hne⟩ := List.mem_filter.mp hx
      exact of_decide_eq_true hne (hlast x hx)
    apply inv_of_halts
    · simp [hqueue]
    · rw [hsent]
      exact fun x hx => absurd hx (hnone x)
    · rw [hsent]
      exact fun x hx => absurd hx (hnone x)

theorem inv_initial : initial.Inv where
  moves := by constructor <;> intro _ _ _ hmem <;> cases hmem
  addressed _ hx := by cases hx
  covered _ hx := by cases hx

theorem Inv.step (h : s.Inv) {call : PtzStep} (hcalm : ¬ s.Strands call)
    (hs : s.step call = some s') : s'.Inv := by
  cases call with
  | press action =>
    obtain rfl := Option.some.inj hs
    exact h.startMove hcalm
  | release action =>
    obtain rfl := Option.some.inj hs
    exact h.stopMove action
  | devices records =>
    obtain rfl := Option.some.inj hs
    exact h.onDevices hcalm
  | config nodes =>
    obtain rfl := Option.some.inj hs
    exact h.config hcalm
  | selectRole key action =>
    obtain rfl := Option.some.inj hs
    exact h.handleRoleSelection hcalm
  | reply reply =>
    obtain ⟨item, -, rfl⟩ := Option.map_eq_some_iff.mp hs
    exact h.settle item reply

/-- A run that strands no unit: once the queue is empty, a full stop has gone to the endpoint of
every motion whose press was released, after that motion. -/
theorem released_pad_stops (h : ptzMachine.Reaches (fun s call => ¬ s.Strands call) s)
    {newer older : List PtuSend} {x : PtuSend} {action : SpeedAction} {seq : ℕ}
    (hsent : s.sent = newer ++ x :: older) (hx : x.item = .move action seq operation)
    (hreleased : (action, seq) ∉ s.held) (hqueue : s.ptuQueue = []) :
    ∃ y ∈ newer, y.fullStop = true ∧ y.ip = x.ip := by
  have hinv : s.Inv := by
    apply h.invariant (Q := fun _ => True) fun _ _ => trivial
    · exact inv_initial
    · intro s s' call _ hinv hcalm hs
      exact hinv.step hcalm hs
  by_contra hnone
  have hmem : x ∈ unstopped s.sent := by
    rw [hsent]
    exact mem_unstopped hx fun y hy hstop hip => hnone ⟨y, hy, hstop, hip⟩
  have hcovered := hinv.covered x hmem
  rw [hqueue] at hcovered
  rcases hcovered with ⟨_, _, hhalt⟩ | ⟨_, hstop, -⟩ | ⟨action', seq', operation', hx', -, -, hheld⟩
  · cases hhalt
  · cases hstop
  · cases hx.symm.trans hx'
    exact hreleased hheld

end Release

section Example

local instance : Lowercase := ⟨fun text => String.ofList (text.toList.map Char.toLower)⟩

def ptuAt (ip : String) : DeviceRecord where
  verifiedByMac := none
  lastVerifiedAt := none
  mac := "aa:bb:cc:dd:ee:01"
  ip := ip
  subnet := "192.168.1.0/24"
  openPorts := []
  aliasName := "PTU"
  status := .live
  firstSeen := "2026-10-19T12:00:00Z"
  lastSeen := "2026-10-19T12:00:00Z"

/-- The unit is found, asked for its limits, and moved. -/
def movedUnit : List PtzStep :=
  let reply := PtzStep.reply (.ok (some 3000) (some 2000))
  [.devices [ptuAt "192.168.1.20"], reply, reply, .press .right]

theorem released_pad_stops_tap :
    let reply := PtzStep.reply (.ok (some 3000) (some 2000))
    ∃ s, ptzMachine.run .initial (movedUnit ++ [.release .right, reply]) = some s ∧
      ∃ newer x older, s.sent = newer ++ x :: older ∧ x.cmd = "C=V&PS=-2000" ∧
        x.ip = "192.168.1.20" ∧ ∃ y ∈ newer, y.fullStop = true ∧ y.ip = x.ip := by
  have hadmits : ptzMachine.Admits (fun s call => ¬ s.Strands call) .initial
      (movedUnit ++ [.release .right, .reply (.ok (some 3000) (some 2000))]) := by
    constructor
    · rintro ⟨-, x, hx, -⟩
      cases hx
    rintro _ ⟨⟩
    refine ⟨id, ?_⟩
    rintro _ ⟨⟩
    refine ⟨id, ?_⟩
    rintro _ ⟨⟩
    constructor
    · rintro ⟨-, seq, operation, hmem, -⟩
      cases hmem
    rintro _ ⟨⟩
    refine ⟨id, ?_⟩
    rintro _ ⟨⟩
    exact ⟨id, fun _ _ => trivial⟩
  have hheld : (SpeedAction.right, 1) ∉ ([] : List (SpeedAction × ℕ)) := List.not_mem_nil
  have hreaches := Machine.Reaches.run .initial hadmits rfl
  refine ⟨_, rfl, [_], _, [_, _], rfl, rfl, rfl, ?_⟩
  exact released_pad_stops hreaches rfl rfl hheld rfl

/-- The endpoint of the unit changes while it moves: no stop goes to the old one. -/
theorem changed_endpoint_strands_unit :
    let reply := PtzStep.reply (.ok (some 3000) (some 2000))
    ∃ s, ptzMachine.run .initial (movedUnit ++ [.devices [ptuAt "192.168.1.21"], .release .right,
        reply, reply, reply]) = some s ∧
      s.ptuQueue = [] ∧ s.inFlight = none ∧ s.held = [] ∧
      ∃ newer x older, s.sent = newer ++ x :: older ∧ x.cmd = "C=V&PS=-2000" ∧
        x.ip = "192.168.1.20" ∧ ∀ y ∈ newer, y.ip ≠ x.ip := by
  refine ⟨_, rfl, rfl, rfl, rfl, [_, _], _, [_, _], rfl, rfl, rfl, ?_⟩
  decide

end Example

end Ptz

end PocketStream
