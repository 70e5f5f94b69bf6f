import Mathlib.Data.List.MinMax
import PocketStream.Adoption.CacheProbe
import PocketStream.Network.Candidates
import PocketStream.Network.Readiness
import PocketStream.Registry.DeviceRegistry

/-! # The presence scheduler

The clock issues one job at a time and turns between the known devices and the captured
candidates. It remembers when a device is due and which time of a candidate it issued, within
one revision and for what is still listed. The jobs between their start and their end decide
which addresses are eligible.
-/

namespace PocketStream

open Foundation

/-- `arp::Candidate` -/
structure Candidate where
  interfaceIndex : UInt32
  adapterMac : MacBytes
  ip : Ipv4Addr
  mac : MacBytes
  observedAt : ℕ
  deriving DecidableEq

/-- What the clock knows a candidate by. -/
def Candidate.place (c : Candidate) : UInt32 × Ipv4Addr × MacBytes := (c.interfaceIndex, c.ip, c.mac)

namespace Presence

/-- `ACTIVE_INTERVAL`; times are nanoseconds. -/
def activeInterval : ℕ := 5 * 10 ^ 9

/-- `INACTIVE_INTERVAL` -/
def inactiveInterval : ℕ := 60 * 10 ^ 9

structure Snapshot extends PresenceSnapshot where
  adapter : Option InterfaceInfo
  revision : UInt64
  fenceStale : Bool

/-- What `next` is called with, at one reading of the time. -/
structure Input where
  snapshot : Snapshot
  records : List DeviceRecord
  candidates : List Candidate
  now : ℕ

structure ClockJob extends Job where
  key : Option String
  deriving DecidableEq

/-- What a job is issued for. -/
inductive Issue where
  | candidate (c : Candidate)
  | record (r : DeviceRecord) (ip : Ipv4Addr)
  deriving DecidableEq

/-- The `source` of `next`. -/
def localSource (adapter : InterfaceInfo) (ip : Ipv4Addr) : Option Ipv4Addr :=
  selectWiredSource ip [] adapter.ips

def Issue.job (adapter : InterfaceInfo) : Issue → ClockJob
  | candidate c => { ip := c.ip, source := localSource adapter c.ip, key := none }
  | record r ip => { ip := ip, source := localSource adapter ip, key := some r.mac }

/-- A job together with what it is issued for. -/
structure Issued where
  issue : Issue
  job : ClockJob
  deriving DecidableEq

def interval (r : DeviceRecord) : ℕ :=
  if r.status = .live then activeInterval else inactiveInterval

structure Clock where
  revision : Option UInt64 := none
  due : FiniteMap String ℕ := ∅
  candidates : FiniteMap (UInt32 × Ipv4Addr × MacBytes) ℕ := ∅
  candidateTurn : Bool := false
  busy : Finset Ipv4Addr := ∅
  foreignBusy : Bool := false

namespace Clock

/-- A new revision clears the memory, and what is no longer listed leaves it. -/
def forget (clock : Clock) (i : Input) : Clock :=
  let current := if clock.revision = some i.snapshot.revision then clock
    else { clock with due := ∅, candidates := ∅, revision := some i.snapshot.revision }
  { current with
    due := current.due.retain fun key _ => i.records.any (·.mac == key)
    candidates := current.candidates.retain fun key _ => i.candidates.any (·.place == key) }

def eligible (clock : Clock) (i : Input) (adapter : InterfaceInfo) (ip : Ipv4Addr) : Bool :=
  decide (ip ∉ clock.busy) && !(clock.foreignBusy && (localSource adapter ip).isNone) &&
    !prohibitedCameraIp ip && !adapter.ips.any (·.address == ip.toText) &&
    ((localSource adapter ip).isSome || i.snapshot.mode == .staticAuto)

/-- Whether the record is due, or became live with a longer wait pending. -/
def ripe (clock : Clock) (r : DeviceRecord) (now : ℕ) : Bool :=
  (clock.due.lookup r.mac).all fun t =>
    decide (t ≤ now) || (r.status == .live && decide (now + activeInterval < t))

/-- A device without a due time comes first. -/
def dueOrder (clock : Clock) (known : DeviceRecord × Ipv4Addr) : WithBot ℕ :=
  clock.due.lookup known.1.mac

def known (clock : Clock) (i : Input) (adapter : InterfaceInfo) :
    Option (DeviceRecord × Ipv4Addr) :=
  (i.records.filterMap fun r =>
    ((Ipv4Addr.parse r.ip).filter fun ip =>
      clock.eligible i adapter ip && clock.ripe r i.now).map (r, ·)).argmin clock.dueOrder

def candidate (clock : Clock) (i : Input) (adapter : InterfaceInfo) : Option Candidate :=
  i.candidates.find? fun c =>
    c.interfaceIndex == i.snapshot.index && parseMacBytes adapter.mac == some c.adapterMac.toList &&
      clock.eligible i adapter c.ip && clock.candidates.lookup c.place != some c.observedAt

def turn (clock : Clock) : Clock := { clock with candidateTurn := !clock.candidateTurn }

def issueCandidate (clock : Clock) (c : Candidate) : Clock :=
  { clock with candidates := clock.candidates.insert c.place c.observedAt }

def issueRecord (clock : Clock) (r : DeviceRecord) (now : ℕ) : Clock :=
  { clock with due := clock.due.insert r.mac (now + interval r) }

def choose (clock : Clock) (i : Input) (adapter : InterfaceInfo) : Option Issue × Clock :=
  let known := (clock.forget i).known i adapter
  let candidate := (clock.forget i).candidate i adapter
  let clock := (clock.forget i).turn
  match candidate.filter fun _ => clock.candidateTurn || known.isNone with
  | some c => (some (.candidate c), clock.issueCandidate c)
  | none =>
    match known with
    | some (r, ip) => (some (.record r ip), clock.issueRecord r i.now)
    | none => (none, clock)

def next (clock : Clock) (i : Input) : Option Issued × Clock :=
  match i.snapshot.adapter with
  | none => (none, clock)
  | some adapter =>
    if i.snapshot.fenceStale then (none, clock)
    else
      let (issue, clock) := clock.choose i adapter
      (issue.map fun issue => ⟨issue, issue.job adapter⟩, clock)

def verified (clock : Clock) (key : String) (now : ℕ) : Clock :=
  { clock with due := clock.due.insert key (now + activeInterval) }

def started (clock : Clock) (job : ClockJob) : Clock :=
  { clock with
    busy := insert job.ip clock.busy
    foreignBusy := job.source.isNone || clock.foreignBusy }

def finished (clock : Clock) (job : ClockJob) : Clock :=
  { clock with
    busy := clock.busy.erase job.ip
    foreignBusy := !job.source.isNone && clock.foreignBusy }

end Clock

inductive ClockCall where
  | next (i : Input)
  | started (job : ClockJob)
  | finished (job : ClockJob)
  | verified (key : String) (now : ℕ)

/-- The clock; only `next` answers. -/
def clock : Component Clock ClockCall (Option Issued) where
  initial := {}
  answer
    | s, .next i => s.next i
    | s, .started job => (none, s.started job)
    | s, .finished job => (none, s.finished job)
    | s, .verified key now => (none, s.verified key now)

/-! ### What `next` does -/

/-- Whether `next` gets past its guards. -/
def Input.effective (i : Input) : Bool := i.snapshot.adapter.isSome && !i.snapshot.fenceStale

namespace Clock

variable {clock : Clock} {i : Input} {adapter : InterfaceInfo}

@[simp] theorem busy_forget : (clock.forget i).busy = clock.busy := by
  unfold forget
  dsimp only
  split <;> rfl

@[simp] theorem foreignBusy_forget : (clock.forget i).foreignBusy = clock.foreignBusy := by
  unfold forget
  dsimp only
  split <;> rfl

@[simp] theorem revision_forget : (clock.forget i).revision = some i.snapshot.revision := by
  unfold forget
  dsimp only
  split
  · next h => exact h
  · rfl

theorem eligible_forget {ip : Ipv4Addr} :
    (clock.forget i).eligible i adapter ip = clock.eligible i adapter ip := by
  simp [eligible]

/-- Within its revision the clock keeps the wait of what is listed. -/
theorem lookup_due_forget {key : String} (hrev : clock.revision = some i.snapshot.revision)
    (hlisted : ∃ r ∈ i.records, r.mac = key) :
    (clock.forget i).due.lookup key = clock.due.lookup key := by
  have hany : (i.records.any (·.mac == key)) = true := by simpa using hlisted
  refine Option.ext fun t => ?_
  simp [forget, hrev, hany]

theorem lookup_candidates_forget {place : UInt32 × Ipv4Addr × MacBytes}
    (hrev : clock.revision = some i.snapshot.revision)
    (hlisted : ∃ c ∈ i.candidates, c.place = place) :
    (clock.forget i).candidates.lookup place = clock.candidates.lookup place := by
  have hany : (i.candidates.any (·.place == place)) = true := by simpa using hlisted
  refine Option.ext fun t => ?_
  simp [forget, hrev, hany]

theorem known_eq_some {known : DeviceRecord × Ipv4Addr}
    (h : clock.known i adapter = some known) :
    known.1 ∈ i.records ∧ Ipv4Addr.parse known.1.ip = some known.2 ∧
      clock.eligible i adapter known.2 = true ∧ clock.ripe known.1 i.now = true := by
  have hmem := List.argmin_mem h
  rw [List.mem_filterMap] at hmem
  obtain ⟨r, hr, hmap⟩ := hmem
  obtain ⟨ip, hfilter, rfl⟩ := Option.map_eq_some_iff.mp hmap
  obtain ⟨hparse, hready⟩ := Option.filter_eq_some_iff.mp hfilter
  rw [Bool.and_eq_true] at hready
  exact ⟨hr, hparse, hready.1, hready.2⟩

theorem candidate_eq_some {c : Candidate} (h : clock.candidate i adapter = some c) :
    c ∈ i.candidates ∧ clock.eligible i adapter c.ip = true ∧
      clock.candidates.lookup c.place ≠ some c.observedAt := by
  have hc := List.find?_some h
  simp only [Bool.and_eq_true, bne_iff_ne] at hc
  exact ⟨List.mem_of_find?_eq_some h, hc.1.2, hc.2⟩

theorem choose_cases (clock : Clock) (i : Input) (adapter : InterfaceInfo) :
    (∃ c, (clock.forget i).candidate i adapter = some c ∧
      clock.choose i adapter =
        (some (.candidate c), (clock.forget i).turn.issueCandidate c)) ∨
    (∃ r ip, (clock.forget i).known i adapter = some (r, ip) ∧
      clock.choose i adapter =
        (some (.record r ip), (clock.forget i).turn.issueRecord r i.now)) ∨
    clock.choose i adapter = (none, (clock.forget i).turn) := by
  unfold choose
  dsimp only
  split
  · next c hc => exact .inl ⟨c, (Option.filter_eq_some_iff.mp hc).1, rfl⟩
  · split
    · next r ip hknown => exact .inr (.inl ⟨r, ip, hknown, rfl⟩)
    · exact .inr (.inr rfl)

/-- All that `next` can do. -/
theorem next_cases (clock : Clock) (i : Input) :
    (i.effective = false ∧ clock.next i = (none, clock)) ∨
    ∃ adapter, i.snapshot.adapter = some adapter ∧ i.snapshot.fenceStale = false ∧
      ((∃ c, (clock.forget i).candidate i adapter = some c ∧
        clock.next i = (some ⟨.candidate c, (Issue.candidate c).job adapter⟩,
          (clock.forget i).turn.issueCandidate c)) ∨
      (∃ r ip, (clock.forget i).known i adapter = some (r, ip) ∧
        clock.next i = (some ⟨.record r ip, (Issue.record r ip).job adapter⟩,
          (clock.forget i).turn.issueRecord r i.now)) ∨
      clock.next i = (none, (clock.forget i).turn)) := by
  cases hadapter : i.snapshot.adapter with
  | none => exact .inl ⟨by simp [Input.effective, hadapter], by simp [next, hadapter]⟩
  | some adapter =>
    cases hstale : i.snapshot.fenceStale with
    | true => exact .inl ⟨by simp [Input.effective, hstale], by simp [next, hadapter, hstale]⟩
    | false =>
      have hnext : clock.next i = ((clock.choose i adapter).1.map fun issue =>
          ⟨issue, issue.job adapter⟩, (clock.choose i adapter).2) := by
        simp [next, hadapter, hstale]
      refine .inr ⟨adapter, rfl, rfl, ?_⟩
      rcases choose_cases clock i adapter with
        ⟨c, hc, h⟩ | ⟨r, ip, hknown, h⟩ | h
      · exact .inl ⟨c, hc, by rw [hnext, h]; rfl⟩
      · exact .inr (.inl ⟨r, ip, hknown, by rw [hnext, h]; rfl⟩)
      · exact .inr (.inr (by rw [hnext, h]; rfl))

@[simp] theorem busy_next : (clock.next i).2.busy = clock.busy := by
  rcases next_cases clock i with
    ⟨-, h⟩ | ⟨_, -, -, ⟨c, -, h⟩ | ⟨r, ip, -, h⟩ | h⟩ <;> rw [h]
  all_goals exact busy_forget

@[simp] theorem foreignBusy_next : (clock.next i).2.foreignBusy = clock.foreignBusy := by
  rcases next_cases clock i with
    ⟨-, h⟩ | ⟨_, -, -, ⟨c, -, h⟩ | ⟨r, ip, -, h⟩ | h⟩ <;> rw [h]
  all_goals exact foreignBusy_forget

theorem revision_next : (clock.next i).2.revision =
    if i.effective then some i.snapshot.revision else clock.revision := by
  rcases next_cases clock i with
    ⟨hi, h⟩ | ⟨adapter, hadapter, hstale, hcases⟩
  · rw [h, hi]
    rfl
  · have hi : i.effective = true := by simp [Input.effective, hadapter, hstale]
    rw [if_pos hi]
    rcases hcases with ⟨c, -, h⟩ | ⟨r, ip, -, h⟩ | h <;> rw [h]
    all_goals exact revision_forget

/-- A job is issued for a candidate or for a record, which the clock then notes. -/
theorem issued_cases {j : Issued} (h : (clock.next i).1 = some j) :
    ∃ adapter, i.snapshot.adapter = some adapter ∧ i.snapshot.fenceStale = false ∧
      j.job = j.issue.job adapter ∧
      ((∃ c, (clock.forget i).candidate i adapter = some c ∧ j.issue = .candidate c ∧
        (clock.next i).2 = (clock.forget i).turn.issueCandidate c) ∨
      ∃ r ip, (clock.forget i).known i adapter = some (r, ip) ∧ j.issue = .record r ip ∧
        (clock.next i).2 = (clock.forget i).turn.issueRecord r i.now) := by
  rcases next_cases clock i with
    ⟨-, hnext⟩ | ⟨adapter, hadapter, hstale, ⟨c, hc, hnext⟩ | ⟨r, ip, hknown, hnext⟩ | hnext⟩ <;>
    rw [hnext] at h ⊢
  · cases h
  · obtain rfl := Option.some.inj h
    exact ⟨adapter, hadapter, hstale, rfl, .inl ⟨c, hc, rfl, rfl⟩⟩
  · obtain rfl := Option.some.inj h
    exact ⟨adapter, hadapter, hstale, rfl, .inr ⟨r, ip, hknown, rfl, rfl⟩⟩
  · cases h

/-- A job goes to an eligible address, from the source the adapter has for it. -/
theorem eligible_of_next {j : Issued} (h : (clock.next i).1 = some j) :
    ∃ adapter, i.snapshot.adapter = some adapter ∧ i.snapshot.fenceStale = false ∧
      j.job = j.issue.job adapter ∧ clock.eligible i adapter j.job.ip = true := by
  obtain ⟨adapter, hadapter, hstale, hjob, hcases⟩ := issued_cases h
  refine ⟨adapter, hadapter, hstale, hjob, ?_⟩
  rw [← eligible_forget, hjob]
  rcases hcases with ⟨c, hc, hissue, -⟩ | ⟨r, ip, hknown, hissue, -⟩ <;> rw [hissue]
  · exact (candidate_eq_some hc).2.1
  · exact (known_eq_some hknown).2.2.1

end Clock

theorem Issue.source_job (adapter : InterfaceInfo) (issue : Issue) :
    (issue.job adapter).source = localSource adapter (issue.job adapter).ip := by
  cases issue <;> rfl

end Presence

end PocketStream
