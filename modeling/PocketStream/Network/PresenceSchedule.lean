import PocketStream.Network.PresenceClock

/-! # The law of the presence schedule

The clock tracks the jobs in flight of a caller that starts each job before it asks for the
next. What it remembers of a revision, it keeps for what every call lists, and so neither an
observation nor a waiting device is issued again.
-/

namespace PocketStream

open Foundation

namespace Presence

/-- What the clock may ask of an input: where a job may go, and from which source. -/
structure Admissible (i : Input) (job : ClockJob) : Prop where
  fresh : i.snapshot.fenceStale = false
  adapter : ∃ adapter, i.snapshot.adapter = some adapter ∧
    job.source = localSource adapter job.ip ∧
    ∀ info ∈ adapter.ips, Ipv4Addr.parse info.address ≠ some job.ip
  allowed : prohibitedCameraIp job.ip = false
  foreign : job.source = none → i.snapshot.mode = .staticAuto

theorem Clock.admissible_of_next {clock : Clock} {i : Input} {j : Issued}
    (h : (clock.next i).1 = some j) : Admissible i j.job := by
  obtain ⟨adapter, hadapter, hstale, hjob, heligible⟩ := Clock.eligible_of_next h
  have hsource : j.job.source = localSource adapter j.job.ip := by
    rw [hjob]
    exact j.issue.source_job adapter
  simp only [Clock.eligible, Bool.and_eq_true, Bool.not_eq_true', List.any_eq_false, beq_iff_eq,
    Bool.or_eq_true] at heligible
  obtain ⟨⟨⟨-, hallowed⟩, hown⟩, hmode⟩ := heligible
  refine ⟨hstale, ⟨adapter, hadapter, hsource, ?_⟩, hallowed, ?_⟩
  · intro info hinfo hparse
    exact hown info hinfo (Ipv4Addr.toText_of_parse hparse)
  · intro hnone
    rw [hsource] at hnone
    simpa [hnone] using hmode

/-! ### Jobs in flight -/

/-- Two jobs that may be in flight together. -/
def Apart (a b : ClockJob) : Prop := a.ip ≠ b.ip ∧ (a.source ≠ none ∨ b.source ≠ none)

theorem Apart.symm {a b : ClockJob} (h : Apart a b) : Apart b a := ⟨h.1.symm, h.2.symm⟩

/-- The job issued and not yet started, and the jobs started and not yet finished. -/
structure Flight where
  issued : Option ClockJob := none
  running : List ClockJob := []

/-- A caller starts each job before it asks for the next, and finishes a started one once. -/
def Flight.step (f : Flight) : ClockCall × Option Issued → Option Flight
  | (.next _, reply) =>
    if f.issued = none then some { f with issued := reply.map Issued.job } else none
  | (.started job, _) =>
    if f.issued = some job then some { issued := none, running := job :: f.running } else none
  | (.finished job, _) =>
    if job ∈ f.running then some { f with running := f.running.erase job } else none
  | (.verified _ _, _) => some f

def Flight.jobs (f : Flight) : List ClockJob := f.issued.toList ++ f.running

/-- The jobs in flight after a history, if its caller keeps to the protocol. -/
def flight (history : List (ClockCall × Option Issued)) : Option Flight :=
  history.foldlM Flight.step {}

theorem flight_concat {history : List (ClockCall × Option Issued)} {f : Flight}
    {entry : ClockCall × Option Issued} :
    flight (history ++ [entry]) = some f ↔
      ∃ earlier, flight history = some earlier ∧ earlier.step entry = some f := by
  simp [flight, List.foldlM_append, Option.bind_eq_some_iff]

/-- How the clock knows the jobs in flight. -/
structure Tracks (clock : Clock) (f : Flight) : Prop where
  apart : f.running.Pairwise Apart
  busy : ∀ ip, ip ∈ clock.busy ↔ ∃ job ∈ f.running, job.ip = ip
  foreign : clock.foreignBusy = true ↔ ∃ job ∈ f.running, job.source = none
  issued : ∀ job ∈ f.issued, ∀ other ∈ f.running, Apart job other

namespace Tracks

variable {clock : Clock} {f : Flight} {job : ClockJob}

theorem next {i : Input} (h : Tracks clock f) :
    Tracks (clock.next i).2 { f with issued := (clock.next i).1.map Issued.job } := by
  refine ⟨h.apart, by simpa using h.busy, by simpa using h.foreign, ?_⟩
  intro job hjob other hother
  obtain ⟨j, hj, rfl⟩ := Option.map_eq_some_iff.mp hjob
  obtain ⟨adapter, -, -, heq, heligible⟩ := Clock.eligible_of_next hj
  have hsource : j.job.source = localSource adapter j.job.ip := by
    rw [heq]
    exact j.issue.source_job adapter
  simp only [Clock.eligible, Bool.and_eq_true, Bool.not_eq_true', decide_eq_true_eq,
    Bool.and_eq_false_iff] at heligible
  obtain ⟨⟨⟨⟨hbusy, hforeign⟩, -⟩, -⟩, -⟩ := heligible
  constructor
  · rintro hip
    exact hbusy ((h.busy _).mpr ⟨other, hother, hip.symm⟩)
  · by_contra! hnone
    have : clock.foreignBusy = true := h.foreign.mpr ⟨other, hother, hnone.2⟩
    rw [hsource] at hnone
    simp [this, hnone.1] at hforeign

theorem started (h : Tracks clock f) (hissued : f.issued = some job) :
    Tracks (clock.started job) { issued := none, running := job :: f.running } := by
  refine ⟨List.pairwise_cons.mpr ⟨h.issued job hissued, h.apart⟩, ?_, ?_, by simp⟩
  · intro ip
    simp [Clock.started, h.busy, eq_comm]
  · simp [Clock.started, h.foreign]

theorem finished (h : Tracks clock f) (hjob : job ∈ f.running) :
    Tracks (clock.finished job) { f with running := f.running.erase job } := by
  have hperm := List.perm_cons_erase hjob
  have hapart := (hperm.pairwise_iff Apart.symm).mp h.apart
  rw [List.pairwise_cons] at hapart
  refine ⟨hapart.2, ?_, ?_, ?_⟩
  · intro ip
    simp only [Clock.finished, Finset.mem_erase, h.busy, hperm.mem_iff, List.mem_cons]
    constructor
    · rintro ⟨hne, other, rfl | hother, rfl⟩
      · exact absurd rfl hne
      · exact ⟨other, hother, rfl⟩
    · rintro ⟨other, hother, rfl⟩
      exact ⟨(hapart.1 other hother).1.symm, other, .inr hother, rfl⟩
  · simp only [Clock.finished, Bool.and_eq_true, Bool.not_eq_true', h.foreign, hperm.mem_iff,
      List.mem_cons]
    constructor
    · rintro ⟨hlocal, other, rfl | hother, hnone⟩
      · simp [hnone] at hlocal
      · exact ⟨other, hother, hnone⟩
    · rintro ⟨other, hother, hnone⟩
      have hlocal := (hapart.1 other hother).2.resolve_right (not_not_intro hnone)
      exact ⟨by simpa [Option.isSome_iff_ne_none] using hlocal, other, .inr hother, hnone⟩
  · intro issued hissued other hother
    exact h.issued issued hissued other (List.mem_of_mem_erase hother)

theorem verified {key : String} {now : ℕ} (h : Tracks clock f) :
    Tracks (clock.verified key now) f := ⟨h.apart, h.busy, h.foreign, h.issued⟩

theorem jobs_pairwise (h : Tracks clock f) : f.jobs.Pairwise Apart := by
  refine List.pairwise_append.mpr ⟨?_, h.apart, ?_⟩
  · cases f.issued <;> simp
  · intro job hjob
    exact h.issued job (by simpa using hjob)

end Tracks

/-- The clock tracks the jobs in flight through every history. -/
theorem tracks (calls : List ClockCall) {f : Flight} (hf : flight (clock.history calls) = some f) :
    Tracks (clock.after calls) f := by
  induction calls using List.reverseRecOn generalizing f with
  | nil =>
    obtain rfl : {} = f := by simpa [flight] using hf
    exact ⟨by simp, by simp [clock], by simp [clock], by simp⟩
  | append_singleton calls call ih =>
    rw [Component.history_concat, flight_concat] at hf
    obtain ⟨earlier, hearlier, hstep⟩ := hf
    have h := ih hearlier
    rw [Component.after_concat]
    cases call with
    | next i =>
      obtain ⟨-, hstep⟩ := Option.ite_none_right_eq_some.mp hstep
      obtain rfl := Option.some.inj hstep
      exact h.next
    | started job =>
      obtain ⟨hissued, hstep⟩ := Option.ite_none_right_eq_some.mp hstep
      obtain rfl := Option.some.inj hstep
      exact h.started hissued
    | finished job =>
      obtain ⟨hjob, hstep⟩ := Option.ite_none_right_eq_some.mp hstep
      obtain rfl := Option.some.inj hstep
      exact h.finished hjob
    | verified key now =>
      obtain rfl := Option.some.inj hstep
      exact h.verified

/-! ### The memory of the clock -/

/-- The revision that an effective call is made in. -/
def ClockCall.revision : ClockCall → Option UInt64
  | .next i => if i.effective then some i.snapshot.revision else none
  | _ => none

/-- The revision of the last effective call. -/
def currentRevision (calls : List ClockCall) : Option UInt64 :=
  (calls.filterMap ClockCall.revision).getLast?

theorem revision_after (calls : List ClockCall) :
    (clock.after calls).revision = currentRevision calls := by
  induction calls using List.reverseRecOn with
  | nil => rfl
  | append_singleton calls call ih =>
    rw [Component.after_concat, currentRevision, List.filterMap_append, List.getLast?_append]
    cases call with
    | next i =>
      refine Clock.revision_next.trans ?_
      cases h : i.effective <;> simp [ClockCall.revision, h, ih, currentRevision]
    | started job => exact ih
    | finished job => exact ih
    | verified key now => exact ih

/-- Effective calls are made in the revision, list the place of the candidate and issue no other
time of it. -/
def KeepsCandidate (revision : UInt64) (c : Candidate) : ClockCall × Option Issued → Prop
  | (.next i, reply) => i.effective = true → i.snapshot.revision = revision ∧
      (∃ d ∈ i.candidates, d.place = c.place) ∧
      ∀ j d, reply = some j → j.issue = .candidate d → d.place = c.place →
        d.observedAt = c.observedAt
  | _ => True

/-- Effective calls are made in the revision, list the device and do not issue it, and no
verification of it is noted. -/
def KeepsWait (revision : UInt64) (key : String) : ClockCall × Option Issued → Prop
  | (.next i, reply) => i.effective = true → i.snapshot.revision = revision ∧
      (∃ r ∈ i.records, r.mac = key) ∧
      ∀ j r ip, reply = some j → j.issue = .record r ip → r.mac ≠ key
  | (.verified other _, _) => other ≠ key
  | _ => True

/-- The time until which an entry lets a device wait. -/
inductive SetsWait (key : String) : ClockCall × Option Issued → ℕ → Prop
  | issue (i : Input) (j : Issued) (r : DeviceRecord) (ip : Ipv4Addr) :
      j.issue = .record r ip → r.mac = key → SetsWait key (.next i, some j) (i.now + interval r)
  | verified (now : ℕ) : SetsWait key (.verified key now, none) (now + activeInterval)

namespace Clock

variable {clock : Clock} {i : Input} {j : Issued} {revision : UInt64}

/-- The clock remembers the time of a candidate, in the revision. -/
def Remembers (clock : Clock) (revision : UInt64) (c : Candidate) : Prop :=
  clock.revision = some revision ∧ clock.candidates.lookup c.place = some c.observedAt

/-- The clock lets a device wait, in the revision. -/
def Waits (clock : Clock) (revision : UInt64) (key : String) (t : ℕ) : Prop :=
  clock.revision = some revision ∧ clock.due.lookup key = some t

theorem remembers_of_next {c : Candidate} (h : (clock.next i).1 = some j)
    (hissue : j.issue = .candidate c) : (clock.next i).2.Remembers i.snapshot.revision c := by
  obtain ⟨adapter, -, -, -, ⟨d, -, hd, hnext⟩ | ⟨r, ip, -, hr, -⟩⟩ := issued_cases h
  · obtain rfl := Issue.candidate.inj (hd.symm.trans hissue)
    rw [hnext]
    exact ⟨revision_forget, by simp [issueCandidate]⟩
  · cases hr.symm.trans hissue

theorem Remembers.next {c : Candidate} (h : clock.Remembers revision c)
    (hkeep : KeepsCandidate revision c (.next i, (clock.next i).1)) :
    (clock.next i).2.Remembers revision c := by
  rcases next_cases clock i with ⟨-, hnext⟩ | ⟨adapter, hadapter, hstale, hcases⟩
  · rw [hnext]
    exact h
  obtain ⟨rfl, hlisted, hsame⟩ := hkeep (by simp [Input.effective, hadapter, hstale])
  have hkept := (lookup_candidates_forget h.1 hlisted).trans h.2
  rcases hcases with ⟨d, -, hnext⟩ | ⟨r, ip, -, hnext⟩ | hnext <;> rw [hnext] at hsame ⊢
  · refine ⟨revision_forget, ?_⟩
    simp only [issueCandidate, turn, FiniteMap.lookup_insert]
    split
    · next hplace => rw [hsame _ d rfl rfl hplace.symm]
    · exact hkept
  · exact ⟨revision_forget, hkept⟩
  · exact ⟨revision_forget, hkept⟩

/-- What the clock remembers is not issued again. -/
theorem Remembers.not_issued {c d : Candidate} (h : clock.Remembers revision c)
    (hrev : i.snapshot.revision = revision) (hj : (clock.next i).1 = some j)
    (hissue : j.issue = .candidate d) : (d.place, d.observedAt) ≠ (c.place, c.observedAt) := by
  obtain ⟨adapter, -, -, -, ⟨e, he, hd, -⟩ | ⟨r, ip, -, hr, -⟩⟩ := issued_cases hj
  · obtain rfl := Issue.candidate.inj (hd.symm.trans hissue)
    obtain ⟨hmem, -, hnew⟩ := candidate_eq_some he
    intro heq
    obtain ⟨hplace, htime⟩ := Prod.mk.inj heq
    rw [lookup_candidates_forget (h.1.trans (congrArg some hrev.symm)) ⟨e, hmem, rfl⟩, hplace,
      h.2, htime] at hnew
    exact hnew rfl
  · cases hr.symm.trans hissue

theorem waits_of_next {r : DeviceRecord} {ip : Ipv4Addr} (h : (clock.next i).1 = some j)
    (hissue : j.issue = .record r ip) :
    (clock.next i).2.due.lookup r.mac = some (i.now + interval r) := by
  obtain ⟨adapter, -, -, -, ⟨c, -, hc, -⟩ | ⟨s, ip', -, hs, hnext⟩⟩ := issued_cases h
  · cases hc.symm.trans hissue
  · obtain ⟨rfl, -⟩ := Issue.record.inj (hs.symm.trans hissue)
    simp [hnext, issueRecord]

theorem Waits.next {key : String} {t : ℕ} (h : clock.Waits revision key t)
    (hkeep : KeepsWait revision key (.next i, (clock.next i).1)) :
    (clock.next i).2.Waits revision key t := by
  rcases next_cases clock i with ⟨-, hnext⟩ | ⟨adapter, hadapter, hstale, hcases⟩
  · rw [hnext]
    exact h
  obtain ⟨rfl, hlisted, hother⟩ := hkeep (by simp [Input.effective, hadapter, hstale])
  have hkept := (lookup_due_forget h.1 hlisted).trans h.2
  rcases hcases with ⟨d, -, hnext⟩ | ⟨r, ip, -, hnext⟩ | hnext <;> rw [hnext] at hother ⊢
  · exact ⟨revision_forget, hkept⟩
  · refine ⟨revision_forget, ?_⟩
    simp only [issueRecord, turn, FiniteMap.lookup_insert]
    rw [if_neg (hother _ r ip rfl rfl).symm]
    exact hkept
  · exact ⟨revision_forget, hkept⟩

/-- A device that waits is issued only when it is due or became live. -/
theorem Waits.issued {r : DeviceRecord} {ip : Ipv4Addr} {t : ℕ}
    (h : clock.Waits revision r.mac t) (hrev : i.snapshot.revision = revision)
    (hj : (clock.next i).1 = some j) (hissue : j.issue = .record r ip) :
    t ≤ i.now ∨ r.status = .live ∧ i.now + activeInterval < t := by
  obtain ⟨adapter, -, -, -, ⟨c, -, hc, -⟩ | ⟨s, ip', hknown, hs, -⟩⟩ := issued_cases hj
  · cases hc.symm.trans hissue
  · obtain ⟨rfl, rfl⟩ := Issue.record.inj (hs.symm.trans hissue)
    obtain ⟨hmem, -, -, hripe⟩ := known_eq_some hknown
    rw [ripe, lookup_due_forget (h.1.trans (congrArg some hrev.symm)) ⟨s, hmem, rfl⟩, h.2] at hripe
    simpa using hripe

end Clock

/-- The issue of one observation is the last one, for as long as the clock keeps it. -/
theorem candidate_issued_once {calls : List ClockCall}
    {before later : List (ClockCall × Option Issued)} {i i' : Input} {j j' : Issued}
    {c d : Candidate} (h : clock.history calls = before ++ (.next i, some j) :: later)
    (hissue : j.issue = .candidate c)
    (hkeep : ∀ e ∈ later, KeepsCandidate i.snapshot.revision c e)
    (hrev : i'.snapshot.revision = i.snapshot.revision)
    (hj : clock.reply calls (.next i') = some j') (hissue' : j'.issue = .candidate d) :
    (d.place, d.observedAt) ≠ (c.place, c.observedAt) := by
  have hstands : (clock.after calls).Remembers i.snapshot.revision c := by
    refine Component.stands (Q := fun s => s.Remembers i.snapshot.revision c) ?_ ?_ h
    · rintro earlier - hreply
      exact Clock.remembers_of_next hreply hissue
    · intro s hs call he
      cases call with
      | next i => exact hs.next (hkeep _ he)
      | started job => exact hs
      | finished job => exact hs
      | verified key now => exact hs
  exact hstands.not_issued hrev hj hissue'

theorem record_reissued {calls : List ClockCall}
    {before later : List (ClockCall × Option Issued)} {entry : ClockCall × Option Issued}
    {key : String} {t : ℕ} {revision : UInt64} {i : Input} {j : Issued} {r : DeviceRecord}
    {ip : Ipv4Addr} (h : clock.history calls = before ++ entry :: later)
    (hset : SetsWait key entry t)
    (hcurrent : currentRevision ((before ++ [entry]).map Prod.fst) = some revision)
    (hkeep : ∀ e ∈ later, KeepsWait revision key e) (hrev : i.snapshot.revision = revision)
    (hj : clock.reply calls (.next i) = some j) (hissue : j.issue = .record r ip)
    (hkey : r.mac = key) : t ≤ i.now ∨ r.status = .live ∧ i.now + activeInterval < t := by
  have hstands : (clock.after calls).Waits revision key t := by
    refine Component.stands (Q := fun s => s.Waits revision key t) ?_ ?_ h
    · rintro earlier rfl hreply
      rw [List.map_append, Component.map_fst_history, List.map_cons, List.map_nil,
        ← revision_after, Component.after_concat] at hcurrent
      cases hset with
      | issue i j r ip hissue hkey =>
        subst hkey
        exact ⟨hcurrent, Clock.waits_of_next hreply hissue⟩
      | verified now => exact ⟨hcurrent, by simp [clock, Clock.verified]⟩
    · intro s hs call he
      cases call with
      | next i => exact hs.next (hkeep _ he)
      | started job => exact hs
      | finished job => exact hs
      | verified other now =>
        refine ⟨hs.1, ?_⟩
        exact (FiniteMap.lookup_insert _ _ _ _).trans ((if_neg (hkeep _ he).symm).trans hs.2)
  subst hkey
  exact hstands.issued hrev hj hissue

def wiredInfo : InterfaceInfo :=
  { name := "Ethernet", mac := "02:00:5e:10:00:0a", ips := [⟨"192.168.1.5", 24⟩], isUp := true }

def cameraRecord : DeviceRecord :=
  { verifiedByMac := none, lastVerifiedAt := none, mac := "02:00:5e:10:00:0b"
    ip := "192.168.1.204", subnet := "192.168.1.0/24", openPorts := [], aliasName := ""
    status := .live, firstSeen := "", lastSeen := "" }

def cameraCandidate : Candidate :=
  ⟨7, ⟨2, 0, 0x5e, 0x10, 0, 0x0a⟩, ⟨192, 168, 1, 204⟩, ⟨2, 0, 0x5e, 0x10, 0, 0x0b⟩, 0⟩

def inputOf (records : List DeviceRecord) (candidates : List Candidate) : Input :=
  { snapshot := { index := 7, mode := .staticAuto, adapter := some wiredInfo, revision := 1,
                  fenceStale := false }
    records := records, candidates := candidates, now := 10 ^ 9 }

def candidateIssued : Issued :=
  ⟨.candidate cameraCandidate, (Issue.candidate cameraCandidate).job wiredInfo⟩

def recordIssued : Issued :=
  ⟨.record cameraRecord ⟨192, 168, 1, 204⟩,
    (Issue.record cameraRecord ⟨192, 168, 1, 204⟩).job wiredInfo⟩

end Presence

end PocketStream
