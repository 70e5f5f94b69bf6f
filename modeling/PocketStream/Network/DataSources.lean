import PocketStream.Address.Octets

/-! # The list of capture sources

The driver answers an enumeration with one buffer: a count, a pointer for each source and the
records that the pointers address. Nothing in it is trusted, and one bad pointer refuses the
whole list, since a capture must not be scoped to a part of it.
-/

namespace PocketStream

open Foundation

/-- `DATA_SOURCE_SPEC_SIZE` -/
def dataSourceSpecSize : ℕ := 424

/-- `DATA_SOURCE_LIST_PTRS_OFFSET` -/
def dataSourceListPtrsOffset : ℕ := 8

def le16s : List UInt8 → List UInt16
  | lo :: hi :: rest => be16 hi lo :: le16s rest
  | _ => []

/-- The fields of a record that a scan looks at, at their offsets. -/
structure DataSourceSpecification where
  name : List UInt16
  description : List UInt16
  id : UInt32
  isPresent : Int32
  detail : List UInt8
  deriving DecidableEq

def DataSourceSpecification.ofBytes (record : List UInt8) : DataSourceSpecification where
  name := le16s ((record.drop 4).take 128)
  description := le16s ((record.drop 132).take 256)
  id := UInt32.ofNat (leNat ((record.drop 388).take 4))
  isPresent := (UInt32.ofNat (leNat ((record.drop 400).take 4))).toInt32
  detail := (record.drop 408).take 16

structure DataSourceEntry where
  offset : ℕ
  name : String
  description : String
  id : UInt32
  isPresent : Int32
  mac : Option MacBytes
  deriving DecidableEq

/-- `String::from_utf16_lossy`: a surrogate without its other half is replaced. -/
def fromUtf16Lossy : List UInt16 → List Char
  | [] => []
  | [u] => [if u < 0xD800 ∨ 0xE000 ≤ u then Char.ofNat u.toNat else '\uFFFD']
  | u :: v :: rest =>
    if u < 0xD800 ∨ 0xE000 ≤ u then Char.ofNat u.toNat :: fromUtf16Lossy (v :: rest)
    else if u < 0xDC00 ∧ 0xDC00 ≤ v ∧ v < 0xE000 then
      Char.ofNat (0x10000 + (u.toNat - 0xD800) * 0x400 + (v.toNat - 0xDC00)) ::
        fromUtf16Lossy rest
    else '\uFFFD' :: fromUtf16Lossy (v :: rest)

def utf16Z (a : List UInt16) : String := String.ofList (fromUtf16Lossy (a.takeWhile (· ≠ 0)))

def DataSourceEntry.ofSpec (offset : ℕ) (spec : DataSourceSpecification) (mac : MacBytes) :
    DataSourceEntry where
  offset := offset
  name := utf16Z spec.name
  description := utf16Z spec.description
  id := spec.id
  isPresent := spec.isPresent
  mac := if mac = ⟨0, 0, 0, 0, 0, 0⟩ then none else some mac

/-- `{:X}` -/
def upperHex (n : ℕ) : String := String.ofList ((Nat.toDigits 16 n).map Char.toUpper)

/-- One turn of the loop over the slots. -/
def dataSourceEntry (buf : Region) (i : ℕ) : Bounded (Except String DataSourceEntry) := do
  let slot := dataSourceListPtrsOffset + i * 8
  let p := leNat (← slice buf.bytes slot (slot + 8))
  match checkedAdd p dataSourceSpecSize with
  | none => return .error "data-source entry pointer overflows"
  | some stop =>
    if p < buf.base ∨ stop > buf.base + buf.bytes.length then
      let address := upperHex p
      let base := upperHex buf.base
      let len := buf.bytes.length
      return .error (s!"data-source entry {i} pointer 0x{address} outside its buffer " ++
        s!"(base 0x{base}, len {len})")
    else
      let off := p - buf.base
      let spec := DataSourceSpecification.ofBytes
        (← slice buf.bytes off (off + dataSourceSpecSize))
      let mac ← MacBytes.copyFromSlice (← slice spec.detail 0 6)
      return .ok (.ofSpec off spec mac)

/-- The loop over the slots, which ends at the first bad one. -/
def dataSourceEntries (buf : Region) : List ℕ → Bounded (Except String (List DataSourceEntry))
  | [] => return .ok []
  | i :: rest => do
    match ← dataSourceEntry buf i with
    | .error e => return .error e
    | .ok entry =>
      match ← dataSourceEntries buf rest with
      | .error e => return .error e
      | .ok entries => return .ok (entry :: entries)

def parseDataSourceList (buf : Region) : Bounded (Except String (List DataSourceEntry)) := do
  if buf.bytes.length < dataSourceListPtrsOffset then
    let len := buf.bytes.length
    return .error s!"data-source list too small: {len} bytes"
  else
    let count := leNat (← slice buf.bytes 0 4)
    match (checkedMul count 8).bind (checkedAdd · dataSourceListPtrsOffset) with
    | none => return .error "data-source count overflows"
    | some ptrEnd =>
      if buf.bytes.length < ptrEnd then
        let len := buf.bytes.length
        return .error (s!"data-source pointer array truncated: {count} entries need " ++
          s!"{ptrEnd} bytes, have {len}")
      else dataSourceEntries buf (List.range count)

/-! ## What a list holds -/

/-- The count that a list states. -/
def listCount (buf : Region) : ℕ := leNat (buf.bytes.take 4)

/-- The pointer in a slot. -/
def slotPointer (buf : Region) (i : ℕ) : ℕ :=
  leNat ((buf.bytes.drop (dataSourceListPtrsOffset + i * 8)).take 8)

/-- The entry that the record at an address makes. -/
def RecordAt (buf : Region) (address : ℕ) (entry : DataSourceEntry) : Prop :=
  ∃ (spec : DataSourceSpecification) (mac : MacBytes) (rest : List UInt8),
    spec = .ofBytes ((buf.bytes.drop (address - buf.base)).take dataSourceSpecSize) ∧
      spec.detail = mac.toList ++ rest ∧ entry = .ofSpec (address - buf.base) spec mac

/-- A slot for each entry, and in each slot the address of a record in the buffer. -/
structure HoldsList (buf : Region) : Prop where
  header : dataSourceListPtrsOffset ≤ buf.bytes.length
  slots : dataSourceListPtrsOffset + listCount buf * 8 ≤ buf.bytes.length
  records : ∀ i < listCount buf, buf.Holds (slotPointer buf i) dataSourceSpecSize

theorem length_detail {record : List UInt8} (h : record.length = dataSourceSpecSize) :
    (DataSourceSpecification.ofBytes record).detail.length = 16 := by
  simp only [DataSourceSpecification.ofBytes, List.length_take, List.length_drop, h,
    dataSourceSpecSize]
  decide

section slots

variable {buf : Region} {i : ℕ}
  (hslot : dataSourceListPtrsOffset + i * 8 + 8 ≤ buf.bytes.length)

include hslot

theorem slice_slot :
    slice buf.bytes (dataSourceListPtrsOffset + i * 8) (dataSourceListPtrsOffset + i * 8 + 8) =
      .ok ((buf.bytes.drop (dataSourceListPtrsOffset + i * 8)).take 8) := by
  rw [slice_ok (Nat.le_add_right _ _) hslot, Nat.add_sub_cancel_left]

theorem dataSourceEntry_of_holds (h : buf.Holds (slotPointer buf i) dataSourceSpecSize) :
    ∃ entry, dataSourceEntry buf i = .ok (.ok entry) ∧
      RecordAt buf (slotPointer buf i) entry := by
  obtain ⟨hbase, hend⟩ := h
  generalize hp : slotPointer buf i = p at hbase hend ⊢
  have hrecord : slice buf.bytes (p - buf.base) (p - buf.base + dataSourceSpecSize) =
      .ok ((buf.bytes.drop (p - buf.base)).take dataSourceSpecSize) := by
    rw [slice_ok (Nat.le_add_right _ _) (by omega), Nat.add_sub_cancel_left]
  have hlen : ((buf.bytes.drop (p - buf.base)).take dataSourceSpecSize).length =
      dataSourceSpecSize := by
    rw [List.length_take, List.length_drop]
    omega
  have hdetail := length_detail hlen
  obtain ⟨mac, rest, hmac, -⟩ := MacBytes.exists_toList (n := 10) hdetail.ge
  have hsix : slice (mac.toList ++ rest) 0 6 = .ok mac.toList := rfl
  refine ⟨_, ?_, _, mac, rest, rfl, hmac, rfl⟩
  unfold dataSourceEntry
  simp only [slice_slot hslot, bind, Except.bind, pure, Except.pure]
  rw [show leNat _ = p from hp, Region.Holds.checkedAdd ⟨hbase, hend⟩]
  simp only [gt_iff_lt, Nat.not_lt.mpr hbase, Nat.not_lt.mpr hend, or_self, if_false, hrecord,
    hmac, hsix]
  rfl

theorem dataSourceEntry_of_not_holds (h : ¬ buf.Holds (slotPointer buf i) dataSourceSpecSize) :
    ∃ e, dataSourceEntry buf i = .ok (.error e) := by
  unfold dataSourceEntry
  simp only [slice_slot hslot, bind, Except.bind, pure, Except.pure]
  change ¬ buf.Holds (leNat _) _ at h
  generalize leNat _ = p at h ⊢
  unfold checkedAdd
  split
  case h_1 => exact ⟨_, rfl⟩
  case h_2 stop hstop =>
    obtain ⟨-, hstop⟩ := Option.ite_none_right_eq_some.mp hstop
    obtain rfl := Option.some.inj hstop
    have hout : p < buf.base ∨ p + dataSourceSpecSize > buf.base + buf.bytes.length := by
      by_contra hin
      rw [not_or, Nat.not_lt, Nat.not_lt] at hin
      exact h hin
    rw [if_pos hout]
    exact ⟨_, rfl⟩

end slots

theorem dataSourceEntries_ok {buf : Region} (is : List ℕ)
    (hslots : ∀ i ∈ is, dataSourceListPtrsOffset + i * 8 + 8 ≤ buf.bytes.length)
    (h : ∀ i ∈ is, buf.Holds (slotPointer buf i) dataSourceSpecSize) :
    ∃ entries, dataSourceEntries buf is = .ok (.ok entries) ∧
      List.Forall₂ (fun i entry => RecordAt buf (slotPointer buf i) entry) is entries := by
  induction is with
  | nil => exact ⟨[], rfl, .nil⟩
  | cons i is ih =>
    rw [List.forall_mem_cons] at hslots h
    obtain ⟨entry, hentry, hrecord⟩ := dataSourceEntry_of_holds hslots.1 h.1
    obtain ⟨entries, hentries, hall⟩ := ih hslots.2 h.2
    refine ⟨entry :: entries, ?_, .cons hrecord hall⟩
    rw [dataSourceEntries, hentry]
    simp only [bind, Except.bind, hentries]
    rfl

theorem dataSourceEntries_error {buf : Region} (is : List ℕ)
    (hslots : ∀ i ∈ is, dataSourceListPtrsOffset + i * 8 + 8 ≤ buf.bytes.length)
    (h : ¬ ∀ i ∈ is, buf.Holds (slotPointer buf i) dataSourceSpecSize) :
    ∃ e, dataSourceEntries buf is = .ok (.error e) := by
  induction is with
  | nil => exact absurd (fun i hi => absurd hi List.not_mem_nil) h
  | cons i is ih =>
    rw [List.forall_mem_cons] at hslots h
    rw [dataSourceEntries]
    by_cases hi : buf.Holds (slotPointer buf i) dataSourceSpecSize
    · obtain ⟨entry, hentry, -⟩ := dataSourceEntry_of_holds hslots.1 hi
      obtain ⟨e, he⟩ := ih hslots.2 fun hrest => h ⟨hi, hrest⟩
      rw [hentry]
      simp only [bind, Except.bind, he]
      exact ⟨e, rfl⟩
    · obtain ⟨e, he⟩ := dataSourceEntry_of_not_holds hslots.1 hi
      rw [he]
      exact ⟨e, rfl⟩

theorem slots_of_le {buf : Region}
    (h : dataSourceListPtrsOffset + listCount buf * 8 ≤ buf.bytes.length) :
    ∀ i ∈ List.range (listCount buf),
      dataSourceListPtrsOffset + i * 8 + 8 ≤ buf.bytes.length := by
  intro i hi
  rw [List.mem_range] at hi
  omega

/-- The end of the pointer array never overflows, the count being a word of 32 bits. -/
theorem ptrEnd_eq (buf : Region) :
    (checkedMul (listCount buf) 8).bind (checkedAdd · dataSourceListPtrsOffset) =
      some (listCount buf * 8 + dataSourceListPtrsOffset) := by
  have hcount : listCount buf < 256 ^ 4 :=
    (leNat_lt _).trans_le (Nat.pow_le_pow_right (by decide) (List.length_take_le 4 _))
  unfold checkedMul checkedAdd dataSourceListPtrsOffset
  rw [if_pos (by omega), Option.bind_some, if_pos (by omega)]

theorem slice_count {buf : Region} (h : dataSourceListPtrsOffset ≤ buf.bytes.length) :
    slice buf.bytes 0 4 = .ok (buf.bytes.take 4) :=
  slice_ok (Nat.zero_le _) (le_trans (by decide) h)

theorem parseDataSourceList_eq {buf : Region}
    (hheader : dataSourceListPtrsOffset ≤ buf.bytes.length)
    (hslots : dataSourceListPtrsOffset + listCount buf * 8 ≤ buf.bytes.length) :
    parseDataSourceList buf = dataSourceEntries buf (List.range (listCount buf)) := by
  unfold parseDataSourceList
  rw [if_neg (Nat.not_lt.mpr hheader), slice_count hheader]
  simp only [bind, Except.bind]
  rw [show leNat (buf.bytes.take 4) = listCount buf from rfl, ptrEnd_eq]
  exact if_neg (by omega)

theorem parseDataSourceList_short {buf : Region}
    (h : ¬ (dataSourceListPtrsOffset ≤ buf.bytes.length ∧
      dataSourceListPtrsOffset + listCount buf * 8 ≤ buf.bytes.length)) :
    ∃ e, parseDataSourceList buf = .ok (.error e) := by
  unfold parseDataSourceList
  by_cases hheader : buf.bytes.length < dataSourceListPtrsOffset
  · rw [if_pos hheader]
    exact ⟨_, rfl⟩
  · rw [Nat.not_lt] at hheader
    rw [if_neg (Nat.not_lt.mpr hheader), slice_count hheader]
    simp only [bind, Except.bind]
    rw [show leNat (buf.bytes.take 4) = listCount buf from rfl, ptrEnd_eq]
    refine ⟨_, if_pos ?_⟩
    rw [not_and] at h
    have := h hheader
    omega

/-- The parse reads only the buffer. It succeeds on the buffers that hold a list, and then it
has read the record of every slot in order. -/
theorem parseDataSourceList_spec (buf : Region) :
    ∃ r, parseDataSourceList buf = .ok r ∧ ((∃ entries, r = .ok entries) ↔ HoldsList buf) ∧
      ∀ entries, r = .ok entries → entries.length = listCount buf ∧
        ∀ i < listCount buf, ∃ entry, entries[i]? = some entry ∧
          RecordAt buf (slotPointer buf i) entry := by
  by_cases hlist : HoldsList buf
  · obtain ⟨entries, hentries, hall⟩ := dataSourceEntries_ok (List.range (listCount buf))
      (slots_of_le hlist.slots) fun i hi => hlist.records i (List.mem_range.mp hi)
    refine ⟨.ok entries, ?_, ⟨fun _ => hlist, fun _ => ⟨entries, rfl⟩⟩, ?_⟩
    · rw [parseDataSourceList_eq hlist.header hlist.slots, hentries]
    · intro entries' hentries'
      obtain rfl := Except.ok.inj hentries'
      obtain ⟨hlen, hget⟩ := List.forall₂_iff_get.mp hall
      rw [List.length_range] at hlen
      refine ⟨hlen.symm, fun i hi => ?_⟩
      have hi' : i < entries.length := hlen ▸ hi
      refine ⟨entries[i], List.getElem?_eq_getElem hi', ?_⟩
      simpa using hget i (by rwa [List.length_range]) hi'
  · have herror : ∃ e, parseDataSourceList buf = .ok (.error e) := by
      by_cases hslots : dataSourceListPtrsOffset ≤ buf.bytes.length ∧
          dataSourceListPtrsOffset + listCount buf * 8 ≤ buf.bytes.length
      · rw [parseDataSourceList_eq hslots.1 hslots.2]
        refine dataSourceEntries_error _ (slots_of_le hslots.2) fun hall => hlist ?_
        exact ⟨hslots.1, hslots.2, fun i hi => hall i (List.mem_range.mpr hi)⟩
      · exact parseDataSourceList_short hslots
    obtain ⟨e, he⟩ := herror
    refine ⟨.error e, he, ⟨?_, fun h => absurd h hlist⟩, ?_⟩
    · rintro ⟨entries, hentries⟩
      cases hentries
    · rintro entries hentries
      cases hentries

/-- A count of no entries is refused without the rest of the header. -/
def bareCount : Region where
  base := 4096
  bytes := [0, 0, 0, 0]
  fits := by decide

theorem parseDataSourceList_bareCount :
    parseDataSourceList bareCount = .ok (.error "data-source list too small: 4 bytes") ∧
      ¬ ((∃ entries, parseDataSourceList bareCount = .ok (.ok entries)) ↔
        4 ≤ bareCount.bytes.length ∧ ∀ i < listCount bareCount,
          dataSourceListPtrsOffset + i * 8 + 8 ≤ bareCount.bytes.length ∧
            bareCount.Holds (slotPointer bareCount i) dataSourceSpecSize) := by
  have herror : parseDataSourceList bareCount =
      .ok (.error "data-source list too small: 4 bytes") := rfl
  have hslots : ∀ i < listCount bareCount,
      dataSourceListPtrsOffset + i * 8 + 8 ≤ bareCount.bytes.length ∧
        bareCount.Holds (slotPointer bareCount i) dataSourceSpecSize :=
    fun i hi => absurd hi (Nat.not_lt_zero i)
  refine ⟨herror, fun hclaim => ?_⟩
  obtain ⟨entries, hentries⟩ := hclaim.mpr ⟨by decide, hslots⟩
  rw [herror] at hentries
  cases hentries

end PocketStream
